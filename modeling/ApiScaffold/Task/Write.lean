import ApiScaffold.Files.Access
import ApiScaffold.Package.Generate
import ApiScaffold.Task.Error

/-!
# Writing packages

The files of a package are written one after the other; a file that has the same content
already is left as it is.

* `writeArtifact`: writes one file and says whether it has changed.
* `writeArtifacts`: writes files and counts those that have changed.
* `writePackage`: writes the files of a package into a folder.
-/

namespace ApiScaffold

variable {m : Type → Type} [Monad m]

/-- A step with files, with what was to be done in its fault. -/
def attempt (action path : String) (step : m (Except FileFault Unit)) : ExceptT OutputFault m Unit :=
  ExceptT.mk do return (← step).mapError fun fault => { action, path, fault }

/-- Makes a folder unless it is there. -/
def ensureFolder (access : Access m) (path : String) : ExceptT OutputFault m Unit :=
  attempt "create directory" path (access.makeFolders path)

/-- Makes the folder that a file is in. -/
def ensureParent (access : Access m) (path : String) : ExceptT OutputFault m Unit :=
  match Path.parent? path with
  | some parent => ensureFolder access parent
  | none => return ()

/-- Sets the permission bits that a file is to have. -/
def setArtifactMode (access : Access m) (a : Artifact) : ExceptT OutputFault m Unit :=
  match a.permissions with
  | some mode => attempt "set permissions on" a.path (access.setMode a.path mode)
  | none => return ()

/-- Writes a file into a folder unless it has the same content, and says whether it has changed. -/
def storeArtifact (access : Access m) (a : Artifact) : ExceptT OutputFault m Bool := do
  let current ← access.read a.path
  if current.toOption = some (Text.utf8 a.content) then return false
  attempt "create file" a.path (access.write a.path (Text.utf8 a.content))
  setArtifactMode access a
  return true

/-- Writes a file unless it has the same content; the folder that it is in is made first. -/
def writeArtifact (access : Access m) (a : Artifact) : ExceptT OutputFault m Bool := do
  ensureParent access a.path
  storeArtifact access a

/-- Writes files in order, up to the first that fails, and counts those that have changed. -/
def writeArtifacts (access : Access m) : List Artifact → ExceptT OutputFault m Nat
  | [] => return 0
  | a :: rest => do
    let changed ← writeArtifact access a
    let others ← writeArtifacts access rest
    return if changed then others + 1 else others

/-- A file of a package within a folder. -/
def Artifact.within (folder : String) (a : Artifact) : Artifact :=
  { a with path := Path.join folder a.path }

/-- Writes the files of a package into a folder, which is made first. -/
def writePackage (access : Access m) (folder : String) (artifacts : List Artifact) :
    ExceptT OutputFault m Nat := do
  ensureFolder access folder
  writeArtifacts access (artifacts.map (·.within folder))

end ApiScaffold
