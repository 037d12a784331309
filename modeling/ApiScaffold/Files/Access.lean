import ApiScaffold.Client.Retry
import ApiScaffold.Files.Tree
import ApiScaffold.Text.Utf8

/-!
# Access to files

What the program does with files, whatever holds them.

* `Access`: the single steps.
* `Surroundings`, `Access.inTree`: the steps on a tree of files.
* `Access.readText`: the text of a file.
* `Access.makeFolders`: makes a folder with all that lead to it.
-/

namespace ApiScaffold

/-- The single steps that are taken with files and documents behind URLs. -/
structure Access (m : Type → Type) where
  read : String → m (Except FileFault (List UInt8))
  isFolder : String → m Bool
  /-- Makes one folder. -/
  makeFolder : String → m (Except FileFault Unit)
  write : String → List UInt8 → m (Except FileFault Unit)
  setMode : String → Nat → m (Except FileFault Unit)
  /-- The response for a URL, or why there is none. -/
  fetch : String → m (Except String Client.Response)

/-- What a program finds around it and does not change. -/
structure Surroundings where
  /-- The folder that paths start from unless they are absolute. -/
  home : Place
  /-- The response for a URL, or why there is none. -/
  fetch : String → Except String Client.Response := fun _ => .error "no connection"

namespace Access

/-- A step that changes a tree unless it fails. -/
def changing (f : Entry → Except FileFault Entry) : StateM Entry (Except FileFault Unit) := do
  match f (← get) with
  | .ok root => set root; return .ok ()
  | .error fault => return .error fault

/-- The steps on a tree of files. -/
def inTree (around : Surroundings) : Access (StateM Entry) where
  read path := do return (← get).read around.home path
  isFolder path := do return (← get).isFolder around.home path
  makeFolder path := changing (Entry.makeFolder around.home path)
  write path content := changing (Entry.write around.home path content)
  setMode path mode := changing (Entry.setMode around.home path mode)
  fetch url := return around.fetch url

variable {m : Type → Type} [Monad m]

/-- The text of bytes. -/
def textOf (bytes : List UInt8) : Except FileFault String :=
  (Text.decode? bytes).elim (.error (.other "stream did not contain valid UTF-8")) .ok

/-- The text of the file at a path. -/
def readText (access : Access m) (path : String) : m (Except FileFault String) := do
  return (← access.read path).bind textOf

/-- An attempt to make a folder counts also where it fails, if the folder is there. -/
def settle (access : Access m) (path : String) (made : Except FileFault Unit) :
    m (Except FileFault Unit) := do
  match made with
  | .ok () => return .ok ()
  | .error fault => return if ← access.isFolder path then .ok () else .error fault

/-- Makes the first of some folders, each of which leads to the one before. -/
def makeFoldersFrom (access : Access m) : List String → m (Except FileFault Unit)
  | [] => return .error (.other "failed to create whole tree")
  | path :: rest => do
    if path.isEmpty then return .ok ()
    match ← access.makeFolder path with
    | .error .notFound =>
      match ← makeFoldersFrom access rest with
      | .ok () => access.settle path (← access.makeFolder path)
      | .error fault => return .error fault
    | made => access.settle path made

/-- Makes a folder with all that lead to it, unless it is there. -/
def makeFolders (access : Access m) (path : String) : m (Except FileFault Unit) :=
  access.makeFoldersFrom (Path.ancestors path)

end Access

end ApiScaffold
