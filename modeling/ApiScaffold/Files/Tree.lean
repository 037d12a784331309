import ApiScaffold.Files.Path
import ApiScaffold.Json.Value

/-!
# Trees of files

The files and folders of a system, from the root on.  A path leads to a place, piece by piece, and
every piece must stand in a folder.  There are no links, so where a path leads does not depend on
what is there.

* `FileFault`: why a file cannot be reached.
* `Entry`: a file or a folder with what it holds.
* `Place.ofPath`: where a path leads.
* `Entry.read`, `Entry.write`, `Entry.makeFolder`, `Entry.setMode`: what is done with paths.
* `Entry.paths`: all files and folders.
-/

namespace ApiScaffold

/-- Why a file cannot be reached. -/
inductive FileFault
  | notFound
  | alreadyThere
  | notFolder
  | isFolder
  | other (text : String)
  deriving DecidableEq, Repr

def FileFault.message : FileFault → String
  | notFound => "No such file or directory (os error 2)"
  | alreadyThere => "File exists (os error 17)"
  | notFolder => "Not a directory (os error 20)"
  | isFolder => "Is a directory (os error 21)"
  | other text => text

/-- A file or a folder. -/
inductive Entry
  | file (content : List UInt8) (mode : Nat)
  | folder (members : List (String × Entry))

instance : Inhabited Entry := ⟨.folder []⟩

/-- The names that lead from the root to a file or a folder. -/
abbrev Place := List String

namespace Place

/-- The place that a piece of a path leads to; above the root is the root. -/
def step (place : Place) (piece : String) : Place :=
  if Path.isVoid piece then place
  else if piece = ".." then place.dropLast
  else place ++ [piece]

/-- Where the first piece of a path stands: at the root, or in the folder that other paths start
from. -/
def start (home : Place) (path : String) : Place := if Path.isAbsolute path then [] else home

/-- Where a path leads. -/
def ofPath (home : Place) (path : String) : Place :=
  (Path.pieces path).foldl step (start home path)

end Place

namespace Entry

/-- The permission bits of a new file. -/
def newFileMode : Nat := 0o644

/-- The entry at a place. -/
def get? : Entry → Place → Option Entry
  | e, [] => some e
  | .folder members, name :: rest =>
    (Json.memberOf? members name).bind fun inner => inner.get? rest
  | .file .., _ :: _ => none

/-- Puts an entry at a place; the folders on the way are made where they are missing. -/
def set (new : Entry) : Place → Entry → Entry
  | [], _ => new
  | name :: rest, .folder members =>
    let inner := (Json.memberOf? members name).getD (.folder [])
    .folder (Json.setMember name (set new rest inner) members)
  | _ :: _, .file content mode => .file content mode

/-- Follows the pieces of a path; every one of them must stand in a folder. -/
def follow (root : Entry) : List String → Place → Except FileFault Place
  | [], place => .ok place
  | piece :: rest, place =>
    match root.get? place with
    | none => .error .notFound
    | some (.file ..) => .error .notFolder
    | some (.folder _) => follow root rest (Place.step place piece)

/-- The place of a path. -/
def placeOf (home : Place) (path : String) (root : Entry) : Except FileFault Place :=
  if path.isEmpty then .error .notFound
  else follow root (Path.pieces path) (Place.start home path)

/-- The place of a path whose last slashes count for nothing. -/
def creationPlace (home : Place) (path : String) (root : Entry) : Except FileFault Place :=
  if path.isEmpty then .error .notFound
  else
    follow root (Text.dropEndWhile String.isEmpty (Path.pieces path)) (Place.start home path)

/-- The content of the file at a path. -/
def read (home : Place) (path : String) (root : Entry) : Except FileFault (List UInt8) := do
  match root.get? (← placeOf home path root) with
  | some (.file content _) => return content
  | some (.folder _) => throw .isFolder
  | none => throw .notFound

/-- Whether a folder is at a path. -/
def isFolder (home : Place) (path : String) (root : Entry) : Bool :=
  match placeOf home path root with
  | .ok place => (root.get? place matches some (.folder _))
  | .error _ => false

/-- Makes a folder at a path where nothing is. -/
def makeFolder (home : Place) (path : String) (root : Entry) : Except FileFault Entry := do
  let place ← creationPlace home path root
  if (root.get? place).isSome then throw .alreadyThere
  return set (.folder []) place root

/-- Writes the file at a path; a file that is there keeps its permission bits. -/
def write (home : Place) (path : String) (content : List UInt8) (root : Entry) :
    Except FileFault Entry := do
  let place ← creationPlace home path root
  if (Path.pieces path).getLast? = some "" then throw .isFolder
  match root.get? place with
  | some (.folder _) => throw .isFolder
  | some (.file _ mode) => return set (.file content mode) place root
  | none => return set (.file content newFileMode) place root

/-- The permission bits of the file at a path. -/
def mode? (home : Place) (path : String) (root : Entry) : Option Nat :=
  match placeOf home path root with
  | .ok place =>
    match root.get? place with
    | some (.file _ mode) => some mode
    | _ => none
  | .error _ => none

/-- Sets the nine permission bits of the file at a path; those of folders are not kept. -/
def setMode (home : Place) (path : String) (mode : Nat) (root : Entry) :
    Except FileFault Entry := do
  let place ← placeOf home path root
  match root.get? place with
  | some (.file content _) => return set (.file content (mode % 0o1000)) place root
  | some (.folder _) => return root
  | none => throw .notFound

mutual

/-- The files and folders that an entry holds; a slash follows the name of a folder. -/
def pathsIn (stem : String) : Entry → List String
  | .file .. => []
  | .folder members => pathsOf stem members

/-- The files and folders among some members, with what they hold. -/
def pathsOf (stem : String) : List (String × Entry) → List String
  | [] => []
  | (name, .file ..) :: rest => (stem ++ name) :: pathsOf stem rest
  | (name, .folder members) :: rest =>
    (stem ++ name ++ "/") :: pathsIn (stem ++ name ++ "/") (.folder members) ++ pathsOf stem rest

end

/-- All files and folders in ascending order. -/
def paths (root : Entry) : List String := (pathsIn "" root).mergeSort fun a b => decide (a ≤ b)

end Entry

end ApiScaffold
