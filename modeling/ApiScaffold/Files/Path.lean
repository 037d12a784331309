import ApiScaffold.Text.Blank

/-!
# Paths of files

A path is a text whose pieces are separated by slashes.  A piece that is empty or a single dot
adds nothing, unless the dot begins a path that is not absolute.

* `isAbsolute`, `pieces`: what a path consists of.
* `parent?`, `ancestors`: the paths that lead to a path.
* `join`: a path within another.
-/

namespace ApiScaffold.Path

/-- Whether a path starts at the root of all files. -/
def isAbsolute (path : String) : Bool := path.toList.head? == some '/'

/-- The pieces of a path. -/
def pieces (path : String) : List String := Text.splitOn '/' path

/-- Whether a piece adds nothing. -/
def isVoid (piece : String) : Bool := piece.isEmpty || piece == "."

/-- The pieces of a path without those at its end that add nothing; a dot that begins it
stays. -/
def withoutVoidEnd (absolute : Bool) (names : List String) : List String :=
  match names with
  | "." :: rest =>
    if absolute then Text.dropEndWhile isVoid names else "." :: Text.dropEndWhile isVoid rest
  | _ => Text.dropEndWhile isVoid names

/-- The path that leads to a path, if it has a piece that adds something. -/
def parent? (path : String) : Option String :=
  let absolute := isAbsolute path
  match withoutVoidEnd absolute (pieces path) with
  | [] => none
  | names =>
    let rest := withoutVoidEnd absolute names.dropLast
    if absolute && rest.all String.isEmpty then some "/" else some ("/".intercalate rest)

/-- A path and those that lead to it, the nearest first; `fuel` bounds their number. -/
def ancestorsFrom : Nat → String → List String
  | 0, _ => []
  | fuel + 1, path => path :: ((parent? path).map (ancestorsFrom fuel)).getD []

/-- A path and those that lead to it, the nearest first. -/
def ancestors (path : String) : List String := ancestorsFrom (path.length + 2) path

/-- A path within a folder; an absolute one stands for itself. -/
def join (folder path : String) : String :=
  if isAbsolute path || folder.isEmpty then path
  else if folder.toList.getLast? == some '/' then folder ++ path
  else folder ++ "/" ++ path

end ApiScaffold.Path
