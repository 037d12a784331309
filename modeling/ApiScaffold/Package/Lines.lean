/-!
# Lines of source text

A source file is a list of lines.  Blocks are indented by four blanks, and a line without
characters stays so.

* `Lines.text`: the text of a file.
* `Lines.block`: a head, and a body between braces.
* `Lines.doc`: a documentation comment.
* `MethodCode`: a method of a type, with its name kept apart.
-/

namespace ApiScaffold

abbrev Lines := List String

namespace Lines

/-- The text of lines, each ended by a line feed. -/
def text (lines : Lines) : String := String.join (lines.map (· ++ "\n"))

/-- Lines moved to the right by one step. -/
def indent (lines : Lines) : Lines :=
  lines.map fun line => if line.isEmpty then line else "    " ++ line

/-- A head, and a body between braces behind it. -/
def block (head : String) (body : Lines) : Lines := (head ++ " \x7b") :: indent body ++ ["\x7d"]

/-- The same with a text behind the closing brace. -/
def blockThen (head : String) (body : Lines) (tail : String) : Lines :=
  (head ++ " \x7b") :: indent body ++ ["\x7d" ++ tail]

/-- A head that opens a bracket, the indented lines in it, and what closes it. -/
def enclosed (head : String) (body : Lines) (tail : String) : Lines :=
  head :: indent body ++ [tail]

/-- A line of a documentation comment. -/
def docLine (line : String) : String := if line.isEmpty then "///" else "/// " ++ line

/-- A documentation comment. -/
def doc (lines : List String) : Lines := lines.map docLine

/-- Groups of lines, with an empty line between every two. -/
def paragraphs : List Lines → Lines
  | [] => []
  | [last] => last
  | group :: rest => group ++ "" :: paragraphs rest

/-- Groups of lines, with an empty line in front of each. -/
def spaced (groups : List Lines) : Lines := groups.flatMap ("" :: ·)

/-- An import of names from a path. -/
def importOf (path : String) (names : List String) : String :=
  s!"use {path}::\x7b" ++ ", ".intercalate names ++ "\x7d;"

end Lines

/-- A method of a type. -/
structure MethodCode where
  doc : List String := []
  /-- What stands in front of the name. -/
  keyword : String := "pub fn"
  name : String
  /-- What follows the name in its line. -/
  tail : String
  /-- The lines behind the one with the name. -/
  rest : Lines

/-- The lines of a method. -/
def MethodCode.write (m : MethodCode) : Lines :=
  Lines.doc m.doc ++ s!"{m.keyword} {m.name}{m.tail}" :: m.rest

/-- A type with its methods, an empty line between every two. -/
def writeMethods (head : String) (methods : List MethodCode) : Lines :=
  Lines.block head (Lines.paragraphs (methods.map MethodCode.write))

end ApiScaffold
