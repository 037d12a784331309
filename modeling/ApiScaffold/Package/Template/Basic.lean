import ApiScaffold.Json.Printer
import ApiScaffold.Package.Lines
import ApiScaffold.Text.Quoted

/-!
# Templates

A template holds the rows of a file: lines that stand as they are, lines with values in them, rows
that are written again for each item of an array, and rows that are written under a condition.  It
is rendered with data, an object whose members it names; in a loop the item has a name of its own.

Rendering fails where a name stands for nothing, where a loop goes through something that is no
array, and where the length of something is asked that has none; a condition takes what is missing
for false.

* `Scope.find?`: what a path of names stands for.
* `Test`, `Piece`, `Row`: the conditions, the parts of a line, and the rows of a template.
* `Row.render`, `render`: the lines that a row and a whole template are rendered to.
* `Engine`: an engine that renders templates as far as this.
-/

namespace ApiScaffold.Package.Template

open Json (Value memberOf?)
open Number (FloatLayout)
open Text.Quoted (encode)

/-! ## Names -/

/-- A name, and the keys of the members below it. -/
abbrev Path := List String

/-- What names stand for, those of the innermost loop first. -/
abbrev Scope := List (String × Value)

/-- The member at the end of some keys. -/
def member? : List String → Value → Option Value
  | [], v => some v
  | key :: keys, v => (v.get? key).bind (member? keys)

/-- What a path stands for. -/
def Scope.find? (scope : Scope) : Path → Option Value
  | [] => none
  | name :: keys => (memberOf? scope name).bind (member? keys)

/-- The array that a path stands for. -/
def Scope.items? (scope : Scope) (path : Path) : Option (List Value) :=
  (scope.find? path).bind Value.asArray?

/-! ## Values -/

/-- The text of a value, without quotes; of an object only that it is one. -/
def shown : Value → String
  | .null => ""
  | .bool b => if b then "true" else "false"
  | .number (.integer n) => toString n
  | .number (.float x) => FloatLayout.full.write x
  | .string s => s
  | .array items => "[" ++ ", ".intercalate (items.map shown) ++ "]"
  | .object _ => "[object]"

/-- The string literal of a value: of the string that it is, or of its JSON text. -/
def literalOf : Value → String
  | .string s => encode s
  | v => encode v.print

/-- Whether a condition takes a value for true. -/
def isTrue : Value → Bool
  | .null => false
  | .bool b => b
  | .number (.integer n) => n ≠ 0
  | .number (.float x) => !(x.isZero || x.isNan)
  | .string s => !s.isEmpty
  | .array items => !items.isEmpty
  | .object members => !members.isEmpty

/-- Whether a value of some length has length zero. -/
def isEmpty? : Value → Option Bool
  | .string s => some s.isEmpty
  | .array items => some items.isEmpty
  | .object members => some members.isEmpty
  | _ => none

/-! ## Templates -/

/-- A condition. -/
inductive Test
  | holds (path : Path)
  | fails (path : Path)
  | empty (path : Path)
  | nonempty (path : Path)

/-- A part of a line. -/
inductive Piece
  | text (s : String)
  | value (path : Path)
  /-- The string literal of a value. -/
  | literal (path : Path)
  | choice (test : Test) (held other : List Piece)

/-- A row of a template. -/
inductive Row
  | fixed (lines : Lines)
  /-- A line that begins with some steps of four blanks. -/
  | line (depth : Nat) (pieces : List Piece)
  | choice (test : Test) (held other : List Row)
  | each (name : String) (path : Path) (body : List Row)
  /-- Rows in which a name stands for a text with a value behind it. -/
  | naming (name : String) (front : String) (path : Path) (rows : List Row)

/-- Whether a condition holds. -/
def Test.holds? (scope : Scope) : Test → Option Bool
  | .holds path => some ((scope.find? path).any isTrue)
  | .fails path => some !(scope.find? path).any isTrue
  | .empty path => (scope.find? path).bind isEmpty?
  | .nonempty path => ((scope.find? path).bind isEmpty?).map not

/-- Texts one behind another. -/
def joined : List String → String
  | [] => ""
  | s :: rest => rest.foldl (· ++ ·) s

/-- A line behind some steps of four blanks. -/
def margin : Nat → String → String
  | 0, line => line
  | depth + 1, line => "    " ++ margin depth line

mutual

/-- The text of a part of a line. -/
def Piece.render (scope : Scope) : Piece → Option String
  | .text s => some s
  | .value path => (scope.find? path).map shown
  | .literal path => (scope.find? path).map literalOf
  | .choice test held other =>
    (test.holds? scope).bind fun holds =>
      if holds then (renderPieces scope held).map joined
      else (renderPieces scope other).map joined

/-- The texts of the parts of a line. -/
def renderPieces (scope : Scope) : List Piece → Option (List String)
  | [] => some []
  | piece :: rest =>
    (piece.render scope).bind fun s => (renderPieces scope rest).map (s :: ·)

end

mutual

/-- The lines of a row. -/
def Row.render (scope : Scope) : Row → Option Lines
  | .fixed lines => some lines
  | .line depth pieces => (renderPieces scope pieces).map fun texts => [margin depth (joined texts)]
  | .choice test held other =>
    (test.holds? scope).bind fun holds =>
      if holds then renderRows scope held else renderRows scope other
  | .each name path body =>
    (scope.items? path).bind fun items =>
      (items.mapM fun item => renderRows ((name, item) :: scope) body).map List.flatten
  | .naming name front path rows =>
    (scope.find? path).bind fun v =>
      match v with
      | .string s => renderRows ((name, .string (front ++ s)) :: scope) rows
      | .number n => renderRows ((name, .string (front ++ n.print)) :: scope) rows
      | _ => none

/-- The lines of some rows. -/
def renderRows (scope : Scope) : List Row → Option Lines
  | [] => some []
  | row :: rest =>
    (row.render scope).bind fun lines => (renderRows scope rest).map (lines ++ ·)

end

/-- The lines of a template for some data, which have to be an object. -/
def render (data : Value) (rows : List Row) : Option Lines :=
  data.asObject?.bind fun members => renderRows members rows

/-- An engine that renders templates: what it makes of one is known where the template can be
rendered. -/
structure Engine where
  run : Value → List Row → Option Lines
  run_eq : ∀ data rows lines, render data rows = some lines → run data rows = some lines

/-- The engine that renders what can be rendered and nothing else. -/
def Engine.plain : Engine where
  run := render
  run_eq := fun _ _ _ h => h

end ApiScaffold.Package.Template
