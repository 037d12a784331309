import ApiScaffold.Json.Value

/-!
# TOML values and tables

A TOML text builds one table.  A table is opened by a header, by a dotted key, by a value
between braces, or only because a table within it was opened; how it was opened decides what
may still be added to it.

* `Value`: the values.
* `putDotted`: adds a value under a dotted key.
* `openTable`, `openListed`: what headers do.
* `Value.toJson`: a value in JSON form.
-/

namespace ApiScaffold.Toml

open Number (Binary64)
open Json (memberOf? setMember)

/-- How a table was opened. -/
inductive Opening
  | header
  | dotted
  | braces
  /-- Only because a table within it was opened. -/
  | implied
  deriving DecidableEq, Repr

/-- A TOML value. -/
inductive Value
  | string (text : String)
  | integer (n : Int)
  | float (x : Binary64)
  | boolean (b : Bool)
  /-- A date, a time, or both. -/
  | moment (text : String)
  | array (items : List Value)
  | table (opening : Opening) (members : List (String × Value))
  /-- Tables opened by headers of one name: the earlier ones, and the members of the last. -/
  | listed (earlier : List Value) (last : List (String × Value))

abbrev Members := List (String × Value)

/-- Adds a value under a key that is free. -/
def put (key : String) (v : Value) (members : Members) : Option Members :=
  if (memberOf? members key).isSome then none else some (setMember key v members)

/-- Adds a value under a dotted key.  The tables on the way are opened by dotted keys; only on
the way to a table of that kind may others be passed. -/
def putDotted (path : List String) (key : String) (v : Value) (members : Members) :
    Option Members :=
  match path with
  | [] => put key v members
  | name :: rest =>
    match memberOf? members name with
    | none => (putDotted rest key v []).map fun inner => setMember name (.table .dotted inner) members
    | some (.table .dotted inner) =>
      (putDotted rest key v inner).map fun inner => setMember name (.table .dotted inner) members
    | some (.table .implied inner) =>
      if rest.isEmpty then none
      else
        (putDotted rest key v inner).map fun inner =>
          setMember name (.table .implied inner) members
    | some (.listed earlier last) =>
      if rest.isEmpty then none
      else (putDotted rest key v last).map fun last => setMember name (.listed earlier last) members
    | some _ => none

/-- Changes the table of a header; a list of tables stands for its last one. -/
def changeAt (path : List String) (change : Members → Option Members) (members : Members) :
    Option Members :=
  match path with
  | [] => change members
  | name :: rest =>
    match memberOf? members name with
    | none => (changeAt rest change []).map fun inner => setMember name (.table .implied inner) members
    | some (.table .braces _) => none
    | some (.table opening inner) =>
      (changeAt rest change inner).map fun inner => setMember name (.table opening inner) members
    | some (.listed earlier last) =>
      (changeAt rest change last).map fun last => setMember name (.listed earlier last) members
    | some _ => none

/-- Opens the table of a header, which may only have been implied before. -/
def openTable (key : String) (members : Members) : Option Members :=
  match memberOf? members key with
  | none => some (setMember key (.table .header []) members)
  | some (.table .implied inner) => some (setMember key (.table .header inner) members)
  | some _ => none

/-- Opens another table of a list. -/
def openListed (key : String) (members : Members) : Option Members :=
  match memberOf? members key with
  | none => some (setMember key (.listed [] []) members)
  | some (.listed earlier last) =>
    some (setMember key (.listed (earlier ++ [.table .header last]) []) members)
  | some _ => none

mutual

/-- A value in JSON form.  JSON has no moments; they become objects, which are nothing that a
reader of plain values takes. -/
def Value.toJson : Value → Json.Value
  | .string text => .string text
  | .integer n => .number (.integer n)
  | .float x => .number (.float x)
  | .boolean b => .bool b
  | .moment text => .object [("moment", .string text)]
  | .array items => .array (itemsToJson items)
  | .table _ members => .object (membersToJson members)
  | .listed earlier last => .array (itemsToJson earlier ++ [.object (membersToJson last)])

/-- Values in JSON form. -/
def itemsToJson : List Value → List Json.Value
  | [] => []
  | v :: rest => v.toJson :: itemsToJson rest

/-- Members in JSON form. -/
def membersToJson : Members → List (String × Json.Value)
  | [] => []
  | (key, v) :: rest => (key, v.toJson) :: membersToJson rest

end

end ApiScaffold.Toml
