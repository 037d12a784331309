import ApiScaffold.Json.Value

/-!
# Records in values

A record is written as an object whose members carry the names of its fields, or as an array
that gives the first of its fields in their order.  A field that is not given has a default.

* `recordFields?`: what is given for each field.
* `givenOr`: what is given for one field, or its default.
* `naturalUpTo?`, `stringValue?`: the values of plain fields.
-/

namespace ApiScaffold.Json

/-- What a value gives for each field of a record.  An object has no other members; an array
has more items than there are fields only if `longer`, and those are skipped. -/
def recordFields? (names : List String) (longer : Bool) : Value → Option (List (Option Value))
  | .object members =>
    if members.all fun m => names.contains m.1 then some (names.map (memberOf? members ·))
    else none
  | .array items =>
    if longer || items.length ≤ names.length then
      some ((List.range names.length).map fun i => items[i]?)
    else none
  | _ => none

/-- What is given for a field if it can be read, or the default if nothing is given. -/
def givenOr {α : Type} (default : α) (read : Value → Option α) : Option Value → Option α
  | none => some default
  | some v => read v

/-- The natural number that a value is, up to a bound. -/
def naturalUpTo? (bound : Nat) (v : Value) : Option Nat := v.asNat?.filter (· ≤ bound)

/-- A text that may be missing. -/
def stringValue? (v : Value) : Option (Option String) := v.asString?.map some

end ApiScaffold.Json
