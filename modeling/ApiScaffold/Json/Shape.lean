import ApiScaffold.Json.Value

/-!
# Shapes of JSON texts

A shape says which JSON texts a reader expects.  A record is read from an object, whose
unknown members are skipped, or from an array with the fields in order.

* `Shape`: what is expected.
* `Shape.expected`: the words for it in a refusal.
-/

namespace ApiScaffold.Json

/-- What the reader of a JSON text expects. -/
inductive Shape
  | any
  | string
  | bool
  | integer (name : String) (low high : Int)
  | float
  | optional (shape : Shape)
  | list (shape : Shape)
  | record (name : String) (fields : List (String × Shape × Option Value))

namespace Shape

/-- Integers of 32 bits. -/
def int32 : Shape := .integer "i32" (-2147483648) 2147483647

/-- Integers of 64 bits. -/
def int64 : Shape := .integer "i64" (-9223372036854775808) 9223372036854775807

/-- How many elements a record has, in words. -/
def elementCount (n : Nat) : String := if n = 1 then "1 element" else s!"{n} elements"

/-- The words for a shape in a refusal. -/
def expected : Shape → String
  | any => "any valid JSON value"
  | string => "a string"
  | bool => "a boolean"
  | integer name _ _ => name
  | float => "f64"
  | optional s => s.expected
  | list _ => "a sequence"
  | record name _ => s!"struct {name}"

/-- The value that stands for an absent field: what the field names, null for an optional. -/
def absent? : Shape × Option Value → Option Value
  | (_, some v) => some v
  | (optional _, none) => some .null
  | (_, none) => none

end Shape

end ApiScaffold.Json
