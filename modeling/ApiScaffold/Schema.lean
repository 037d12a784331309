import ApiScaffold.Json.Printer

/-!
# Value types and constraints of parameters

* `Location`: where a parameter travels.
* `Primitive`: the plain types of values.
* `ValueType`: a plain type, a named model, or an array of those.
* `Constraints`: the limits that a parameter declares on its values.
-/

namespace ApiScaffold

open Json (Value)
open Number (Binary64)

/-- Where a parameter travels. -/
inductive Location
  | path | query | header | body
  deriving DecidableEq, Repr

namespace Location

def name : Location → String
  | path => "path"
  | query => "query"
  | header => "header"
  | body => "body"

/-- The location of a name. -/
def ofName? (s : String) : Option Location := [path, query, header, body].find? (·.name == s)

end Location

/-- A plain type of values. -/
inductive Primitive
  | string | int32 | int64 | float | double | boolean
  deriving DecidableEq, Repr, Inhabited

namespace Primitive

/-- The name of the type in descriptors. -/
def name : Primitive → String
  | string => "String"
  | int32 => "Int32"
  | int64 => "Int64"
  | float => "Float"
  | double => "Double"
  | boolean => "Boolean"

/-- The name of the type in generated source. -/
def sourceName : Primitive → String
  | string => "String"
  | int32 => "i32"
  | int64 => "i64"
  | float => "f32"
  | double => "f64"
  | boolean => "bool"

/-- The type that a `type` and a `format` keyword declare. -/
def ofKeywords? (kind : String) (format : Option String) : Option Primitive :=
  match kind with
  | "string" => some string
  | "integer" => some (if format = some "int32" then int32 else int64)
  | "number" => some (if format = some "float" then float else double)
  | "boolean" => some boolean
  | _ => none

def isNumeric : Primitive → Bool
  | string => false
  | boolean => false
  | _ => true

end Primitive

/-- The type of a value. -/
inductive ValueType
  | primitive (p : Primitive)
  | model (name : String)
  | array (item : ValueType)
  deriving DecidableEq, Repr, Inhabited

namespace ValueType

def isArray : ValueType → Bool
  | array _ => true
  | _ => false

def isPrimitive : ValueType → Bool
  | primitive _ => true
  | _ => false

end ValueType

/-- The limits that a parameter declares on its values. -/
structure Constraints where
  maxLength : Option Nat := none
  minLength : Option Nat := none
  pattern : Option String := none
  /-- The allowed values in their text form; none means that all are. -/
  enumValues : List String := []
  maximum : Option Binary64 := none
  minimum : Option Binary64 := none
  exclusiveMaximum : Bool := false
  exclusiveMinimum : Bool := false
  multipleOf : Option Binary64 := none
  deriving DecidableEq

namespace Constraints

/-- The text form of an allowed value. -/
def enumText : Value → String
  | .string s => s
  | v => v.print

/-- The limits that the keywords of a parameter declare. -/
def ofJson (v : Value) : Constraints where
  maxLength := (v.get? "maxLength").bind Value.asNat?
  minLength := (v.get? "minLength").bind Value.asNat?
  pattern := v.stringAt? "pattern"
  enumValues := (((v.get? "enum").bind Value.asArray?).getD []).map enumText
  maximum := (v.get? "maximum").bind Value.asFloat?
  minimum := (v.get? "minimum").bind Value.asFloat?
  exclusiveMaximum := ((v.get? "exclusiveMaximum").bind Value.asBool?).getD false
  exclusiveMinimum := ((v.get? "exclusiveMinimum").bind Value.asBool?).getD false
  multipleOf := (v.get? "multipleOf").bind Value.asFloat?

/-- Whether nothing is declared. -/
def isEmpty (c : Constraints) : Bool := c = {}

end Constraints

end ApiScaffold
