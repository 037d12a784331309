import ApiScaffold.Operation.Basic
import ApiScaffold.Text.Quoted

/-!
# Generated checks

The statements that check the fields of an input, in the order of declaration; a field that may
be left out is checked only where it is present.

* `Check`: one check of a value.
* `checksOf`: the checks that a parameter declares.
* `FieldCheck.write`: the statements for a field.
-/

namespace ApiScaffold.Code

open Number (Binary64 FloatLayout)

/-- One check of a value. -/
inductive Check
  | maxLength (max : Nat)
  | minLength (min : Nat)
  | pattern (p : String)
  | oneOf (allowed : List String)
  /-- The text form of the value is one of those listed. -/
  | textOneOf (allowed : List String)
  | maximum (limit : Binary64) (exclusive : Bool)
  | minimum (limit : Binary64) (exclusive : Bool)
  | multipleOf (factor : Binary64)
  deriving DecidableEq

/-- The checks of one field. -/
structure FieldCheck where
  field : String
  /-- The name of the parameter, which the reports of violations use. -/
  wire : String
  optional : Bool
  checks : List Check

/-- The check that lists the allowed values, if any are listed. -/
def enumCheck (check : List String → Check) (allowed : List String) : List Check :=
  if allowed.isEmpty then [] else [check allowed]

/-- The checks of a plain type. -/
def primitiveChecks (p : Primitive) (c : Constraints) : List Check :=
  if p = .string then
    (c.maxLength.map Check.maxLength).toList ++ (c.minLength.map Check.minLength).toList
      ++ (c.pattern.map Check.pattern).toList ++ enumCheck .oneOf c.enumValues
  else if p.isNumeric then
    enumCheck .textOneOf c.enumValues
      ++ (c.maximum.map (Check.maximum · c.exclusiveMaximum)).toList
      ++ (c.minimum.map (Check.minimum · c.exclusiveMinimum)).toList
      ++ (c.multipleOf.map Check.multipleOf).toList
  else enumCheck .textOneOf c.enumValues

/-- The checks that a parameter declares; bodies and arrays are not checked. -/
def checksOf (p : Parameter) : List Check :=
  if p.location = .body then []
  else
    match p.type with
    | .primitive t => primitiveChecks t p.constraints
    | _ => []

/-- The checks of an operation's fields; a field without any is left out. -/
def fieldChecks (fields : List (Parameter × String)) : List FieldCheck :=
  fields.filterMap fun (p, field) =>
    let checks := checksOf p
    if checks.isEmpty then none
    else some { field, wire := p.name, optional := p.isOptional, checks }

/-- The string literals of some texts, with commas between them. -/
def literals (texts : List String) : String := ", ".intercalate (texts.map Text.Quoted.encode)

/-- The statement for a check; `text` and `number` are the expressions for the value. -/
def Check.write (wire text number : String) (check : Check) : String :=
  let call (name : String) (arguments : List String) : String :=
    s!"runtime::validation::{name}(" ++ ", ".intercalate (Text.Quoted.encode wire :: arguments)
      ++ ")?;"
  match check with
  | .maxLength max => call "max_length" [text, toString max]
  | .minLength min => call "min_length" [text, toString min]
  | .pattern p => call "pattern" [text, Text.Quoted.encode p]
  | .oneOf allowed => call "one_of" [text, s!"&[{literals allowed}]"]
  | .textOneOf allowed => call "one_of" [s!"&{number}.to_string()", s!"&[{literals allowed}]"]
  | .maximum limit exclusive =>
    call "maximum" [s!"{number} as f64", FloatLayout.exact.write limit, toString exclusive]
  | .minimum limit exclusive =>
    call "minimum" [s!"{number} as f64", FloatLayout.exact.write limit, toString exclusive]
  | .multipleOf factor => call "multiple_of" [s!"{number} as f64", FloatLayout.exact.write factor]

/-- The statements for a field. -/
def FieldCheck.write (c : FieldCheck) : List String :=
  if c.optional then
    s!"if let Some(value) = &self.{c.field} \x7b"
      :: c.checks.map (fun check => "    " ++ check.write c.wire "value" "*value") ++ ["\x7d"]
  else c.checks.map (·.write c.wire s!"&self.{c.field}" s!"self.{c.field}")

end ApiScaffold.Code
