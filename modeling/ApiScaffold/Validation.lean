import ApiScaffold.Number.FloatText
import ApiScaffold.Pattern.Reader

/-!
# Checks of values

Each check tests one declared limit on the value of a field and reports its violation.

* `Violation`: the violations, with their wording.
* `maxLength`, `minLength`, `pattern`, `oneOf`, `maximum`, `minimum`, `multipleOf`: the checks.
-/

namespace ApiScaffold

open Number (Binary Binary64 FloatLayout)

/-- A violated limit. -/
inductive Violation
  | maxLength (field : String) (max actual : Nat)
  | minLength (field : String) (min actual : Nat)
  | pattern (field pattern : String)
  | invalidPattern (field pattern : String)
  | notListed (field : String) (allowed : List String) (actual : String)
  | maximum (field : String) (limit : Binary64) (exclusive : Bool) (actual : Binary64)
  | minimum (field : String) (limit : Binary64) (exclusive : Bool) (actual : Binary64)
  | multipleOf (field : String) (factor actual : Binary64)
  deriving DecidableEq

namespace Violation

/-- The name of the field that was checked. -/
def field : Violation → String
  | maxLength f _ _ => f
  | minLength f _ _ => f
  | pattern f _ => f
  | invalidPattern f _ => f
  | notListed f _ _ => f
  | maximum f _ _ _ => f
  | minimum f _ _ _ => f
  | multipleOf f _ _ => f

def exclusiveRemark (exclusive : Bool) : String := if exclusive then " (exclusive)" else ""

def message : Violation → String
  | maxLength f max actual => s!"{f}: length {actual} exceeds maxLength {max}"
  | minLength f min actual => s!"{f}: length {actual} is below minLength {min}"
  | pattern f p => s!"{f}: value does not match pattern '{p}'"
  | invalidPattern f p => s!"{f}: pattern '{p}' is not a valid regular expression"
  | notListed f allowed actual =>
    s!"{f}: '{actual}' is not one of [" ++ ", ".intercalate allowed ++ "]"
  | maximum f limit exclusive actual =>
    s!"{f}: {FloatLayout.full.write actual} exceeds maximum {FloatLayout.full.write limit}"
      ++ exclusiveRemark exclusive
  | minimum f limit exclusive actual =>
    s!"{f}: {FloatLayout.full.write actual} is below minimum {FloatLayout.full.write limit}"
      ++ exclusiveRemark exclusive
  | multipleOf f factor actual =>
    s!"{f}: {FloatLayout.full.write actual} is not a multiple of {FloatLayout.full.write factor}"

end Violation

namespace Validation

/-- At most so many characters. -/
def maxLength (field value : String) (max : Nat) : Except Violation Unit :=
  if max < value.length then .error (.maxLength field max value.length) else .ok ()

/-- At least so many characters. -/
def minLength (field value : String) (min : Nat) : Except Violation Unit :=
  if value.length < min then .error (.minLength field min value.length) else .ok ()

/-- A pattern occurs in the value. -/
def pattern (field value pattern : String) : Except Violation Unit :=
  match Pattern.ofString? pattern with
  | none => .error (.invalidPattern field pattern)
  | some p => if p.occursIn value then .ok () else .error (.pattern field pattern)

/-- One of the listed values. -/
def oneOf (field value : String) (allowed : List String) : Except Violation Unit :=
  if allowed.contains value then .ok () else .error (.notListed field allowed value)

/-- At most a limit, or below it. -/
def maximum (field : String) (value limit : Binary64) (exclusive : Bool) : Except Violation Unit :=
  if (if exclusive then limit.le value else limit.lt value) then
    .error (.maximum field limit exclusive value)
  else .ok ()

/-- At least a limit, or above it. -/
def minimum (field : String) (value limit : Binary64) (exclusive : Bool) : Except Violation Unit :=
  if (if exclusive then value.le limit else value.lt limit) then
    .error (.minimum field limit exclusive value)
  else .ok ()

/-- How far a quotient may be from an integer. -/
def tolerance : Binary64 := .ofDecimal false 1 (-9)

/-- A multiple of a factor; every number is one of zero. -/
def multipleOf (field : String) (value factor : Binary64) : Except Violation Unit :=
  if factor.isZero then .ok ()
  else
    let quotient := value.div factor
    if tolerance.lt (quotient.sub quotient.roundToInteger).abs then
      .error (.multipleOf field factor value)
    else .ok ()

end Validation

end ApiScaffold
