import ApiScaffold.Client.Dispatch
import ApiScaffold.Code.Operation

/-!
# Reading a response

What the dispatch of an operation does with a response.  Its arms are tried from top to bottom;
the first one that answers the status makes the body into a success or a failure.

* `Tagged`, `Reply`: a variant with its body, and a success or a failure of an operation.
* `OperationCode.successTypes`, `OperationCode.failureTypes`: the variants of the two types of an
  operation, each with the shape of its body.
* `OperationCode.read`: what the arms make of a response.
-/

namespace ApiScaffold.Code

open Client (BadRequest InternalError)
open Json (Shape Value)

/-- A variant of an operation's successes or failures, with its body if it has one. -/
structure Tagged where
  variant : String
  body : Option Value

/-- What an operation makes of a response. -/
abbrev Reply := Except Tagged Tagged

/-- The failure that carries an internal error. -/
def Tagged.ofInternal (e : InternalError) : Tagged := ⟨internalError, some e.toJson⟩

/-- Whether an arm with this pattern takes a status. -/
def ArmPattern.answers : ArmPattern → Nat → Bool
  | .code n, status => n == status
  | .anyOther, _ => true

/-- What an arm makes of a body, for the variants of the two types and the shapes of their bodies;
nothing if the arm names no variant of its type, or one of another form. -/
def ArmResult.read (successes failures : List (String × Option Shape)) (body : List UInt8) :
    ArmResult → Option Reply
  | .success variant true =>
    match successes.lookup variant with
    | some (some shape) =>
      some ((Client.decodeSuccess shape (fun v => ⟨variant, some v⟩) body).mapError .ofInternal)
    | _ => none
  | .success variant false =>
    match successes.lookup variant with
    | some none => some (.ok ⟨variant, none⟩)
    | _ => none
  | .failure variant true =>
    match failures.lookup variant with
    | some (some shape) =>
      some (.error
        (Client.decodeFailure shape (fun v => ⟨variant, some v⟩) .ofInternal body))
    | _ => none
  | .failure variant false =>
    match failures.lookup variant with
    | some none => some (.error ⟨variant, none⟩)
    | _ => none
  | .unknown => some (.error (.ofInternal .unknownResponse))

/-- The variants of some responses, with the shapes of their bodies; `shapes` says which texts a
type is read from. -/
def Variant.types (shapes : String → Shape) (variants : List Variant) :
    List (String × Option Shape) :=
  variants.map fun v => (v.name, v.payload.map shapes)

namespace OperationCode

/-- The variants of the successes. -/
def successTypes (shapes : String → Shape) (c : OperationCode) : List (String × Option Shape) :=
  Variant.types shapes c.successes

/-- The variants of the failures, with the two that all operations share. -/
def failureTypes (shapes : String → Shape) (c : OperationCode) : List (String × Option Shape) :=
  Variant.types shapes c.failures
    ++ [(badRequest, some BadRequest.shape), (internalError, some InternalError.shape)]

/-- What the arms make of a response. -/
def read (shapes : String → Shape) (c : OperationCode) (status : Nat) (body : List UInt8) :
    Option Reply :=
  (c.arms.find? (·.pattern.answers status)).bind fun arm =>
    arm.result.read (c.successTypes shapes) (c.failureTypes shapes) body

end OperationCode

end ApiScaffold.Code
