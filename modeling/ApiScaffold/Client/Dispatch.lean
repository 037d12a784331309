import ApiScaffold.Client.SharedResponse
import ApiScaffold.Json.Reader

/-!
# Decoding the bodies of responses

* `decodeSuccess`: the decoded body in its variant, or an internal error that says why there is
  none.
* `decodeFailure`: the decoded body in its variant of a failure, with the same internal error
  where it cannot be decoded.
-/

namespace ApiScaffold.Client

open Json (Shape Value)

/-- The decoded body of a success. -/
def decodeSuccess {α : Type} (shape : Shape) (wrap : Value → α) (body : List UInt8) :
    Except InternalError α :=
  match Json.readBytes shape body with
  | .ok v => .ok (wrap v)
  | .error e => .error ⟨e.message⟩

/-- The decoded body of a failure. -/
def decodeFailure {α : Type} (shape : Shape) (wrap : Value → α) (internal : InternalError → α)
    (body : List UInt8) : α :=
  match Json.readBytes shape body with
  | .ok v => wrap v
  | .error e => internal ⟨e.message⟩

end ApiScaffold.Client
