import ApiScaffold.Operation.Basic
import ApiScaffold.TypeMap
import ApiScaffold.Web.Status

/-!
# Generated dispatch

How a client tells the responses of an operation apart: an arm for each declared code, one for
each of the two shared failures, and one for every other code.

* `Variant`: a declared response.
* `variantsOf`: the declared responses of an operation, successes and failures.
* `dispatchArms`: the arms in order.
* `DispatchArm.write`: the text of an arm.
-/

namespace ApiScaffold.Code

/-- A declared response of an operation. -/
structure Variant where
  name : String
  status : Nat
  /-- The type of the body, if one is declared. -/
  payload : Option String
  deriving DecidableEq

/-- The code with its phrase. -/
def Variant.label (v : Variant) : String := Web.Status.label v.status

/-- Which codes an arm answers. -/
inductive ArmPattern
  | code (n : Nat)
  | anyOther
  deriving DecidableEq

/-- What an arm makes of a body. -/
inductive ArmResult
  | success (variant : String) (decodes : Bool)
  | failure (variant : String) (decodes : Bool)
  | unknown
  deriving DecidableEq

/-- An arm of the dispatch. -/
structure DispatchArm where
  pattern : ArmPattern
  result : ArmResult
  deriving DecidableEq

/-- The type of the shared response of code 400. -/
def badRequest : String := "BadRequest"

/-- The type of the shared response of code 500. -/
def internalError : String := "InternalError"

/-- Checks that a response with the code of a shared one declares no other type. -/
def checkShared (operation : String) (r : Response) (status : Nat) (sharedType : String) :
    Except DocumentError Unit :=
  match r.schema with
  | none => .ok ()
  | some schema =>
    if schema = .model sharedType then .ok ()
    else .error (.reservedStatus operation status sharedType)

/-- The variant of a declared response, if it is dispatched as one. -/
def variantOf (types : TypeMap) (operation : String) (r : Response) :
    Except DocumentError (Option (Bool × Variant)) :=
  match r.status with
  | .default => .ok none
  | .code 400 => (checkShared operation r 400 badRequest).map fun _ => none
  | .code 500 => (checkShared operation r 500 internalError).map fun _ => none
  | .code n =>
    .ok (some (r.isError,
      { name := Web.Status.variantName n, status := n, payload := r.schema.map types.sourceType }))

/-- The successes and the failures that an operation declares. -/
def variantsOf (types : TypeMap) (o : Operation) :
    Except DocumentError (List Variant × List Variant) := do
  let variants ← o.responses.mapM (variantOf types o.id)
  let declared := variants.filterMap id
  return ((declared.filter (!·.1)).map (·.2), (declared.filter (·.1)).map (·.2))

/-- The arms in order: the declared codes ascending, the shared failures, all other codes. -/
def dispatchArms (successes failures : List Variant) : List DispatchArm :=
  let arm (result : String → Bool → ArmResult) (v : Variant) : Nat × DispatchArm :=
    (v.status, ⟨.code v.status, result v.name v.payload.isSome⟩)
  let declared := successes.map (arm .success) ++ failures.map (arm .failure)
  (declared.mergeSort fun a b => a.1 ≤ b.1).map (·.2)
    ++ [⟨.code 400, .failure badRequest true⟩, ⟨.code 500, .failure internalError true⟩,
      ⟨.anyOther, .unknown⟩]

def ArmPattern.write : ArmPattern → String
  | .code n => toString n
  | .anyOther => "_"

/-- The text of an arm, for the types of an operation's successes and failures. -/
def DispatchArm.write (outputType errorType : String) (arm : DispatchArm) : String :=
  let internal := s!"{errorType}::InternalError"
  let result :=
    match arm.result with
    | .success v true => s!"runtime::dispatch::success(body, {outputType}::{v}).map_err({internal})"
    | .success v false => s!"Ok({outputType}::{v})"
    | .failure v true => s!"Err(runtime::dispatch::error(body, {errorType}::{v}, {internal}))"
    | .failure v false => s!"Err({errorType}::{v})"
    | .unknown => s!"Err({internal}(InternalError::unknown_response()))"
  s!"{arm.pattern.write} => {result},"

end ApiScaffold.Code
