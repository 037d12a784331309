import ApiScaffold.Client.Dispatch
import ApiScaffold.Validation
import ApiScaffold.Web.QueryString

/-!
# A generated sample

The input and the responses of the operation `getItem`, as a generated package holds them.

* `GetItemInput.validate`, `GetItemInput.path`: the checks and the path of an input.
* `dispatchGetItem`: the success or the failure of a response.
-/

namespace ApiScaffold.Sample

open Client (BadRequest InternalError)
open Json (Shape Value)
open Web (QueryString)

/-- The model of the sample. -/
structure Item where
  id : String
  deriving DecidableEq, Repr

namespace Item

def shape : Shape := .record "Item" [("id", .string, none)]
def toJson (item : Item) : Value := .object [("id", .string item.id)]
def ofJson (v : Value) : Item := ⟨(v.stringAt? "id").getD ""⟩

end Item

/-- The input of the operation. -/
structure GetItemInput where
  id : String
  verbose : Option Bool := none
  limit : Option Int := none
  deriving DecidableEq, Repr

namespace GetItemInput

def shape : Shape :=
  .record "GetItemInput"
    [("id", .string, none), ("verbose", .optional .bool, some .null),
      ("limit", .optional .int64, some .null)]

def ofJson (v : Value) : GetItemInput where
  id := (v.stringAt? "id").getD ""
  verbose := (v.get? "verbose").bind Value.asBool?
  limit :=
    match v.get? "limit" with
    | some (.number (.integer n)) => some n
    | _ => none

/-- The members of an input; what is absent is left out. -/
def toJson (input : GetItemInput) : Value :=
  Value.objectOf
    ([("id", .string input.id)]
      ++ (input.verbose.map fun b => ("verbose", Value.bool b)).toList
      ++ (input.limit.map fun n => ("limit", Value.number (.integer n))).toList)

/-- The first violated limit of an input. -/
def validate (input : GetItemInput) : Except Violation Unit := do
  Validation.maxLength "id" input.id 8
  Validation.pattern "id" input.id "^[a-z0-9-]+$"
  match input.limit with
  | some n => Validation.maximum "limit" (.ofInt n) (.ofInt 50) false
  | none => .ok ()

/-- The query of an input. -/
def query (input : GetItemInput) : QueryString :=
  let q : QueryString := {}
  let q := match input.verbose with
    | some b => q.push "verbose" (if b then "true" else "false")
    | none => q
  match input.limit with
  | some n => q.push "limit" (toString n)
  | none => q

/-- The path of an input, with its query. -/
def path (input : GetItemInput) : String :=
  input.query.finish (Web.substitute "/items/\x7bid\x7d" "id" input.id)

end GetItemInput

/-- The successes of the operation. -/
inductive GetItemOutput
  | ok (item : Item)
  deriving DecidableEq, Repr

namespace GetItemOutput

def status : GetItemOutput → Nat
  | ok _ => 200

def data : GetItemOutput → Option Value
  | ok item => some item.toJson

end GetItemOutput

/-- The failures of the operation. -/
inductive GetItemError
  | notFound
  | badRequest (response : BadRequest)
  | internalError (response : InternalError)
  deriving DecidableEq, Repr

namespace GetItemError

def status : GetItemError → Nat
  | notFound => 404
  | badRequest _ => BadRequest.status
  | internalError _ => InternalError.status

def data : GetItemError → Option Value
  | notFound => none
  | badRequest r => some r.toJson
  | internalError r => some r.toJson

def message : GetItemError → String
  | notFound => "404 Not Found"
  | badRequest r => r.text
  | internalError r => r.text

end GetItemError

/-- The success or the failure of a response. -/
def dispatchGetItem (status : Nat) (body : List UInt8) : Except GetItemError GetItemOutput :=
  match status with
  | 200 =>
    (Client.decodeSuccess Item.shape (fun v => GetItemOutput.ok (.ofJson v)) body).mapError
      .internalError
  | 404 => .error .notFound
  | 400 =>
    .error (Client.decodeFailure BadRequest.shape (fun v => .badRequest (.ofJson v))
      .internalError body)
  | 500 =>
    .error (Client.decodeFailure InternalError.shape (fun v => .internalError (.ofJson v))
      .internalError body)
  | _ => .error (.internalError .unknownResponse)

end ApiScaffold.Sample
