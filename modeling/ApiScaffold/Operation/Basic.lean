import ApiScaffold.Schema
import ApiScaffold.Web.Method

/-!
# Operations

An operation in the form that a package is generated from: its parameters have types, and its
responses are told apart by their status.

* `StatusKey`: a status code, or the response for all other codes; `StatusKey.le` puts that one
  last.
* `Parameter`, `Response`, `Operation`.
-/

namespace ApiScaffold

open Web (Method)

/-- The key of a response. -/
inductive StatusKey
  | code (n : Nat)
  | default
  deriving DecidableEq, Repr

namespace StatusKey

def code? : StatusKey → Option Nat
  | code n => some n
  | default => none

def text : StatusKey → String
  | code n => toString n
  | default => "default"

/-- Codes ascend, and the response for all other codes comes last. -/
def le : StatusKey → StatusKey → Bool
  | code m, code n => m ≤ n
  | code _, default => true
  | default, code _ => false
  | default, default => true

end StatusKey

/-- A parameter of an operation. -/
structure Parameter where
  name : String
  location : Location
  type : ValueType
  required : Bool
  constraints : Constraints
  description : Option String

/-- Whether a parameter may be left out; a body never is. -/
def Parameter.isOptional (p : Parameter) : Bool := !p.required && p.location != .body

/-- A response of an operation. -/
structure Response where
  status : StatusKey
  schema : Option ValueType
  description : Option String

/-- Whether a response tells of a failure. -/
def Response.isError (r : Response) : Bool := r.status.code?.any (400 ≤ ·)

/-- An operation. -/
structure Operation where
  id : String
  method : Method
  pathTemplate : String
  summary : Option String
  description : Option String
  /-- In the order of declaration. -/
  parameters : List Parameter
  /-- In ascending order of their status. -/
  responses : List Response

end ApiScaffold
