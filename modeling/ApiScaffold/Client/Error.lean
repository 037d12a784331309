import ApiScaffold.Client.SharedResponse
import ApiScaffold.Json.Reader
import ApiScaffold.Validation

/-!
# Errors of calls

* `Rejection`: why a circuit refuses a call.
* `CallError`: why a call has no response.
* `ClientError`: why an operation has no success.
-/

namespace ApiScaffold.Client

/-- Why a circuit refuses a call. -/
inductive Rejection
  | isOpen
  | trialInFlight
  | maxConcurrency
  deriving DecidableEq, Repr

def Rejection.message : Rejection → String
  | isOpen => "circuit open"
  | trialInFlight => "trial request in flight"
  | maxConcurrency => "max concurrency"

/-- Why a call has no response. -/
inductive CallError
  /-- The request could not be sent, or the response not be read. -/
  | request
  | connection (text : String)
  | deadlineExceeded
  | cancelled
  | circuitOpen (circuit : String) (reason : Rejection)
  | traceInjection (text : String)
  | invalidRequest (text : String)
  deriving DecidableEq, Repr

namespace CallError

def message : CallError → String
  | request => "request failed: builder error"
  | connection text => s!"connection failed: {text}"
  | deadlineExceeded => "deadline exceeded"
  | cancelled => "call cancelled"
  | circuitOpen circuit reason => s!"circuit '{circuit}' rejected the call: {reason.message}"
  | traceInjection text => s!"failed to inject trace context: {text}"
  | invalidRequest text => s!"invalid request: {text}"

def isCircuitOpen : CallError → Bool
  | circuitOpen .. => true
  | _ => false

/-- Whether the request may not have reached the service. -/
def isTransport : CallError → Bool
  | request => true
  | connection _ => true
  | _ => false

end CallError

/-- Why an operation has no success; the service may have answered with a failure. -/
inductive ClientError (ε : Type)
  | validation (violation : Violation)
  | call (error : CallError)
  | encode (failure : Json.Failure)
  | response (failure : ε)

/-- The wording of an error, given that of the failures. -/
def ClientError.message {ε : Type} (text : ε → String) : ClientError ε → String
  | validation v => s!"validation error: {v.message}"
  | call e => e.message
  | encode f => s!"failed to encode request body: {f.message}"
  | response e => text e

end ApiScaffold.Client
