import ApiScaffold.Client.Retry
import ApiScaffold.Client.Trace
import ApiScaffold.Json.Printer
import ApiScaffold.Web.Url.Reader

/-!
# Requests

A request is built from a method and a URL; headers and a body are added step by step.

* `Request.new`: a request, if the URL is one.
* `Request.setHeader`: a header in the place of any earlier one.
* `Request.putHeader`: the same in place, with what it is refused for.
* `Request.setBody`: a JSON value as the body.
* `CallOptions`: what a caller says beside the request.
-/

namespace ApiScaffold

/-- The version of the generator, which every package carries. -/
def generatorVersion : String := "0.1.0"

namespace Client

open Web (Headers Url)

/-- The header with the version of the generator. -/
def versionHeader : String := "X-Generator-Version"

/-- The header with the operation of a call. -/
def operationHeader : String := "X-Operation-Id"

/-- A request. -/
structure Request where
  method : String
  url : Url
  headers : Headers := []
  body : Option String := none
  deriving DecidableEq, Repr

namespace Request

/-- A request without headers and body. -/
def new (method url : String) : Except CallError Request :=
  match Url.read url with
  | .ok u => .ok { method, url := u }
  | .error fault => .error (.invalidRequest s!"invalid url '{url}': {fault.message}")

/-- Sets a header in the place of any earlier one of its name. -/
def setHeader (name value : String) (r : Request) : Except CallError Request :=
  match Web.headerName? name with
  | none => .error (.invalidRequest s!"invalid header name '{name}': {Web.headerNameFault}")
  | some lower =>
    if Web.isHeaderValue value then .ok { r with headers := r.headers.insert lower value }
    else
      .error (.invalidRequest s!"invalid value for header '{lower}': {Web.headerValueFault}")

/-- Sets a header of a request in place, and says why it was refused, if it was.  A header that is
refused leaves the request as it is. -/
def putHeader (name value : String) (r : Request) : Request × Option CallError :=
  match r.setHeader name value with
  | .ok r' => (r', none)
  | .error e => (r, some e)

/-- Sets the body and its type. -/
def setBody (body : Json.Value) (r : Request) : Request :=
  { r with
    body := some body.print
    headers := r.headers.insert "content-type" "application/json" }

end Request

/-- What a caller says beside the request. -/
structure CallOptions where
  /-- The name of the operation. -/
  operation : Option String := none
  /-- The moment by which the call must have ended. -/
  deadline : Option Nat := none
  /-- The moment at which the caller gives the call up. -/
  cancelAt : Option Nat := none
  /-- The span that the attempts belong to. -/
  parent : Option SpanContext := none
  deriving DecidableEq, Repr

namespace CallOptions

/-- Whether the caller has given the call up. -/
def isCancelled (o : CallOptions) (now : Nat) : Bool := o.cancelAt.any (· ≤ now)

/-- Whether the deadline has passed. -/
def isExpired (o : CallOptions) (now : Nat) : Bool := o.deadline.any (· ≤ now)

end CallOptions

end Client

end ApiScaffold
