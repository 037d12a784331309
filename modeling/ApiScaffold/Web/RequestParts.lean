import ApiScaffold.Json.Reader
import ApiScaffold.Param
import ApiScaffold.Web.Form
import ApiScaffold.Web.Header

/-!
# Parts of incoming requests

A server reads the values of parameters out of the path, the query, the headers and the body
of a request.

* `RequestParts`: the parts.
* `path`, `query`, `queryRequired`, `queryAll`, `header`, `headerRequired`, `body`: the values.
* `DecodeError`: why there is none.
-/

namespace ApiScaffold.Web

open Number (ReadError)

/-- Why a request holds no value for a parameter. -/
inductive DecodeError
  | missing (location : Location) (name : String)
  | invalid (location : Location) (name reason : String)
  | body (failure : Json.Failure)
  deriving DecidableEq

def DecodeError.message : DecodeError → String
  | missing location name => s!"missing required {location.name} parameter '{name}'"
  | invalid location name reason => s!"invalid {location.name} parameter '{name}': {reason}"
  | body failure => s!"invalid request body: {failure.message}"

/-- The parts of a request. -/
structure RequestParts where
  path : List (String × String) := []
  query : List (String × String) := []
  headers : Headers := []
  body : List UInt8 := []

namespace RequestParts

/-- The parts of a request with the text of its query. -/
def ofRaw (path : List (String × String)) (query : Option String) (headers : Headers)
    (body : List UInt8) : RequestParts :=
  { path, query := (query.map Form.decode).getD [], headers, body }

/-- The value of a raw text. -/
def readValue (location : Location) (name : String) (type : Primitive) (raw : String) :
    Except DecodeError ParamValue :=
  (ParamValue.read type raw).mapError fun e => .invalid location name e.message

/-- A value that must be present. -/
def required (location : Location) (name : String) :
    Except DecodeError (Option ParamValue) → Except DecodeError ParamValue
  | .error e => .error e
  | .ok (some v) => .ok v
  | .ok none => .error (.missing location name)

/-- The value of a name in the path. -/
def pathValue (r : RequestParts) (type : Primitive) (name : String) :
    Except DecodeError ParamValue :=
  match r.path.lookup name with
  | some raw => readValue .path name type raw
  | none => .error (.missing .path name)

/-- The first value of a name in the query, if there is one. -/
def queryValue (r : RequestParts) (type : Primitive) (name : String) :
    Except DecodeError (Option ParamValue) :=
  match r.query.lookup name with
  | some raw => (readValue .query name type raw).map some
  | none => .ok none

def queryRequired (r : RequestParts) (type : Primitive) (name : String) :
    Except DecodeError ParamValue :=
  required .query name (r.queryValue type name)

/-- All values of a name in the query, in order. -/
def queryAll (r : RequestParts) (type : Primitive) (name : String) :
    Except DecodeError (List ParamValue) :=
  (r.query.filter (·.1 == name)).mapM fun pair => readValue .query name type pair.2

/-- The value of a header, if there is one. -/
def headerValue (r : RequestParts) (type : Primitive) (name : String) :
    Except DecodeError (Option ParamValue) :=
  match (headerName? name).bind r.headers.get? with
  | none => .ok none
  | some raw =>
    match readableValue? raw with
    | none => .error (.invalid .header name unreadableFault)
    | some text => (readValue .header name type text).map some

def headerRequired (r : RequestParts) (type : Primitive) (name : String) :
    Except DecodeError ParamValue :=
  required .header name (r.headerValue type name)

/-- The value of the body. -/
def bodyValue (r : RequestParts) (shape : Json.Shape) : Except DecodeError Json.Value :=
  (Json.readBytes shape r.body).mapError .body

end RequestParts

end ApiScaffold.Web
