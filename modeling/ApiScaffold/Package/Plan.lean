import ApiScaffold.Client.Request
import ApiScaffold.Code.Json
import ApiScaffold.Document.Basic
import ApiScaffold.Package.ClientDefaults

/-!
# The plan of a package

All that the files of a package are written from: what was asked for, what the document says,
and the code of its operations.

* `PackageRequest`: what is asked for.
* `Route`, `routesOf`: the operations grouped by their paths.
* `retryPolicyOf`, `RetryPolicy.write`: the retries of a generated client.
* `Plan`, `Plan.of`: the plan of a package.
-/

namespace ApiScaffold

open Json (Value)
open Client (RetryPolicy)

/-- What a package is asked for with. -/
structure PackageRequest where
  /-- The file or the URL of the document. -/
  source : String
  package : String
  serviceName : Option String := none
  client : ClientDefaults := {}
  deriving DecidableEq, Repr

/-- What answers one method of a route. -/
structure Handler where
  method : Web.Method
  functionName : String
  deriving DecidableEq, Repr

def Handler.write (h : Handler) : String := s!"{h.method.name}(handle_{h.functionName}::<C>)"

/-- The operations of one path. -/
structure Route where
  /-- The base path and the path template. -/
  path : String
  handlers : List Handler
  deriving DecidableEq, Repr

/-- The expression for the handlers of a route. -/
def Route.chain (r : Route) : String :=
  "axum::routing::" ++ ".".intercalate (r.handlers.map Handler.write)

/-- Adds a handler to those of its path. -/
def addHandler (path : String) (h : Handler) (groups : List (String × List Handler)) :
    List (String × List Handler) :=
  Json.setMember path ((Json.memberOf? groups path).getD [] ++ [h]) groups

/-- The routes of some operations, in the order of their path templates. -/
def routesOf (basePath : String) (operations : List Code.OperationCode) : List Route :=
  let groups := operations.foldl
    (fun groups o => addHandler o.pathTemplate ⟨o.method, o.functionName⟩ groups) []
  groups.map fun (path, handlers) => { path := basePath ++ path, handlers }

/-- The policy of a client that tries a call again so many times. -/
def retryPolicyOf (retries : Nat) : RetryPolicy :=
  match retries with
  | 0 => .never
  | 1 => .once RetryPolicy.defaultPause
  | n => .bounded (min (n + 1) Client.maxCount)

/-- The expression that builds a policy; pauses that grow, and rules of a caller, have none. -/
def writeRetryPolicy : RetryPolicy → String
  | .never => "runtime::NoRetryPolicy"
  | .once _ => "runtime::SingleRetryPolicy::default()"
  | .bounded n => s!"runtime::BoundedRetryPolicy::new({n})"
  | .exponential n .. | .custom n _ => s!"runtime::BoundedRetryPolicy::new({n})"

/-- The plan of a package. -/
structure Plan where
  package : String
  serviceName : String
  title : String
  /-- The version of the interface. -/
  version : String
  /-- The description of the interface in lines. -/
  description : List String
  basePath : String
  client : ClientDefaults
  operations : List Code.OperationCode

namespace Plan

/-- The plan for a request, a document and the code of the document's operations. -/
def of (request : PackageRequest) (document : Document) (operations : List Code.OperationCode) :
    Plan where
  package := request.package
  serviceName := request.serviceName.getD request.package
  title := document.title
  version := document.version
  description := (document.description.map DocText.docLines).getD []
  basePath := document.basePath
  client := request.client
  operations := operations

/-- The name of the package as an identifier. -/
def identifier (p : Plan) : String := p.package.map fun c => if c = '-' then '_' else c

def retryPolicy (p : Plan) : String := writeRetryPolicy (retryPolicyOf p.client.retries)

def routes (p : Plan) : List Route := routesOf p.basePath p.operations

/-- The plan as a value. -/
def toJson (p : Plan) : Value :=
  let route (r : Route) : Value :=
    .objectOf [("path", .string r.path), ("method_chain", .string r.chain)]
  .objectOf [("package", .string p.package), ("crate_ident", .string p.identifier),
    ("service_name", .string p.serviceName), ("title", .string p.title),
    ("api_version", .string p.version), ("description", Code.textArray p.description),
    ("base_path", .string p.basePath), ("generator_version", .string generatorVersion),
    ("client", p.client.toJson), ("retry_policy", .string p.retryPolicy),
    ("operations", .array (p.operations.map Code.OperationCode.toJson)),
    ("routes", .array (p.routes.map route))]

end Plan

end ApiScaffold
