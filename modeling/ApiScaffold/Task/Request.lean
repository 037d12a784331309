import ApiScaffold.Naming
import ApiScaffold.Package.Plan
import ApiScaffold.Task.Error

/-!
# Requests for packages

* `GenerateRequest`: a package and where its files go.
* `GenerateRequest.validate`: the first thing that is wrong with a request.
-/

namespace ApiScaffold

/-- A package and where its files go. -/
structure GenerateRequest extends PackageRequest where
  outputDir : String
  deriving DecidableEq, Repr

/-- Whether a text is empty or consists of blanks. -/
def isBlankText (s : String) : Bool := s.toList.all Text.isBlank

/-- Fails with a text where a condition holds. -/
def refuseIf (condition : Bool) (text : String) : Except RequestError Unit :=
  if condition then .error (.invalidConfiguration text) else .ok ()

/-- The first setting of a client that cannot be used. -/
def ClientDefaults.validate (c : ClientDefaults) : Except RequestError Unit := do
  refuseIf (100 < c.errorPercent) "error_percent_threshold must be between 0 and 100"
  refuseIf (c.maxConcurrent = 0) "max_concurrent_requests must be at least 1"
  refuseIf (c.timeout = 0) "timeout_ms must be at least 1"

/-- The first thing that is wrong with a source. -/
def validateSource (source : String) : Except RequestError Unit :=
  if isBlankText source then .error (.missingField "spec") else .ok ()

/-- The first thing that is wrong with a request. -/
def GenerateRequest.validate (r : GenerateRequest) : Except RequestError Unit := do
  validateSource r.source
  if r.package.isEmpty then throw .emptyPackageName
  unless Naming.isPackageName r.package do throw (.invalidPackageName r.package)
  refuseIf (r.serviceName.any isBlankText) "service_name cannot be blank"
  r.client.validate

end ApiScaffold
