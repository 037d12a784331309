import ApiScaffold.Config
import ApiScaffold.Files.Access
import ApiScaffold.Task.Error
import ApiScaffold.Web.Header

/-!
# Loading documents and configurations

A document is a file or the response for a URL.

* `documentOfResponse`: the document in a response.
* `loadFromUrl`, `loadFromFile`, `load`: the document of a source.
* `loadConfig`: the configuration in a file.
-/

namespace ApiScaffold

/-- Whether a source is a URL. -/
def isUrl (source : String) : Bool :=
  "http://".toList.isPrefixOf source.toList || "https://".toList.isPrefixOf source.toList

/-- A status with its phrase, where it has one. -/
def statusLine (status : Nat) : String :=
  s!"{status} {(Web.Status.reason? status).getD unknownPhrase}"
where
  unknownPhrase : String := "<unknown status code>"

/-- The document in the response for a URL. -/
def documentOfResponse (source : String) (r : Client.Response) : Except GenerationError Document :=
  if 200 ≤ r.status && r.status ≤ 299 then
    let headers : Web.Headers := r.headers
    let contentType := (headers.get? "content-type").bind Web.readableValue?
    readDocument source contentType (Text.decodeLossy r.body)
  else .error (.load s!"HTTP {statusLine r.status} when fetching {source}")

variable {m : Type → Type} [Monad m]

/-- The document behind a URL. -/
def loadFromUrl (access : Access m) (source : String) : m (Except GenerationError Document) := do
  if isUrl source then
    match ← access.fetch source with
    | .ok response => return documentOfResponse source response
    | .error text => return .error (.load s!"Failed to fetch Swagger document from {source}: {text}")
  else return .error (.load s!"HttpSwaggerLoader only handles HTTP(S) URLs, got: {source}")

/-- The document in a file. -/
def loadFromFile (access : Access m) (source : String) : m (Except GenerationError Document) := do
  match ← access.readText source with
  | .ok content => return readDocument source none content
  | .error fault => return .error (.load s!"Failed to read {source}: {fault.message}")

/-- The document of a source. -/
def load (access : Access m) (source : String) : m (Except GenerationError Document) :=
  if isUrl source then loadFromUrl access source else loadFromFile access source

/-- The configuration in a file. -/
def loadConfig (access : Access m) (path : String) : m (Except ConfigFault Config) := do
  match ← access.readText path with
  | .ok content => return (Config.ofToml? content).elim (.error .malformed) .ok
  | .error fault => return .error (.unreadable path fault)

end ApiScaffold
