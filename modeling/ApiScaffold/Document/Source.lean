import ApiScaffold.Document.Reader
import ApiScaffold.Json.Reader
import ApiScaffold.Yaml.Value

/-!
# Sources of documents

The text of a document is JSON or YAML.  The content type of the source decides, then the
ending of its name; where neither says, JSON is tried first.

* `ContentFormat.of`: the format that a source announces.
* `readContent`: the value of a text.
* `GenerationError`: what can go wrong between a source and a package.
-/

namespace ApiScaffold

open Json (Value)

/-- What can go wrong between a source and a package. -/
inductive GenerationError
  | document (error : DocumentError)
  /-- The text is in no format that is understood. -/
  | unreadable
  /-- The source could not be fetched. -/
  | load (message : String)
  | render
  | configuration (message : String)
  | json (failure : Json.Failure)
  deriving DecidableEq, Repr

/-- The wording of an error; a text in no format has none of its own. -/
def GenerationError.message : GenerationError → String
  | .document e => e.message
  | .unreadable => "Swagger loading error: Failed to parse"
  | .load message => s!"Swagger loading error: {message}"
  | .render => "Render error"
  | .configuration message => s!"Invalid configuration: {message}"
  | .json failure => s!"Serialization error: {failure.message}"

/-- The format of a text. -/
inductive ContentFormat
  | json
  | yaml
  | either
  deriving DecidableEq, Repr

/-- Whether a text ends with another. -/
def endsWith (s tail : String) : Bool := tail.toList.isSuffixOf s.toList

/-- The format that a source announces. -/
def ContentFormat.of (source : String) (contentType : Option String) : ContentFormat :=
  let type := contentType.getD ""
  if Text.contains type "json" || endsWith source ".json" then .json
  else if Text.contains type "yaml" || endsWith source ".yaml" || endsWith source ".yml" then .yaml
  else .either

/-- The value of a text. -/
def readContent (source : String) (contentType : Option String) (content : String) :
    Except GenerationError Value :=
  match ContentFormat.of source contentType with
  | .json => (Json.read .any content).mapError .json
  | .yaml => (readYaml content).elim (.error .unreadable) .ok
  | .either =>
    match Json.read .any content with
    | .ok v => .ok v
    | .error _ => (readYaml content).elim (.error .unreadable) .ok

/-- The document of a text. -/
def readDocument (source : String) (contentType : Option String) (content : String) :
    Except GenerationError Document := do
  let v ← readContent source contentType content
  (Document.ofJson v).mapError .document

end ApiScaffold
