import ApiScaffold.Document.Basic
import ApiScaffold.Document.Error
import ApiScaffold.Json.Printer
import ApiScaffold.Text.Blank

/-!
# Reading documents

A document is read from a JSON value.  References to shared parameters and responses are
followed here; references to models stay in the schemas.

* `Document.ofJson`: the document of a value, or its first fault.
* `normalBasePath`: a base path with one slash in front and none behind.
-/

namespace ApiScaffold

open Json (Value)
open Web (Method)

/-- A base path without blanks around it and slashes behind it, and with a slash in front
unless nothing is left. -/
def normalBasePath (raw : String) : String :=
  let trimmed := Text.dropEndWhile (· == '/') (Text.trimChars raw.toList)
  match trimmed with
  | [] => ""
  | '/' :: _ => String.ofList trimmed
  | _ => String.ofList ('/' :: trimmed)

namespace Document

/-- The text of a member: a string as it is, or a number in its text form. -/
def textOf : Option Value → Option String
  | some (.string s) => some s
  | some (.number n) => some n.print
  | _ => none

def malformed {α : Type} (fault : Malformation) : Except DocumentError α :=
  .error (.malformed fault)

/-- Fails with a fault where a value is missing. -/
def orMalformed {α : Type} (value : Option α) (fault : Malformation) : Except DocumentError α :=
  match value with
  | some v => .ok v
  | none => malformed fault

/-- A declaration, or what its local reference into a section of the document names. -/
def follow (root : Value) (place : String) (item : Value) (section_ : String) :
    Except DocumentError Value :=
  match item.stringAt? "$ref" with
  | none => .ok item
  | some reference =>
    let start := s!"#/{section_}/".toList
    let found :=
      if start.isPrefixOf reference.toList then
        (root.get? section_).bind
          (·.get? (String.ofList (reference.toList.drop start.length)))
      else none
    match found with
    | some v => .ok v
    | none => .error (.unresolvedReference place reference)

/-- A parameter from its declaration. -/
def parameterOf (place : String) (v : Value) : Except DocumentError ParameterItem := do
  let name ← orMalformed (textOf (v.get? "name")) (.parameterWithoutName place)
  let location ← orMalformed (textOf (v.get? "in")) (.parameterWithoutLocation place name)
  let schema ←
    if location = "body" then orMalformed (v.get? "schema") (.bodyWithoutSchema place name)
    else pure v
  pure {
    name, location, schema
    required := ((v.get? "required").bind Value.asBool?).getD false
    description := textOf (v.get? "description") }

/-- The parameters of a path or an operation. -/
def parametersOf (root : Value) (place : String) : Option Value →
    Except DocumentError (List ParameterItem)
  | none => .ok []
  | some v => do
    let items ← orMalformed v.asArray? (.parametersNotArray place)
    items.mapM fun item => do parameterOf place (← follow root place item "parameters")

/-- A response from its declaration. -/
def responseOf (root : Value) (place key : String) (v : Value) :
    Except DocumentError ResponseItem := do
  let response ← follow root place v "responses"
  pure {
    key
    description := textOf (response.get? "description")
    schema := response.get? "schema" }

/-- Whether a key belongs to an extension of the format. -/
def isExtension (key : String) : Bool := "x-".toList.isPrefixOf key.toList

/-- The responses of an operation. -/
def responsesOf (root : Value) (place : String) : Option Value →
    Except DocumentError (List ResponseItem)
  | none => .ok []
  | some v => do
    let members ← orMalformed v.asObject? (.responsesNotObject place)
    (members.filter (!isExtension ·.1)).mapM fun (key, item) => responseOf root place key item

/-- An operation from its declaration. -/
def operationOf (root : Value) (path : String) (method : Method) (v : Value) :
    Except DocumentError OperationItem := do
  let place := s!"{method.name} {path}"
  let _ ← orMalformed v.asObject? (.operationNotObject place)
  let parameters ← parametersOf root place (v.get? "parameters")
  let responses ← responsesOf root place (v.get? "responses")
  pure {
    method, parameters, responses
    operationId := textOf (v.get? "operationId")
    summary := textOf (v.get? "summary")
    description := textOf (v.get? "description") }

/-- A path from its declaration. -/
def pathItemOf (root : Value) (path : String) (members : List (String × Value)) :
    Except DocumentError PathItem := do
  let parameters ← parametersOf root s!"path '{path}'" (Json.memberOf? members "parameters")
  let operations ← members.filterMapM fun (key, v) =>
    match Method.ofName? key with
    | some method => do pure (some (← operationOf root path method v))
    | none => pure none
  pure { path, parameters, operations }

/-- A path with its checks: it begins with a slash, is an object, and is no reference. -/
def pathOf (root : Value) (path : String) (v : Value) : Except DocumentError PathItem := do
  if path.toList.head? ≠ some '/' then malformed (.pathWithoutSlash path)
  let members ← orMalformed v.asObject? (.pathItemNotObject path)
  match Json.memberOf? members "$ref" with
  | some reference =>
    .error (.unresolvedReference s!"path '{path}'" ((textOf (some reference)).getD ""))
  | none => pathItemOf root path members

/-- The paths of a document. -/
def pathsOf (root : Value) : Except DocumentError (List PathItem) := do
  let paths ← orMalformed (root.get? "paths") .missingPaths
  let members ← orMalformed paths.asObject? .pathsNotObject
  (members.filter (!isExtension ·.1)).mapM fun (path, v) => pathOf root path v

/-- Checks that a document has the version that is understood. -/
def checkVersion (root : Value) : Except DocumentError Unit :=
  if (root.get? "openapi").isSome then malformed .laterVersion
  else
    match root.stringAt? "swagger" with
    | some "2.0" => .ok ()
    | some other => malformed (.unsupportedVersion other)
    | none => malformed .missingVersion

/-- The document of a value. -/
def ofJson (root : Value) : Except DocumentError Document := do
  checkVersion root
  let info ← orMalformed ((root.get? "info").filter (·.asObject?.isSome)) .missingInfo
  let title ← orMalformed (textOf (info.get? "title")) .missingTitle
  let version ← orMalformed (textOf (info.get? "version")) .missingInfoVersion
  let paths ← pathsOf root
  pure {
    title, version, paths
    description := textOf (info.get? "description")
    basePath := normalBasePath ((root.stringAt? "basePath").getD "")
    definitions := (((root.get? "definitions").bind Value.asObject?).getD []).map (·.1) }

end Document

end ApiScaffold
