import ApiScaffold.Naming
import ApiScaffold.Number.Reader
import ApiScaffold.Operation.PathTemplate
import ApiScaffold.TypeMap

/-!
# The operations of a document

The operations of a document in the order they are generated in: by path, then by method, with
the responses of each by status.

* `operations`: all operations of a document.
* `statusKey`: the status of a response key.
* `generatedId`: the name of an operation that has none, from its method and its path.
-/

namespace ApiScaffold.Walk

open Text (isBlank)

/-- The status of a response key: `default`, or a code from 200 to 599. -/
def statusKey (operation key : String) : Except DocumentError StatusKey :=
  if key = "default" then .ok .default
  else
    match Number.readNat 65535 key with
    | .ok n =>
      if 200 ≤ n && n ≤ 599 then .ok (.code n) else .error (.statusOutOfRange operation key)
    | .error _ => .error (.statusOutOfRange operation key)

/-- A segment of a path in words: `by` and the name for a placeholder. -/
def segmentWords (segment : List Char) : List Char :=
  match segment with
  | '\x7b' :: rest =>
    match rest.getLast? with
    | some '\x7d' => "by ".toList ++ rest.dropLast
    | _ => segment
  | _ => segment

/-- The name of an operation from its method and its path. -/
def generatedId (method : Web.Method) (path : String) : String :=
  let segments := (Text.splitWhere (· == '/') path.toList).filter (!·.isEmpty)
  let words := segments.map fun s => String.ofList (segmentWords s)
  Naming.camel (method.name ++ " " ++ " ".intercalate words)

/-- The name of an operation: its own unless that is blank. -/
def operationId (path : String) (item : OperationItem) : String :=
  match item.operationId with
  | some id => if id.toList.all isBlank then generatedId item.method path else id
  | none => generatedId item.method path

/-- The parameters of the path that the operation does not override, then its own. -/
def mergedParameters (shared own : List ParameterItem) : List ParameterItem :=
  shared.filter (fun p => !own.any fun o => o.name == p.name && o.location == p.location) ++ own

/-- What has been seen of the parameters of an operation. -/
structure Seen where
  names : List String := []
  fields : List String := []
  hasBody : Bool := false

/-- The parameters of an operation, each with its type; names, field names and the body are
taken once. -/
def parametersFrom (types : TypeMap) (operation : String) (seen : Seen) :
    List ParameterItem → Except DocumentError (List Parameter)
  | [] => .ok []
  | item :: rest => do
    let (location, type) ← types.parameterType operation item
    let field := Naming.field item.name
    if seen.names.contains item.name || seen.fields.contains field then
      throw (.repeatedParameter operation item.name)
    if location == .body && seen.hasBody then throw (.malformed (.manyBodies operation))
    let parameter : Parameter := {
      name := item.name
      location, type
      required := item.required || location == .path
      constraints := if location == .body then {} else Constraints.ofJson item.schema
      description := item.description }
    let seen : Seen :=
      { names := item.name :: seen.names
        fields := field :: seen.fields
        hasBody := seen.hasBody || location == .body }
    return parameter :: (← parametersFrom types operation seen rest)

/-- A response with its status and type. -/
def responseOf (types : TypeMap) (operation : String) (item : ResponseItem) :
    Except DocumentError Response := do
  let status ← statusKey operation item.key
  let schema ← item.schema.mapM (types.schemaType s!"{operation}: response {status.text}")
  return { status, schema, description := item.description }

/-- An operation of a path. -/
def describe (types : TypeMap) (path : PathItem) (item : OperationItem) :
    Except DocumentError Operation := do
  let id := operationId path.path item
  let parameters ← parametersFrom types id {} (mergedParameters path.parameters item.parameters)
  PathTemplate.checkPlaceholders id path.path parameters
  let responses ← item.responses.mapM (responseOf types id)
  return {
    id, parameters
    method := item.method
    pathTemplate := path.path
    summary := item.summary
    description := item.description
    responses := responses.mergeSort fun a b => a.status.le b.status }

/-- The paths of a document in ascending order. -/
def sortedPaths (document : Document) : List PathItem :=
  document.paths.mergeSort fun a b => decide (a.path ≤ b.path)

/-- The operations of a path in the order of their methods. -/
def sortedOperations (path : PathItem) : List OperationItem :=
  path.operations.mergeSort fun a b => a.method.rank ≤ b.method.rank

/-- The operations of a document. -/
def operations (types : TypeMap) (document : Document) : Except DocumentError (List Operation) :=
  ((sortedPaths document).flatMap fun path => (sortedOperations path).map (path, ·)).mapM
    fun (path, item) => describe types path item

end ApiScaffold.Walk
