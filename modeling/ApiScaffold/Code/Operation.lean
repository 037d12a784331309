import ApiScaffold.Code.Check
import ApiScaffold.Code.Dispatch
import ApiScaffold.Code.Request
import ApiScaffold.DocText
import ApiScaffold.Naming
import ApiScaffold.Pattern.Reader

/-!
# The code of an operation

Everything that is generated for an operation: its names, its fields, and the code that checks,
sends, reads and answers it.

* `OperationCode`: the code of an operation.
* `compile`: the code of one operation, or why it has none.
* `compileAll`: the code of all operations, whose names must not clash.
-/

namespace ApiScaffold.Code

open Web (Method)

/-- A field of the input of an operation. -/
structure FieldCode where
  name : String
  wire : String
  location : Location
  type : String
  optional : Bool
  doc : List String

/-- The attribute that a field needs: another name on the wire, or a default. -/
def FieldCode.attribute (f : FieldCode) : Option String :=
  let rename := if f.name ≠ f.wire then [s!"rename = {Text.Quoted.encode f.wire}"] else []
  let absent :=
    if f.optional then ["default", "skip_serializing_if = \"Option::is_none\""] else []
  let items := rename ++ absent
  if items.isEmpty then none else some (s!"#[serde(" ++ ", ".intercalate items ++ ")]")

/-- The code of an operation. -/
structure OperationCode where
  id : String
  method : Method
  pathTemplate : String
  /-- The name of the function. -/
  functionName : String
  /-- The beginning of the names of the types. -/
  typeName : String
  doc : List String
  fields : List FieldCode
  checks : List FieldCheck
  path : PathCode
  request : List RequestStep
  sources : List (String × FieldSource)
  successes : List Variant
  failures : List Variant
  arms : List DispatchArm

namespace OperationCode

def inputType (c : OperationCode) : String := c.typeName ++ "Input"
def outputType (c : OperationCode) : String := c.typeName ++ "Output"
def errorType (c : OperationCode) : String := c.typeName ++ "Error"
def dispatcher (c : OperationCode) : String := "dispatch_" ++ c.functionName
def decoder (c : OperationCode) : String := "decode_" ++ c.functionName

/-- Whether a field fills a name of the path. -/
def hasPathParameters (c : OperationCode) : Bool := c.fields.any (·.location == .path)

def checkLines (c : OperationCode) : List String := c.checks.flatMap FieldCheck.write
def pathLines (c : OperationCode) : List String := c.path.write
def requestLines (c : OperationCode) : List String := c.request.map RequestStep.write

def sourceLines (c : OperationCode) : List String :=
  c.sources.map fun (field, source) => s!"{field}: {source.write},"

def armLines (c : OperationCode) : List String :=
  c.arms.map (DispatchArm.write c.outputType c.errorType)

end OperationCode

/-- The field of a parameter. -/
def fieldCode (types : TypeMap) (p : Parameter) (name : String) : FieldCode where
  name := name
  wire := p.name
  location := p.location
  type := if p.isOptional then s!"Option<{types.sourceType p.type}>" else types.sourceType p.type
  optional := p.isOptional
  doc := (p.description.map DocText.docLines).getD []

/-- Checks that the patterns of an operation can be read. -/
def checkPatterns (operation : String) : List Parameter → Except DocumentError Unit
  | [] => .ok ()
  | p :: rest =>
    match p.constraints.pattern with
    | some text =>
      if (Pattern.ofString? text).isSome then checkPatterns operation rest
      else .error (.invalidPattern operation p.name text)
    | none => checkPatterns operation rest

/-- The code of an operation. -/
def compile (types : TypeMap) (o : Operation) : Except DocumentError OperationCode := do
  let typeName := Naming.proper o.id
  if typeName = "" then throw (.malformed (.unusableId o.id))
  checkPatterns o.id o.parameters
  let named := o.parameters.map fun p => (p, Naming.field p.name)
  let (successes, failures) ← variantsOf types o
  return {
    typeName, successes, failures
    id := o.id
    method := o.method
    pathTemplate := o.pathTemplate
    functionName := Naming.field o.id
    doc := DocText.operationDoc o.summary o.description
    fields := named.map fun (p, name) => fieldCode types p name
    checks := fieldChecks named
    path := pathCode o.pathTemplate named
    request := requestSteps named
    sources := named.map fun (p, name) => (name, fieldSource p)
    arms := dispatchArms successes failures }

/-- The code of some operations; the names in `taken` are those of the operations before. -/
def compileFrom (types : TypeMap) (taken : List String) :
    List Operation → Except DocumentError (List OperationCode)
  | [] => .ok []
  | o :: rest => do
    let code ← compile types o
    if taken.contains code.functionName || (code.functionName :: taken).contains code.inputType then
      throw (.repeatedOperation code.functionName)
    return code :: (← compileFrom types (code.inputType :: code.functionName :: taken) rest)

/-- The code of all operations; no two have the same function or the same input type. -/
def compileAll (types : TypeMap) (operations : List Operation) :
    Except DocumentError (List OperationCode) :=
  compileFrom types [] operations

end ApiScaffold.Code
