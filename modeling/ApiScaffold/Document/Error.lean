/-!
# What is wrong with a document

Every fault of a document that cannot be turned into a package, with its wording.

* `DocumentError`: the faults.
* `DocumentError.message`: the wording.
-/

namespace ApiScaffold

/-- Why a schema is not understood. -/
inductive ShapeFault
  | typeWithoutModel (kind : String)
  | neitherReferenceNorType
  | bodyWithoutModel
  | itemsNotPrimitive
  | arrayOutsideQuery
  | unsupportedType (kind : String)
  | missingType
  | missingItems
  | unsupportedItems
  deriving DecidableEq, Repr

def ShapeFault.message : ShapeFault → String
  | .typeWithoutModel kind => s!"type '{kind}' with no model"
  | .neitherReferenceNorType => "schema has neither $ref nor type"
  | .bodyWithoutModel => "body schema must reference a definition"
  | .itemsNotPrimitive => "array parameters must hold primitive items"
  | .arrayOutsideQuery => "arrays are only supported for query parameters"
  | .unsupportedType kind => s!"unsupported type '{kind}'"
  | .missingType => "missing type"
  | .missingItems => "array declared without items"
  | .unsupportedItems => "array items must be a $ref or a primitive type"

/-- How a path template and the path parameters disagree. -/
inductive PlaceholderFault
  | repeated
  | undeclared
  | unused
  deriving DecidableEq, Repr

def PlaceholderFault.message : PlaceholderFault → String
  | .repeated => "appears more than once in the path"
  | .undeclared => "has no matching path parameter"
  | .unused => "does not appear in the path template"

/-- What is missing from a document or has the wrong form. -/
inductive Malformation
  | laterVersion
  | unsupportedVersion (version : String)
  | missingVersion
  | missingInfo
  | missingTitle
  | missingInfoVersion
  | missingPaths
  | pathsNotObject
  | pathWithoutSlash (path : String)
  | pathItemNotObject (path : String)
  | operationNotObject (place : String)
  | parametersNotArray (place : String)
  | responsesNotObject (place : String)
  | parameterWithoutName (place : String)
  | parameterWithoutLocation (place parameter : String)
  | bodyWithoutSchema (place parameter : String)
  | manyBodies (operation : String)
  | unusableId (operation : String)
  deriving DecidableEq, Repr

def Malformation.message : Malformation → String
  | .laterVersion => "OpenAPI 3 documents are not supported; expected swagger: \"2.0\""
  | .unsupportedVersion version => s!"unsupported swagger version '{version}'"
  | .missingVersion => "missing swagger version"
  | .missingInfo => "missing info object"
  | .missingTitle => "missing info.title"
  | .missingInfoVersion => "missing info.version"
  | .missingPaths => "missing paths object"
  | .pathsNotObject => "paths must be an object"
  | .pathWithoutSlash path => s!"path '{path}' must start with '/'"
  | .pathItemNotObject path => s!"path item '{path}' must be an object"
  | .operationNotObject place => s!"{place}: operation must be an object"
  | .parametersNotArray place => s!"{place}: parameters must be an array"
  | .responsesNotObject place => s!"{place}: responses must be an object"
  | .parameterWithoutName place => s!"{place}: parameter without a name"
  | .parameterWithoutLocation place parameter => s!"{place}: parameter '{parameter}' has no 'in'"
  | .bodyWithoutSchema place parameter => s!"{place}: body parameter '{parameter}' has no schema"
  | .manyBodies operation => s!"{operation}: more than one body parameter"
  | .unusableId operation => s!"operation id '{operation}' yields no usable identifier"

/-- A fault of a document. -/
inductive DocumentError
  | unsupportedLocation (operation parameter location : String)
  | unsupportedShape (place : String) (fault : ShapeFault)
  | reservedStatus (operation : String) (status : Nat) (sharedType : String)
  | statusOutOfRange (operation status : String)
  | repeatedParameter (operation parameter : String)
  | pathParameter (operation parameter : String) (fault : PlaceholderFault)
  | invalidPattern (operation parameter pattern : String)
  | unresolvedReference (place reference : String)
  | repeatedOperation (name : String)
  | malformed (fault : Malformation)
  deriving DecidableEq, Repr

def DocumentError.message : DocumentError → String
  | .unsupportedLocation operation parameter location =>
    s!"{operation}: parameter '{parameter}' uses unsupported location '{location}'"
  | .unsupportedShape place fault => s!"{place}: unsupported schema shape: {fault.message}"
  | .reservedStatus operation status sharedType =>
    s!"{operation}: status {status} is reserved for the shared {sharedType} response and cannot be redefined"
  | .statusOutOfRange operation status =>
    s!"{operation}: response key '{status}' is not 'default' or a status code in [200, 599]"
  | .repeatedParameter operation parameter =>
    s!"{operation}: parameter '{parameter}' is declared more than once"
  | .pathParameter operation parameter fault =>
    s!"{operation}: path parameter '{parameter}' {fault.message}"
  | .invalidPattern operation parameter pattern =>
    s!"{operation}: parameter '{parameter}' has an invalid pattern '{pattern}'"
  | .unresolvedReference place reference => s!"{place}: unresolved reference '{reference}'"
  | .repeatedOperation name => s!"operation name '{name}' is generated by more than one operation"
  | .malformed fault => s!"invalid document: {fault.message}"

end ApiScaffold
