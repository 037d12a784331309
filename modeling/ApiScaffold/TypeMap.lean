import ApiScaffold.Document.Basic
import ApiScaffold.Document.Error
import ApiScaffold.Schema

/-!
# From schemas to value types

Three shapes of schemas are understood: a plain type, a reference to a model, and an array of
either.

* `TypeMap`: the models that may be referred to, and where they live.
* `TypeMap.parameterType`, `TypeMap.schemaType`: the value type of a declaration.
* `TypeMap.sourceType`: how a value type is spelled in generated source.
-/

namespace ApiScaffold

open Json (Value)

/-- Which models exist, none meaning that any may be named, and the module that holds them. -/
structure TypeMap where
  models : Option (List String) := none
  modelsPath : String := "crate::models"

namespace TypeMap

/-- The reference of a schema that holds nothing else but remarks. -/
def referenceOf (schema : Value) : Option String :=
  match schema.asObject?, schema.stringAt? "$ref" with
  | some members, some reference =>
    let isRemark (key : String) : Bool :=
      key = "$ref" || key = "description" || key = "title" || "x-".toList.isPrefixOf key.toList
    if members.all (isRemark ·.1) then some reference else none
  | _, _ => none

def kindOf (schema : Value) : Option String := schema.stringAt? "type"

/-- The plain type of a schema with a given `type` keyword. -/
def primitiveOf (schema : Value) (kind : String) : Option Primitive :=
  Primitive.ofKeywords? kind (schema.stringAt? "format")

/-- The name behind the last slash of a reference to a model. -/
def modelName? (reference : String) : Option String :=
  let start := "#/definitions/".toList
  let name := reference.toList.drop start.length
  if start.isPrefixOf reference.toList && !name.isEmpty && !name.contains '/' then
    some (String.ofList name)
  else none

/-- The model that a reference names. -/
def modelOf (t : TypeMap) (place reference : String) : Except DocumentError ValueType :=
  match modelName? reference with
  | none => .error (.unresolvedReference place reference)
  | some name =>
    let known := match t.models with
      | none => true
      | some models => models.contains name
    if known then .ok (.model name) else .error (.unresolvedReference place reference)

def unsupported {α : Type} (place : String) (fault : ShapeFault) : Except DocumentError α :=
  .error (.unsupportedShape place fault)

/-- The array type of a schema, from its items. -/
def arrayType (t : TypeMap) (place : String) (schema : Value) : Except DocumentError ValueType :=
  match schema.get? "items" with
  | none => unsupported place .missingItems
  | some items =>
    match referenceOf items with
    | some reference => (t.modelOf place reference).map .array
    | none =>
      match (kindOf items).bind (primitiveOf items) with
      | some p => .ok (.array (.primitive p))
      | none => unsupported place .unsupportedItems

/-- The type of a response schema: any of the three shapes. -/
def schemaType (t : TypeMap) (place : String) (schema : Value) : Except DocumentError ValueType :=
  match referenceOf schema with
  | some reference => t.modelOf place reference
  | none =>
    match kindOf schema with
    | some "array" => t.arrayType place schema
    | some kind =>
      match primitiveOf schema kind with
      | some p => .ok (.primitive p)
      | none => unsupported place (.typeWithoutModel kind)
    | none => unsupported place .neitherReferenceNorType

/-- The type of a body: a model or an array. -/
def bodyType (t : TypeMap) (place : String) (schema : Value) : Except DocumentError ValueType := do
  match ← t.schemaType place schema with
  | .primitive _ => unsupported place .bodyWithoutModel
  | other => pure other

/-- The type of a parameter outside the body: a plain type, or in a query an array of one. -/
def plainType (t : TypeMap) (place : String) (schema : Value) (arrays : Bool) :
    Except DocumentError ValueType :=
  match kindOf schema with
  | some "array" =>
    if arrays then do
      match ← t.arrayType place schema with
      | .array (.primitive p) => pure (.array (.primitive p))
      | _ => unsupported place .itemsNotPrimitive
    else unsupported place .arrayOutsideQuery
  | some kind =>
    match primitiveOf schema kind with
    | some p => .ok (.primitive p)
    | none => unsupported place (.unsupportedType kind)
  | none => unsupported place .missingType

/-- Where a parameter travels, and the type of its values. -/
def parameterType (t : TypeMap) (operation : String) (item : ParameterItem) :
    Except DocumentError (Location × ValueType) :=
  match Location.ofName? item.location with
  | none => .error (.unsupportedLocation operation item.name item.location)
  | some location =>
    let place := s!"{operation}: parameter '{item.name}'"
    let type :=
      match location with
      | .body => t.bodyType place item.schema
      | .query => t.plainType place item.schema true
      | .path => t.plainType place item.schema false
      | .header => t.plainType place item.schema false
    type.map (location, ·)

/-- How a value type is spelled in generated source. -/
def sourceType (t : TypeMap) : ValueType → String
  | .primitive p => p.sourceName
  | .model name => s!"{t.modelsPath}::{name}"
  | .array item => s!"Vec<{t.sourceType item}>"

end TypeMap

end ApiScaffold
