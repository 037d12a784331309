import ApiScaffold.Json.Value
import ApiScaffold.Web.Method

/-!
# Documents

A document describes an interface: its paths, the operations of each path, and the parameters
and responses of each operation, with the references between them followed.
-/

namespace ApiScaffold

open Json (Value)
open Web (Method)

/-- A parameter as it is declared. -/
structure ParameterItem where
  name : String
  /-- The location as it is written. -/
  location : String
  required : Bool
  description : Option String
  /-- The whole parameter; for a body its `schema`. -/
  schema : Value

/-- A response as it is declared. -/
structure ResponseItem where
  key : String
  description : Option String
  schema : Option Value

/-- An operation as it is declared. -/
structure OperationItem where
  method : Method
  operationId : Option String
  summary : Option String
  description : Option String
  parameters : List ParameterItem
  responses : List ResponseItem

/-- A path, the parameters that its operations share, and the operations. -/
structure PathItem where
  path : String
  parameters : List ParameterItem
  operations : List OperationItem

/-- A document. -/
structure Document where
  title : String
  version : String
  description : Option String
  /-- Empty, or with a slash in front and none behind. -/
  basePath : String
  paths : List PathItem
  /-- The names of the models. -/
  definitions : List String

end ApiScaffold
