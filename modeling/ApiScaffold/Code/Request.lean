import ApiScaffold.Operation.Basic
import ApiScaffold.Text.Quoted

/-!
# Generated requests

How a client makes a request of an input, and how a server reads the input back.

* `PathCode`: the path with its parameters filled in, and the query behind it.
* `RequestStep`: a header or a body of the request.
* `FieldSource`: where the server finds the value of a field.
-/

namespace ApiScaffold.Code

open Text.Quoted (encode)

/-- A query parameter that is added to the query. -/
structure QueryPush where
  wire : String
  field : String
  array : Bool
  optional : Bool
  deriving DecidableEq

/-- The path of a request. -/
structure PathCode where
  template : String
  /-- The names in the template and the fields that fill them. -/
  substitutions : List (String × String)
  pushes : List QueryPush

/-- A header or the body of a request. -/
inductive RequestStep
  | header (wire field : String) (optional : Bool)
  | body (field : String)
  deriving DecidableEq

/-- Where the value of a field is found in a request. -/
inductive FieldSource
  | path (wire : String)
  | query (wire : String)
  | queryRequired (wire : String)
  | queryAll (wire : String)
  | queryAllOptional (wire : String)
  | header (wire : String)
  | headerRequired (wire : String)
  | body
  deriving DecidableEq

/-- The path of an operation. -/
def pathCode (template : String) (fields : List (Parameter × String)) : PathCode where
  template := template
  substitutions := (fields.filter (·.1.location == .path)).map fun (p, field) => (p.name, field)
  pushes := (fields.filter (·.1.location == .query)).map fun (p, field) =>
    { wire := p.name, field, array := p.type.isArray, optional := p.isOptional }

/-- The headers and the body of an operation. -/
def requestSteps (fields : List (Parameter × String)) : List RequestStep :=
  fields.filterMap fun (p, field) =>
    match p.location with
    | .header => some (.header p.name field p.isOptional)
    | .body => some (.body field)
    | _ => none

/-- Where the server finds the value of a parameter. -/
def fieldSource (p : Parameter) : FieldSource :=
  match p.location with
  | .path => .path p.name
  | .query =>
    if p.type.isArray then
      if p.isOptional then .queryAllOptional p.name else .queryAll p.name
    else if p.isOptional then .query p.name
    else .queryRequired p.name
  | .header => if p.isOptional then .header p.name else .headerRequired p.name
  | .body => .body

/-- The statement that adds a query parameter. -/
def QueryPush.write (q : QueryPush) : String :=
  let method := if q.array then "push_all" else "push"
  let item := if q.array then "values" else "value"
  if q.optional then
    s!"if let Some({item}) = &self.{q.field} \x7b query.{method}({encode q.wire}, {item}); \x7d"
  else s!"query.{method}({encode q.wire}, &self.{q.field});"

/-- The statements that make the path. -/
def PathCode.write (c : PathCode) : List String :=
  let path := if c.substitutions.isEmpty then "let path" else "let mut path"
  let query := if c.pushes.isEmpty then "let query" else "let mut query"
  s!"{path} = String::from({encode c.template});"
    :: c.substitutions.map (fun (wire, field) =>
      s!"path = runtime::path::substitute(&path, {encode wire}, &self.{field});")
    ++ s!"{query} = runtime::path::QueryString::new();"
    :: c.pushes.map QueryPush.write ++ ["query.finish(&path)"]

/-- The statement for a header or a body. -/
def RequestStep.write : RequestStep → String
  | .header wire field true =>
    s!"if let Some(value) = &input.{field} \x7b request.header({encode wire}, &value.to_string())?; \x7d"
  | .header wire field false =>
    s!"request.header({encode wire}, &input.{field}.to_string())?;"
  | .body field => s!"request.json_body(&input.{field})?;"

/-- The expression for the value of a field. -/
def FieldSource.write : FieldSource → String
  | .path wire => s!"parts.path_param({encode wire})?"
  | .query wire => s!"parts.query({encode wire})?"
  | .queryRequired wire => s!"parts.query_required({encode wire})?"
  | .queryAll wire => s!"parts.query_all({encode wire})?"
  | .queryAllOptional wire =>
    s!"\x7b let values = parts.query_all({encode wire})?; (!values.is_empty()).then_some(values) \x7d"
  | .header wire => s!"parts.header({encode wire})?"
  | .headerRequired wire => s!"parts.header_required({encode wire})?"
  | .body => "parts.body()?"

end ApiScaffold.Code
