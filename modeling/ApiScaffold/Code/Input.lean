import ApiScaffold.Code.Request
import ApiScaffold.Web.QueryString
import ApiScaffold.Web.RequestParts

/-!
# Inputs on their way

What the statements of a client make of an input, and what the expressions of a server make of a
request.  A statement or an expression that does not fit the value or the type of its field makes
nothing.

* `FieldValue`, `Input`: the values of the fields of an operation.
* `PathCode.fill`, `PathCode.query`, `PathCode.run`: the path of an input, its query, and both.
* `FieldSource.read`: the value of a field in a request, or why it has none.
-/

namespace ApiScaffold.Code

open Json (Shape Value)
open Web (DecodeError QueryString RequestParts)

/-- The value of a field. -/
inductive FieldValue
  | one (value : ParamValue)
  | many (values : List ParamValue)
  | body (value : Value)

/-- The values of the fields of an input; a field that is left out has none. -/
abbrev Input := String → Option FieldValue

/-- The query with what a field adds to it. -/
def QueryPush.run (input : Input) (q : QueryString) (push : QueryPush) : Option QueryString :=
  match push.array, input push.field with
  | false, some (.one value) => some (q.push push.wire value.text)
  | true, some (.many values) => some (q.pushAll push.wire (values.map ParamValue.text))
  | _, none => if push.optional then some q else none
  | _, _ => none

namespace PathCode

/-- The path with its names filled in, one after another. -/
def fill (input : Input) (c : PathCode) : Option String :=
  c.substitutions.foldlM (fun path (wire, field) =>
    match input field with
    | some (.one value) => some (Web.substitute path wire value.text)
    | _ => none) c.template

/-- The query, to which the fields are added one after another. -/
def query (input : Input) (c : PathCode) : Option QueryString :=
  c.pushes.foldlM (fun q push => push.run input q) {}

/-- The path with the query behind it. -/
def run (input : Input) (c : PathCode) : Option String := do
  let path ← c.fill input
  let query ← c.query input
  return query.finish path

end PathCode

/-- The value of a field of some type, which may be left out if it is optional; a body is read in
the shape of its type. -/
def FieldSource.read (shapes : ValueType → Shape) (parts : RequestParts) (type : ValueType)
    (optional : Bool) : FieldSource → Option (Except DecodeError (Option FieldValue))
  | .path wire =>
    match type, optional with
    | .primitive t, false => some ((parts.pathValue t wire).map fun v => some (.one v))
    | _, _ => none
  | .query wire =>
    match type, optional with
    | .primitive t, true => some ((parts.queryValue t wire).map (·.map .one))
    | _, _ => none
  | .queryRequired wire =>
    match type, optional with
    | .primitive t, false => some ((parts.queryRequired t wire).map fun v => some (.one v))
    | _, _ => none
  | .queryAll wire =>
    match type, optional with
    | .array (.primitive t), false =>
      some ((parts.queryAll t wire).map fun values => some (.many values))
    | _, _ => none
  | .queryAllOptional wire =>
    match type, optional with
    | .array (.primitive t), true =>
      some ((parts.queryAll t wire).map fun values =>
        if values.isEmpty then none else some (.many values))
    | _, _ => none
  | .header wire =>
    match type, optional with
    | .primitive t, true => some ((parts.headerValue t wire).map (·.map .one))
    | _, _ => none
  | .headerRequired wire =>
    match type, optional with
    | .primitive t, false => some ((parts.headerRequired t wire).map fun v => some (.one v))
    | _, _ => none
  | .body =>
    if optional then none
    else some ((parts.bodyValue (shapes type)).map fun value => some (.body value))

end ApiScaffold.Code
