import ApiScaffold.Package.Source.Heading

/-!
# Inputs of operations

For each operation a type with a field for each parameter, the checks of the fields, and the
path of the request.
-/

namespace ApiScaffold.Package.Source

open Code (FieldCode OperationCode)

/-- A field of an input. -/
def fieldLines (f : FieldCode) : Lines :=
  Lines.doc f.doc ++ f.attribute.toList ++ [s!"pub {f.name}: {f.type},"]

/-- The input of an operation. -/
def inputLines (o : OperationCode) : Lines :=
  Lines.doc o.doc
    ++ "#[derive(Debug, Clone, PartialEq, Serialize, Deserialize)]"
    :: Lines.block s!"pub struct {o.inputType}" (o.fields.flatMap fieldLines)
    ++ ""
    :: writeMethods s!"impl {o.inputType}"
      [{ doc := ["Check declared constraints in field order, stopping at the first violation"]
         name := "validate"
         tail := "(&self) -> Result<(), runtime::ValidationError> \x7b"
         rest := Lines.indent (o.checkLines ++ ["Ok(())"]) ++ ["\x7d"] },
       { doc := ["Request path relative to the base path, query string included"]
         name := "path"
         tail := "(&self) -> String \x7b"
         rest := Lines.indent o.pathLines ++ ["\x7d"] }]

/-- The file of inputs. -/
def inputs (plan : Plan) : Lines :=
  heading s!"Operation inputs for {plan.title}"
    ++ ["", Lines.importOf "serde" ["Deserialize", "Serialize"], "use swaggen::runtime;"]
    ++ Lines.spaced (plan.operations.map inputLines)

end ApiScaffold.Package.Source
