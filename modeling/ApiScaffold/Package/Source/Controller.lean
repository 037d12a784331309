import ApiScaffold.Package.Source.Heading

/-!
# The controller of a package

The capabilities that a server needs: a method for each operation.
-/

namespace ApiScaffold.Package.Source

open Code (OperationCode)

/-- The method of an operation. -/
def capability (o : OperationCode) : MethodCode where
  doc := o.doc
  keyword := "async fn"
  name := o.functionName
  tail := "("
  rest := Lines.indent ["&self,", s!"input: {o.inputType},"]
    ++ [s!") -> Result<{o.outputType}, {o.errorType}>;"]

/-- The file of the controller. -/
def controller (plan : Plan) : Lines :=
  heading s!"Controller capability set for {plan.title}"
    ++ ["", allowUnusedImports, "", "use async_trait::async_trait;", "", "use crate::inputs::*;",
      "use crate::outputs::*;", "",
      "/// One method per operation; implement it to serve the API with",
      "/// [`crate::server::router`]", "#[async_trait]"]
    ++ Lines.block "pub trait Controller: Send + Sync + 'static"
      (plan.operations.flatMap fun o => (capability o).write)

end ApiScaffold.Package.Source
