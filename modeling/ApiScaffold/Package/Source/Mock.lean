import ApiScaffold.Package.Source.Heading

/-!
# The test double of a package

A controller that replays queued results and records its inputs.

* `mockMethods`: the methods in order, the fixed one first.
-/

namespace ApiScaffold.Package.Source

open Code (OperationCode)
open Text.Quoted (encode)

/-- The fields for an operation. -/
def mockFields (o : OperationCode) : Lines :=
  [s!"{o.functionName}_replies: Mutex<VecDeque<Result<{o.outputType}, {o.errorType}>>>,",
    s!"{o.functionName}_calls: Mutex<Vec<{o.inputType}>>,"]

/-- The methods for an operation. -/
def mockMethodsOf (o : OperationCode) : List MethodCode :=
  [{ doc := [s!"Queue the result of the next `{o.functionName}` call"]
     name := s!"expect_{o.functionName}"
     tail := "("
     rest := Lines.indent ["&self,", s!"reply: Result<{o.outputType}, {o.errorType}>,"]
       ++ Lines.block ") -> &Self"
         [s!"lock(&self.{o.functionName}_replies).push_back(reply);", "self"] },
   { doc := [s!"Inputs `{o.functionName}` was called with, oldest first"]
     name := s!"{o.functionName}_calls"
     tail := s!"(&self) -> Vec<{o.inputType}> \x7b"
     rest := [s!"    lock(&self.{o.functionName}_calls).clone()", "\x7d"] }]

/-- The methods of the test double. -/
def mockMethods (operations : List OperationCode) : List MethodCode :=
  { name := "new", tail := "() -> Self \x7b", rest := ["    Self::default()", "\x7d"] }
    :: operations.flatMap mockMethodsOf

/-- How the test double answers an operation. -/
def mockAnswer (o : OperationCode) : MethodCode where
  keyword := "async fn"
  name := o.functionName
  tail := "("
  rest := Lines.indent ["&self,", s!"input: {o.inputType},"]
    ++ Lines.block s!") -> Result<{o.outputType}, {o.errorType}>"
      ([s!"lock(&self.{o.functionName}_calls).push(input);",
          s!"lock(&self.{o.functionName}_replies)"]
        ++ Lines.indent (".pop_front()"
          :: Lines.blockThen ".unwrap_or_else(||"
            (Lines.enclosed
              s!"Err({o.errorType}::InternalError(InternalError::new(concat!("
              ["\"no expectation set for \",", encode o.id] "))))") ")"))

/-- The file of the test double. -/
def mock (plan : Plan) : Lines :=
  heading "Test double for [`Controller`]"
    ++ ["", allowUnusedImports, "", "use std::collections::VecDeque;",
      Lines.importOf "std::sync" ["Mutex", "MutexGuard"], "", "use async_trait::async_trait;",
      "use swaggen::runtime::InternalError;", "", "use crate::controller::Controller;",
      "use crate::inputs::*;", "use crate::outputs::*;", "",
      "/// Replays queued results and records every input it receives", "///",
      "/// A call with nothing queued answers with an `InternalError`.", "#[derive(Default)]"]
    ++ Lines.block "pub struct MockController" (plan.operations.flatMap mockFields)
    ++ "" :: Lines.block "fn lock<T>(mutex: &Mutex<T>) -> MutexGuard<'_, T>"
      ["mutex.lock().unwrap_or_else(|poisoned| poisoned.into_inner())"]
    ++ "" :: writeMethods "impl MockController" (mockMethods plan.operations)
    ++ "" :: "#[async_trait]"
    :: Lines.block "impl Controller for MockController"
      (plan.operations.flatMap fun o => (mockAnswer o).write)

end ApiScaffold.Package.Source
