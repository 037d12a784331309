import ApiScaffold.Package.Source.Heading

/-!
# The client of a package

The settings that a client starts with, and a method for each operation.

* `clientMethods`: the methods in order, the fixed ones first.
-/

namespace ApiScaffold.Package.Source

open Code (OperationCode)
open Text.Quoted (encode)

/-- The names that the file of the client takes from the runtime. -/
def clientImports : List String :=
  ["self", "CallError", "CallOptions", "CircuitSettings", "ClientError", "ClientSettings",
    "HttpRequest", "Method", "Pipeline"]

/-- Names with commas between them. -/
def commas (names : List String) : String := ", ".intercalate names

/-- The function that gives the settings of a client. -/
def settingsLines (plan : Plan) : Lines :=
  "/// Settings used by [`Client::new`]"
    :: Lines.block "pub fn default_settings() -> ClientSettings"
      ("ClientSettings::default()" :: Lines.indent
        ([s!".with_service_name({encode plan.serviceName})",
            s!".with_timeout(Duration::from_millis({plan.client.timeout}))",
            s!".with_retry_policy({plan.retryPolicy})"]
          ++ Lines.enclosed ".with_circuit("
            ("CircuitSettings::default()" :: Lines.indent
              [s!".with_max_concurrent_requests({plan.client.maxConcurrent})",
                s!".with_request_volume_threshold({plan.client.volume})",
                s!".with_error_percent_threshold({plan.client.errorPercent})",
                s!".with_sleep_window(Duration::from_millis({plan.client.sleepWindow})),"])
            ")"))

/-- The methods that every client has. -/
def fixedClientMethods : List MethodCode :=
  [{ name := "new"
     tail := "(base_url: &str) -> Result<Self, CallError> \x7b"
     rest := ["    Self::with_settings(base_url, default_settings())", "\x7d"] },
   { name := "with_settings"
     tail := "(base_url: &str, settings: ClientSettings) -> Result<Self, CallError> \x7b"
     rest := ["    let pipeline = Pipeline::new(base_url, settings)?;",
       "    Ok(Self::from_pipeline(base_url, pipeline))", "\x7d"] },
   { doc := ["Wrap a pipeline built with [`Pipeline::builder`]"]
     name := "from_pipeline"
     tail := "(base_url: &str, pipeline: Pipeline) -> Self \x7b"
     rest := Lines.indent (Lines.block "Self"
       ["base_url: base_url.trim_end_matches('/').to_string(),", "pipeline: Arc::new(pipeline),"])
       ++ ["\x7d"] },
   { name := "pipeline"
     tail := "(&self) -> &Pipeline \x7b"
     rest := ["    &self.pipeline", "\x7d"] }]

/-- The method of an operation. -/
def callMethod (o : OperationCode) : MethodCode where
  doc := o.doc
  keyword := "pub async fn"
  name := o.functionName
  tail := "("
  rest :=
    Lines.indent ["&self,", s!"input: {o.inputType},", "options: CallOptions,"]
      ++ Lines.block s!") -> Result<{o.outputType}, ClientError<{o.errorType}>>"
        (["input.validate()?;",
            "let url = format!(\"\x7b\x7d\x7bBASE_PATH\x7d\x7b\x7d\", self.base_url, input.path());",
            s!"let mut request = HttpRequest::new(Method::{o.method.upperName}, &url)?;",
            "request.header(runtime::VERSION_HEADER, GENERATOR_VERSION)?;",
            s!"request.header(runtime::OPERATION_HEADER, {encode o.id})?;"]
          ++ o.requestLines
          ++ [s!"let options = options.with_operation({encode o.id});",
            "let response = self.pipeline.execute(request, options).await?;",
            s!"{o.dispatcher}(response.status(), response.body()).map_err(ClientError::Response)"])

/-- The methods of a client. -/
def clientMethods (operations : List OperationCode) : List MethodCode :=
  fixedClientMethods ++ operations.map callMethod

/-- The file of the client. -/
def client (plan : Plan) : Lines :=
  heading s!"Typed client for {plan.title}"
    ++ ["", allowUnusedImports, "", "use std::sync::Arc;", "use std::time::Duration;", "",
      "use swaggen::runtime::\x7b",
      s!"    {commas (clientImports.take 7)},", s!"    {commas (clientImports.drop 7)},",
      "\x7d;", "", "use crate::inputs::*;", "use crate::outputs::*;", "",
      "/// Version of swaggen that generated this client",
      s!"pub const GENERATOR_VERSION: &str = {encode generatorVersion};", "",
      "/// Prefix of every request path",
      s!"pub const BASE_PATH: &str = {encode plan.basePath};", ""]
    ++ settingsLines plan
    ++ ["", s!"/// Client for {plan.title} {plan.version}", "///",
      "/// Every call runs through the request pipeline: one tracing span per",
      "/// attempt, retries for GET requests, and a circuit breaker named after the",
      "/// base URL.", "#[derive(Clone)]"]
    ++ Lines.block "pub struct Client" ["base_url: String,", "pipeline: Arc<Pipeline>,"]
    ++ "" :: writeMethods "impl Client" (clientMethods plan.operations)

end ApiScaffold.Package.Source
