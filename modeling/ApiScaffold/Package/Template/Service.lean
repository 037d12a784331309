import ApiScaffold.Package.Generate
import ApiScaffold.Package.Template.Interface

/-!
# Templates of the two sides of a package

The client, the controller, the server and the test double, and the emitters that render all
templates of a package.

* `clientRows`, `controllerRows`, `serverRows`, `mockRows`: the templates of the four files.
* `TemplateFile`, `templateEmitters`: the files of a package with their templates, and the emitters
  that render them.
-/

namespace ApiScaffold.Package.Template

/-! ## The client -/

/-- The function that gives the settings of a client. -/
def settingsRows : List Row :=
  [.fixed ["/// Settings used by [`Client::new`]",
      "pub fn default_settings() -> ClientSettings \x7b", "    ClientSettings::default()"],
    .line 2 [.text ".with_service_name(", .literal ["service_name"], .text ")"],
    .line 2 [.text ".with_timeout(Duration::from_millis(", .value ["client", "timeout_ms"],
      .text "))"],
    .line 2 [.text ".with_retry_policy(", .value ["retry_policy"], .text ")"],
    .fixed ["        .with_circuit(", "            CircuitSettings::default()"],
    .line 4 [.text ".with_max_concurrent_requests(", .value ["client", "max_concurrent_requests"],
      .text ")"],
    .line 4 [.text ".with_request_volume_threshold(",
      .value ["client", "request_volume_threshold"], .text ")"],
    .line 4 [.text ".with_error_percent_threshold(", .value ["client", "error_percent_threshold"],
      .text ")"],
    .line 4 [.text ".with_sleep_window(Duration::from_millis(",
      .value ["client", "sleep_window_ms"], .text ")),"],
    .fixed ["        )", "\x7d"]]

/-- The method of an operation. -/
def callRows : List Row :=
  [.fixed [""], docRow 1,
    .line 1 [.text "pub async fn ", ofOperation "fn_name", .text "("],
    .fixed ["        &self,"],
    .line 2 [.text "input: ", ofOperation "input_type", .text ","],
    .fixed ["        options: CallOptions,"],
    .line 1 [.text ") -> Result<", ofOperation "output_type", .text ", ClientError<",
      ofOperation "error_type", .text ">> \x7b"],
    .fixed ["        input.validate()?;",
      "        let url = format!(\"\x7b\x7d\x7bBASE_PATH\x7d\x7b\x7d\", self.base_url, input.path());"],
    .line 2 [.text "let mut request = HttpRequest::new(Method::", ofOperation "method",
      .text ", &url)?;"],
    .fixed ["        request.header(runtime::VERSION_HEADER, GENERATOR_VERSION)?;"],
    .line 2 [.text "request.header(runtime::OPERATION_HEADER, ", .literal ["op", "id"],
      .text ")?;"],
    codeRow 2 "request_lines",
    .line 2 [.text "let options = options.with_operation(", .literal ["op", "id"], .text ");"],
    .fixed ["        let response = self.pipeline.execute(request, options).await?;"],
    .line 2 [ofOperation "dispatcher",
      .text "(response.status(), response.body()).map_err(ClientError::Response)"],
    .fixed ["    \x7d"]]

def clientRows : List Row :=
  headingRows [.text "Typed client for ", .value ["title"]]
    ++ [.fixed ["", "#![allow(unused_imports)]", "", "use std::sync::Arc;",
        "use std::time::Duration;", "", "use swaggen::runtime::\x7b",
        "    self, CallError, CallOptions, CircuitSettings, ClientError, ClientSettings, HttpRequest,",
        "    Method, Pipeline,", "\x7d;", "", "use crate::inputs::*;", "use crate::outputs::*;", "",
        "/// Version of swaggen that generated this client"],
      .line 0 [.text "pub const GENERATOR_VERSION: &str = ", .literal ["generator_version"],
        .text ";"],
      .fixed ["", "/// Prefix of every request path"],
      .line 0 [.text "pub const BASE_PATH: &str = ", .literal ["base_path"], .text ";"],
      .fixed [""]]
    ++ settingsRows
    ++ [.fixed [""],
      .line 0 [.text "/// Client for ", .value ["title"], .text " ", .value ["api_version"]],
      .fixed ["///", "/// Every call runs through the request pipeline: one tracing span per",
        "/// attempt, retries for GET requests, and a circuit breaker named after the",
        "/// base URL.", "#[derive(Clone)]", "pub struct Client \x7b", "    base_url: String,",
        "    pipeline: Arc<Pipeline>,", "\x7d", "", "impl Client \x7b",
        "    pub fn new(base_url: &str) -> Result<Self, CallError> \x7b",
        "        Self::with_settings(base_url, default_settings())", "    \x7d", "",
        "    pub fn with_settings(base_url: &str, settings: ClientSettings) -> Result<Self, CallError> \x7b",
        "        let pipeline = Pipeline::new(base_url, settings)?;",
        "        Ok(Self::from_pipeline(base_url, pipeline))", "    \x7d", "",
        "    /// Wrap a pipeline built with [`Pipeline::builder`]",
        "    pub fn from_pipeline(base_url: &str, pipeline: Pipeline) -> Self \x7b",
        "        Self \x7b", "            base_url: base_url.trim_end_matches('/').to_string(),",
        "            pipeline: Arc::new(pipeline),", "        \x7d", "    \x7d", "",
        "    pub fn pipeline(&self) -> &Pipeline \x7b", "        &self.pipeline", "    \x7d"],
      eachOperation callRows,
      .fixed ["\x7d"]]

/-! ## The controller -/

/-- The method of an operation. -/
def capabilityRows : List Row :=
  [docRow 1,
    .line 1 [.text "async fn ", ofOperation "fn_name", .text "("],
    .fixed ["        &self,"],
    .line 2 [.text "input: ", ofOperation "input_type", .text ","],
    .line 1 [.text ") -> Result<", ofOperation "output_type", .text ", ", ofOperation "error_type",
      .text ">;"]]

def controllerRows : List Row :=
  headingRows [.text "Controller capability set for ", .value ["title"]]
    ++ [.fixed ["", "#![allow(unused_imports)]", "", "use async_trait::async_trait;", "",
        "use crate::inputs::*;", "use crate::outputs::*;", "",
        "/// One method per operation; implement it to serve the API with",
        "/// [`crate::server::router`]", "#[async_trait]",
        "pub trait Controller: Send + Sync + 'static \x7b"],
      eachOperation capabilityRows,
      .fixed ["\x7d"]]

/-! ## The server -/

/-- The function that reads the input of an operation. -/
def decoderRows : List Row :=
  [.fixed ["", "#[allow(unused_variables)]"],
    .line 0 [.text "fn ", ofOperation "decoder", .text "(parts: &RequestParts) -> Result<",
      ofOperation "input_type", .text ", DecodeError> \x7b"],
    .line 1 [.text "Ok(", ofOperation "input_type", .text " \x7b"],
    codeRow 2 "decode_lines",
    .fixed ["    \x7d)", "\x7d"]]

/-- The handler of an operation. -/
def handlerRows : List Row :=
  [.fixed [""],
    .line 0 [.text "async fn handle_", ofOperation "fn_name", .text "<C: Controller>("],
    .fixed ["    State(state): State<ServerState<C>>,"],
    .choice (.holds ["op", "has_path_params"])
      [.fixed ["    Path(path): Path<HashMap<String, String>>,"]] [],
    .fixed ["    RawQuery(query): RawQuery,", "    headers: HeaderMap,", "    body: Bytes,",
      ") -> Response \x7b"],
    .choice (.fails ["op", "has_path_params"]) [.fixed ["    let path = HashMap::new();"]] [],
    .fixed
      ["    let parts = RequestParts::new(path, query.as_deref(), headers, body.to_vec());"],
    .line 1 [.text "let span = request_span(state.tracer.as_ref(), ", .literal ["op", "id"],
      .text ", &parts);"],
    .fixed ["    async move \x7b"],
    .line 2 [.text "let input = match ", ofOperation "decoder", .text "(&parts) \x7b"],
    .fixed ["            Ok(input) => input,", "            Err(error) => return bad_request(error),",
      "        \x7d;", "        if let Err(error) = input.validate() \x7b",
      "            return bad_request(error);", "        \x7d"],
    .line 2 [.text "match state.controller.", ofOperation "fn_name", .text "(input).await \x7b"],
    .fixed ["            Ok(output) => respond(output.status(), output.data()),",
      "            Err(error) => respond(error.status_code(), error.data()),", "        \x7d",
      "    \x7d", "    .instrument(span)", "    .await", "\x7d"]]

def serverRows : List Row :=
  headingRows [.text "Routing table and handlers for ", .value ["title"]]
    ++ [.fixed ["", "#![allow(unused_imports)]", "", "use std::collections::HashMap;",
        "use std::sync::Arc;", "", "use axum::Router;", "use axum::body::Bytes;",
        "use axum::extract::\x7bPath, RawQuery, State\x7d;",
        "use axum::http::\x7bHeaderMap, StatusCode\x7d;",
        "use axum::response::\x7bIntoResponse, Response\x7d;",
        "use swaggen::runtime::decode::\x7bDecodeError, RequestParts\x7d;",
        "use swaggen::runtime::\x7bBadRequest, Tracer, W3cTracer\x7d;", "use tracing::Instrument;",
        "", "use crate::controller::Controller;", "use crate::inputs::*;", "",
        "/// State shared by every handler", "pub struct ServerState<C> \x7b",
        "    controller: Arc<C>,", "    tracer: Arc<dyn Tracer>,", "\x7d", "",
        "impl<C> Clone for ServerState<C> \x7b", "    fn clone(&self) -> Self \x7b",
        "        Self \x7b", "            controller: Arc::clone(&self.controller),",
        "            tracer: Arc::clone(&self.tracer),", "        \x7d", "    \x7d", "\x7d", "",
        "/// Routes every operation to `controller`",
        "pub fn router<C: Controller>(controller: Arc<C>) -> Router \x7b",
        "    router_with_tracer(controller, Arc::new(W3cTracer::new()))", "\x7d", "",
        "/// Like [`router`], extracting incoming trace context with `tracer`",
        "pub fn router_with_tracer<C: Controller>(controller: Arc<C>, tracer: Arc<dyn Tracer>) -> Router \x7b",
        "    let state = ServerState \x7b controller, tracer \x7d;", "    Router::new()"],
      .each "route" ["routes"]
        [.line 2 [.text ".route(", .literal ["route", "path"], .text ", ",
          .value ["route", "method_chain"], .text ")"]],
      .fixed ["        .with_state(state)", "\x7d", "",
        "fn request_span(tracer: &dyn Tracer, operation: &'static str, parts: &RequestParts) -> tracing::Span \x7b",
        "    match tracer.extract(parts.headers()) \x7b",
        "        Some(parent) => tracing::info_span!(", "            \"server.request\",",
        "            operation,", "            trace_id = %parent.trace_id,",
        "            parent_span_id = %parent.span_id,", "        ),",
        "        None => tracing::info_span!(\"server.request\", operation),", "    \x7d", "\x7d", "",
        "fn respond(status: u16, data: Option<serde_json::Value>) -> Response \x7b",
        "    let status = StatusCode::from_u16(status).unwrap_or(StatusCode::INTERNAL_SERVER_ERROR);",
        "    match data \x7b",
        "        Some(data) => (status, axum::Json(data)).into_response(),",
        "        None => status.into_response(),", "    \x7d", "\x7d", "",
        "fn bad_request(error: impl std::fmt::Display) -> Response \x7b",
        "    tracing::debug!(%error, \"rejecting request\");",
        "    let body = BadRequest::new(error.to_string());",
        "    respond(body.status_code(), serde_json::to_value(&body).ok())", "\x7d"],
      eachOperation (decoderRows ++ handlerRows)]

/-! ## The test double -/

/-- The fields for an operation. -/
def replayRows : List Row :=
  [.line 1 [ofOperation "fn_name", .text "_replies: Mutex<VecDeque<Result<",
      ofOperation "output_type", .text ", ", ofOperation "error_type", .text ">>>,"],
    .line 1 [ofOperation "fn_name", .text "_calls: Mutex<Vec<", ofOperation "input_type",
      .text ">>,"]]

/-- The methods for an operation. -/
def expectationRows : List Row :=
  [.fixed [""],
    .line 1 [.text "/// Queue the result of the next `", ofOperation "fn_name", .text "` call"],
    .line 1 [.text "pub fn expect_", ofOperation "fn_name", .text "("],
    .fixed ["        &self,"],
    .line 2 [.text "reply: Result<", ofOperation "output_type", .text ", ",
      ofOperation "error_type", .text ">,"],
    .fixed ["    ) -> &Self \x7b"],
    .line 2 [.text "lock(&self.", ofOperation "fn_name", .text "_replies).push_back(reply);"],
    .fixed ["        self", "    \x7d", ""],
    .line 1 [.text "/// Inputs `", ofOperation "fn_name",
      .text "` was called with, oldest first"],
    .line 1 [.text "pub fn ", ofOperation "fn_name", .text "_calls", .text "(&self) -> Vec<",
      ofOperation "input_type", .text "> \x7b"],
    .line 2 [.text "lock(&self.", ofOperation "fn_name", .text "_calls).clone()"],
    .fixed ["    \x7d"]]

/-- How the test double answers an operation. -/
def answerRows : List Row :=
  [.line 1 [.text "async fn ", ofOperation "fn_name", .text "("],
    .fixed ["        &self,"],
    .line 2 [.text "input: ", ofOperation "input_type", .text ","],
    .line 1 [.text ") -> Result<", ofOperation "output_type", .text ", ", ofOperation "error_type",
      .text "> \x7b"],
    .line 2 [.text "lock(&self.", ofOperation "fn_name", .text "_calls).push(input);"],
    .line 2 [.text "lock(&self.", ofOperation "fn_name", .text "_replies)"],
    .fixed ["            .pop_front()", "            .unwrap_or_else(|| \x7b"],
    .line 4 [.text "Err(", ofOperation "error_type",
      .text "::InternalError(InternalError::new(concat!("],
    .fixed ["                    \"no expectation set for \","],
    .line 5 [.literal ["op", "id"]],
    .fixed ["                ))))", "            \x7d)", "    \x7d"]]

def mockRows : List Row :=
  headingRows [.text "Test double for [`Controller`]"]
    ++ [.fixed ["", "#![allow(unused_imports)]", "", "use std::collections::VecDeque;",
        "use std::sync::\x7bMutex, MutexGuard\x7d;", "", "use async_trait::async_trait;",
        "use swaggen::runtime::InternalError;", "", "use crate::controller::Controller;",
        "use crate::inputs::*;", "use crate::outputs::*;", "",
        "/// Replays queued results and records every input it receives", "///",
        "/// A call with nothing queued answers with an `InternalError`.", "#[derive(Default)]",
        "pub struct MockController \x7b"],
      eachOperation replayRows,
      .fixed ["\x7d", "", "fn lock<T>(mutex: &Mutex<T>) -> MutexGuard<'_, T> \x7b",
        "    mutex.lock().unwrap_or_else(|poisoned| poisoned.into_inner())", "\x7d", "",
        "impl MockController \x7b", "    pub fn new() -> Self \x7b", "        Self::default()",
        "    \x7d"],
      eachOperation expectationRows,
      .fixed ["\x7d", "", "#[async_trait]", "impl Controller for MockController \x7b"],
      eachOperation answerRows,
      .fixed ["\x7d"]]

/-! ## The files -/

/-- A file of a package, and the template that it is rendered from. -/
structure TemplateFile where
  path : String
  rows : List Row

/-- The files of the package itself. -/
def packageTemplates : List TemplateFile :=
  [⟨"Cargo.toml", manifestRows⟩, ⟨"src/lib.rs", libraryRows⟩, ⟨"src/inputs.rs", inputsRows⟩,
    ⟨"src/outputs.rs", outputsRows⟩]

/-- The files of the client. -/
def clientTemplates : List TemplateFile := [⟨"src/client.rs", clientRows⟩]

/-- The files of the server. -/
def serverTemplates : List TemplateFile :=
  [⟨"src/controller.rs", controllerRows⟩, ⟨"src/server.rs", serverRows⟩, ⟨"src/mock.rs", mockRows⟩]

/-- Renders a file of a plan, if its template can be rendered. -/
def TemplateFile.emit (engine : Engine) (plan : Plan) (file : TemplateFile) :
    Except GenerationError Artifact :=
  match engine.run plan.toJson file.rows with
  | some lines => .ok { path := file.path, content := lines.text }
  | none => .error .render

/-- An emitter of some files. -/
def templateEmitter (engine : Engine) (files : List TemplateFile) : Emitter := fun plan =>
  files.mapM (·.emit engine plan)

/-- The emitters of a whole package. -/
def templateEmitters (engine : Engine) : List Emitter :=
  [templateEmitter engine packageTemplates, templateEmitter engine clientTemplates,
    templateEmitter engine serverTemplates]

end ApiScaffold.Package.Template
