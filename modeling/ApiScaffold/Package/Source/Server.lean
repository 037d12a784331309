import ApiScaffold.Package.Source.Heading

/-!
# The server of a package

The routing table, and for each operation the function that reads its input and the handler
that passes it to the controller.
-/

namespace ApiScaffold.Package.Source

open Code (OperationCode)
open Text.Quoted (encode)

/-- The imports of the server. -/
def serverImports : Lines :=
  ["use std::collections::HashMap;", "use std::sync::Arc;", "", "use axum::Router;",
    "use axum::body::Bytes;", Lines.importOf "axum::extract" ["Path", "RawQuery", "State"],
    Lines.importOf "axum::http" ["HeaderMap", "StatusCode"],
    Lines.importOf "axum::response" ["IntoResponse", "Response"],
    Lines.importOf "swaggen::runtime::decode" ["DecodeError", "RequestParts"],
    Lines.importOf "swaggen::runtime" ["BadRequest", "Tracer", "W3cTracer"],
    "use tracing::Instrument;", "", "use crate::controller::Controller;", "use crate::inputs::*;"]

/-- The state that the handlers share. -/
def stateLines : Lines :=
  "/// State shared by every handler"
    :: Lines.block "pub struct ServerState<C>" ["controller: Arc<C>,", "tracer: Arc<dyn Tracer>,"]
    ++ "" :: Lines.block "impl<C> Clone for ServerState<C>"
      (Lines.block "fn clone(&self) -> Self"
        (Lines.block "Self"
          ["controller: Arc::clone(&self.controller),", "tracer: Arc::clone(&self.tracer),"]))

/-- The routing table. -/
def routerLines (routes : List Route) : Lines :=
  "/// Routes every operation to `controller`"
    :: Lines.block "pub fn router<C: Controller>(controller: Arc<C>) -> Router"
      ["router_with_tracer(controller, Arc::new(W3cTracer::new()))"]
    ++ ["", "/// Like [`router`], extracting incoming trace context with `tracer`"]
    ++ Lines.block
      ("pub fn router_with_tracer<C: Controller>(controller: Arc<C>, tracer: Arc<dyn Tracer>)"
        ++ " -> Router")
      (["let state = ServerState \x7b controller, tracer \x7d;", "Router::new()"]
        ++ Lines.indent (routes.map (fun r => s!".route({encode r.path}, {r.chain})")
          ++ [".with_state(state)"]))

/-- The functions that all handlers use. -/
def sharedFunctions : Lines :=
  Lines.paragraphs
    [Lines.block
      ("fn request_span(tracer: &dyn Tracer, operation: &'static str, parts: &RequestParts)"
        ++ " -> tracing::Span")
      (Lines.block "match tracer.extract(parts.headers())"
        (Lines.enclosed "Some(parent) => tracing::info_span!("
          ["\"server.request\",", "operation,", "trace_id = %parent.trace_id,",
            "parent_span_id = %parent.span_id,"] "),"
          ++ ["None => tracing::info_span!(\"server.request\", operation),"])),
     Lines.block "fn respond(status: u16, data: Option<serde_json::Value>) -> Response"
      ("let status = StatusCode::from_u16(status).unwrap_or(StatusCode::INTERNAL_SERVER_ERROR);"
        :: Lines.block "match data"
          ["Some(data) => (status, axum::Json(data)).into_response(),",
            "None => status.into_response(),"]),
     Lines.block "fn bad_request(error: impl std::fmt::Display) -> Response"
      ["tracing::debug!(%error, \"rejecting request\");",
        "let body = BadRequest::new(error.to_string());",
        "respond(body.status_code(), serde_json::to_value(&body).ok())"]]

/-- The function that reads the input of an operation. -/
def decoderLines (o : OperationCode) : Lines :=
  "#[allow(unused_variables)]"
    :: Lines.block s!"fn {o.decoder}(parts: &RequestParts) -> Result<{o.inputType}, DecodeError>"
      (Lines.blockThen s!"Ok({o.inputType}" o.sourceLines ")")

/-- The handler of an operation. -/
def handlerLines (o : OperationCode) : Lines :=
  let taken := if o.hasPathParameters then ["Path(path): Path<HashMap<String, String>>,"] else []
  let made := if o.hasPathParameters then [] else ["let path = HashMap::new();"]
  s!"async fn handle_{o.functionName}<C: Controller>("
    :: Lines.indent ("State(state): State<ServerState<C>>," :: taken
      ++ ["RawQuery(query): RawQuery,", "headers: HeaderMap,", "body: Bytes,"])
    ++ Lines.block ") -> Response"
      (made
        ++ ["let parts = RequestParts::new(path, query.as_deref(), headers, body.to_vec());",
          s!"let span = request_span(state.tracer.as_ref(), {encode o.id}, &parts);"]
        ++ Lines.block "async move"
          (Lines.blockThen s!"let input = match {o.decoder}(&parts)"
              ["Ok(input) => input,", "Err(error) => return bad_request(error),"] ";"
            ++ Lines.block "if let Err(error) = input.validate()" ["return bad_request(error);"]
            ++ Lines.block s!"match state.controller.{o.functionName}(input).await"
              ["Ok(output) => respond(output.status(), output.data()),",
                "Err(error) => respond(error.status_code(), error.data()),"])
        ++ [".instrument(span)", ".await"])

/-- The file of the server. -/
def server (plan : Plan) : Lines :=
  heading s!"Routing table and handlers for {plan.title}"
    ++ ["", allowUnusedImports, ""] ++ serverImports ++ "" :: stateLines
    ++ "" :: routerLines plan.routes ++ "" :: sharedFunctions
    ++ Lines.spaced (plan.operations.flatMap fun o => [decoderLines o, handlerLines o])

end ApiScaffold.Package.Source
