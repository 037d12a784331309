import ApiScaffold.Package.Template.Basic

/-!
# Templates of what a package offers

The manifest, the root, the inputs and the outputs of a package.

* `manifestRows`, `libraryRows`, `inputsRows`, `outputsRows`: the templates of the four files.
-/

namespace ApiScaffold.Package.Template

/-! ## Rows that many templates have -/

/-- A member of the operation that a loop has come to. -/
def ofOperation (key : String) : Piece := .value ["op", key]

/-- The comment at the beginning of a file. -/
def headingRows (subject : List Piece) : List Row :=
  [.line 0 (.text "//! " :: subject), .fixed ["//!"],
    .line 0 [.text "//! Generated by swaggen ", .value ["generator_version"],
      .text ". Do not edit."]]

/-- The documentation comment of an operation, some of whose lines may be empty. -/
def docRow (depth : Nat) : Row :=
  .each "line" ["op", "doc"]
    [.line depth [.choice (.holds ["line"]) [.text "/// ", .value ["line"]] [.text "///"]]]

/-- Lines of code that an operation has under a key. -/
def codeRow (depth : Nat) (key : String) : Row :=
  .each "line" ["op", key] [.line depth [.value ["line"]]]

/-- Rows for each operation. -/
def eachOperation (rows : List Row) : Row := .each "op" ["operations"] rows

/-! ## The manifest -/

def manifestRows : List Row :=
  [.naming "package_description" "Client and server for " ["title"]
    [.fixed ["[package]"],
      .line 0 [.text "name = \"", .value ["package"], .text "\""],
      .fixed ["version = \"0.1.0\"", "edition = \"2024\""],
      .line 0 [.text "description = ", .literal ["package_description"]],
      .fixed ["publish = false", "", "[dependencies]"],
      .line 0 [.text "swaggen = \"", .value ["generator_version"], .text "\""],
      .fixed ["async-trait = \"0.1\"", "axum = \"0.8\"",
        "serde = \x7b version = \"1.0\", features = [\"derive\"] \x7d", "serde_json = \"1.0\"",
        "tokio = \x7b version = \"1.45\", features = [\"full\"] \x7d", "tracing = \"0.1\""]]]

/-! ## The root -/

def libraryRows : List Row :=
  [.line 0 [.text "//! ", .value ["title"], .text " ", .value ["api_version"]],
    .choice (.nonempty ["description"])
      [.fixed ["//!"],
        .each "line" ["description"] [.line 0 [.text "//! ", .value ["line"]]]] [],
    .fixed ["//!"],
    .line 0 [.text "//! Generated by swaggen ", .value ["generator_version"],
      .text ". Do not edit."],
    .fixed ["//!",
      "//! Body models live in `models`, which is supplied by the model generator.",
      "//! They must implement `Debug`, `Clone`, `PartialEq`, `Serialize` and",
      "//! `Deserialize`.", "",
      "pub mod client;", "pub mod controller;", "pub mod inputs;", "pub mod mock;",
      "pub mod models;", "pub mod outputs;", "pub mod server;", "",
      "pub use client::Client;", "pub use controller::Controller;",
      "pub use mock::MockController;", "pub use server::router;"]]

/-! ## The inputs -/

/-- A field of an input. -/
def fieldRows : List Row :=
  [.each "line" ["field", "doc"] [.line 1 [.text "/// ", .value ["line"]]],
    .choice (.holds ["field", "serde_attr"]) [.line 1 [.value ["field", "serde_attr"]]] [],
    .line 1 [.text "pub ", .value ["field", "name"], .text ": ", .value ["field", "rust_type"],
      .text ","]]

/-- The input of an operation. -/
def inputRows : List Row :=
  [.fixed [""], docRow 0,
    .fixed ["#[derive(Debug, Clone, PartialEq, Serialize, Deserialize)]"],
    .line 0 [.text "pub struct ", ofOperation "input_type", .text " \x7b"],
    .each "field" ["op", "fields"] fieldRows,
    .fixed ["\x7d", ""],
    .line 0 [.text "impl ", ofOperation "input_type", .text " \x7b"],
    .fixed ["    /// Check declared constraints in field order, stopping at the first violation",
      "    pub fn validate(&self) -> Result<(), runtime::ValidationError> \x7b"],
    codeRow 2 "validate_lines",
    .fixed ["        Ok(())", "    \x7d", "",
      "    /// Request path relative to the base path, query string included",
      "    pub fn path(&self) -> String \x7b"],
    codeRow 2 "path_lines",
    .fixed ["    \x7d", "\x7d"]]

def inputsRows : List Row :=
  headingRows [.text "Operation inputs for ", .value ["title"]]
    ++ [.fixed ["", "use serde::\x7bDeserialize, Serialize\x7d;", "use swaggen::runtime;"],
      eachOperation inputRows]

/-! ## The outputs -/

/-- The declaration of a variant. -/
def variantRows : List Row :=
  [.line 1 [.text "/// ", .value ["v", "label"]],
    .line 1 [.value ["v", "name"],
      .choice (.holds ["v", "payload"]) [.text "(", .value ["v", "payload"], .text ")"] [],
      .text ","]]

/-- The pattern of a variant whose body is of no interest. -/
def patternPieces : List Piece :=
  [.text "Self::", .value ["v", "name"], .choice (.holds ["v", "payload"]) [.text "(_)"] []]

/-- The arm of a variant that gives its status. -/
def statusRow : Row :=
  .line 3 (patternPieces ++ [.text " => ", .value ["v", "status"], .text ","])

/-- The arm of a variant that gives its body. -/
def dataRow : Row :=
  .choice (.holds ["v", "payload"])
    [.line 3 [.text "Self::", .value ["v", "name"],
      .text "(data) => serde_json::to_value(data).ok(),"]]
    [.line 3 [.text "Self::", .value ["v", "name"], .text " => None,"]]

/-- The arm of a variant that writes its label. -/
def labelRow : Row :=
  .line 3 (patternPieces ++ [.text " => f.write_str(", .literal ["v", "label"], .text "),"])

/-- Rows for each variant that an operation has under a key. -/
def eachVariant (key : String) (rows : List Row) : Row := .each "v" ["op", key] rows

/-- The body of a method of the successes, which has nothing to match where there are none. -/
def matchRows (row : Row) : Row :=
  .choice (.empty ["op", "success_variants"]) [.fixed ["        match *self \x7b\x7d"]]
    [.fixed ["        match self \x7b"], eachVariant "success_variants" [row],
      .fixed ["        \x7d"]]

/-- The type of the successes. -/
def successRows : List Row :=
  [.line 0 [.text "/// Successful responses of `", ofOperation "id", .text "`"],
    .fixed ["#[derive(Debug, Clone, PartialEq)]"],
    .line 0 [.text "pub enum ", ofOperation "output_type", .text " \x7b"],
    eachVariant "success_variants" variantRows,
    .fixed ["\x7d", ""],
    .line 0 [.text "impl ", ofOperation "output_type", .text " \x7b"],
    .fixed ["    pub fn status(&self) -> u16 \x7b"],
    matchRows statusRow,
    .fixed ["    \x7d", "", "    /// Response body as JSON, if the status declares one",
      "    pub fn data(&self) -> Option<serde_json::Value> \x7b"],
    matchRows dataRow,
    .fixed ["    \x7d", "\x7d"]]

/-- The type of the failures. -/
def failureRows : List Row :=
  [.line 0 [.text "/// Error responses of `", ofOperation "id", .text "`"],
    .fixed ["#[derive(Debug, Clone, PartialEq)]"],
    .line 0 [.text "pub enum ", ofOperation "error_type", .text " \x7b"],
    eachVariant "error_variants" variantRows,
    .fixed ["    /// 400 Bad Request", "    BadRequest(BadRequest),",
      "    /// 500 Internal Server Error, or a response that could not be interpreted",
      "    InternalError(InternalError),", "\x7d", ""],
    .line 0 [.text "impl ", ofOperation "error_type", .text " \x7b"],
    .fixed ["    pub fn status_code(&self) -> u16 \x7b", "        match self \x7b"],
    eachVariant "error_variants" [statusRow],
    .fixed ["            Self::BadRequest(_) => BadRequest::STATUS,",
      "            Self::InternalError(_) => InternalError::STATUS,", "        \x7d", "    \x7d", "",
      "    /// Response body as JSON, if the status declares one",
      "    pub fn data(&self) -> Option<serde_json::Value> \x7b", "        match self \x7b"],
    eachVariant "error_variants" [dataRow],
    .fixed ["            Self::BadRequest(data) => serde_json::to_value(data).ok(),",
      "            Self::InternalError(data) => serde_json::to_value(data).ok(),", "        \x7d",
      "    \x7d", "\x7d"]]

/-- How a failure is printed. -/
def displayRows : List Row :=
  [.line 0 [.text "impl std::fmt::Display for ", ofOperation "error_type", .text " \x7b"],
    .fixed ["    fn fmt(&self, f: &mut std::fmt::Formatter<'_>) -> std::fmt::Result \x7b",
      "        match self \x7b"],
    eachVariant "error_variants" [labelRow],
    .fixed ["            Self::BadRequest(error) => std::fmt::Display::fmt(error, f),",
      "            Self::InternalError(error) => std::fmt::Display::fmt(error, f),", "        \x7d",
      "    \x7d", "\x7d", ""],
    .line 0 [.text "impl std::error::Error for ", ofOperation "error_type", .text " \x7b\x7d"]]

/-- The function that reads a response. -/
def dispatcherRows : List Row :=
  [.line 0 [.text "/// Decode a `", ofOperation "id", .text "` response by status code"],
    .line 0 [.text "pub fn ", ofOperation "dispatcher", .text "("],
    .fixed ["    status: u16,", "    body: &[u8],"],
    .line 0 [.text ") -> Result<", ofOperation "output_type", .text ", ", ofOperation "error_type",
      .text "> \x7b"],
    .fixed ["    match status \x7b"],
    .each "arm" ["op", "dispatch_arms"] [.line 2 [.value ["arm"]]],
    .fixed ["    \x7d", "\x7d"]]

/-- The outputs of an operation. -/
def outputRows : List Row :=
  .fixed [""] :: successRows ++ .fixed [""] :: failureRows ++ .fixed [""] :: displayRows
    ++ .fixed [""] :: dispatcherRows

def outputsRows : List Row :=
  headingRows
      [.text "Operation outputs, errors and response dispatchers for ", .value ["title"]]
    ++ [.fixed ["", "#![allow(unused_imports)]", "",
        "use swaggen::runtime::\x7bself, BadRequest, InternalError\x7d;"],
      eachOperation outputRows]

end ApiScaffold.Package.Template
