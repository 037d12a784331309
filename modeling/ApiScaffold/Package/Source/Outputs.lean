import ApiScaffold.Package.Source.Heading

/-!
# Outputs of operations

For each operation a type of its successes, a type of its failures, and the function that reads
a response as one of them.
-/

namespace ApiScaffold.Package.Source

open Code (OperationCode Variant)
open Text.Quoted (encode)

/-- The names that the file of outputs takes from the runtime. -/
def outputImports : List String := ["self", "BadRequest", "InternalError"]

/-- The declaration of a variant. -/
def variantLines (v : Variant) : Lines :=
  let payload := v.payload.elim "" fun type => s!"({type})"
  [s!"/// {v.label}", s!"{v.name}{payload},"]

/-- The pattern of a variant whose body is of no interest. -/
def variantPattern (v : Variant) : String :=
  "Self::" ++ v.name ++ if v.payload.isSome then "(_)" else ""

/-- The arm of a variant that gives its status. -/
def statusArm (v : Variant) : String := s!"{variantPattern v} => {v.status},"

/-- The arm of a variant that gives its body. -/
def dataArm (v : Variant) : String :=
  if v.payload.isSome then s!"Self::{v.name}(data) => serde_json::to_value(data).ok(),"
  else s!"Self::{v.name} => None,"

/-- The arm of a variant that writes its label. -/
def labelArm (v : Variant) : String :=
  s!"{variantPattern v} => f.write_str({encode v.label}),"

/-- The derived traits of a type of responses. -/
def derivedTraits : String := "#[derive(Debug, Clone, PartialEq)]"

/-- A method that tells the variants of a type apart. -/
def matchMethod (doc : List String) (name type : String) (body : Lines) : MethodCode where
  doc := doc
  name := name
  tail := s!"(&self) -> {type} \x7b"
  rest := Lines.indent body ++ ["\x7d"]

/-- The match over some arms; a type without variants has no value to match. -/
def matchSelf (arms : Lines) : Lines :=
  if arms.isEmpty then ["match *self \x7b\x7d"] else Lines.block "match self" arms

/-- The comment of the method that gives the body. -/
def dataDoc : List String := ["Response body as JSON, if the status declares one"]

/-- The type of a body that may be missing. -/
def dataType : String := "Option<serde_json::Value>"

/-- The type of the successes. -/
def successLines (o : OperationCode) : Lines :=
  s!"/// Successful responses of `{o.id}`" :: derivedTraits
    :: Lines.block s!"pub enum {o.outputType}" (o.successes.flatMap variantLines)
    ++ ""
    :: writeMethods s!"impl {o.outputType}"
      [matchMethod [] "status" "u16" (matchSelf (o.successes.map statusArm)),
       matchMethod dataDoc "data" dataType (matchSelf (o.successes.map dataArm))]

/-- The type of the failures, with the two that all operations share. -/
def failureLines (o : OperationCode) : Lines :=
  s!"/// Error responses of `{o.id}`" :: derivedTraits
    :: Lines.block s!"pub enum {o.errorType}"
      (o.failures.flatMap variantLines
        ++ ["/// 400 Bad Request", "BadRequest(BadRequest),",
          "/// 500 Internal Server Error, or a response that could not be interpreted",
          "InternalError(InternalError),"])
    ++ ""
    :: writeMethods s!"impl {o.errorType}"
      [matchMethod [] "status_code" "u16"
        (matchSelf (o.failures.map statusArm
          ++ ["Self::BadRequest(_) => BadRequest::STATUS,",
            "Self::InternalError(_) => InternalError::STATUS,"])),
       matchMethod dataDoc "data" dataType
        (matchSelf (o.failures.map dataArm
          ++ ["Self::BadRequest(data) => serde_json::to_value(data).ok(),",
            "Self::InternalError(data) => serde_json::to_value(data).ok(),"]))]

/-- How a failure is printed. -/
def displayLines (o : OperationCode) : Lines :=
  Lines.block s!"impl std::fmt::Display for {o.errorType}"
      (Lines.block "fn fmt(&self, f: &mut std::fmt::Formatter<'_>) -> std::fmt::Result"
        (matchSelf (o.failures.map labelArm
          ++ ["Self::BadRequest(error) => std::fmt::Display::fmt(error, f),",
            "Self::InternalError(error) => std::fmt::Display::fmt(error, f),"])))
    ++ ["", s!"impl std::error::Error for {o.errorType} \x7b\x7d"]

/-- The function that reads a response. -/
def dispatcherLines (o : OperationCode) : Lines :=
  [s!"/// Decode a `{o.id}` response by status code", s!"pub fn {o.dispatcher}("]
    ++ Lines.indent ["status: u16,", "body: &[u8],"]
    ++ Lines.block s!") -> Result<{o.outputType}, {o.errorType}>"
      (Lines.block "match status" o.armLines)

/-- The outputs of an operation. -/
def outputLines (o : OperationCode) : Lines :=
  Lines.paragraphs [successLines o, failureLines o, displayLines o, dispatcherLines o]

/-- The file of outputs. -/
def outputs (plan : Plan) : Lines :=
  heading s!"Operation outputs, errors and response dispatchers for {plan.title}"
    ++ ["", allowUnusedImports, "", Lines.importOf "swaggen::runtime" outputImports]
    ++ Lines.spaced (plan.operations.map outputLines)

end ApiScaffold.Package.Source
