import ApiScaffold.Code.Operation

/-!
# Code of operations as values

The code of an operation as a JSON value, with every statement in its written form.
-/

namespace ApiScaffold.Code

open Json (Value)

/-- The array of some texts. -/
def textArray (texts : List String) : Value := .array (texts.map .string)

def FieldCode.toJson (f : FieldCode) : Value :=
  .objectOf [("name", .string f.name), ("wire_name", .string f.wire),
    ("location", .string f.location.name), ("rust_type", .string f.type),
    ("optional", .bool f.optional), ("serde_attr", .text? f.attribute), ("doc", textArray f.doc)]

def Variant.toJson (v : Variant) : Value :=
  .objectOf [("name", .string v.name), ("status", .natural v.status), ("payload", .text? v.payload),
    ("label", .string v.label)]

def OperationCode.toJson (c : OperationCode) : Value :=
  .objectOf [("id", .string c.id), ("method", .string c.method.upperName),
    ("method_fn", .string c.method.name), ("path_template", .string c.pathTemplate),
    ("fn_name", .string c.functionName), ("input_type", .string c.inputType),
    ("output_type", .string c.outputType), ("error_type", .string c.errorType),
    ("dispatcher", .string c.dispatcher), ("decoder", .string c.decoder), ("doc", textArray c.doc),
    ("fields", .array (c.fields.map FieldCode.toJson)),
    ("has_path_params", .bool c.hasPathParameters), ("validate_lines", textArray c.checkLines),
    ("path_lines", textArray c.pathLines), ("request_lines", textArray c.requestLines),
    ("decode_lines", textArray c.sourceLines),
    ("success_variants", .array (c.successes.map Variant.toJson)),
    ("error_variants", .array (c.failures.map Variant.toJson)),
    ("dispatch_arms", textArray c.armLines)]

end ApiScaffold.Code
