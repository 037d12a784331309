import ApiScaffold.Json.Shape

/-!
# Shared responses

Every operation shares two responses, that of code 400 and that of code 500.  The second one
also stands for bodies that cannot be decoded and for codes that are not declared.
-/

namespace ApiScaffold.Client

open Json (Shape Value)

/-- The response of code 400. -/
structure BadRequest where
  message : String := ""
  deriving DecidableEq, Repr

/-- The response of code 500. -/
structure InternalError where
  message : String := ""
  deriving DecidableEq, Repr

/-- The fields of a shared response; the message may be absent. -/
def sharedFields : List (String × Shape × Option Value) :=
  [("message", .string, some (.string ""))]

/-- The value of a shared response. -/
def sharedValue (message : String) : Value := .object [("message", .string message)]

namespace BadRequest

def status : Nat := 400
def shape : Shape := .record "BadRequest" sharedFields
def toJson (r : BadRequest) : Value := sharedValue r.message
def ofJson (v : Value) : BadRequest := ⟨(v.stringAt? "message").getD ""⟩
def text (r : BadRequest) : String := s!"bad request: {r.message}"

end BadRequest

namespace InternalError

def status : Nat := 500
def shape : Shape := .record "InternalError" sharedFields
def toJson (r : InternalError) : Value := sharedValue r.message
def ofJson (v : Value) : InternalError := ⟨(v.stringAt? "message").getD ""⟩
def text (r : InternalError) : String := s!"internal error: {r.message}"

/-- The response that stands for a code that is not declared. -/
def unknownResponse : InternalError := ⟨"Unknown response"⟩

/-- Whether a response stands for a code that is not declared. -/
def isUnknownResponse (r : InternalError) : Bool := r == unknownResponse

end InternalError

end ApiScaffold.Client
