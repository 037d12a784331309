import ApiScaffold.Number.FloatText
import ApiScaffold.Number.Reader
import ApiScaffold.Schema

/-!
# Values of parameters

* `ParamValue`: a value of a plain type.
* `ParamValue.text`: its text in paths, queries and headers.
* `ParamValue.read`: the value of a text, or why it is none.
* `ParamValue.hasType`: whether a value is one of a type.
-/

namespace ApiScaffold

open Number (Binary Binary32 Binary64 FloatLayout ReadError)

/-- A value of a plain type. -/
inductive ParamValue
  | string (s : String)
  | bool (b : Bool)
  | integer (n : Int)
  | single (x : Binary32)
  | double (x : Binary64)
  deriving DecidableEq

namespace ParamValue

/-- The text of a value. -/
def text : ParamValue → String
  | string s => s
  | bool b => if b then "true" else "false"
  | integer n => toString n
  | single x => FloatLayout.full.write x
  | double x => FloatLayout.full.write x

/-- The value of a text. -/
def read : Primitive → String → Except ReadError ParamValue
  | .string, s => .ok (string s)
  | .int32, s => (Number.readInt32 s).map integer
  | .int64, s => (Number.readInt64 s).map integer
  | .float, s => (Number.readBinary s).map single
  | .double, s => (Number.readBinary s).map double
  | .boolean, s => (Number.readBool s).map bool

/-- Whether a value is one of a type; an integer keeps to the bounds of its type. -/
def hasType : Primitive → ParamValue → Bool
  | .string, string _ => true
  | .int32, integer n => Number.int32Bounds.1 ≤ n && n ≤ Number.int32Bounds.2
  | .int64, integer n => Number.int64Bounds.1 ≤ n && n ≤ Number.int64Bounds.2
  | .float, single _ => true
  | .double, double _ => true
  | .boolean, bool _ => true
  | _, _ => false

end ParamValue

end ApiScaffold
