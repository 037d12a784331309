import ApiScaffold.Json.Value
import ApiScaffold.Number.FloatText

/-!
# The compact text of a JSON value

No blanks, members in their order, strings with the shortest escapes.

* `quote`: the text of a string.
* `Value.print`: the text of a value.
-/

namespace ApiScaffold.Json

open Number (FloatLayout)

/-- A hexadecimal digit. -/
def hexDigit (n : Nat) : Char := Nat.digitChar n

/-- How a character stands in the text of a string. -/
def escape (c : Char) : List Char :=
  if c = '"' then ['\\', '"']
  else if c = '\\' then ['\\', '\\']
  else if c = '\x08' then ['\\', 'b']
  else if c = '\x0c' then ['\\', 'f']
  else if c = '\n' then ['\\', 'n']
  else if c = '\r' then ['\\', 'r']
  else if c = '\t' then ['\\', 't']
  else if c.toNat < 0x20 then
    ['\\', 'u', '0', '0', hexDigit (c.toNat / 16), hexDigit (c.toNat % 16)]
  else [c]

/-- The text of a string. -/
def quoteChars (cs : List Char) : List Char := '"' :: cs.flatMap escape ++ ['"']

/-- The text of a string. -/
def quote (s : String) : String := String.ofList (quoteChars s.toList)

/-- The text of a number; what is no finite number is null. -/
def Numeral.print : Numeral → String
  | .integer n => toString n
  | .float x => if x.isFinite then FloatLayout.json.write x else "null"

mutual

/-- The compact text of a value. -/
def Value.print : Value → String
  | .null => "null"
  | .bool b => if b then "true" else "false"
  | .number n => n.print
  | .string s => quote s
  | .array items => "[" ++ ",".intercalate (printItems items) ++ "]"
  | .object members => "\x7b" ++ ",".intercalate (printMembers members) ++ "\x7d"

/-- The texts of the items of an array. -/
def printItems : List Value → List String
  | [] => []
  | v :: rest => v.print :: printItems rest

/-- The texts of the members of an object. -/
def printMembers : List (String × Value) → List String
  | [] => []
  | (key, v) :: rest => (quote key ++ ":" ++ v.print) :: printMembers rest

end

end ApiScaffold.Json
