import ApiScaffold.Text.Letter

/-!
# Quoted string literals

A string literal is a text between double quotes in which quotes, backslashes, control
characters, marks that extend a grapheme and other characters without a printed form are
escaped.

`encode` gives the literal of a text.
-/

namespace ApiScaffold.Text.Quoted

/-- The lower case hexadecimal digits of a number, without leading zeros. -/
def hexDigits (n : Nat) : List Char := Nat.toDigits 16 n

/-- How a character stands in a string literal. -/
def encodeChar (c : Char) : List Char :=
  if c = '\x00' then ['\\', '0']
  else if c = '\t' then ['\\', 't']
  else if c = '\r' then ['\\', 'r']
  else if c = '\n' then ['\\', 'n']
  else if c = '\\' then ['\\', '\\']
  else if c = '"' then ['\\', '"']
  else if isAscii c && isPrintable c then [c]
  else if isGraphemeExtend c || !isPrintable c then
    ['\\', 'u', '\x7b'] ++ hexDigits c.toNat ++ ['\x7d']
  else [c]

/-- The characters between the quotes of a literal. -/
def encodeBody (cs : List Char) : List Char := cs.flatMap encodeChar

/-- The string literal of a text. -/
def encodeChars (cs : List Char) : List Char := '"' :: encodeBody cs ++ ['"']

/-- The string literal of a text. -/
def encode (s : String) : String := String.ofList (encodeChars s.toList)

end ApiScaffold.Text.Quoted
