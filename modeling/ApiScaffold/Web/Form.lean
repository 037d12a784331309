import ApiScaffold.Text.Blank
import ApiScaffold.Web.Percent

/-!
# Forms

A form is a list of names with values, written as a query: pairs joined by ampersands, blanks
as plus signs, and all but a few characters percent-encoded.

* `Form.encode`: the text of a form.
* `Form.decode`: the form of any text; parts without a name and a value are left out.
-/

namespace ApiScaffold.Web.Form

open Text

/-- The characters that stand for themselves. -/
def isPlain (c : Char) : Bool :=
  isAsciiAlphanumeric c || c == '*' || c == '-' || c == '.' || c == '_'

/-- The characters for a byte of a name or a value. -/
def encodeByte (b : UInt8) : List Char :=
  if b == 32 then ['+'] else encodeWith isPlain [b]

/-- The characters of a name or a value. -/
def encodeText (s : String) : List Char := (utf8 s).flatMap encodeByte

/-- The characters of a pair. -/
def encodePair (pair : String × String) : List Char :=
  encodeText pair.1 ++ '=' :: encodeText pair.2

/-- The characters of a form. -/
def encodeChars (pairs : List (String × String)) : List Char :=
  List.intercalate ['&'] (pairs.map encodePair)

/-- The text of a form. -/
def encode (pairs : List (String × String)) : String := String.ofList (encodeChars pairs)

/-- A name or a value from its bytes. -/
def decodeText (bytes : List UInt8) : String :=
  decodeLossy (percentDecode (bytes.map fun b => if b == 43 then 32 else b))

/-- A pair from its bytes. -/
def decodePair (bytes : List UInt8) : String × String :=
  (decodeText (bytes.takeWhile (· != 61)), decodeText ((bytes.dropWhile (· != 61)).drop 1))

/-- The form of a text. -/
def decode (s : String) : List (String × String) :=
  ((splitWhere (· == 38) (utf8 s)).filter (!·.isEmpty)).map decodePair

end ApiScaffold.Web.Form
