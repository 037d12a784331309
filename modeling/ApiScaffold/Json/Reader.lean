import ApiScaffold.Json.Shape
import ApiScaffold.Json.Printer
import ApiScaffold.Text.Utf8
import ApiScaffold.Text.Quoted

/-!
# Reading JSON texts

A JSON text is read from its bytes, left to right, against a shape.  The first fault ends
the reading and is reported with the line and the column of the byte it was noticed at.

* `readBytes shape bytes`: the value of a whole text.
* `read shape text`: the same for a text.
* `Failure.message`: the wording of a fault.

A number keeps the first digits that fit 64 bits; the power of ten that remains is applied
by one multiplication or division of floating numbers.
-/

namespace ApiScaffold.Json

open Number (Binary Binary64 Format)

/-- What is wrong with a JSON text. -/
inductive Fault
  | endInValue
  | endInList
  | endInObject
  | endInString
  | expectedValue
  | expectedIdent
  | expectedColon
  | expectedListEnd
  | expectedObjectEnd
  | keyNotString
  | trailingComma
  | trailingCharacters
  | invalidNumber
  | numberOutOfRange
  | invalidEscape
  | invalidCodePoint
  | controlCharacter
  | loneSurrogate
  | endOfHexEscape
  | recursionLimit
  | mismatch (text : String)
  deriving DecidableEq, Repr

def Fault.message : Fault → String
  | .endInValue => "EOF while parsing a value"
  | .endInList => "EOF while parsing a list"
  | .endInObject => "EOF while parsing an object"
  | .endInString => "EOF while parsing a string"
  | .expectedValue => "expected value"
  | .expectedIdent => "expected ident"
  | .expectedColon => "expected `:`"
  | .expectedListEnd => "expected `,` or `]`"
  | .expectedObjectEnd => "expected `,` or `\x7d`"
  | .keyNotString => "key must be a string"
  | .trailingComma => "trailing comma"
  | .trailingCharacters => "trailing characters"
  | .invalidNumber => "invalid number"
  | .numberOutOfRange => "number out of range"
  | .invalidEscape => "invalid escape"
  | .invalidCodePoint => "invalid unicode code point"
  | .controlCharacter => "control character (\\u0000-\\u001F) found while parsing a string"
  | .loneSurrogate => "lone leading surrogate in hex escape"
  | .endOfHexEscape => "unexpected end of hex escape"
  | .recursionLimit => "recursion limit exceeded"
  | .mismatch text => text

/-- A fault and its place. -/
structure Failure where
  fault : Fault
  line : Nat
  column : Nat
  deriving DecidableEq, Repr

def Failure.message (e : Failure) : String :=
  s!"{e.fault.message} at line {e.line} column {e.column}"

/-- The bytes still to be read, and the place of the first of them. -/
structure Cursor where
  rest : List UInt8
  line : Nat
  column : Nat

namespace Cursor

def start (bytes : List UInt8) : Cursor := ⟨bytes, 1, 0⟩

/-- The cursor one byte further on. -/
def next (c : Cursor) : Cursor :=
  match c.rest with
  | [] => c
  | b :: bs => if b == 10 then ⟨bs, c.line + 1, 0⟩ else ⟨bs, c.line, c.column + 1⟩

/-- The cursor some bytes further on. -/
def skip : Nat → Cursor → Cursor
  | 0, c => c
  | n + 1, c => skip n c.next

/-- A fault at the place that has been reached. -/
def fail {α : Type} (c : Cursor) (fault : Fault) : Except Failure α :=
  .error ⟨fault, c.line, c.column⟩

/-- A fault at the byte that comes next. -/
def failAtNext {α : Type} (c : Cursor) (fault : Fault) : Except Failure α := c.next.fail fault

def isSpace (b : UInt8) : Bool := b == 32 || b == 10 || b == 9 || b == 13

/-- Skips blanks among the next bytes. -/
def skipSpaceIn : List UInt8 → Cursor → Cursor
  | [], c => c
  | b :: bs, c => if isSpace b then skipSpaceIn bs c.next else c

/-- The cursor behind the blanks. -/
def skipSpace (c : Cursor) : Cursor := skipSpaceIn c.rest c

end Cursor

/-- The byte of a character. -/
def byte (c : Char) : UInt8 := c.toNat.toUInt8

def isDigitByte (b : UInt8) : Bool := 48 ≤ b && b ≤ 57

/-- The next byte, if it is a digit. -/
def nextDigit? (c : Cursor) : Option Nat :=
  match c.rest with
  | b :: _ => if isDigitByte b then some (b.toNat - 48) else none
  | [] => none

/-- Whether the next byte is a given character. -/
def nextIs (c : Cursor) (ch : Char) : Bool := c.rest.head? == some (byte ch)

/-! ## Words, strings -/

/-- Reads the rest of a word. -/
def readWord : List Char → Cursor → Except Failure Cursor
  | [], c => .ok c
  | ch :: chs, c =>
    match c.rest with
    | [] => c.fail .endInValue
    | b :: _ => if b == byte ch then readWord chs c.next else c.next.fail .expectedIdent

/-- The value of a hexadecimal digit. -/
def hexValue? (b : UInt8) : Option Nat :=
  if 48 ≤ b && b ≤ 57 then some (b.toNat - 48)
  else if 97 ≤ b && b ≤ 102 then some (b.toNat - 87)
  else if 65 ≤ b && b ≤ 70 then some (b.toNat - 55)
  else none

/-- Reads four hexadecimal digits. -/
def readHex (c : Cursor) : Except Failure (Nat × Cursor) :=
  match c.rest with
  | b1 :: b2 :: b3 :: b4 :: _ =>
    let after := c.skip 4
    match hexValue? b1, hexValue? b2, hexValue? b3, hexValue? b4 with
    | some h1, some h2, some h3, some h4 => .ok (((h1 * 16 + h2) * 16 + h3) * 16 + h4, after)
    | _, _, _, _ => after.fail .invalidEscape
  | bs => (c.skip bs.length).fail .endInString

/-- Reads one character that the second half of a surrogate pair must be. -/
def expectInString (ch : Char) (c : Cursor) : Except Failure Cursor :=
  match c.rest with
  | [] => c.fail .endInString
  | b :: _ => if b == byte ch then .ok c.next else c.next.fail .endOfHexEscape

/-- Reads the character of a hexadecimal escape. -/
def readHexEscape (c : Cursor) : Except Failure (Char × Cursor) := do
  let (n, c) ← readHex c
  if 0xDC00 ≤ n && n ≤ 0xDFFF then c.fail .loneSurrogate
  else if n < 0xD800 || 0xDBFF < n then pure (Char.ofNat n, c)
  else do
    let c ← expectInString '\\' c
    let c ← expectInString 'u' c
    let (m, c) ← readHex c
    if m < 0xDC00 || 0xDFFF < m then c.fail .loneSurrogate
    else pure (Char.ofNat ((n - 0xD800) * 1024 + (m - 0xDC00) + 0x10000), c)

/-- Reads the character behind a backslash. -/
def readEscape (c : Cursor) : Except Failure (Char × Cursor) :=
  match c.rest with
  | [] => c.fail .endInString
  | b :: _ =>
    let simple (ch : Char) : Except Failure (Char × Cursor) := .ok (ch, c.next)
    if b == byte '"' then simple '"'
    else if b == byte '\\' then simple '\\'
    else if b == byte '/' then simple '/'
    else if b == byte 'b' then simple '\x08'
    else if b == byte 'f' then simple '\x0c'
    else if b == byte 'n' then simple '\n'
    else if b == byte 'r' then simple '\r'
    else if b == byte 't' then simple '\t'
    else if b == byte 'u' then readHexEscape c.next
    else c.next.fail .invalidEscape

/-- Reads the bytes of a string up to the closing quote; `read` holds them in reverse. -/
def readStringBytes : Nat → List UInt8 → Cursor → Except Failure (List UInt8 × Cursor)
  | 0, _, c => c.fail .endInString
  | fuel + 1, read, c =>
    match c.rest with
    | [] => c.fail .endInString
    | b :: _ =>
      if b == byte '"' then .ok (read.reverse, c.next)
      else if b == byte '\\' then
        match readEscape c.next with
        | .error e => .error e
        | .ok (ch, c) =>
          readStringBytes fuel ((Text.utf8 (String.singleton ch)).reverse ++ read) c
      else if b < 32 then c.next.fail .controlCharacter
      else readStringBytes fuel (b :: read) c.next

/-- Reads a string behind its opening quote.  Bytes that are no text are a fault at the first of
them. -/
def readString (c : Cursor) : Except Failure (String × Cursor) :=
  match readStringBytes (c.rest.length + 1) [] c with
  | .error e => .error e
  | .ok (bytes, after) =>
    match Text.decode? bytes with
    | some s => .ok (s, after)
    | none => (c.skip (Text.wellFormedLength c.rest)).failAtNext .invalidCodePoint

/-- Skips a string behind its opening quote; what its escapes stand for is not asked. -/
def skipString : Nat → Cursor → Except Failure Cursor
  | 0, c => c.fail .endInString
  | fuel + 1, c =>
    match c.rest with
    | [] => c.fail .endInString
    | b :: _ =>
      if b == byte '"' then .ok c.next
      else if b == byte '\\' then
        match c.next.rest with
        | [] => c.next.fail .endInString
        | e :: _ =>
          if e == byte 'u' then
            match readHex (c.skip 2) with
            | .error e => .error e
            | .ok (_, c) => skipString fuel c
          else if "\"\\/bfnrt".toList.any (byte · == e) then skipString fuel (c.skip 2)
          else (c.skip 2).fail .invalidEscape
      else if b < 32 then c.fail .controlCharacter
      else skipString fuel c.next

/-! ## Numbers -/

/-- The greatest natural number of 64 bits. -/
def maxNat64 : Nat := 18446744073709551615

/-- The power of ten up to which a number is scaled in one step. -/
def scaleStep : Nat := 308

/-- A significand scaled by a power of ten; none if it leaves the range. -/
def scaleFloat : Nat → Binary64 → Int → Option Binary64
  | 0, x, _ => some x
  | fuel + 1, x, exponent =>
    let power (n : Nat) : Binary64 := Binary.ofInt (Nat.pow 10 n)
    if exponent.natAbs ≤ scaleStep then
      if 0 ≤ exponent then
        let y := x.mul (power exponent.toNat)
        if y.isFinite then some y else none
      else some (x.div (power (-exponent).toNat))
    else if x.isZero then some x
    else if 0 ≤ exponent then none
    else scaleFloat fuel (x.div (power scaleStep)) (exponent + scaleStep)

/-- The floating number of a significand and a power of ten. -/
def floatOfParts (negative : Bool) (significand : Nat) (exponent : Int) (c : Cursor) :
    Except Failure (Numeral × Cursor) :=
  match scaleFloat 12 (Binary.ofInt significand) exponent with
  | some x => .ok (.float (if negative then x.neg else x), c)
  | none => c.fail .numberOutOfRange

/-- Skips digits. -/
def skipDigits : List UInt8 → Cursor → Cursor
  | [], c => c
  | b :: bs, c => if isDigitByte b then skipDigits bs c.next else c

/-- The exponents that fit 32 bits. -/
def maxExponent32 : Nat := 2147483647

/-- Reads the digits of an exponent; none if it does not fit 32 bits, with the cursor before
the digit that is too much. -/
def readExponentDigits : List UInt8 → Nat → Cursor → Option Nat × Cursor
  | [], n, c => (some n, c)
  | b :: bs, n, c =>
    if isDigitByte b then
      let m := n * 10 + (b.toNat - 48)
      if maxExponent32 < m then (none, c.next) else readExponentDigits bs m c.next
    else (some n, c)

/-- Reads the exponent behind the letter `e`. -/
def readExponent (negative : Bool) (significand : Nat) (exponent : Int) (c : Cursor) :
    Except Failure (Numeral × Cursor) :=
  let positive := !nextIs c '-'
  let c := if nextIs c '-' || nextIs c '+' then c.next else c
  match c.rest with
  | [] => c.fail .endInValue
  | b :: bs =>
    if isDigitByte b then
      match readExponentDigits bs (b.toNat - 48) c.next with
      | (some n, c) =>
        floatOfParts negative significand (if positive then exponent + n else exponent - n) c
      | (none, c) =>
        if significand ≠ 0 && positive then c.fail .numberOutOfRange
        else .ok (.float (Binary.zero negative), skipDigits c.rest c)
    else c.next.fail .invalidNumber

/-- What follows the digits of a number with a point: an exponent or nothing. -/
def finishDecimal (negative : Bool) (significand : Nat) (exponent : Int) (c : Cursor) :
    Except Failure (Numeral × Cursor) :=
  if nextIs c 'e' || nextIs c 'E' then readExponent negative significand exponent c.next
  else floatOfParts negative significand exponent c

/-- Reads the digits behind the point; `count` of them have been read. -/
def readDecimals : List UInt8 → Bool → Nat → Int → Nat → Cursor → Except Failure (Numeral × Cursor)
  | [], negative, significand, exponent, count, c =>
    if count = 0 then c.fail .endInValue
    else finishDecimal negative significand (exponent - count) c
  | b :: bs, negative, significand, exponent, count, c =>
    if isDigitByte b then
      let more := significand * 10 + (b.toNat - 48)
      if maxNat64 < more then
        finishDecimal negative significand (exponent - count) (skipDigits c.rest c)
      else readDecimals bs negative more exponent (count + 1) c.next
    else if count = 0 then c.next.fail .invalidNumber
    else finishDecimal negative significand (exponent - count) c

/-- What follows the digits of an integer that fits 64 bits. -/
def finishInteger (negative : Bool) (significand : Nat) (c : Cursor) :
    Except Failure (Numeral × Cursor) :=
  if nextIs c '.' then readDecimals c.next.rest negative significand 0 0 c.next
  else if nextIs c 'e' || nextIs c 'E' then readExponent negative significand 0 c.next
  else if !negative then .ok (.integer significand, c)
  else if significand = 0 || 9223372036854775808 < significand then
    .ok (.float (Binary.ofInt significand).neg, c)
  else .ok (.integer (-(significand : Int)), c)

/-- What follows the digits that fit 64 bits when more digits come; `count` of those have been
read. -/
def readLongInteger : List UInt8 → Bool → Nat → Nat → Cursor → Except Failure (Numeral × Cursor)
  | [], negative, significand, count, c => floatOfParts negative significand count c
  | b :: bs, negative, significand, count, c =>
    if isDigitByte b then readLongInteger bs negative significand (count + 1) c.next
    else if b == byte '.' then readDecimals bs negative significand count 0 c.next
    else if b == byte 'e' || b == byte 'E' then readExponent negative significand count c.next
    else floatOfParts negative significand count c

/-- Reads the digits of an integer. -/
def readIntegerDigits : List UInt8 → Bool → Nat → Cursor → Except Failure (Numeral × Cursor)
  | [], negative, significand, c => finishInteger negative significand c
  | b :: bs, negative, significand, c =>
    if isDigitByte b then
      let more := significand * 10 + (b.toNat - 48)
      if maxNat64 < more then readLongInteger c.rest negative significand 0 c
      else readIntegerDigits bs negative more c.next
    else finishInteger negative significand c

/-- Reads a number behind its sign. -/
def readNumber (negative : Bool) (c : Cursor) : Except Failure (Numeral × Cursor) :=
  match c.rest with
  | [] => c.fail .endInValue
  | b :: bs =>
    if b == byte '0' then
      if (nextDigit? c.next).isSome then c.next.next.fail .invalidNumber
      else finishInteger negative 0 c.next
    else if isDigitByte b then readIntegerDigits bs negative (b.toNat - 48) c.next
    else c.next.fail .invalidNumber

/-- Reads a number with its sign. -/
def readSigned (c : Cursor) : Except Failure (Numeral × Cursor) :=
  if nextIs c '-' then readNumber true c.next else readNumber false c

/-- Skips the exponent of a number. -/
def skipExponent (c : Cursor) : Except Failure Cursor :=
  let c := if nextIs c '-' || nextIs c '+' then c.next else c
  if (nextDigit? c).isSome then .ok (skipDigits c.rest c) else c.next.fail .invalidNumber

/-- Skips a number behind its sign. -/
def skipNumber (c : Cursor) : Except Failure Cursor :=
  let tail (c : Cursor) : Except Failure Cursor :=
    if nextIs c '.' then
      let digits := skipDigits c.next.rest c.next
      if (nextDigit? c.next).isNone then c.next.next.fail .invalidNumber
      else if nextIs digits 'e' || nextIs digits 'E' then skipExponent digits.next
      else .ok digits
    else if nextIs c 'e' || nextIs c 'E' then skipExponent c.next
    else .ok c
  if nextIs c '0' then
    if (nextDigit? c.next).isSome then c.next.next.fail .invalidNumber else tail c.next
  else if (nextDigit? c).isSome then tail (skipDigits c.rest c)
  else c.next.fail .invalidNumber

/-! ## Skipped values -/

/-- The bracket of an array or an object that is being skipped. -/
inductive Bracket
  | list
  | object
  deriving DecidableEq

/-- What comes next in a text that is being skipped. -/
inductive SkipStep
  | value
  | afterValue (first : Bool)

/-- Skips a member's key and colon. -/
def skipKey (c : Cursor) : Except Failure Cursor := do
  let c := c.skipSpace
  match c.rest with
  | [] => c.fail .endInObject
  | b :: _ =>
    if b != byte '"' then c.failAtNext .keyNotString
    else
      let c ← skipString (c.rest.length + 1) c.next
      let c := c.skipSpace
      match c.rest with
      | [] => c.fail .endInObject
      | b :: _ => if b == byte ':' then pure c.next else c.failAtNext .expectedColon

/-- Skips what is left of a value; `open_` holds the brackets that are still open, the innermost
first. -/
def skipValueFrom : Nat → SkipStep → List Bracket → Cursor → Except Failure Cursor
  | 0, _, _, c => .ok c
  | fuel + 1, .value, brackets, c =>
    let c := c.skipSpace
    match c.rest with
    | [] => c.fail .endInValue
    | b :: _ =>
      let finish (result : Except Failure Cursor) : Except Failure Cursor :=
        result.bind fun c =>
          if brackets.isEmpty then .ok c else skipValueFrom fuel (.afterValue false) brackets c
      if b == byte 'n' then finish (readWord ['u', 'l', 'l'] c.next)
      else if b == byte 't' then finish (readWord ['r', 'u', 'e'] c.next)
      else if b == byte 'f' then finish (readWord ['a', 'l', 's', 'e'] c.next)
      else if b == byte '-' then finish (skipNumber c.next)
      else if isDigitByte b then finish (skipNumber c)
      else if b == byte '"' then finish (skipString (c.rest.length + 1) c.next)
      else if b == byte '[' then skipValueFrom fuel (.afterValue true) (.list :: brackets) c.next
      else if b == byte '\x7b' then
        skipValueFrom fuel (.afterValue true) (.object :: brackets) c.next
      else c.failAtNext .expectedValue
  | fuel + 1, .afterValue first, brackets, c =>
    match brackets with
    | [] => .ok c
    | bracket :: outer =>
      let c := c.skipSpace
      let more (c : Cursor) : Except Failure Cursor :=
        match bracket with
        | .list => skipValueFrom fuel .value brackets c
        | .object => (skipKey c).bind (skipValueFrom fuel .value brackets)
      match c.rest with
      | [] => c.fail (if bracket = .list then .endInList else .endInObject)
      | b :: _ =>
        if b == byte ',' && !first then more c.next
        else if b == (if bracket = .list then byte ']' else byte '\x7d') then
          if outer.isEmpty then .ok c.next else skipValueFrom fuel (.afterValue false) outer c.next
        else if first then more c
        else c.failAtNext (if bracket = .list then .expectedListEnd else .expectedObjectEnd)

/-- Skips a value. -/
def skipValue (c : Cursor) : Except Failure Cursor :=
  skipValueFrom (2 * c.rest.length + 2) .value [] c

/-! ## Values of a shape -/

/-- The words for a number that was not expected. -/
def numeralWords : Numeral → String
  | .integer n => s!"integer `{n}`"
  | .float x => "floating point `" ++ Number.FloatLayout.json.write x ++ "`"

/-- Refuses the value that comes next, because something else is expected. -/
def refuse {α : Type} (expected : String) (c : Cursor) : Except Failure α :=
  let unexpected (words : String) (c : Cursor) : Except Failure α :=
    c.fail (.mismatch s!"invalid type: {words}, expected {expected}")
  match c.rest with
  | [] => c.fail .expectedValue
  | b :: _ =>
    if b == byte 'n' then (readWord ['u', 'l', 'l'] c.next).bind (unexpected "null")
    else if b == byte 't' then
      (readWord ['r', 'u', 'e'] c.next).bind (unexpected "boolean `true`")
    else if b == byte 'f' then
      (readWord ['a', 'l', 's', 'e'] c.next).bind (unexpected "boolean `false`")
    else if b == byte '-' || isDigitByte b then
      (readSigned c).bind fun (n, c) => unexpected (numeralWords n) c
    else if b == byte '"' then
      (readString c.next).bind fun (s, c) => unexpected ("string " ++ Text.Quoted.encode s) c
    else if b == byte '[' then unexpected "sequence" c
    else if b == byte '\x7b' then unexpected "map" c
    else c.failAtNext .expectedValue

/-- Whether another item of an array follows, and the cursor before it. -/
def nextItem (first : Bool) (c : Cursor) : Except Failure (Bool × Cursor) :=
  let c := c.skipSpace
  match c.rest with
  | [] => c.fail .endInList
  | b :: _ =>
    if b == byte ']' then .ok (false, c)
    else if first then .ok (true, c)
    else if b == byte ',' then
      let c := c.next.skipSpace
      match c.rest with
      | [] => c.fail .endInValue
      | b :: _ => if b == byte ']' then c.failAtNext .trailingComma else .ok (true, c)
    else c.failAtNext .expectedListEnd

/-- Whether another member of an object follows, and the cursor before its key. -/
def nextKey (first : Bool) (c : Cursor) : Except Failure (Bool × Cursor) :=
  let c := c.skipSpace
  match c.rest with
  | [] => c.fail .endInObject
  | b :: _ =>
    if b == byte '\x7d' then .ok (false, c)
    else if first then
      if b == byte '"' then .ok (true, c) else c.failAtNext .keyNotString
    else if b == byte ',' then
      let c := c.next.skipSpace
      match c.rest with
      | [] => c.fail .endInValue
      | b :: _ =>
        if b == byte '"' then .ok (true, c)
        else if b == byte '\x7d' then c.failAtNext .trailingComma
        else c.failAtNext .keyNotString
    else c.failAtNext .expectedObjectEnd

/-- The cursor behind the colon of a member. -/
def readColon (c : Cursor) : Except Failure Cursor :=
  let c := c.skipSpace
  match c.rest with
  | [] => c.fail .endInObject
  | b :: _ => if b == byte ':' then .ok c.next else c.failAtNext .expectedColon

/-- The cursor behind the closing bracket of an array. -/
def closeList (c : Cursor) : Except Failure Cursor :=
  let c := c.skipSpace
  match c.rest with
  | [] => c.fail .endInList
  | b :: _ =>
    if b == byte ']' then .ok c.next
    else if b == byte ',' then
      let c := c.next.skipSpace
      if nextIs c ']' then c.failAtNext .trailingComma else c.failAtNext .trailingCharacters
    else c.failAtNext .trailingCharacters

/-- The cursor that closing an array reaches, whether or not it succeeds. -/
def afterList (c : Cursor) : Cursor :=
  let c := c.skipSpace
  if nextIs c ']' then c.next
  else if nextIs c ',' then c.next.skipSpace
  else c

/-- The cursor that closing an object reaches, whether or not it succeeds. -/
def afterObject (c : Cursor) : Cursor :=
  let c := c.skipSpace
  if nextIs c '\x7d' then c.next else c

/-- The cursor behind the closing bracket of an object. -/
def closeObject (c : Cursor) : Except Failure Cursor :=
  let c := c.skipSpace
  match c.rest with
  | [] => c.fail .endInObject
  | b :: _ =>
    if b == byte '\x7d' then .ok c.next
    else if b == byte ',' then c.failAtNext .trailingComma
    else c.failAtNext .trailingCharacters

/-- A list or a record as far as it was read: complete, or refused with words that get their
place once the bracket is closed. -/
inductive Gathered (α : Type)
  | complete (value : α) (c : Cursor)
  | refused (words : String) (c : Cursor)

/-- How deep arrays and objects may be nested. -/
def maxDepth : Nat := 127

/-- The shape that a record gives to a field. -/
def fieldShape? (fields : List (String × Shape × Option Value)) (key : String) :
    Option Shape :=
  (memberOf? fields key).map (·.1)

/-- A record from the fields that were read, or the name of the first missing one. -/
def completeRecord (read : List (String × Value)) :
    List (String × Shape × Option Value) → Except String (List (String × Value))
  | [] => .ok []
  | (name, field) :: rest =>
    match memberOf? read name with
    | some v => (completeRecord read rest).map ((name, v) :: ·)
    | none =>
      match Shape.absent? field with
      | some v => (completeRecord read rest).map ((name, v) :: ·)
      | none => .error name

mutual

/-- Reads a value of a shape; `depth` arrays and objects may still be opened. -/
def readValue : Nat → Nat → Shape → Cursor → Except Failure (Value × Cursor)
  | 0, _, _, c => c.fail .endInValue
  | fuel + 1, depth, shape, c =>
    let c := c.skipSpace
    match c.rest with
    | [] => c.fail .endInValue
    | b :: _ =>
      match shape with
      | .optional inner =>
        if b == byte 'n' then
          (readWord ['u', 'l', 'l'] c.next).map fun c => (.null, c)
        else readValue fuel depth inner c
      | .string =>
        if b == byte '"' then (readString c.next).map fun (s, c) => (.string s, c)
        else refuse shape.expected c
      | .bool =>
        if b == byte 't' then
          (readWord ['r', 'u', 'e'] c.next).map fun c => (.bool true, c)
        else if b == byte 'f' then
          (readWord ['a', 'l', 's', 'e'] c.next).map fun c => (.bool false, c)
        else refuse shape.expected c
      | .integer name low high =>
        if b == byte '-' || isDigitByte b then
          match readSigned c with
          | .error e => .error e
          | .ok (.integer n, c) =>
            if low ≤ n && n ≤ high then .ok (.number (.integer n), c)
            else c.fail (.mismatch s!"invalid value: integer `{n}`, expected {name}")
          | .ok (n, c) => c.fail (.mismatch s!"invalid type: {numeralWords n}, expected {name}")
        else refuse shape.expected c
      | .float =>
        if b == byte '-' || isDigitByte b then
          (readSigned c).map fun (n, c) =>
            match n with
            | .integer n => (.number (.float (.ofInt n)), c)
            | .float x => (.number (.float x), c)
        else refuse shape.expected c
      | .list inner =>
        if b == byte '[' then
          match depth with
          | 0 => c.failAtNext .recursionLimit
          | depth + 1 =>
            match readItems fuel depth inner true c.next with
            | .error e => .error e
            | .ok (items, c) => (closeList c).map fun c => (.array items, c)
        else refuse shape.expected c
      | .record name fields =>
        if b == byte '[' then
          match depth with
          | 0 => c.failAtNext .recursionLimit
          | depth + 1 =>
            match readFieldsInOrder fuel depth name fields.length 0 fields c.next with
            | .error e => .error e
            | .ok (.refused words c) => (afterList c).fail (.mismatch words)
            | .ok (.complete members c) =>
              (closeList c).map fun c => (.object (sortMembers members), c)
        else if b == byte '\x7b' then
          match depth with
          | 0 => c.failAtNext .recursionLimit
          | depth + 1 =>
            match readFields fuel depth fields [] true c.next with
            | .error e => .error e
            | .ok (.refused words c) => (afterObject c).fail (.mismatch words)
            | .ok (.complete members c) =>
              (closeObject c).map fun c => (.object (sortMembers members), c)
        else refuse shape.expected c
      | .any =>
        if b == byte 'n' then
          (readWord ['u', 'l', 'l'] c.next).map fun c => (.null, c)
        else if b == byte 't' then
          (readWord ['r', 'u', 'e'] c.next).map fun c => (.bool true, c)
        else if b == byte 'f' then
          (readWord ['a', 'l', 's', 'e'] c.next).map fun c => (.bool false, c)
        else if b == byte '-' || isDigitByte b then
          (readSigned c).map fun (n, c) => (.number n, c)
        else if b == byte '"' then (readString c.next).map fun (s, c) => (.string s, c)
        else if b == byte '[' then
          match depth with
          | 0 => c.failAtNext .recursionLimit
          | depth + 1 =>
            match readItems fuel depth .any true c.next with
            | .error e => .error e
            | .ok (items, c) => (closeList c).map fun c => (.array items, c)
        else if b == byte '\x7b' then
          match depth with
          | 0 => c.failAtNext .recursionLimit
          | depth + 1 =>
            match readMembers fuel depth [] true c.next with
            | .error e => .error e
            | .ok (members, c) => (closeObject c).map fun c => (.object members, c)
        else c.failAtNext .expectedValue

/-- Reads the items of an array up to its closing bracket. -/
def readItems : Nat → Nat → Shape → Bool → Cursor → Except Failure (List Value × Cursor)
  | 0, _, _, _, c => c.fail .endInList
  | fuel + 1, depth, shape, first, c =>
    match nextItem first c with
    | .error e => .error e
    | .ok (false, c) => .ok ([], c)
    | .ok (true, c) =>
      match readValue fuel depth shape c with
      | .error e => .error e
      | .ok (v, c) =>
        (readItems fuel depth shape false c).map fun (items, c) => (v :: items, c)

/-- Reads the members of an object up to its closing bracket. -/
def readMembers : Nat → Nat → List (String × Value) → Bool → Cursor →
    Except Failure (List (String × Value) × Cursor)
  | 0, _, _, _, c => c.fail .endInObject
  | fuel + 1, depth, read, first, c =>
    match nextKey first c with
    | .error e => .error e
    | .ok (false, c) => .ok (read, c)
    | .ok (true, c) =>
      match readString c.next with
      | .error e => .error e
      | .ok (key, c) =>
        match readColon c with
        | .error e => .error e
        | .ok c =>
          match readValue fuel depth .any c with
          | .error e => .error e
          | .ok (v, c) => readMembers fuel depth (setMember key v read) false c

/-- Reads the fields of a record from the members of an object. -/
def readFields : Nat → Nat → List (String × Shape × Option Value) → List (String × Value) →
    Bool → Cursor → Except Failure (Gathered (List (String × Value)))
  | 0, _, _, _, _, c => c.fail .endInObject
  | fuel + 1, depth, fields, read, first, c =>
    match nextKey first c with
    | .error e => .error e
    | .ok (false, c) =>
      match completeRecord read fields with
      | .ok members => .ok (.complete members c)
      | .error name => .ok (.refused s!"missing field `{name}`" c)
    | .ok (true, c) =>
      match readString c.next with
      | .error e => .error e
      | .ok (key, c) =>
        match fieldShape? fields key with
        | none =>
          match readColon c with
          | .error e => .error e
          | .ok c =>
            match skipValue c with
            | .error e => .error e
            | .ok c => readFields fuel depth fields read false c
        | some shape =>
          if (memberOf? read key).isSome then .ok (.refused s!"duplicate field `{key}`" c)
          else
            match readColon c with
            | .error e => .error e
            | .ok c =>
              match readValue fuel depth shape c with
              | .error e => .error e
              | .ok (v, c) => readFields fuel depth fields (setMember key v read) false c

/-- Reads the fields of a record in order from the items of an array. -/
def readFieldsInOrder : Nat → Nat → String → Nat → Nat →
    List (String × Shape × Option Value) → Cursor →
    Except Failure (Gathered (List (String × Value)))
  | 0, _, _, _, _, _, c => c.fail .endInList
  | _ + 1, _, _, _, _, [], c => .ok (.complete [] c)
  | fuel + 1, depth, name, size, index, (key, shape, absent) :: fields, c =>
    match nextItem (index == 0) c with
    | .error e => .error e
    | .ok (false, c) =>
      match absent with
      | none =>
        .ok (.refused
          s!"invalid length {index}, expected struct {name} with {Shape.elementCount size}" c)
      | some v =>
        match readFieldsInOrder fuel depth name size (index + 1) fields c with
        | .error e => .error e
        | .ok (.refused words c) => .ok (.refused words c)
        | .ok (.complete members c) => .ok (.complete ((key, v) :: members) c)
    | .ok (true, c) =>
      match readValue fuel depth shape c with
      | .error e => .error e
      | .ok (v, c) =>
        match readFieldsInOrder fuel depth name size (index + 1) fields c with
        | .error e => .error e
        | .ok (.refused words c) => .ok (.refused words c)
        | .ok (.complete members c) => .ok (.complete ((key, v) :: members) c)

end

/-- The value of a whole text that must have a shape. -/
def readBytes (shape : Shape) (bytes : List UInt8) : Except Failure Value :=
  match readValue (2 * bytes.length + 4) maxDepth shape (Cursor.start bytes) with
  | .error e => .error e
  | .ok (v, c) =>
    let c := c.skipSpace
    if c.rest.isEmpty then .ok v else c.failAtNext .trailingCharacters

/-- The value of a whole text that must have a shape. -/
def read (shape : Shape) (text : String) : Except Failure Value :=
  readBytes shape (Text.utf8 text)

end ApiScaffold.Json
