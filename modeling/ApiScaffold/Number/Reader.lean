import ApiScaffold.Number.Binary
import ApiScaffold.Text.Letter

/-!
# Reading numbers and truth values

* `readInt low high`: a decimal integer with an optional sign, within two bounds.
* `readNat high`: a decimal natural number with an optional plus sign.
* `readBinary`: a decimal fraction with an optional power of ten, or one of the words for
  infinity and for the value that is no number.
* `readBool`: `true` or `false`.
* `ReadError.message`: the wording of each refusal.
-/

namespace ApiScaffold.Number

open Text (isAsciiDigit)

/-- Why a text is not a value of a type. -/
inductive ReadError
  | emptyInteger
  | invalidDigit
  | tooLarge
  | tooSmall
  | emptyFloat
  | invalidFloat
  | notBool
  deriving DecidableEq, Repr

def ReadError.message : ReadError → String
  | .emptyInteger => "cannot parse integer from empty string"
  | .invalidDigit => "invalid digit found in string"
  | .tooLarge => "number too large to fit in target type"
  | .tooSmall => "number too small to fit in target type"
  | .emptyFloat => "cannot parse float from empty string"
  | .invalidFloat => "invalid float literal"
  | .notBool => "provided string was not `true` or `false`"

/-- The value of a decimal digit. -/
def digitValue (c : Char) : Nat := c.toNat - '0'.toNat

/-- Reads digits onto a number, with `sign` 1 or -1; the first digit that is none, or that
leaves the bounds, ends the reading. -/
def readDigits (low high sign : Int) : Int → List Char → Except ReadError Int
  | n, [] => .ok n
  | n, c :: cs =>
    if isAsciiDigit c then
      let next := n * 10 + sign * digitValue c
      if high < next then .error .tooLarge
      else if next < low then .error .tooSmall
      else readDigits low high sign next cs
    else .error .invalidDigit

/-- A decimal integer between two bounds. -/
def readIntChars (low high : Int) : List Char → Except ReadError Int
  | [] => .error .emptyInteger
  | ['+'] => .error .invalidDigit
  | ['-'] => .error .invalidDigit
  | '+' :: cs => readDigits low high 1 0 cs
  | '-' :: cs => if low < 0 then readDigits low high (-1) 0 cs else .error .invalidDigit
  | cs => readDigits low high 1 0 cs

/-- A decimal integer between two bounds. -/
def readInt (low high : Int) (s : String) : Except ReadError Int := readIntChars low high s.toList

/-- A decimal natural number up to a bound. -/
def readNat (high : Nat) (s : String) : Except ReadError Nat :=
  (readInt 0 high s).map Int.toNat

/-- The bounds of integers of 32 bits. -/
def int32Bounds : Int × Int := (-2147483648, 2147483647)

/-- The bounds of integers of 64 bits. -/
def int64Bounds : Int × Int := (-9223372036854775808, 9223372036854775807)

def readInt32 (s : String) : Except ReadError Int := readInt int32Bounds.1 int32Bounds.2 s

def readInt64 (s : String) : Except ReadError Int := readInt int64Bounds.1 int64Bounds.2 s

/-- The natural number that digits denote. -/
def natOfDigits (cs : List Char) : Nat := cs.foldl (fun n c => n * 10 + digitValue c) 0

/-- The exponent that stands behind the letter `e`. -/
def readExponent : List Char → Option Int
  | [] => none
  | '+' :: cs => if !cs.isEmpty && cs.all isAsciiDigit then some (natOfDigits cs) else none
  | '-' :: cs => if !cs.isEmpty && cs.all isAsciiDigit then some (-(natOfDigits cs : Int)) else none
  | cs => if cs.all isAsciiDigit then some (natOfDigits cs) else none

/-- A decimal fraction without a sign. -/
def readFraction {f : Format} (negative : Bool) (cs : List Char) : Option (Binary f) :=
  let whole := cs.takeWhile isAsciiDigit
  let rest := cs.dropWhile isAsciiDigit
  let (decimals, rest) :=
    match rest with
    | '.' :: more => (more.takeWhile isAsciiDigit, more.dropWhile isAsciiDigit)
    | _ => ([], rest)
  if whole.isEmpty && decimals.isEmpty then none
  else
    let exponent :=
      match rest with
      | [] => some 0
      | c :: more => if c == 'e' || c == 'E' then readExponent more else none
    exponent.map fun e =>
      Binary.ofDecimal negative (natOfDigits (whole ++ decimals)) (e - decimals.length)

/-- A floating number without a sign. -/
def readMagnitude {f : Format} (negative : Bool) (cs : List Char) : Option (Binary f) :=
  match readFraction negative cs with
  | some x => some x
  | none =>
    match String.ofList (cs.map Text.asciiLower) with
    | "inf" => some (.infinite negative)
    | "infinity" => some (.infinite negative)
    | "nan" => some .nan
    | _ => none

/-- A floating number. -/
def readBinary {f : Format} (s : String) : Except ReadError (Binary f) :=
  match s.toList with
  | [] => .error .emptyFloat
  | '-' :: cs => (readMagnitude true cs).elim (.error .invalidFloat) .ok
  | '+' :: cs => (readMagnitude false cs).elim (.error .invalidFloat) .ok
  | cs => (readMagnitude false cs).elim (.error .invalidFloat) .ok

def readBool (s : String) : Except ReadError Bool :=
  if s = "true" then .ok true else if s = "false" then .ok false else .error .notBool

end ApiScaffold.Number
