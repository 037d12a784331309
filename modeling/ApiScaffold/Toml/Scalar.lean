import ApiScaffold.Number.Reader
import ApiScaffold.Text.Letter
import ApiScaffold.Toml.Table
import ApiScaffold.Toml.Text

/-!
# TOML numbers, truth values and moments

What is neither a string nor a collection is a word.  Underscores may stand between two digits,
and a decimal number has no zeros in front.

* `wordValue?`: the value of a word.
-/

namespace ApiScaffold.Toml

open Text (isAsciiDigit isAsciiAlphanumeric)

/-- The characters that words consist of. -/
def isWordChar (c : Char) : Bool := isAsciiAlphanumeric c || "+-_.:".toList.contains c

/-- The digits of a number, if every underscore among them stands between two. -/
def digits? (isDigit : Char → Bool) (cs : List Char) : Option (List Char) :=
  let pieces := Text.splitWhere (· == '_') cs
  if pieces.all fun piece => !piece.isEmpty && piece.all isDigit then some pieces.flatten else none

/-- The digits of a decimal number without zeros in front. -/
def decimal? (cs : List Char) : Option (List Char) :=
  (digits? isAsciiDigit cs).filter fun ds => ds.length = 1 || ds.head? != some '0'

/-- The number of some digits. -/
def ofDigits? (base : Nat) (cs : List Char) : Option Nat := do
  let values ← (← digits? (fun c => (hexValue? c).any (· < base)) cs).mapM hexValue?
  return values.foldl (fun n d => n * base + d) 0

/-- A sign, whether it is a minus, and what it stands in front of. -/
def readSign : List Char → Bool × List Char
  | '+' :: rest => (false, rest)
  | '-' :: rest => (true, rest)
  | cs => (false, cs)

/-- The integer of a word; it takes 64 bits. -/
def integer? (cs : List Char) : Option Int := do
  let n : Int ←
    match cs with
    | '0' :: 'x' :: rest => (ofDigits? 16 rest).map Int.ofNat
    | '0' :: 'o' :: rest => (ofDigits? 8 rest).map Int.ofNat
    | '0' :: 'b' :: rest => (ofDigits? 2 rest).map Int.ofNat
    | _ =>
      let (negative, rest) := readSign cs
      (decimal? rest).map fun ds =>
        let n : Int := Number.natOfDigits ds
        if negative then -n else n
  if -0x8000000000000000 ≤ n && n < 0x8000000000000000 then some n else none

/-- The digits of an exponent with its sign. -/
def exponent? (cs : List Char) : Option (List Char) :=
  let (negative, rest) := readSign cs
  (digits? isAsciiDigit rest).map fun ds => if negative then '-' :: ds else ds

/-- Whether a character begins an exponent. -/
def isExponentMark (c : Char) : Bool := c == 'e' || c == 'E'

/-- A number with a fraction or an exponent in its plain form. -/
def floatForm? (cs : List Char) : Option (List Char) := do
  let mantissa := cs.takeWhile (!isExponentMark ·)
  let whole ← decimal? (mantissa.takeWhile (· != '.'))
  let fraction ←
    match mantissa.dropWhile (· != '.') with
    | [] => some []
    | _ :: rest => (digits? isAsciiDigit rest).map ('.' :: ·)
  let power ←
    match cs.dropWhile (!isExponentMark ·) with
    | [] => some []
    | _ :: rest => (exponent? rest).map ('e' :: ·)
  if fraction.isEmpty && power.isEmpty then none else some (whole ++ fraction ++ power)

/-- The floating number of a word. -/
def float? (cs : List Char) : Option Number.Binary64 :=
  let (negative, rest) := readSign cs
  let form := if rest = "inf".toList || rest = "nan".toList then some rest else floatForm? rest
  form.bind fun form =>
    (Number.readBinary (String.ofList (if negative then '-' :: form else form))).toOption

/-- The number of so many digits, and what follows it. -/
def fixedDigits? (count : Nat) (cs : List Char) : Option (Nat × List Char) :=
  let ds := cs.take count
  if ds.length = count && ds.all isAsciiDigit then some (Number.natOfDigits ds, cs.drop count)
  else none

/-- What follows a given character. -/
def behind? (c : Char) : List Char → Option (List Char)
  | d :: rest => if d = c then some rest else none
  | [] => none

/-- The days of a month. -/
def daysOf (year month : Nat) : Nat :=
  if month = 2 then
    if year % 4 = 0 && (year % 100 != 0 || year % 400 = 0) then 29 else 28
  else if [4, 6, 9, 11].contains month then 30
  else 31

/-- What follows a date. -/
def afterDate? (cs : List Char) : Option (List Char) := do
  let (year, cs) ← fixedDigits? 4 cs
  let (month, cs) ← fixedDigits? 2 (← behind? '-' cs)
  let (day, cs) ← fixedDigits? 2 (← behind? '-' cs)
  if 1 ≤ month && month ≤ 12 && 1 ≤ day && day ≤ daysOf year month then some cs else none

/-- What follows a time of day. -/
def afterTime? (cs : List Char) : Option (List Char) := do
  let (hour, cs) ← fixedDigits? 2 cs
  let (minute, cs) ← fixedDigits? 2 (← behind? ':' cs)
  let (second, cs) ← fixedDigits? 2 (← behind? ':' cs)
  guard (hour ≤ 23 && minute ≤ 59 && second ≤ 60)
  match cs with
  | '.' :: rest =>
    if (rest.head?.map isAsciiDigit).getD false then some (rest.dropWhile isAsciiDigit) else none
  | _ => some cs

/-- Whether nothing or the distance of a time zone is left. -/
def isOffset (cs : List Char) : Bool :=
  match cs with
  | [] | ['Z'] | ['z'] => true
  | sign :: rest =>
    (sign == '+' || sign == '-') && ((do
      let (hour, cs) ← fixedDigits? 2 rest
      let (minute, cs) ← fixedDigits? 2 (← behind? ':' cs)
      return hour ≤ 23 && minute ≤ 59 && cs.isEmpty : Option Bool) == some true)

/-- Whether a word is a date, a time, or both. -/
def isMoment (cs : List Char) : Bool :=
  match afterDate? cs with
  | some [] => true
  | some (mark :: rest) =>
    (mark == 'T' || mark == 't' || mark == ' ') && (afterTime? rest).any isOffset
  | none => afterTime? cs == some []

/-- The value of a word. -/
def wordValue? (cs : List Char) : Option Value :=
  if cs = "true".toList then some (.boolean true)
  else if cs = "false".toList then some (.boolean false)
  else if isMoment cs then some (.moment (String.ofList cs))
  else
    match integer? cs with
    | some n => some (.integer n)
    | none => (float? cs).map .float

/-- A word and what follows it.  A blank belongs to the word between a date and a time. -/
def readWord (cs : List Char) : List Char × List Char :=
  let word := cs.takeWhile isWordChar
  let rest := cs.dropWhile isWordChar
  match rest with
  | ' ' :: more =>
    if afterDate? word == some [] && (more.head?.map isAsciiDigit).getD false then
      (word ++ ' ' :: more.takeWhile isWordChar, more.dropWhile isWordChar)
    else (word, rest)
  | _ => (word, rest)

/-- A number, a truth value or a moment, and what follows it. -/
def readScalar (cs : List Char) : Option (Value × List Char) :=
  let (word, rest) := readWord cs
  (wordValue? word).map (·, rest)

end ApiScaffold.Toml
