import ApiScaffold.Text.Blank
import ApiScaffold.Web.Percent
import ApiScaffold.Web.Url.Punycode

/-!
# Hosts of URLs

A host is an address of four bytes, an address of eight words in brackets, or a domain.

* `readHost`: the written form of a host of a scheme that is looked up in the network.
* `readOpaqueHost`: that of a host of any other scheme.
* `HostFault`: why a text is no host.
-/

namespace ApiScaffold.Web

open Text

/-- Why a text is no host. -/
inductive HostFault
  | empty
  | domain
  | address4
  | address6
  | character
  deriving DecidableEq, Repr

def HostFault.message : HostFault → String
  | empty => "empty host"
  | domain => "invalid international domain name"
  | address4 => "invalid IPv4 address"
  | address6 => "invalid IPv6 address"
  | character => "invalid domain character"

namespace Host

/-! ## Addresses of four bytes -/

/-- Whether a character is a digit of a base up to sixteen. -/
def isDigitOf (base : Nat) (c : Char) : Bool :=
  c.toNat < 128 && (hexDigitValue? c.toNat.toUInt8).any (· < base)

/-- The number of digits of a base. -/
def numberOf (base : Nat) (cs : List Char) : Nat :=
  cs.foldl (fun n c => n * base + (hexDigitValue? c.toNat.toUInt8).getD 0) 0

/-- A number with an optional mark of its base in front. -/
def number? (cs : List Char) : Option Nat :=
  let (base, digits) :=
    match cs with
    | '0' :: 'x' :: rest => (16, rest)
    | '0' :: 'X' :: rest => (16, rest)
    | '0' :: d :: rest => (8, d :: rest)
    | _ => (10, cs)
  if cs.isEmpty || !digits.all (isDigitOf base) then none else some (numberOf base digits)

/-- The pieces between the dots, without an empty last one. -/
def dotted (cs : List Char) : List (List Char) :=
  let pieces := splitWhere (· == '.') cs
  if 1 < pieces.length && pieces.getLast? == some [] then pieces.dropLast else pieces

/-- Whether the last piece is a number, so that the host can only be an address. -/
def endsInNumber (cs : List Char) : Bool :=
  match (dotted cs).getLast? with
  | some last => !last.isEmpty && (last.all isAsciiDigit || (number? last).isSome)
  | none => false

/-- The number that an address stands for: the last piece fills all bytes that are left. -/
def address4? (cs : List Char) : Option Nat := do
  let numbers ← (dotted cs).mapM number?
  let last ← numbers.getLast?
  let bytes := numbers.dropLast
  if 3 < bytes.length || bytes.any (255 < ·) || Nat.pow 256 (4 - bytes.length) ≤ last then none
  else some (last + bytes.zipIdx.foldl (fun sum (b, i) => sum + b * Nat.pow 256 (3 - i)) 0)

/-- An address with a dot between its bytes. -/
def writeAddress4 (n : Nat) : String :=
  ".".intercalate ([3, 2, 1, 0].map fun i => toString (n / Nat.pow 256 i % 256))

/-! ## Addresses of eight words -/

/-- A byte in decimal digits, without zeros in front. -/
def byte? (cs : List Char) : Option Nat :=
  let value := numberOf 10 cs
  if cs.isEmpty || !cs.all isAsciiDigit || (1 < cs.length && cs.head? == some '0') || 255 < value
  then none
  else some value

/-- The two words that four bytes with dots between them make up. -/
def wordsOfBytes? (cs : List Char) : Option (List Nat) :=
  match (splitWhere (· == '.') cs).mapM byte? with
  | some [a, b, c, d] => some [a * 256 + b, c * 256 + d]
  | _ => none

/-- A word of one to four hexadecimal digits. -/
def word? (cs : List Char) : Option Nat :=
  if cs.isEmpty || 4 < cs.length || !cs.all (isDigitOf 16) then none else some (numberOf 16 cs)

/-- The words between colons; at the end of the address four bytes may stand for two words. -/
def words? (final : Bool) : List (List Char) → Option (List Nat)
  | [] => some []
  | [cs] => if final && cs.contains '.' then wordsOfBytes? cs else (word? cs).map ([·])
  | cs :: rest => do
    let w ← word? cs
    let ws ← words? final rest
    some (w :: ws)

/-- The words of a part of an address, which may be empty. -/
def part? (final : Bool) (cs : List Char) : Option (List Nat) :=
  if cs.isEmpty then some [] else words? final (splitWhere (· == ':') cs)

/-- The parts of a text before and behind the first two colons in a row. -/
def splitGap : List Char → Option (List Char × List Char)
  | ':' :: ':' :: rest => some ([], rest)
  | c :: rest => (splitGap rest).map fun (before, behind) => (c :: before, behind)
  | [] => none

/-- The eight words of an address; two colons stand for the zeros that are left out. -/
def address6? (cs : List Char) : Option (List Nat) :=
  match splitGap cs with
  | none => do
    let ws ← part? true cs
    if ws.length = 8 then some ws else none
  | some (before, behind) => do
    let front ← part? false before
    let back ← part? true behind
    let missing := 8 - (front.length + back.length)
    if missing = 0 then none else some (front ++ List.replicate missing 0 ++ back)

/-- The length of the zeros at the front. -/
def zeroRun (ws : List Nat) : Nat := (ws.takeWhile (· == 0)).length

/-- The start and the length of the first longest run of zeros among the places that are left. -/
def longestRun : Nat → List Nat → Nat × Nat
  | _, [] => (0, 0)
  | place, w :: ws =>
    let here := zeroRun (w :: ws)
    let later := longestRun (place + 1) ws
    if later.2 ≤ here then (place, here) else later

/-- Words in hexadecimal digits with colons between them. -/
def writeWords (ws : List Nat) : String :=
  ":".intercalate (ws.map fun w => String.ofList (Nat.toDigits 16 w))

/-- An address in brackets, its longest run of at least two zeros left out. -/
def writeAddress6 (ws : List Nat) : String :=
  let (start, length) := longestRun 0 ws
  let inner :=
    if length < 2 then writeWords ws
    else writeWords (ws.take start) ++ "::" ++ writeWords (ws.drop (start + length))
  "[" ++ inner ++ "]"

/-! ## Domains -/

/-- The characters of a domain that a character is read as: full-width ASCII characters are read
as plain ones, other full stops as a dot, and capital letters as small ones. -/
def foldChar (c : Char) : List Char :=
  let n := c.toNat
  if n == 0x3002 || n == 0xFF61 then ['.']
  else if n == 0xAD || n == 0x200B || n == 0x2060 || n == 0xFEFF then []
  else if 0xFF01 ≤ n && n ≤ 0xFF5E then [asciiLower (Char.ofNat (n - 0xFEE0))]
  else lowerForm c

/-- Whether a character may not stand in a domain. -/
def isForbidden (c : Char) : Bool :=
  c ≤ ' ' || c == '\uFFFD' || !isPrintable c || "%#/:<>?@[\\]^|".toList.contains c

/-- Whether a label starts with the mark of written forms. -/
def isMarked (label : List Char) : Bool := "xn--".toList.isPrefixOf label

/-- The ASCII form of a label. -/
def label? (label : List Char) : Option (List Char) :=
  if isMarked label then
    match Punycode.decode? (label.drop 4) with
    | some decoded =>
      let isFolded := decoded.all fun c => foldChar c == [c] && !isForbidden c
      if label.all isAscii && !decoded.all isAscii && isFolded
        && Punycode.encode decoded == label.drop 4 then
        some label
      else none
    | none => none
  else if label.all isAscii then some label
  else some ("xn--".toList ++ Punycode.encode label)

/-- The ASCII form of a domain. -/
def domain? (cs : List Char) : Option (List Char) := do
  let folded := cs.flatMap foldChar
  if folded.any isForbidden then none
  else
    let labels ← (splitWhere (· == '.') folded).mapM label?
    some (List.intercalate ['.'] labels)

end Host

/-- The written form of an address in brackets. -/
def readBracketed (cs : List Char) : Except HostFault String :=
  match cs.getLast? with
  | some ']' =>
    match Host.address6? (cs.drop 1).dropLast with
    | some ws => .ok (Host.writeAddress6 ws)
    | none => .error .address6
  | _ => .error .address6

/-- The written form of a host of a scheme that is looked up in the network. -/
def readHost (cs : List Char) : Except HostFault String :=
  if cs.head? == some '[' then readBracketed cs
  else
    match Host.domain? (decodeLossy (percentDecode (utf8 (String.ofList cs)))).toList with
    | none => .error .domain
    | some [] => .error .empty
    | some domain =>
      if Host.endsInNumber domain then
        match Host.address4? domain with
        | some n => .ok (Host.writeAddress4 n)
        | none => .error .address4
      else .ok (String.ofList domain)

/-- Whether a character is a control character. -/
def isControl (c : Char) : Bool := c < ' ' || c == '\x7f'

/-- The written form of a host of any other scheme. -/
def readOpaqueHost (cs : List Char) : Except HostFault String :=
  if cs.head? == some '[' then readBracketed cs
  else if cs.any fun c => "\x00\t\n\r #/:<>?@[\\]^|".toList.contains c then .error .character
  else .ok (String.ofList (encodeWith (!isControl ·) (utf8 (String.ofList cs))))

end ApiScaffold.Web
