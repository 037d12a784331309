/-!
# Texts as bytes

* `utf8 s`: the bytes of a text.
* `decode? bytes`: the text of the bytes, if they are well formed.
* `decodeLossy bytes`: the text of any bytes, each maximal ill-formed part read as one
  replacement character.
-/

namespace ApiScaffold.Text

/-- The bytes of a text. -/
def utf8 (s : String) : List UInt8 := s.toUTF8.toList

/-- Whether a byte continues a character, with a value between two bounds. -/
def isContinuation (low high : Nat) (b : UInt8) : Bool := low ≤ b.toNat && b.toNat ≤ high

/-- What a leading byte announces: the bits it carries, how many bytes follow, and the bounds
of the first of them. -/
def leadingByte (b : UInt8) : Option (Nat × Nat × Nat × Nat) :=
  let n := b.toNat
  if n < 0x80 then some (n, 0, 0, 0)
  else if 0xC2 ≤ n && n ≤ 0xDF then some (n - 0xC0, 1, 0x80, 0xBF)
  else if n == 0xE0 then some (0, 2, 0xA0, 0xBF)
  else if n == 0xED then some (0xD, 2, 0x80, 0x9F)
  else if 0xE1 ≤ n && n ≤ 0xEF then some (n - 0xE0, 2, 0x80, 0xBF)
  else if n == 0xF0 then some (0, 3, 0x90, 0xBF)
  else if 0xF1 ≤ n && n ≤ 0xF3 then some (n - 0xF0, 3, 0x80, 0xBF)
  else if n == 0xF4 then some (4, 3, 0x80, 0x8F)
  else none

/-- Reads the bytes that follow a leading byte: the code point, or none if they do not
continue it, and how many bytes belong together. -/
def continueCode : Nat → Nat → Nat → Nat → List UInt8 → Option Nat × Nat
  | 0, code, _, _, _ => (some code, 0)
  | _ + 1, _, _, _, [] => (none, 0)
  | count + 1, code, low, high, b :: bs =>
    if isContinuation low high b then
      let (result, used) := continueCode count (code * 64 + (b.toNat - 0x80)) 0x80 0xBF bs
      (result, used + 1)
    else (none, 0)

/-- The first character of nonempty bytes, none if they are ill formed there, and how many
bytes after the first belong to it. -/
def firstChar (b : UInt8) (bs : List UInt8) : Option Char × Nat :=
  match leadingByte b with
  | none => (none, 0)
  | some (bits, count, low, high) =>
    let (code, used) := continueCode count bits low high bs
    (code.map Char.ofNat, used)

/-- The characters of bytes, with none for each maximal ill-formed part. -/
def decodeParts (bytes : List UInt8) : List (Option Char) :=
  match bytes with
  | [] => []
  | b :: bs =>
    let (c, used) := firstChar b bs
    c :: decodeParts (bs.drop used)
termination_by bytes.length
decreasing_by simp only [List.length_drop, List.length_cons]; omega

/-- The text of well-formed bytes. -/
def decode? (bytes : List UInt8) : Option String :=
  ((decodeParts bytes).mapM id).map String.ofList

/-- The text of any bytes, with replacement characters for what is ill formed. -/
def decodeLossy (bytes : List UInt8) : String :=
  String.ofList ((decodeParts bytes).map (·.getD '\uFFFD'))

/-- How many bytes a text takes. -/
def byteLength (s : String) : Nat := s.utf8ByteSize

/-- How many bytes stand before the first that is ill formed. -/
def wellFormedLength (bytes : List UInt8) : Nat :=
  byteLength (String.ofList (((decodeParts bytes).takeWhile (·.isSome)).filterMap id))

end ApiScaffold.Text
