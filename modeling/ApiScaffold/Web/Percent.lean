import ApiScaffold.Text.Letter
import ApiScaffold.Text.Utf8

/-!
# Percent-encoding

A byte that may not stand for itself is written as a percent sign and two hexadecimal digits.

* `percentByte`: the three characters for a byte.
* `encodeWith keep`: the characters of bytes, with those that `keep` refuses encoded.
* `percentDecode`: the bytes of encoded bytes; a percent sign without two digits stands for
  itself.
-/

namespace ApiScaffold.Web

open Text

/-- The three characters for a byte. -/
def percentByte (b : UInt8) : List Char :=
  let digit (n : Nat) : Char := asciiUpper (Nat.digitChar n)
  ['%', digit (b.toNat / 16), digit (b.toNat % 16)]

/-- The characters of bytes, with those that `keep` refuses encoded. -/
def encodeWith (keep : Char → Bool) (bytes : List UInt8) : List Char :=
  bytes.flatMap fun b =>
    let c := Char.ofNat b.toNat
    if b < 128 && keep c then [c] else percentByte b

/-- The value of a hexadecimal digit. -/
def hexDigitValue? (b : UInt8) : Option Nat :=
  if 48 ≤ b && b ≤ 57 then some (b.toNat - 48)
  else if 97 ≤ b && b ≤ 102 then some (b.toNat - 87)
  else if 65 ≤ b && b ≤ 70 then some (b.toNat - 55)
  else none

/-- The byte of two hexadecimal digits. -/
def hexByte? (high low : UInt8) : Option UInt8 :=
  match hexDigitValue? high, hexDigitValue? low with
  | some h, some l => some (h * 16 + l).toUInt8
  | _, _ => none

/-- The bytes that encoded bytes stand for. -/
def percentDecode : List UInt8 → List UInt8
  | 37 :: high :: low :: rest =>
    match hexByte? high low with
    | some b => b :: percentDecode rest
    | none => 37 :: percentDecode (high :: low :: rest)
  | b :: rest => b :: percentDecode rest
  | [] => []

end ApiScaffold.Web
