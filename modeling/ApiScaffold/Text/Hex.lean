import ApiScaffold.Web.Percent

/-!
# Hexadecimal texts

* `hexText`: a number in so many digits.
* `bytesOfHex`, `hexOfBytes`: bytes in pairs of digits.
-/

namespace ApiScaffold.Text

/-- A number in hexadecimal digits, with zeros in front up to a width. -/
def hexText (width n : Nat) : String :=
  let digits := Nat.toDigits 16 n
  String.ofList (List.replicate (width - digits.length) '0' ++ digits)

/-- The bytes of pairs of digits; a pair that is none counts as zero. -/
def bytesOfHex : List UInt8 → List UInt8
  | a :: b :: rest => (Web.hexByte? a b).getD 0 :: bytesOfHex rest
  | _ => []

/-- The pairs of digits of bytes. -/
def hexOfBytes (bytes : List UInt8) : String := String.join (bytes.map fun b => hexText 2 b.toNat)

end ApiScaffold.Text
