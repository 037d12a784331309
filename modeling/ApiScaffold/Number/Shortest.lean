import ApiScaffold.Number.Binary

/-!
# Shortest decimals

The decimal text of a floating number has the fewest digits that read back as the number,
and of those the nearest.  The reals that round to a number form an interval around it,
with its ends if the significand is even.  For one digit, two digits, and so on, the two
neighbours of the number on the decimal grid are tested; if a point of a grid lies in the
interval, so does one of these two.

* `Decimal`: an integer times a power of ten.
* `shortest f m e`: the shortest decimal that reads back as `m * 2 ^ e`.
-/

namespace ApiScaffold.Number

/-- The number `digits * 10 ^ exponent`. -/
structure Decimal where
  digits : Nat
  exponent : Int
  deriving DecidableEq, Repr

/-- The least exponent of ten whose power exceeds a positive fraction. -/
def decimalMagnitude (fraction : Nat × Nat) : Int :=
  let rough : Int := ((fraction.1.log2 : Int) - fraction.2.log2) * 30103 / 100000 - 1
  let exceeds (exponent : Int) : Bool :=
    let scaled := scale 10 (-exponent) fraction
    scaled.1 < scaled.2
  if exceeds rough then rough
  else if exceeds (rough + 1) then rough + 1
  else if exceeds (rough + 2) then rough + 2
  else rough + 3

/-- Whether `m / n ≤ k / l`. -/
def fractionLe (x y : Nat × Nat) : Bool := x.1 * y.2 ≤ y.1 * x.2

/-- Whether a decimal lies between two fractions. -/
def Decimal.isBetween (d : Decimal) (low high : Nat × Nat) (ends : Bool) : Bool :=
  let x := scale 10 d.exponent (d.digits, 1)
  fractionLe low x && fractionLe x high && (ends || !(fractionLe x low || fractionLe high x))

/-- The point of the grid of a step that reads back, if there is one; of two, the nearer. -/
def onGrid (value low high : Nat × Nat) (ends : Bool) (step : Int) : Option Decimal :=
  let scaled := scale 10 (-step) value
  let below : Decimal := ⟨scaled.1 / scaled.2, step⟩
  let above : Decimal := ⟨scaled.1 / scaled.2 + 1, step⟩
  let twice := 2 * (scaled.1 % scaled.2)
  let nearerBelow := twice < scaled.2 || (twice == scaled.2 && below.digits % 2 == 0)
  match below.isBetween low high ends, above.isBetween low high ends with
  | true, true => some (if nearerBelow then below else above)
  | true, false => some below
  | false, true => some above
  | false, false => none

/-- A decimal without the zeros at the end of its digits; at most `fuel` of them are dropped. -/
def Decimal.dropZeros : Nat → Decimal → Decimal
  | 0, d => d
  | fuel + 1, d =>
    if d.digits ≠ 0 && d.digits % 10 == 0 then dropZeros fuel ⟨d.digits / 10, d.exponent + 1⟩
    else d

/-- The shortest decimal that reads back as `m * 2 ^ e` in a format, for a positive `m`. -/
def shortest (f : Format) (m : Nat) (e : Int) : Decimal :=
  let value := scale 2 (e - 2) (4 * m, 1)
  let narrow := m == Nat.pow 2 (f.precision - 1) && f.minExponent < e
  let low := scale 2 (e - 2) (4 * m - (if narrow then 1 else 2), 1)
  let high := scale 2 (e - 2) (4 * m + 2, 1)
  let magnitude := decimalMagnitude value
  let found := (List.range 17).findSome? fun (n : Nat) =>
    onGrid value low high (m % 2 == 0) (magnitude - (n + 1))
  (found.getD ⟨m, 0⟩).dropZeros 20

end ApiScaffold.Number
