/-!
# Binary floating numbers

A floating number is a sign, a significand and an exponent of two, in a format that bounds
both; beside the numbers a format has two infinities and one value that is no number.
Every operation computes its exact result as a fraction and rounds it once, to the nearest
number of the format, a tie to the one with the even significand.

* `Binary.round`: the number nearest to a fraction.
* `Binary.ofInt`, `mul`, `div`, `sub`, `abs`, `roundToInteger`: arithmetic.
* `Binary.lt`, `Binary.le`, `Binary.same`: comparison; nothing compares with the value that
  is no number, and the two zeros are the same.
-/

namespace ApiScaffold.Number

/-- How many significant bits a format keeps, and the least and the greatest exponent that a
significand can carry. -/
structure Format where
  precision : Nat
  minExponent : Int
  maxExponent : Int
  deriving DecidableEq, Repr

/-- The format of 64 bits. -/
def Format.double : Format := ⟨53, -1074, 971⟩

/-- The format of 32 bits. -/
def Format.single : Format := ⟨24, -149, 104⟩

/-- A floating number of a format; `finite s m e` stands for `m * 2 ^ e` with the sign `s`. -/
inductive Binary (f : Format)
  | nan
  | infinite (negative : Bool)
  | finite (negative : Bool) (significand : Nat) (exponent : Int)
  deriving DecidableEq, Repr

/-- Floating numbers of 64 bits. -/
abbrev Binary64 := Binary .double

/-- Floating numbers of 32 bits. -/
abbrev Binary32 := Binary .single

instance {f : Format} : Inhabited (Binary f) := ⟨.nan⟩

/-- The quotient of two naturals, rounded to the nearest integer, a tie to the even one. -/
def roundQuotient (numerator denominator : Nat) : Nat :=
  let quotient := numerator / denominator
  let twice := 2 * (numerator % denominator)
  if denominator < twice || (twice == denominator && quotient % 2 == 1) then quotient + 1
  else quotient

/-- A fraction multiplied by a power of a base. -/
def scale (base : Nat) (exponent : Int) (fraction : Nat × Nat) : Nat × Nat :=
  if 0 ≤ exponent then (fraction.1 * Nat.pow base exponent.toNat, fraction.2)
  else (fraction.1, fraction.2 * Nat.pow base (-exponent).toNat)

namespace Binary

variable {f : Format}

/-- The zero of a sign. -/
def zero (negative : Bool) : Binary f := .finite negative 0 f.minExponent

/-- The number nearest to a positive or zero fraction, with a sign. -/
def round (negative : Bool) (fraction : Nat × Nat) : Binary f :=
  if fraction.1 = 0 then zero negative
  else
    let rough : Int := (fraction.1.log2 : Int) - fraction.2.log2 - f.precision
    let least := max f.minExponent rough
    let floor := scale 2 (-least) fraction
    let exponent := if Nat.pow 2 f.precision ≤ floor.1 / floor.2 then least + 1 else least
    let scaled := scale 2 (-exponent) fraction
    let significand := roundQuotient scaled.1 scaled.2
    let carried := significand == Nat.pow 2 f.precision
    let exponent := if carried then exponent + 1 else exponent
    let significand := if carried then Nat.pow 2 (f.precision - 1) else significand
    if f.maxExponent < exponent then .infinite negative
    else .finite negative significand exponent

/-- The magnitude of a significand and an exponent as a fraction. -/
def fraction (significand : Nat) (exponent : Int) : Nat × Nat := scale 2 exponent (significand, 1)

/-- The number nearest to an integer. -/
def ofInt (n : Int) : Binary f := round (n < 0) (n.natAbs, 1)

/-- The number nearest to an integer times a power of ten.  Exponents far outside the format's
range are decided without computing the power. -/
def ofDecimal (negative : Bool) (digits : Nat) (exponent : Int) : Binary f :=
  if digits = 0 then zero negative
  else
    let magnitude : Int := (digits.log2 : Int) * 30103 / 100000 + exponent
    if 2 * f.maxExponent < magnitude then .infinite negative
    else if magnitude < 2 * f.minExponent then zero negative
    else round negative (scale 10 exponent (digits, 1))

/-- The same number in another format, rounded. -/
def convert {g : Format} : Binary f → Binary g
  | .nan => .nan
  | .infinite s => .infinite s
  | .finite s m e => round s (fraction m e)

def isNan : Binary f → Bool
  | .nan => true
  | _ => false

def isFinite : Binary f → Bool
  | .finite .. => true
  | _ => false

/-- Whether a number is one of the two zeros. -/
def isZero : Binary f → Bool
  | .finite _ 0 _ => true
  | _ => false

/-- Whether a number carries the minus sign. -/
def isNegative : Binary f → Bool
  | .nan => false
  | .infinite s => s
  | .finite s _ _ => s

def neg : Binary f → Binary f
  | .nan => .nan
  | .infinite s => .infinite !s
  | .finite s m e => .finite (!s) m e

def abs : Binary f → Binary f
  | .nan => .nan
  | .infinite _ => .infinite false
  | .finite _ m e => .finite false m e

def mul : Binary f → Binary f → Binary f
  | .nan, _ => .nan
  | _, .nan => .nan
  | .infinite s, y => if y.isZero then .nan else .infinite (s != y.isNegative)
  | x, .infinite t => if x.isZero then .nan else .infinite (x.isNegative != t)
  | .finite s m e, .finite t n d => round (s != t) (fraction (m * n) (e + d))

def div : Binary f → Binary f → Binary f
  | .nan, _ => .nan
  | _, .nan => .nan
  | .infinite _, .infinite _ => .nan
  | .infinite s, .finite t _ _ => .infinite (s != t)
  | .finite s _ _, .infinite t => zero (s != t)
  | .finite s m e, .finite t n d =>
    if n = 0 then if m = 0 then .nan else .infinite (s != t)
    else
      let x := fraction m (e - d)
      round (s != t) (x.1, x.2 * n)

/-- A finite number as an integer multiple of a power of two. -/
def scaledInt (exponent : Int) (negative : Bool) (m : Nat) (e : Int) : Int :=
  let magnitude : Nat := m * Nat.pow 2 (e - exponent).toNat
  if negative then -(magnitude : Int) else magnitude

def sub : Binary f → Binary f → Binary f
  | .nan, _ => .nan
  | _, .nan => .nan
  | .infinite s, .infinite t => if s == t then .nan else .infinite s
  | .infinite s, .finite .. => .infinite s
  | .finite .., .infinite t => .infinite !t
  | .finite s m e, .finite t n d =>
    let least := min e d
    let difference := scaledInt least s m e - scaledInt least t n d
    if difference = 0 then zero (s && !t && m == 0)
    else round (difference < 0) (fraction difference.natAbs least)

/-- The nearest integer, a half away from zero. -/
def roundToInteger : Binary f → Binary f
  | .nan => .nan
  | .infinite s => .infinite s
  | .finite s m e =>
    let x := fraction m e
    round s ((2 * x.1 + x.2) / (2 * x.2), 1)

/-- The order of two numbers; none if one of them is no number. -/
def compare : Binary f → Binary f → Option Ordering
  | .nan, _ => none
  | _, .nan => none
  | .infinite s, .infinite t => some (if s == t then .eq else if s then .lt else .gt)
  | .infinite s, .finite .. => some (if s then .lt else .gt)
  | .finite .., .infinite t => some (if t then .gt else .lt)
  | .finite s m e, .finite t n d =>
    let least := min e d
    some (Ord.compare (scaledInt least s m e) (scaledInt least t n d))

def lt (x y : Binary f) : Bool := compare x y == some .lt

def le (x y : Binary f) : Bool := compare x y == some .lt || compare x y == some .eq

/-- Equality of numbers. -/
def same (x y : Binary f) : Bool := compare x y == some .eq

end Binary

end ApiScaffold.Number
