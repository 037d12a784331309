import ApiScaffold.Proofs.Number.Rounding
import Mathlib.Algebra.Order.Group.Unbundled.Abs

/-!
# Exact values of floating numbers

A finite floating number stands for a rational.  Two of them are compared as integer multiples of
the lesser of their powers of two, which is the order of these rationals.

* `Binary.rational?`, `Binary.value`: the number that a floating number stands for.
* `lt_iff_value`, `le_iff_value`: **comparison is the order of the values.**
-/

namespace ApiScaffold.Number

variable {f : Format} {s t : Bool} {m n : Nat} {e d least : Int} {x y : Binary f}

/-- The number that a floating number stands for. -/
def Binary.rational? : Binary f → Option ℚ
  | .finite s m e => some (if s then -(m * 2 ^ e) else m * 2 ^ e)
  | _ => none

/-- The number that a finite floating number stands for. -/
def Binary.value (x : Binary f) : ℚ := x.rational?.getD 0

/-- A rational with a sign in front. -/
def withSign (s : Bool) (q : ℚ) : ℚ := if s then -q else q

theorem value_finite : (.finite s m e : Binary f).value = withSign s (m * 2 ^ e) := rfl

theorem isFinite_of_isValue (h : IsValue x) : x.isFinite = true := by
  cases x with
  | finite => rfl
  | _ => exact h.elim

theorem exists_finite (h : x.isFinite = true) : ∃ s m e, x = .finite s m e := by
  cases x with
  | finite s m e => exact ⟨s, m, e, rfl⟩
  | _ => cases h

theorem abs_withSign (s : Bool) (q : ℚ) : |withSign s q| = |q| := by
  cases s with
  | false => rfl
  | true => exact abs_neg q

/-- An integer as its magnitude and its sign. -/
theorem withSign_abs (i : Int) : withSign (i < 0) |(i : ℚ)| = i := by
  by_cases hneg : i < 0
  · have hneg' : (i : ℚ) < 0 := by exact_mod_cast hneg
    rw [withSign, decide_eq_true hneg, if_pos rfl, abs_of_neg hneg', neg_neg]
  · have hneg' : (0 : ℚ) ≤ i := by exact_mod_cast not_lt.mp hneg
    rw [withSign, decide_eq_false hneg, if_neg Bool.false_ne_true, abs_of_nonneg hneg']

theorem withSign_mul (s : Bool) (q r : ℚ) : withSign s (q * r) = withSign s q * r := by
  cases s with
  | false => rfl
  | true => exact (neg_mul q r).symm

theorem value_zero (s : Bool) (e : Int) : (.finite s 0 e : Binary f).value = 0 := by
  rw [value_finite, Nat.cast_zero, zero_mul]
  cases s with
  | false => rfl
  | true => exact neg_zero

/-- A number other than zero is none of the two zeros. -/
theorem isZero_of_value_ne (h : x.value ≠ 0) : x.isZero = false := by
  cases x with
  | finite s m e =>
    cases m with
    | zero => exact absurd (value_zero s e) h
    | succ m => rfl
  | _ => rfl

theorem value_abs (h : x.isFinite = true) : x.abs.value = |x.value| := by
  obtain ⟨s, m, e, rfl⟩ := exists_finite h
  rw [value_finite, abs_withSign, abs_of_nonneg (by positivity)]
  rfl

/-- A finite number as a multiple of a power of two that is not above its own. -/
theorem scaledInt_mul (h : least ≤ e) :
    (Binary.scaledInt least s m e : ℚ) * 2 ^ least = (.finite s m e : Binary f).value := by
  have hpow : ((m * Nat.pow 2 (e - least).toNat : Nat) : ℚ) * 2 ^ least = m * 2 ^ e := by
    have hexp : e = ((e - least).toNat : Int) + least := by omega
    conv_rhs => rw [hexp, zpow_add₀ two_ne_zero, zpow_natCast]
    rw [Nat.pow_eq]
    push_cast
    ring
  rw [value_finite, Binary.scaledInt, withSign]
  split
  · rw [Int.cast_neg, Int.cast_natCast, neg_mul, hpow]
  · rw [Int.cast_natCast, hpow]

/-- Numbers are compared as their multiples of a common power of two. -/
theorem compare_finite : (.finite s m e : Binary f).compare (.finite t n d) =
    some (compare (.finite s m e : Binary f).value (.finite t n d : Binary f).value) := by
  have hpow : (0 : ℚ) < 2 ^ min e d := zpow_pos two_pos _
  rw [← scaledInt_mul (min_le_left e d), ← scaledInt_mul (f := f) (min_le_right e d)]
  show some (compare (Binary.scaledInt (min e d) s m e) (Binary.scaledInt (min e d) t n d)) = _
  generalize Binary.scaledInt (min e d) s m e = a
  generalize Binary.scaledInt (min e d) t n d = b
  congr 1
  rcases lt_trichotomy a b with h | h | h
  · have h' : (a : ℚ) * 2 ^ min e d < b * 2 ^ min e d :=
      mul_lt_mul_of_pos_right (by exact_mod_cast h) hpow
    rw [compare_lt_iff_lt.mpr h, compare_lt_iff_lt.mpr h']
  · rw [h, compare_eq_iff_eq.mpr rfl, compare_eq_iff_eq.mpr rfl]
  · have h' : (b : ℚ) * 2 ^ min e d < a * 2 ^ min e d :=
      mul_lt_mul_of_pos_right (by exact_mod_cast h) hpow
    rw [compare_gt_iff_gt.mpr h, compare_gt_iff_gt.mpr h']

theorem lt_iff_value (hx : x.isFinite = true) (hy : y.isFinite = true) :
    x.lt y = true ↔ x.value < y.value := by
  obtain ⟨s, m, e, rfl⟩ := exists_finite hx
  obtain ⟨t, n, d, rfl⟩ := exists_finite hy
  rw [Binary.lt, compare_finite, ← compare_lt_iff_lt]
  simp

theorem le_iff_value (hx : x.isFinite = true) (hy : y.isFinite = true) :
    x.le y = true ↔ x.value ≤ y.value := by
  obtain ⟨s, m, e, rfl⟩ := exists_finite hx
  obtain ⟨t, n, d, rfl⟩ := exists_finite hy
  rw [Binary.le, compare_finite, ← compare_le_iff_le]
  cases compare (.finite s m e : Binary f).value (.finite t n d : Binary f).value <;> simp

end ApiScaffold.Number
