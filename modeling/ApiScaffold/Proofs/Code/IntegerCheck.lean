import ApiScaffold.Code.Statement
import ApiScaffold.Proofs.Number.Distance

/-!
# Limits of integers

An integer is checked as a floating number, and so are its limit and its factor.  Rounding keeps the
order, so a limit is missed only where the value and the limit are rounded to one number.  Whether a
value is a multiple is read off the quotient, which may be a tolerance away from an integer: the
quotient of a value that is no multiple is at least one part of the factor away, less the error of
the quotient.

* `Passes`: an integer passes a check.
* `asDouble`, `doubleQuotient`: what is compared.
* `passes_maximum_iff`, `passes_minimum_iff`, `passes_multipleOf_iff`: **what the checks compare.**
* `dvd_of_passes`, `passes_of_dvd`: where the check of a factor is exact.
* `integer_checks_iff`: **how far the checks of integers agree with the integers.**
* `inexact_integer_checks`: checks that do not.
-/

namespace ApiScaffold.Code

open Number
open Validation (tolerance)

variable {wire : String} {exclusive : Bool} {v m factor : Int}

/-- An integer passes a check. -/
def Passes (wire : String) (v : Int) (check : Check) : Prop :=
  check.run wire (.integer v) = some (.ok ())

instance (check : Check) : Decidable (Passes wire v check) :=
  inferInstanceAs (Decidable (_ = _))

/-- An integer of 64 bits. -/
def IsLong (i : Int) : Prop := -2 ^ 63 ≤ i ∧ i < 2 ^ 63

instance (i : Int) : Decidable (IsLong i) :=
  inferInstanceAs (Decidable (_ ∧ _))

/-- The number that an integer is compared as. -/
def asDouble (i : Int) : ℚ := (Binary.ofInt i : Binary64).value

/-- The quotient that is compared with integers. -/
def doubleQuotient (v factor : Int) : ℚ :=
  ((Binary.ofInt v : Binary64).div (Binary.ofInt factor)).value

/-! ## Limits -/

theorem natAbs_lt_of_isLong (h : IsLong v) : v.natAbs < 2 ^ 64 := by
  obtain ⟨hlow, hhigh⟩ := h
  omega

theorem isFinite_ofInt (h : IsLong v) : (Binary.ofInt v : Binary64).isFinite = true :=
  isFinite_of_isValue (isValue_ofInt (natAbs_lt_of_isLong h))

theorem asDouble_mono (hv : IsLong v) (hm : IsLong m) (h : v ≤ m) : asDouble v ≤ asDouble m :=
  value_ofInt_mono (natAbs_lt_of_isLong hv) (natAbs_lt_of_isLong hm) h

theorem asDouble_eq (h : v.natAbs ≤ 2 ^ 53) : asDouble v = v := value_ofInt_eq h

/-- Integers are compared rightly, unless they are rounded to one number. -/
theorem asDouble_lt_iff (hv : IsLong v) (hm : IsLong m) :
    asDouble v < asDouble m ↔ v < m ∧ asDouble v ≠ asDouble m := by
  constructor
  · intro h
    refine ⟨lt_of_not_ge fun hle => ?_, h.ne⟩
    exact absurd (asDouble_mono hm hv hle) (not_le.mpr h)
  · rintro ⟨hlt, hne⟩
    exact lt_of_le_of_ne (asDouble_mono hv hm hlt.le) hne

theorem asDouble_le_iff (hv : IsLong v) (hm : IsLong m) :
    asDouble v ≤ asDouble m ↔ v ≤ m ∨ asDouble v = asDouble m := by
  rw [← not_lt, asDouble_lt_iff hm hv, not_and_or, not_lt, not_ne_iff, eq_comm]

theorem not_lt_ofInt_iff (hv : IsLong v) (hm : IsLong m) :
    (Binary.ofInt m : Binary64).lt (.ofInt v) = false ↔ asDouble v ≤ asDouble m := by
  rw [← Bool.not_eq_true, lt_iff_value (isFinite_ofInt hm) (isFinite_ofInt hv), not_lt]
  rfl

theorem not_le_ofInt_iff (hv : IsLong v) (hm : IsLong m) :
    (Binary.ofInt m : Binary64).le (.ofInt v) = false ↔ asDouble v < asDouble m := by
  rw [← Bool.not_eq_true, le_iff_value (isFinite_ofInt hm) (isFinite_ofInt hv), not_le]
  rfl

/-- A value passes where nothing is reported. -/
theorem ite_error_eq_ok {violated : Bool} {violation : Violation} :
    some (if violated then .error violation else .ok () : Except Violation Unit) =
      some (.ok ()) ↔ violated = false := by
  cases violated <;> simp

/-- **What the check of a maximum compares.** -/
theorem passes_maximum_iff (hv : IsLong v) (hm : IsLong m) :
    Passes wire v (.maximum (.ofInt m) exclusive) ↔
      if exclusive then v < m ∧ asDouble v ≠ asDouble m else v ≤ m ∨ asDouble v = asDouble m := by
  refine ite_error_eq_ok.trans ?_
  cases exclusive with
  | false => exact (not_lt_ofInt_iff hv hm).trans (asDouble_le_iff hv hm)
  | true => exact (not_le_ofInt_iff hv hm).trans (asDouble_lt_iff hv hm)

/-- **What the check of a minimum compares.** -/
theorem passes_minimum_iff (hv : IsLong v) (hm : IsLong m) :
    Passes wire v (.minimum (.ofInt m) exclusive) ↔
      if exclusive then m < v ∧ asDouble v ≠ asDouble m else m ≤ v ∨ asDouble v = asDouble m := by
  rw [ne_comm, eq_comm (a := asDouble v)]
  refine ite_error_eq_ok.trans ?_
  cases exclusive with
  | false => exact (not_lt_ofInt_iff hm hv).trans (asDouble_le_iff hm hv)
  | true => exact (not_le_ofInt_iff hm hv).trans (asDouble_lt_iff hm hv)

/-- Integers that a significand can hold are not rounded to one number. -/
theorem asDouble_inj (hv : v.natAbs ≤ 2 ^ 53) (hm : m.natAbs ≤ 2 ^ 53) :
    asDouble v = asDouble m ↔ v = m := by
  rw [asDouble_eq hv, asDouble_eq hm, Int.cast_inj]

/-! ## Factors -/

theorem isLong_of_natAbs_le (h : v.natAbs ≤ 2 ^ 53) : IsLong v := by
  unfold IsLong
  omega

/-- A factor that is not zero is at least one as a floating number. -/
theorem one_le_abs_asDouble (hfactor : IsLong factor) (hzero : factor ≠ 0) :
    1 ≤ |asDouble factor| := by
  have hone : asDouble 1 = 1 := by
    rw [asDouble_eq (by decide), Int.cast_one]
  have hminus : asDouble (-1) = -1 := by
    rw [asDouble_eq (by decide), Int.cast_neg, Int.cast_one]
  rcases lt_or_gt_of_ne hzero with hneg | hpos
  · have h := asDouble_mono hfactor (isLong_of_natAbs_le (by decide)) (show factor ≤ -1 by omega)
    rw [hminus] at h
    exact le_abs.mpr (.inr (by linarith))
  · have h := asDouble_mono (isLong_of_natAbs_le (by decide)) hfactor (show 1 ≤ factor by omega)
    rw [hone] at h
    exact le_abs.mpr (.inl h)

theorem asDouble_ne_zero (hfactor : IsLong factor) (hzero : factor ≠ 0) : asDouble factor ≠ 0 := by
  intro h
  have hone := one_le_abs_asDouble hfactor hzero
  rw [h, abs_zero] at hone
  linarith

/-- What is no greater than any integer in question stays so when it is rounded. -/
theorem nearest_le {x : Nat × Nat} (h2 : 0 < x.2) (h : ratio x ≤ 2 ^ 63) :
    nearest .double x ≤ 2 ^ 63 := by
  have hratio : ratio (2 ^ 63, 1) = (2 : ℚ) ^ 63 := by
    rw [ratio_one]
    norm_num
  have hbound : nearest .double (2 ^ 63, 1) = (2 : ℚ) ^ 63 := by
    rw [nearest_eq_ratio (a := 1) (b := 63) Nat.one_pos ?_ (by decide) (by decide), hratio]
    rw [hratio]
    norm_num
  rw [← hbound]
  exact nearest_mono (by decide) h2 Nat.one_pos (h.trans_eq hratio.symm)

theorem abs_asDouble_le (hv : IsLong v) : |asDouble v| ≤ 2 ^ 63 := by
  rw [asDouble, value_ofInt (natAbs_lt_of_isLong hv), abs_withSign,
    abs_of_nonneg (nearest_nonneg _ _)]
  refine nearest_le Nat.one_pos ?_
  obtain ⟨hlow, hhigh⟩ := hv
  rw [ratio_one]
  exact_mod_cast (show v.natAbs ≤ 2 ^ 63 by omega)

/-- No quotient comes near the end of the format. -/
theorem two_pow_lt : (2 : ℚ) ^ 63 + 1 <
    2 ^ ((Format.double.precision : Int) - 1 + Format.double.maxExponent) := by
  calc (2 : ℚ) ^ 63 + 1 < 2 ^ (64 : Int) := by norm_num
    _ ≤ _ := zpow_le_zpow_right₀ one_le_two (by decide)

/-- The quotient of two integers is their quotient as floating numbers, rounded. -/
theorem exists_doubleQuotient (hv : IsLong v) (hfactor : IsLong factor) (hzero : factor ≠ 0) :
    IsValue ((Binary.ofInt v : Binary64).div (Binary.ofInt factor)) ∧
      |doubleQuotient v factor| ≤ 2 ^ 63 ∧
      ∃ s z, 0 < z.2 ∧ withSign s (ratio z) = asDouble v / asDouble factor ∧
        doubleQuotient v factor = withSign s (nearest .double z) := by
  have hone := one_le_abs_asDouble hfactor hzero
  obtain ⟨s, z, h2, hdiv, hratio⟩ :=
    exists_div (isFinite_ofInt hv) (isFinite_ofInt hfactor) (asDouble_ne_zero hfactor hzero)
  have hsmall : ratio z ≤ 2 ^ 63 := by
    rw [← abs_of_nonneg (ratio_nonneg z), ← abs_withSign s, hratio, abs_div]
    exact (div_le_self (abs_nonneg _) hone).trans (abs_asDouble_le hv)
  have hvalue : IsValue (Binary.round s z : Binary64) := by
    have hend := two_pow_lt
    exact isValue_round s (by decide) (by decide) h2 (by linarith)
  have hquotient : doubleQuotient v factor = withSign s (nearest .double z) := by
    rw [doubleQuotient, hdiv]
    exact value_round s (by decide) h2 (isFinite_of_isValue hvalue)
  refine ⟨hdiv ▸ hvalue, ?_, s, z, h2, hratio, hquotient⟩
  rw [hquotient, abs_withSign, abs_of_nonneg (nearest_nonneg _ _)]
  exact nearest_le h2 hsmall

theorem tolerance_eq : tolerance = .finite false 4835703278458517 (-82) := by decide +kernel

/-- **What the check of a factor compares.** -/
theorem passes_multipleOf_iff (hv : IsLong v) (hfactor : IsLong factor) (hzero : factor ≠ 0) :
    Passes wire v (.multipleOf (.ofInt factor)) ↔
      ∃ k : Int, |doubleQuotient v factor - k| ≤ tolerance.value := by
  obtain ⟨hvalue, hsmall, -⟩ := exists_doubleQuotient hv hfactor hzero
  have hnonzero := isZero_of_value_ne (asDouble_ne_zero hfactor hzero)
  have hend := two_pow_lt
  have hdistance := lt_abs_sub_iff (t := tolerance) (by decide) (by decide) (by decide) hvalue
    (by rw [doubleQuotient] at hsmall; linarith) (by rw [tolerance_eq]; rfl)
  show some (Validation.multipleOf wire (.ofInt v) (.ofInt factor)) = some (.ok ()) ↔ _
  rw [Validation.multipleOf, hnonzero, if_neg Bool.false_ne_true]
  refine ite_error_eq_ok.trans ?_
  rw [← Bool.not_eq_true, hdistance, not_forall]
  simp only [not_lt]
  rfl

theorem tolerance_value : tolerance.value = 4835703278458517 / 2 ^ 82 := by
  rw [tolerance_eq, value_finite]
  norm_num [withSign]

/-- A value and a factor for which the tolerance and the error of the quotient are small are not
rounded. -/
theorem natAbs_le_of_small (hsmall : tolerance.value * |(factor : ℚ)| + |(v : ℚ)| / 2 ^ 53 < 1) :
    v.natAbs ≤ 2 ^ 53 ∧ factor.natAbs ≤ 2 ^ 53 := by
  rw [tolerance_value, ← Int.cast_abs, ← Int.cast_abs, ← Nat.cast_natAbs,
    ← Nat.cast_natAbs] at hsmall
  have hv0 : (0 : ℚ) ≤ v.natAbs := Nat.cast_nonneg _
  have hfactor0 : (0 : ℚ) ≤ factor.natAbs := Nat.cast_nonneg _
  have hv : (v.natAbs : ℚ) ≤ 2 ^ 53 := by linarith
  have hfactor : (factor.natAbs : ℚ) ≤ 2 ^ 53 := by linarith
  exact ⟨by exact_mod_cast hv, by exact_mod_cast hfactor⟩

/-- A multiple has an exact quotient. -/
theorem doubleQuotient_of_dvd (hv : v.natAbs ≤ 2 ^ 53) (hfactor : IsLong factor)
    (hzero : factor ≠ 0) {k : Int} (hk : v = factor * k) : doubleQuotient v factor = k := by
  obtain ⟨-, -, s, z, h2, hratio, hquotient⟩ :=
    exists_doubleQuotient (isLong_of_natAbs_le hv) hfactor hzero
  have hexact : asDouble v / asDouble factor = k := by
    rcases eq_or_ne k 0 with rfl | hk0
    · rw [hk, mul_zero, asDouble_eq (by decide), Int.cast_zero, zero_div]
    · have hfactor53 : factor.natAbs ≤ 2 ^ 53 := by
        refine le_trans ?_ hv
        rw [hk, Int.natAbs_mul]
        exact Nat.le_mul_of_pos_right _ (Int.natAbs_pos.mpr hk0)
      rw [asDouble_eq hv, asDouble_eq hfactor53, hk, Int.cast_mul]
      exact mul_div_cancel_left₀ _ (by exact_mod_cast hzero)
  have hk53 : k.natAbs ≤ 2 ^ 53 := by
    refine le_trans ?_ hv
    rw [hk, Int.natAbs_mul]
    exact Nat.le_mul_of_pos_left _ (Int.natAbs_pos.mpr hzero)
  have hnat : ratio z = k.natAbs := by
    rw [← abs_of_nonneg (ratio_nonneg z), ← abs_withSign s, hratio, hexact, Nat.cast_natAbs,
      Int.cast_abs]
  rw [hquotient, nearest_eq_natCast (by decide) (by decide) h2 hnat hk53, ← hnat, hratio, hexact]

/-- A multiple that a significand can hold passes. -/
theorem passes_of_dvd (hv : v.natAbs ≤ 2 ^ 53) (hfactor : IsLong factor) (hzero : factor ≠ 0)
    (hdvd : factor ∣ v) : Passes wire v (.multipleOf (.ofInt factor)) := by
  obtain ⟨k, hk⟩ := hdvd
  refine (passes_multipleOf_iff (isLong_of_natAbs_le hv) hfactor hzero).mpr ⟨k, ?_⟩
  rw [doubleQuotient_of_dvd hv hfactor hzero hk, sub_self, abs_zero, tolerance_value]
  positivity

/-- The error of a quotient of integers that are not rounded. -/
theorem abs_doubleQuotient_sub_le (hv : v.natAbs ≤ 2 ^ 53) (hfactor : factor.natAbs ≤ 2 ^ 53)
    (hzero : factor ≠ 0) :
    |doubleQuotient v factor - v / factor| ≤ |(v : ℚ) / factor| / 2 ^ 53 := by
  rcases eq_or_ne v 0 with rfl | hv0
  · rw [doubleQuotient_of_dvd hv (isLong_of_natAbs_le hfactor) hzero (mul_zero factor).symm]
    simp
  obtain ⟨-, -, s, z, h2, hratio, hquotient⟩ :=
    exists_doubleQuotient (isLong_of_natAbs_le hv) (isLong_of_natAbs_le hfactor) hzero
  rw [asDouble_eq hv, asDouble_eq hfactor] at hratio
  have habs : ratio z = |(v : ℚ) / factor| := by
    rw [← abs_of_nonneg (ratio_nonneg z), ← abs_withSign s, hratio]
  have hone : (1 : ℚ) ≤ |(v : ℚ)| := by exact_mod_cast Int.one_le_abs hv0
  have hfactorq : |(factor : ℚ)| ≤ 2 ^ 53 := by
    rw [← Int.cast_abs, ← Nat.cast_natAbs]
    exact_mod_cast hfactor
  have hpos : 0 < |(factor : ℚ)| := abs_pos.mpr (by exact_mod_cast hzero)
  -- the quotient is far above the least numbers of the format
  have hnormal : (2 : ℚ) ^ ((Format.double.precision : Int) - 1 + Format.double.minExponent) ≤
      ratio z := by
    calc (2 : ℚ) ^ ((Format.double.precision : Int) - 1 + Format.double.minExponent)
        ≤ 2 ^ (-53 : Int) := zpow_le_zpow_right₀ one_le_two (by decide)
      _ = 1 / 2 ^ 53 := by norm_num
      _ ≤ 1 / |(factor : ℚ)| := one_div_le_one_div_of_le hpos hfactorq
      _ ≤ |(v : ℚ)| / |(factor : ℚ)| := div_le_div_of_nonneg_right hone hpos.le
      _ = ratio z := by rw [habs, abs_div]
  rw [← habs, hquotient, ← hratio, ← withSign_sub, abs_withSign]
  exact abs_nearest_sub_le_ratio h2 hnormal

/-- A small value passes the check of a small factor only if it is a multiple. -/
theorem dvd_of_passes (hzero : factor ≠ 0)
    (hsmall : tolerance.value * |(factor : ℚ)| + |(v : ℚ)| / 2 ^ 53 < 1)
    (hpasses : Passes wire v (.multipleOf (.ofInt factor))) : factor ∣ v := by
  obtain ⟨hv, hfactor⟩ := natAbs_le_of_small hsmall
  obtain ⟨k, hk⟩ := (passes_multipleOf_iff (isLong_of_natAbs_le hv) (isLong_of_natAbs_le hfactor)
    hzero).mp hpasses
  have herror := abs_doubleQuotient_sub_le hv hfactor hzero
  have hfactorq : (factor : ℚ) ≠ 0 := by exact_mod_cast hzero
  have hpos : 0 < |(factor : ℚ)| := abs_pos.mpr hfactorq
  have hdistance : |(v : ℚ) / factor - k| ≤ tolerance.value + |(v : ℚ) / factor| / 2 ^ 53 := by
    have htriangle := abs_sub_le ((v : ℚ) / factor) (doubleQuotient v factor) k
    rw [abs_sub_comm ((v : ℚ) / factor) (doubleQuotient v factor)] at htriangle
    linarith
  have hrest : |((v - k * factor : Int) : ℚ)| < 1 := by
    calc |((v - k * factor : Int) : ℚ)| = |(v : ℚ) / factor - k| * |(factor : ℚ)| := by
          rw [← abs_mul, sub_mul, div_mul_cancel₀ _ hfactorq]
          push_cast
          rfl
      _ ≤ (tolerance.value + |(v : ℚ) / factor| / 2 ^ 53) * |(factor : ℚ)| :=
          mul_le_mul_of_nonneg_right hdistance hpos.le
      _ = tolerance.value * |(factor : ℚ)| + |(v : ℚ)| / 2 ^ 53 := by
          rw [abs_div]
          field_simp
      _ < 1 := hsmall
  have hnone : v - k * factor = 0 := by
    have hrest : |v - k * factor| < 1 := by exact_mod_cast hrest
    exact Int.abs_lt_one_iff.mp hrest
  exact ⟨k, by rw [mul_comm]; omega⟩

/-! ## All checks -/

/-- **How far the checks of integers agree with the integers.**  A value passes a maximum or a
minimum as the integers say, unless it and the limit are rounded to one number, and then it passes
exactly if the limit is not excluded; integers up to 2⁵³ are not rounded.  A value passes a factor
exactly if the quotient of the two floating numbers, which is rounded, is at most the tolerance away
from an integer.  So it passes if it is a multiple and at most 2⁵³, and it passes only then if the
tolerance times the factor and the value times 2⁻⁵³ are less than one together. -/
theorem integer_checks_iff (wire : String) (exclusive : Bool) (hv : IsLong v) (hm : IsLong m)
    (hfactor : IsLong factor) (hzero : factor ≠ 0) :
    (Passes wire v (.maximum (.ofInt m) exclusive) ↔
        if exclusive then v < m ∧ asDouble v ≠ asDouble m else v ≤ m ∨ asDouble v = asDouble m) ∧
      (Passes wire v (.minimum (.ofInt m) exclusive) ↔
        if exclusive then m < v ∧ asDouble v ≠ asDouble m else m ≤ v ∨ asDouble v = asDouble m) ∧
      (Passes wire v (.multipleOf (.ofInt factor)) ↔
        ∃ k : Int, |doubleQuotient v factor - k| ≤ tolerance.value) ∧
      (v.natAbs ≤ 2 ^ 53 → m.natAbs ≤ 2 ^ 53 →
        (Passes wire v (.maximum (.ofInt m) exclusive) ↔ if exclusive then v < m else v ≤ m) ∧
        (Passes wire v (.minimum (.ofInt m) exclusive) ↔ if exclusive then m < v else m ≤ v)) ∧
      (v.natAbs ≤ 2 ^ 53 → factor ∣ v → Passes wire v (.multipleOf (.ofInt factor))) ∧
      (tolerance.value * |(factor : ℚ)| + |(v : ℚ)| / 2 ^ 53 < 1 →
        (Passes wire v (.multipleOf (.ofInt factor)) ↔ factor ∣ v)) := by
  refine ⟨passes_maximum_iff hv hm, passes_minimum_iff hv hm,
    passes_multipleOf_iff hv hfactor hzero, fun hv53 hm53 => ⟨?_, ?_⟩,
    fun hv53 hdvd => passes_of_dvd hv53 hfactor hzero hdvd, fun hsmall => ⟨?_, fun hdvd => ?_⟩⟩
  · rw [passes_maximum_iff hv hm, ne_eq, asDouble_inj hv53 hm53]
    cases exclusive <;> simp <;> omega
  · rw [passes_minimum_iff hv hm, ne_eq, asDouble_inj hv53 hm53]
    cases exclusive <;> simp <;> omega
  · exact dvd_of_passes hzero hsmall
  · exact passes_of_dvd (natAbs_le_of_small hsmall).1 hfactor hzero hdvd

/-- Twelve is checked as the integers say. -/
theorem integer_checks_iff_twelve :
    Passes "n" 12 (.maximum (.ofInt 12) false) ∧ ¬Passes "n" 12 (.minimum (.ofInt 12) true) ∧
      Passes "n" 12 (.multipleOf (.ofInt 4)) ∧ ¬Passes "n" 12 (.multipleOf (.ofInt 5)) := by
  have htwelve : IsLong 12 := by decide
  have hfour : IsLong 4 := by decide
  have hfive : IsLong 5 := by decide
  obtain ⟨-, -, -, hlimits, hmultiple, -⟩ :=
    integer_checks_iff "n" false htwelve htwelve hfour (by decide)
  obtain ⟨-, -, -, hexcluded, -, hfactor⟩ :=
    integer_checks_iff "n" true htwelve htwelve hfive (by decide)
  have hsmall : tolerance.value * |((5 : Int) : ℚ)| + |((12 : Int) : ℚ)| / 2 ^ 53 < 1 := by
    rw [tolerance_value]
    norm_num
  refine ⟨(hlimits (by decide) (by decide)).1.mpr le_rfl, ?_, hmultiple (by decide) (by decide), ?_⟩
  · rw [(hexcluded (by decide) (by decide)).2]
    decide
  · rw [hfactor hsmall]
    decide

/-- **Checks that do not agree with the integers**: of values next to 2⁵³, and of a large factor. -/
theorem inexact_integer_checks :
    (Passes "n" (2 ^ 53 + 1) (.maximum (.ofInt (2 ^ 53)) false) ∧ ¬(2 ^ 53 + 1 : Int) ≤ 2 ^ 53) ∧
      (¬Passes "n" (2 ^ 53) (.maximum (.ofInt (2 ^ 53 + 1)) true) ∧ (2 ^ 53 : Int) < 2 ^ 53 + 1) ∧
      (Passes "n" 1 (.multipleOf (.ofInt (10 ^ 10))) ∧ ¬(10 ^ 10 : Int) ∣ 1) ∧
      ¬Passes "n" (2 ^ 53 + 1) (.multipleOf (.ofInt 3)) ∧ (3 : Int) ∣ 2 ^ 53 + 1 := by
  decide +kernel

end ApiScaffold.Code
