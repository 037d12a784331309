import ApiScaffold.Proofs.Number.Nearest

/-!
# The distance to the nearest integer

A quotient is rounded once.  Its distance to the nearest integer is not rounded at all: the integer
is a floating number, and what is left over is a multiple of the unit of the quotient that is no
greater than the quotient.

* `exists_div`: a quotient is the exact one, rounded.
* `value_sub`: **a difference that a significand can hold is exact.**
* `Remainder`, `value_sub_roundToInteger`: the nearest integer, and what is left over, are exact.
* `lt_abs_sub_iff`: **how far a number is from the integers.**
-/

namespace ApiScaffold.Number

variable {f : Format} {s : Bool} {m n a : Nat} {e b : Int} {q : ℚ}

/-! ## Signs and fractions -/

theorem withSign_div (s t : Bool) (q r : ℚ) :
    withSign (s != t) (q / r) = withSign s q / withSign t r := by
  cases s <;> cases t <;> simp [withSign, neg_div, div_neg]

theorem withSign_sub (s : Bool) (q r : ℚ) : withSign s (q - r) = withSign s q - withSign s r := by
  cases s with
  | false => rfl
  | true =>
    show -(q - r) = -q - -r
    ring

theorem exists_int_withSign (s : Bool) (n : Nat) : ∃ i : Int, (i : ℚ) = withSign s n := by
  cases s with
  | false => exact ⟨n, Int.cast_natCast n⟩
  | true => exact ⟨-n, by rw [Int.cast_neg, Int.cast_natCast]; rfl⟩

theorem ratio_nonneg (x : Nat × Nat) : 0 ≤ ratio x := by
  rw [ratio]
  positivity

theorem ratio_fraction (m : Nat) (e : Int) : ratio (Binary.fraction m e) = m * 2 ^ e := by
  rw [Binary.fraction, ratio_scale_two, ratio_one]

theorem fraction_snd_pos (m : Nat) (e : Int) : 0 < (Binary.fraction m e).2 :=
  scale_snd_pos 2 two_pos Nat.one_pos e

/-! ## Quotients -/

/-- A quotient of finite numbers is the exact quotient, rounded. -/
theorem exists_div {x y : Binary f} (hx : x.isFinite = true) (hy : y.isFinite = true)
    (hzero : y.value ≠ 0) :
    ∃ s z, 0 < z.2 ∧ x.div y = Binary.round s z ∧ withSign s (ratio z) = x.value / y.value := by
  obtain ⟨s, m, e, rfl⟩ := exists_finite hx
  obtain ⟨t, n, d, rfl⟩ := exists_finite hy
  have hn : n ≠ 0 := by
    rintro rfl
    exact hzero (value_zero t d)
  refine ⟨s != t, ((Binary.fraction m (e - d)).1, (Binary.fraction m (e - d)).2 * n),
    Nat.mul_pos (fraction_snd_pos m _) (Nat.pos_of_ne_zero hn), ?_, ?_⟩
  · rw [Binary.div, if_neg hn]
  · have hratio : ratio ((Binary.fraction m (e - d)).1, (Binary.fraction m (e - d)).2 * n) =
        m * 2 ^ e / (n * 2 ^ d) := by
      have hfraction := ratio_fraction m (e - d)
      rw [ratio] at hfraction ⊢
      rw [Nat.cast_mul, div_mul_eq_div_div, hfraction, zpow_sub₀ two_ne_zero]
      ring
    rw [hratio, withSign_div]
    rfl

/-! ## Differences -/

/-- **A difference that a significand can hold is exact.** -/
theorem value_sub {x y : Binary f} (hprecision : 0 < f.precision)
    (hexponents : f.minExponent < f.maxExponent) (hx : x.isFinite = true)
    (hy : y.isFinite = true) (hdifference : |x.value - y.value| = a * 2 ^ b)
    (ha : a < 2 ^ f.precision) (hb : f.minExponent ≤ b)
    (hsmall : |x.value - y.value| < 2 ^ ((f.precision : Int) - 1 + f.maxExponent)) :
    (x.sub y).isFinite = true ∧ (x.sub y).value = x.value - y.value := by
  obtain ⟨s, m, e, rfl⟩ := exists_finite hx
  obtain ⟨t, n, d, rfl⟩ := exists_finite hy
  have hpow : (0 : ℚ) < 2 ^ min e d := zpow_pos two_pos _
  have hscaled : ((Binary.scaledInt (min e d) s m e - Binary.scaledInt (min e d) t n d : Int) : ℚ) *
      2 ^ min e d = (.finite s m e : Binary f).value - (.finite t n d : Binary f).value := by
    rw [Int.cast_sub, sub_mul, scaledInt_mul (min_le_left e d), scaledInt_mul (min_le_right e d)]
  rw [← hscaled] at hdifference hsmall ⊢
  rw [Binary.sub]
  generalize Binary.scaledInt (min e d) s m e - Binary.scaledInt (min e d) t n d = i at *
  generalize min e d = least at *
  by_cases hi : i = 0
  · subst hi
    refine ⟨rfl, ?_⟩
    rw [if_pos rfl, Binary.zero, value_zero, Int.cast_zero, zero_mul]
  have hratio : ratio (Binary.fraction i.natAbs least) = |(i : ℚ) * 2 ^ least| := by
    rw [ratio_fraction, abs_mul, abs_of_pos hpow, Nat.cast_natAbs, Int.cast_abs]
  rw [← hratio] at hdifference hsmall
  have hfinite :
      (Binary.round (i < 0) (Binary.fraction i.natAbs least) : Binary f).isFinite = true :=
    isFinite_of_isValue (isValue_round _ hprecision hexponents (fraction_snd_pos _ _) hsmall)
  rw [if_neg hi]
  refine ⟨hfinite, ?_⟩
  rw [value_round _ hprecision (fraction_snd_pos _ _) hfinite,
    nearest_eq_ratio (fraction_snd_pos _ _) hdifference ha hb, hratio, abs_mul, abs_of_pos hpow,
    withSign_mul, withSign_abs]

/-! ## The nearest integer -/

/-- The magnitude of the nearest integer, and what is left over. -/
structure Remainder (f : Format) (m : Nat) (e : Int) (n : Nat) : Prop where
  low : (n : ℚ) - 1 / 2 ≤ m * 2 ^ e
  high : (m : ℚ) * 2 ^ e < n + 1 / 2
  /-- The integer is a number of the format. -/
  exact : nearest f (n, 1) = n
  /-- What is left over is a number of the format. -/
  rest : ∃ (a : Nat) (b : Int), |(m : ℚ) * 2 ^ e - n| = a * 2 ^ b ∧ a < 2 ^ f.precision ∧
    f.minExponent ≤ b

theorem lt_pow_of_isValue (h : IsValue (.finite s m e : Binary f)) :
    m < 2 ^ f.precision ∧ f.minExponent ≤ e := by
  rcases h with ⟨rfl, rfl⟩ | hproper
  · exact ⟨Nat.two_pow_pos _, le_rfl⟩
  · exact ⟨hproper.bounded, hproper.least⟩

/-- The integer nearest to a fraction, the greater of two. -/
def halfUp (x : Nat × Nat) : Nat := (2 * x.1 + x.2) / (2 * x.2)

theorem roundToInteger_finite : (.finite s m e : Binary f).roundToInteger =
    Binary.round s (halfUp (Binary.fraction m e), 1) := rfl

theorem halfUp_bounds {x : Nat × Nat} (h2 : 0 < x.2) :
    (halfUp x : ℚ) - 1 / 2 ≤ ratio x ∧ ratio x < halfUp x + 1 / 2 := by
  have h2q : (0 : ℚ) < x.2 := by exact_mod_cast h2
  have hlow : halfUp x * (2 * x.2) ≤ 2 * x.1 + x.2 := Nat.div_mul_le_self _ _
  have hhigh : 2 * x.1 + x.2 < (halfUp x + 1) * (2 * x.2) :=
    Nat.lt_mul_of_div_lt (Nat.lt_succ_self _) (by omega)
  have hlowq : (halfUp x * (2 * x.2) : ℚ) ≤ 2 * x.1 + x.2 := by exact_mod_cast hlow
  have hhighq : (2 * x.1 + x.2 : ℚ) < (halfUp x + 1) * (2 * x.2) := by exact_mod_cast hhigh
  rw [ratio]
  constructor
  · rw [le_div_iff₀ h2q]
    linarith
  · rw [div_lt_iff₀ h2q]
    linarith

theorem remainder_of_bounds (hprecision : 0 < f.precision) (hleast : f.minExponent ≤ 0)
    (hvalue : IsValue (.finite s m e : Binary f)) (hlow : (n : ℚ) - 1 / 2 ≤ m * 2 ^ e)
    (hhigh : (m : ℚ) * 2 ^ e < n + 1 / 2) : Remainder f m e n := by
  obtain ⟨hm, he⟩ := lt_pow_of_isValue hvalue
  rcases Int.lt_or_le e 0 with hneg | hpos
  · -- a number with a fraction: both the integer and the rest are small
    have hunit : (0 : ℚ) < 2 ^ e := zpow_pos two_pos _
    have hhalf : (2 : ℚ) ^ e ≤ 1 / 2 := by
      have h := zpow_le_zpow_right₀ (one_le_two (α := ℚ)) (show e ≤ -1 by omega)
      rwa [zpow_neg_one, inv_eq_one_div] at h
    have hmq : (m : ℚ) + 1 ≤ 2 ^ f.precision := by exact_mod_cast hm
    have hn : n ≤ 2 ^ f.precision := by
      have hnq : (n : ℚ) ≤ 2 ^ f.precision := by
        have hmul : (m : ℚ) * 2 ^ e ≤ m * (1 / 2) :=
          mul_le_mul_of_nonneg_left hhalf (Nat.cast_nonneg m)
        have hm0 : (0 : ℚ) ≤ m := Nat.cast_nonneg m
        linarith
      exact_mod_cast hnq
    obtain ⟨j, hj⟩ := Int.eq_ofNat_of_zero_le (show 0 ≤ -e by omega)
    have hscaled : (n : ℚ) = (n * 2 ^ j : Nat) * 2 ^ e := by
      rw [show e = -(j : Int) by omega, zpow_neg, zpow_natCast]
      push_cast
      field_simp
    have hrest : |(m : ℚ) * 2 ^ e - n| = ((m : Int) - (n * 2 ^ j : Nat)).natAbs * 2 ^ e := by
      conv_lhs => rw [hscaled, ← sub_mul, abs_mul, abs_of_pos hunit]
      rw [Nat.cast_natAbs, Int.cast_abs]
      push_cast
      rfl
    have hbounded : |(m : ℚ) * 2 ^ e - n| ≤ m * 2 ^ e := by
      rcases Nat.eq_zero_or_pos n with rfl | hnpos
      · rw [Nat.cast_zero, sub_zero, abs_of_nonneg (by positivity)]
      · have hone : (1 : ℚ) ≤ n := by exact_mod_cast hnpos
        rw [abs_le]
        constructor <;> linarith
    refine ⟨hlow, hhigh, nearest_eq_natCast hprecision hleast Nat.one_pos (ratio_one n) hn,
      _, e, hrest, ?_, he⟩
    have hle : ((m : Int) - (n * 2 ^ j : Nat)).natAbs ≤ m := by
      rw [hrest] at hbounded
      exact_mod_cast le_of_mul_le_mul_right hbounded hunit
    exact hle.trans_lt hm
  · -- an integer: nothing is left over
    obtain ⟨j, rfl⟩ := Int.eq_ofNat_of_zero_le hpos
    have hinteger : (m : ℚ) * 2 ^ (j : Int) = (m * 2 ^ j : Nat) := by
      rw [zpow_natCast]
      push_cast
      rfl
    have hn : n = m * 2 ^ j := by
      rw [hinteger] at hlow hhigh
      have h1 : n < m * 2 ^ j + 1 := by
        have : (n : ℚ) < (m * 2 ^ j : Nat) + 1 := by linarith
        exact_mod_cast this
      have h2 : m * 2 ^ j < n + 1 := by
        have : ((m * 2 ^ j : Nat) : ℚ) < n + 1 := by linarith
        exact_mod_cast this
      omega
    refine ⟨hlow, hhigh, ?_, 0, 0, ?_, Nat.two_pow_pos _, hleast⟩
    · rw [← ratio_one n]
      refine nearest_eq_ratio (b := j) Nat.one_pos ?_ hm (by omega)
      rw [ratio_one, hn, hinteger]
    · rw [hinteger, hn, sub_self, abs_zero, Nat.cast_zero, zero_mul]

/-- **What is left over is exact**, and at most a half. -/
theorem value_sub_roundToInteger {x : Binary f} (hprecision : 0 < f.precision)
    (hleast : f.minExponent ≤ 0) (hexponents : f.minExponent < f.maxExponent) (hvalue : IsValue x)
    (hsmall : |x.value| + 1 < 2 ^ ((f.precision : Int) - 1 + f.maxExponent)) :
    (x.sub x.roundToInteger).isFinite = true ∧
      ∃ i : Int, (x.sub x.roundToInteger).value = x.value - i ∧ |x.value - i| ≤ 1 / 2 := by
  obtain ⟨s, m, e, rfl⟩ := exists_finite (isFinite_of_isValue hvalue)
  obtain ⟨hlow, hhigh⟩ := halfUp_bounds (fraction_snd_pos m e)
  rw [ratio_fraction] at hlow hhigh
  rw [value_finite, abs_withSign, abs_of_nonneg (by positivity)] at hsmall
  rw [roundToInteger_finite]
  generalize halfUp (Binary.fraction m e) = n at *
  obtain ⟨-, -, hexact, a, b, hrest, ha, hb⟩ :=
    remainder_of_bounds hprecision hleast hvalue hlow hhigh
  have hfinite : (Binary.round s (n, 1) : Binary f).isFinite = true := by
    refine isFinite_of_isValue (isValue_round s hprecision hexponents Nat.one_pos ?_)
    rw [ratio_one]
    linarith
  have hinteger : (Binary.round s (n, 1) : Binary f).value = withSign s n := by
    rw [value_round s hprecision Nat.one_pos hfinite, hexact]
  have hdifference : (.finite s m e : Binary f).value - (Binary.round s (n, 1) : Binary f).value =
      withSign s (m * 2 ^ e - n) := by
    rw [hinteger, value_finite, withSign_sub]
  have habs : |(m : ℚ) * 2 ^ e - n| ≤ 1 / 2 := by
    rw [abs_le]
    constructor <;> linarith
  have hbound : |withSign s (m * 2 ^ e - n : ℚ)| <
      2 ^ ((f.precision : Int) - 1 + f.maxExponent) := by
    have hn : (0 : ℚ) ≤ m * 2 ^ e := by positivity
    rw [abs_withSign]
    linarith
  obtain ⟨hfiniteSub, hsub⟩ := value_sub (y := Binary.round s (n, 1)) hprecision hexponents rfl
    hfinite (by rw [hdifference, abs_withSign, hrest]) ha hb (by rw [hdifference]; exact hbound)
  obtain ⟨i, hi⟩ := exists_int_withSign s n
  refine ⟨hfiniteSub, i, ?_, ?_⟩
  · rw [hsub, hinteger, hi]
  · rw [hi, ← hinteger, hdifference, abs_withSign]
    exact habs

/-- No integer is nearer than one that is at most a half away. -/
theorem abs_sub_le_of_half {i : Int} (h : |q - i| ≤ 1 / 2) (k : Int) : |q - i| ≤ |q - k| := by
  rcases eq_or_ne k i with rfl | hne
  · exact le_rfl
  · have hone : (1 : ℚ) ≤ |(k : ℚ) - i| := by exact_mod_cast Int.one_le_abs (sub_ne_zero.mpr hne)
    have htriangle := abs_sub_le (k : ℚ) q i
    rw [abs_sub_comm (k : ℚ) q] at htriangle
    linarith

/-- **How far a number is from the integers**: a tolerance is exceeded exactly if it is for each. -/
theorem lt_abs_sub_iff {x t : Binary f} (hprecision : 0 < f.precision)
    (hleast : f.minExponent ≤ 0) (hexponents : f.minExponent < f.maxExponent) (hvalue : IsValue x)
    (hsmall : |x.value| + 1 < 2 ^ ((f.precision : Int) - 1 + f.maxExponent))
    (ht : t.isFinite = true) :
    t.lt (x.sub x.roundToInteger).abs = true ↔ ∀ k : Int, t.value < |x.value - k| := by
  obtain ⟨hfinite, i, hrest, hhalf⟩ :=
    value_sub_roundToInteger hprecision hleast hexponents hvalue hsmall
  have habs : (x.sub x.roundToInteger).abs.isFinite = true := by
    obtain ⟨s, m, e, heq⟩ := exists_finite hfinite
    rw [heq]
    rfl
  rw [lt_iff_value ht habs, value_abs hfinite, hrest]
  constructor
  · intro h k
    exact h.trans_le (abs_sub_le_of_half hhalf k)
  · intro h
    exact h i

end ApiScaffold.Number
