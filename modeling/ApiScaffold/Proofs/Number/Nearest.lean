import ApiScaffold.Proofs.Number.Value

/-!
# The number that a fraction is rounded to

On the grid of its exponent a fraction is rounded to the nearest multiple of the unit, so the error
is at most half a unit.  Everything else follows from the grid: a multiple of a unit that is not too
fine is rounded to itself, and a greater fraction is rounded on the same grid or on a coarser one,
which begins where the finer one ends.

* `isNearest_roundQuotient`, `IsNearest.mono`: rounding to an integer.
* `nearest`: the magnitude that a fraction is rounded to; `value_round`.
* `abs_nearest_sub_le`: **the error of rounding.**
* `nearest_eq_ratio`: **what is rounded to itself.**
* `nearest_mono`: **rounding keeps the order.**
* `value_ofInt_mono`, `value_ofInt_eq`: integers as floating numbers.
-/

namespace ApiScaffold.Number

variable {f : Format} {n d k l a : Nat} {b : Int} {x y : Nat × Nat} {q r : ℚ}

/-! ## The nearest integer -/

/-- An integer is at most half away from a rational, an odd one less. -/
structure IsNearest (q : ℚ) (k : Nat) : Prop where
  low : (k : ℚ) - 1 / 2 ≤ q
  high : q ≤ k + 1 / 2
  odd : k % 2 = 1 → (k : ℚ) - 1 / 2 < q ∧ q < k + 1 / 2

theorem isNearest_self (k : Nat) : IsNearest k k :=
  ⟨by linarith, by linarith, fun _ => ⟨by linarith, by linarith⟩⟩

theorem IsNearest.mono (hk : IsNearest q k) (hl : IsNearest r l) (h : q ≤ r) : k ≤ l := by
  by_contra hlt
  -- otherwise both lie in the middle between two integers, one of which is odd
  have hnext : (l : ℚ) + 1 ≤ k := by exact_mod_cast Nat.lt_of_not_le hlt
  have hlow := hk.low
  have hhigh := hl.high
  have heq : (k : ℚ) = l + 1 := by linarith
  have hparity : k % 2 = 1 ∨ l % 2 = 1 := by
    have heq : k = l + 1 := by exact_mod_cast heq
    omega
  rcases hparity with hodd | hodd
  · have := (hk.odd hodd).1
    linarith
  · have := (hl.odd hodd).2
    linarith

/-- The bounds of the nearest integer without fractions. -/
theorem isNearest_of_nat (hd : 0 < d) (hlow : 2 * (k * d) ≤ 2 * n + d)
    (hhigh : 2 * n ≤ 2 * (k * d) + d)
    (hodd : k % 2 = 1 → 2 * (k * d) < 2 * n + d ∧ 2 * n < 2 * (k * d) + d) :
    IsNearest (n / d) k := by
  have hdq : (0 : ℚ) < d := by exact_mod_cast hd
  have hlow' : (2 * (k * d) : ℚ) ≤ 2 * n + d := by exact_mod_cast hlow
  have hhigh' : (2 * n : ℚ) ≤ 2 * (k * d) + d := by exact_mod_cast hhigh
  refine ⟨?_, ?_, fun h => ?_⟩
  · rw [le_div_iff₀ hdq]
    linarith
  · rw [div_le_iff₀ hdq]
    linarith
  · rw [lt_div_iff₀ hdq, div_lt_iff₀ hdq]
    obtain ⟨h1, h2⟩ := hodd h
    have h1' : (2 * (k * d) : ℚ) < 2 * n + d := by exact_mod_cast h1
    have h2' : (2 * n : ℚ) < 2 * (k * d) + d := by exact_mod_cast h2
    constructor <;> linarith

/-- A quotient is rounded to the nearest integer. -/
theorem isNearest_roundQuotient (hd : 0 < d) : IsNearest (n / d) (roundQuotient n d) := by
  have hn := Nat.div_add_mod n d
  have hr := Nat.mod_lt n hd
  rw [Nat.mul_comm] at hn
  unfold roundQuotient
  dsimp only
  generalize n / d = a at *
  generalize n % d = r at *
  split
  next hup =>
    rw [Bool.or_eq_true, Bool.and_eq_true, decide_eq_true_eq, beq_iff_eq, beq_iff_eq] at hup
    refine isNearest_of_nat hd ?_ ?_ fun hodd => ?_ <;> rw [Nat.add_mul] <;> omega
  next hdown =>
    rw [Bool.or_eq_true, Bool.and_eq_true, decide_eq_true_eq, beq_iff_eq, beq_iff_eq] at hdown
    refine isNearest_of_nat hd ?_ ?_ fun hodd => ?_ <;> omega

/-! ## Rounding on a grid -/

/-- The significand that a fraction gets on a grid. -/
theorem isNearest_scale (h2 : 0 < x.2) (e : Int) :
    IsNearest (ratio x / 2 ^ e) (roundQuotient (scale 2 (-e) x).1 (scale 2 (-e) x).2) := by
  have hscaled : ((scale 2 (-e) x).1 : ℚ) / (scale 2 (-e) x).2 = ratio x / 2 ^ e := by
    rw [← ratio, ratio_scale_two, zpow_neg, div_eq_mul_inv]
  rw [← hscaled]
  exact isNearest_roundQuotient (scale_snd_pos 2 two_pos h2 _)

/-- The significand of a fraction on its grid. -/
def roundSignificand (f : Format) (x : Nat × Nat) : Nat :=
  roundQuotient (scale 2 (-roundExponent f x) x).1 (scale 2 (-roundExponent f x) x).2

/-- The magnitude of the number that a fraction is rounded to. -/
def nearest (f : Format) (x : Nat × Nat) : ℚ := roundSignificand f x * 2 ^ roundExponent f x

theorem isNearest_roundSignificand (h2 : 0 < x.2) :
    IsNearest (ratio x / 2 ^ roundExponent f x) (roundSignificand f x) :=
  isNearest_scale h2 _

theorem ratio_of_fst_eq_zero (h1 : x.1 = 0) : ratio x = 0 := by
  rw [ratio, h1, Nat.cast_zero, zero_div]

theorem nearest_of_fst_eq_zero (h1 : x.1 = 0) (h2 : 0 < x.2) : nearest f x = 0 := by
  have hnearest := isNearest_roundSignificand (f := f) h2
  rw [ratio_of_fst_eq_zero h1, zero_div] at hnearest
  have hzero : roundSignificand f x ≤ 0 := hnearest.mono (isNearest_self 0) Nat.cast_zero.ge
  rw [nearest, Nat.le_zero.mp hzero, Nat.cast_zero, zero_mul]

/-- A significand that is carried over to the next exponent denotes the same number. -/
theorem value_round (s : Bool) (hprecision : 0 < f.precision) (h2 : 0 < x.2)
    (hfinite : (Binary.round s x : Binary f).isFinite = true) :
    (Binary.round s x : Binary f).value = withSign s (nearest f x) := by
  by_cases h1 : x.1 = 0
  · rw [nearest_of_fst_eq_zero h1 h2, Binary.round, if_pos h1, Binary.zero, value_finite,
      Nat.cast_zero, zero_mul]
  have hround := round_of_quotient (f := f) s h1 (k := roundSignificand f x) rfl
  rw [hround] at hfinite ⊢
  split at hfinite
  · next hcarried =>
    split at hfinite
    · cases hfinite
    · next hsmall =>
      rw [if_pos hcarried, if_neg hsmall, value_finite, nearest, hcarried, pow_precision hprecision,
        zpow_add_one₀ two_ne_zero]
      push_cast
      congr 1
      ring
  · next hcarried =>
    split at hfinite
    · cases hfinite
    · next hsmall =>
      rw [if_neg hcarried, if_neg hsmall, value_finite]
      rfl

/-- **A fraction is rounded to a number that is at most half a unit away.** -/
theorem abs_nearest_sub_le (h2 : 0 < x.2) :
    |nearest f x - ratio x| ≤ 2 ^ roundExponent f x / 2 := by
  have hunit : (0 : ℚ) < 2 ^ roundExponent f x := zpow_pos two_pos _
  obtain ⟨hlow, hhigh, -⟩ := isNearest_roundSignificand (f := f) h2
  rw [le_div_iff₀ hunit] at hlow
  rw [div_le_iff₀ hunit] at hhigh
  rw [nearest, abs_le]
  constructor <;> linarith

/-- The error of a fraction that fills up a grid, relative to the fraction. -/
theorem abs_nearest_sub_le_ratio (h2 : 0 < x.2)
    (hx : 2 ^ ((f.precision : Int) - 1 + f.minExponent) ≤ ratio x) :
    |nearest f x - ratio x| ≤ ratio x / 2 ^ f.precision := by
  have h1 : x.1 ≠ 0 := by
    intro h1
    rw [ratio_of_fst_eq_zero h1] at hx
    exact absurd hx (not_le.mpr (zpow_pos two_pos _))
  obtain ⟨-, -, hfilled⟩ := hasGrid_roundExponent (f := f) h1 h2
  have hfilled : (2 : ℚ) ^ ((f.precision : Int) - 1 + roundExponent f x) ≤ ratio x := by
    rcases hfilled with hleast | hfilled
    · rw [hleast]
      exact hx
    · exact hfilled
  refine (abs_nearest_sub_le h2).trans ?_
  rw [le_div_iff₀ (by positivity)]
  refine le_trans (le_of_eq ?_) hfilled
  have hexp : (f.precision : Int) - 1 + roundExponent f x =
      f.precision + roundExponent f x - 1 := by
    ring
  rw [hexp, zpow_sub_one₀ two_ne_zero, zpow_add₀ two_ne_zero, zpow_natCast]
  ring

/-- **A multiple of a unit that is not too fine is rounded to itself.** -/
theorem nearest_eq_ratio (h2 : 0 < x.2) (hx : ratio x = a * 2 ^ b) (ha : a < 2 ^ f.precision)
    (hb : f.minExponent ≤ b) : nearest f x = ratio x := by
  by_cases h1 : x.1 = 0
  · rw [nearest_of_fst_eq_zero h1 h2, ratio_of_fst_eq_zero h1]
  obtain ⟨-, -, hfilled⟩ := hasGrid_roundExponent (f := f) h1 h2
  have haq : (a : ℚ) < 2 ^ f.precision := by exact_mod_cast ha
  -- the grid of the fraction is not coarser than the unit
  have hcoarse : roundExponent f x ≤ b := by
    rcases hfilled with hleast | hfilled
    · exact hleast ▸ hb
    · have hlt : (2 : ℚ) ^ ((f.precision : Int) - 1 + roundExponent f x) <
          2 ^ ((f.precision : Int) + b) := by
        refine hfilled.trans_lt ?_
        rw [hx, zpow_add₀ two_ne_zero, zpow_natCast]
        exact mul_lt_mul_of_pos_right haq (zpow_pos two_pos _)
      have := (zpow_lt_zpow_iff_right₀ one_lt_two).mp hlt
      omega
  obtain ⟨j, hj⟩ := Int.eq_ofNat_of_zero_le (show 0 ≤ b - roundExponent f x by omega)
  have hscaled : ratio x = (a * 2 ^ j : Nat) * 2 ^ roundExponent f x := by
    rw [hx, show b = j + roundExponent f x by omega, zpow_add₀ two_ne_zero, zpow_natCast]
    push_cast
    ring
  have hunit : (0 : ℚ) < 2 ^ roundExponent f x := zpow_pos two_pos _
  have hnearest := isNearest_roundSignificand (f := f) h2
  rw [hscaled, mul_div_cancel_right₀ _ hunit.ne'] at hnearest
  have hself := isNearest_self (a * 2 ^ j)
  have hk : roundSignificand f x = a * 2 ^ j :=
    le_antisymm (hnearest.mono hself le_rfl) (hself.mono hnearest le_rfl)
  rw [nearest, hk, hscaled]

/-! ## The order -/

/-- The significand of a fraction does not fill up the grid more than once. -/
theorem roundSignificand_le (h1 : x.1 ≠ 0) (h2 : 0 < x.2) :
    roundSignificand f x ≤ 2 ^ f.precision := by
  have hunit : (0 : ℚ) < 2 ^ roundExponent f x := zpow_pos two_pos _
  refine (isNearest_roundSignificand h2).mono (isNearest_self _) ?_
  rw [div_le_iff₀ hunit, Nat.cast_pow, Nat.cast_ofNat, ← zpow_natCast, ← zpow_add₀ two_ne_zero]
  exact (hasGrid_roundExponent h1 h2).below.le

/-- The significand of a fraction that fills up its grid. -/
theorem le_roundSignificand (hprecision : 0 < f.precision) (h2 : 0 < x.2)
    (hfilled : (2 : ℚ) ^ ((f.precision : Int) - 1 + roundExponent f x) ≤ ratio x) :
    2 ^ (f.precision - 1) ≤ roundSignificand f x := by
  have hunit : (0 : ℚ) < 2 ^ roundExponent f x := zpow_pos two_pos _
  refine (isNearest_self _).mono (isNearest_roundSignificand h2) ?_
  rw [le_div_iff₀ hunit, Nat.cast_pow, Nat.cast_ofNat, ← zpow_natCast, ← zpow_add₀ two_ne_zero,
    Nat.cast_sub hprecision, Nat.cast_one]
  exact hfilled

theorem nearest_nonneg (f : Format) (x : Nat × Nat) : 0 ≤ nearest f x := by
  rw [nearest]
  positivity

/-- **Rounding keeps the order.** -/
theorem nearest_mono (hprecision : 0 < f.precision) (hx : 0 < x.2) (hy : 0 < y.2)
    (h : ratio x ≤ ratio y) : nearest f x ≤ nearest f y := by
  by_cases hx1 : x.1 = 0
  · rw [nearest_of_fst_eq_zero hx1 hx]
    exact nearest_nonneg f y
  have hy1 : y.1 ≠ 0 := by
    intro hy1
    rw [ratio_of_fst_eq_zero hy1, ratio] at h
    have hpos : (0 : ℚ) < x.1 / x.2 := by
      have : 0 < x.1 := Nat.pos_of_ne_zero hx1
      positivity
    exact absurd h (not_le.mpr hpos)
  obtain ⟨hleast, hbelow, hfilled⟩ := hasGrid_roundExponent (f := f) hx1 hx
  obtain ⟨hleast', hbelow', hfilled'⟩ := hasGrid_roundExponent (f := f) hy1 hy
  rcases lt_trichotomy (roundExponent f x) (roundExponent f y) with hlt | heq | hgt
  · -- the finer grid ends before the coarser one begins
    have hfilled' := hfilled'.resolve_left (by omega)
    have hlow : (2 ^ (f.precision - 1) : ℚ) ≤ roundSignificand f y := by
      exact_mod_cast le_roundSignificand hprecision hy hfilled'
    have hhigh : (roundSignificand f x : ℚ) ≤ 2 ^ f.precision := by
      exact_mod_cast roundSignificand_le hx1 hx
    calc nearest f x ≤ 2 ^ f.precision * 2 ^ roundExponent f x :=
          mul_le_mul_of_nonneg_right hhigh (zpow_pos two_pos _).le
      _ = 2 ^ ((f.precision : Int) + roundExponent f x) := by
          rw [zpow_add₀ two_ne_zero, zpow_natCast]
      _ ≤ 2 ^ (((f.precision - 1 : Nat) : Int) + roundExponent f y) :=
          zpow_le_zpow_right₀ one_le_two (by omega)
      _ = 2 ^ (f.precision - 1) * 2 ^ roundExponent f y := by
          rw [zpow_add₀ two_ne_zero, zpow_natCast]
      _ ≤ nearest f y := mul_le_mul_of_nonneg_right hlow (zpow_pos two_pos _).le
  · have hunit : (0 : ℚ) < 2 ^ roundExponent f y := zpow_pos two_pos _
    have hx' := isNearest_roundSignificand (f := f) hx
    rw [heq] at hx'
    have hle : (roundSignificand f x : ℚ) ≤ roundSignificand f y := by
      have hy' := isNearest_roundSignificand (f := f) hy
      exact_mod_cast hx'.mono hy' (div_le_div_of_nonneg_right h hunit.le)
    rw [nearest, nearest, heq]
    exact mul_le_mul_of_nonneg_right hle hunit.le
  · have hfilled := hfilled.resolve_left (by omega)
    have := (zpow_lt_zpow_iff_right₀ one_lt_two).mp ((hfilled.trans h).trans_lt hbelow')
    omega

/-! ## Integers -/

theorem ratio_one (n : Nat) : ratio (n, 1) = n := by
  rw [ratio, Nat.cast_one, div_one]

/-- A natural number that a significand can hold is rounded to itself. -/
theorem nearest_eq_natCast (hprecision : 0 < f.precision) (hleast : f.minExponent ≤ 0)
    (h2 : 0 < x.2) (hx : ratio x = n) (hn : n ≤ 2 ^ f.precision) : nearest f x = n := by
  rw [← hx]
  rcases Nat.lt_or_eq_of_le hn with hlt | rfl
  · refine nearest_eq_ratio h2 ?_ hlt hleast
    rw [hx, zpow_zero, mul_one]
  · have hone : 1 < 2 ^ f.precision := Nat.one_lt_two_pow hprecision.ne'
    refine nearest_eq_ratio (b := f.precision) h2 ?_ hone (by omega)
    rw [hx, zpow_natCast]
    push_cast
    ring

/-- Integers of 64 bits as floating numbers. -/
theorem value_ofInt {i : Int} (h : i.natAbs < 2 ^ 64) :
    (Binary.ofInt i : Binary64).value = withSign (i < 0) (nearest .double (i.natAbs, 1)) :=
  value_round _ (by decide) Nat.one_pos (isFinite_of_isValue (isValue_ofInt h))

/-- A lesser integer is no greater as a floating number. -/
theorem value_ofInt_mono {i j : Int} (hi : i.natAbs < 2 ^ 64) (hj : j.natAbs < 2 ^ 64)
    (h : i ≤ j) : (Binary.ofInt i : Binary64).value ≤ (Binary.ofInt j : Binary64).value := by
  rw [value_ofInt hi, value_ofInt hj]
  have hmono : ∀ {k l : Nat}, k ≤ l → nearest .double (k, 1) ≤ nearest .double (l, 1) := by
    intro k l hkl
    refine nearest_mono (by decide) Nat.one_pos Nat.one_pos ?_
    rw [ratio_one, ratio_one]
    exact_mod_cast hkl
  have hi0 := nearest_nonneg .double (i.natAbs, 1)
  have hj0 := nearest_nonneg .double (j.natAbs, 1)
  by_cases hineg : i < 0 <;> by_cases hjneg : j < 0 <;>
    simp only [withSign, hineg, hjneg, decide_true, decide_false, if_true, Bool.false_eq_true,
      if_false]
  · exact neg_le_neg (hmono (by omega))
  · linarith
  · omega
  · exact hmono (by omega)

/-- An integer that a significand can hold is kept. -/
theorem value_ofInt_eq {i : Int} (h : i.natAbs ≤ 2 ^ 53) :
    (Binary.ofInt i : Binary64).value = i := by
  rw [value_ofInt (lt_of_le_of_lt h (by decide)),
    nearest_eq_natCast (by decide) (by decide) Nat.one_pos (ratio_one _) h, Nat.cast_natAbs,
    Int.cast_abs, withSign_abs]

end ApiScaffold.Number
