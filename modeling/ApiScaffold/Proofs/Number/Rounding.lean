import ApiScaffold.Number.Binary
import Mathlib.Algebra.Order.Field.Power
import Mathlib.Algebra.Order.Field.Rat
import Mathlib.Tactic.FieldSimp
import Mathlib.Tactic.Linarith
import Mathlib.Tactic.Positivity
import Mathlib.Tactic.Ring

/-!
# Rounding to a floating number

The reals that round to a floating number lie around it, up to the middle between it and its two
neighbours.  The neighbours are one unit of the last place away, except below a power of two, where
the neighbour is only half a unit away.  A fraction is rounded on the grid of an exponent that is
found from the fraction alone; it is the exponent of the number, or for the fractions just below a
power of two the one below, where the significand is carried over.

* `Proper`: the significands and exponents that a format has.
* `RoundsTo`: the fractions around a number.
* `roundExponent_spec`, `exponent_unique`: the exponent of the grid is known from where the fraction
  lies.
* `round_eq`: **a fraction around a number is rounded to the number.**
* `IsValue`: the finite numbers of a format; `isValue_round`: fractions are rounded to these.
-/

namespace ApiScaffold.Number

variable {f : Format} {m n d k : Nat} {e : Int} {x : Nat × Nat} {q : ℚ}

/-! ## Fractions -/

/-- The number that a fraction denotes. -/
def ratio (x : Nat × Nat) : ℚ := x.1 / x.2

theorem scale_snd_pos (base : Nat) (hbase : 0 < base) (hx : 0 < x.2) (e : Int) :
    0 < (scale base e x).2 := by
  unfold scale
  split
  · exact hx
  · exact Nat.mul_pos hx (Nat.pow_pos hbase)

theorem ratio_scale {base : Nat} (hbase : 0 < base) (x : Nat × Nat) (e : Int) :
    ratio (scale base e x) = ratio x * (base : ℚ) ^ e := by
  have hpos : (0 : ℚ) < base := by exact_mod_cast hbase
  unfold scale ratio
  split
  · next h =>
    obtain ⟨n, rfl⟩ := Int.eq_ofNat_of_zero_le h
    simp only [Int.toNat_natCast, Nat.pow_eq, Nat.cast_mul, Nat.cast_pow, zpow_natCast]
    ring
  · next h =>
    obtain ⟨n, hn⟩ := Int.eq_ofNat_of_zero_le (show 0 ≤ -e by omega)
    obtain rfl : e = -(n : ℤ) := by omega
    simp only [neg_neg, Int.toNat_natCast, Nat.pow_eq, Nat.cast_mul, Nat.cast_pow, zpow_neg,
      zpow_natCast]
    rw [div_mul_eq_div_div, div_eq_mul_inv (_ / _)]

theorem ratio_scale_two (x : Nat × Nat) (e : Int) :
    ratio (scale 2 e x) = ratio x * (2 : ℚ) ^ e :=
  ratio_scale two_pos x e

/-! ## Rounding to an integer -/

/-- A quotient is rounded to an integer that is at most half away, to an odd one only if it is
less. -/
theorem roundQuotient_eq (hd : 0 < d) (hlow : (k : ℚ) - 1 / 2 ≤ n / d)
    (hhigh : (n : ℚ) / d ≤ k + 1 / 2)
    (hodd : k % 2 = 1 → (k : ℚ) - 1 / 2 < n / d ∧ (n : ℚ) / d < k + 1 / 2) :
    roundQuotient n d = k := by
  have hdq : (0 : ℚ) < d := by exact_mod_cast hd
  rw [le_div_iff₀ hdq] at hlow
  rw [div_le_iff₀ hdq] at hhigh
  rw [lt_div_iff₀ hdq, div_lt_iff₀ hdq] at hodd
  have hlow' : 2 * (k * d) ≤ 2 * n + d := by
    have : (2 * (k * d) : ℚ) ≤ 2 * n + d := by linarith
    exact_mod_cast this
  have hhigh' : 2 * n ≤ 2 * (k * d) + d := by
    have : (2 * n : ℚ) ≤ 2 * (k * d) + d := by linarith
    exact_mod_cast this
  have hodd' : k % 2 = 1 → 2 * (k * d) < 2 * n + d ∧ 2 * n < 2 * (k * d) + d := by
    intro h
    obtain ⟨h1, h2⟩ := hodd h
    have h1' : (2 * (k * d) : ℚ) < 2 * n + d := by linarith
    have h2' : (2 * n : ℚ) < 2 * (k * d) + d := by linarith
    exact ⟨by exact_mod_cast h1', by exact_mod_cast h2'⟩
  have hn := Nat.div_add_mod n d
  have hr := Nat.mod_lt n hd
  rw [Nat.mul_comm] at hn
  unfold roundQuotient
  simp only [Bool.or_eq_true, Bool.and_eq_true, decide_eq_true_eq, beq_iff_eq]
  generalize n / d = a at *
  generalize n % d = r at *
  -- the integer is the quotient or the next one
  obtain hk | hk | hk : k + 1 ≤ a ∨ a + 2 ≤ k ∨ k = a ∨ k = a + 1 := by omega
  · have := Nat.mul_le_mul_right d hk
    rw [Nat.add_mul] at this
    omega
  · have := Nat.mul_le_mul_right d hk
    rw [Nat.add_mul] at this
    omega
  obtain rfl | rfl := hk
  · rw [if_neg]
    rintro (h | ⟨h, heven⟩)
    · omega
    · have := hodd' heven
      omega
  · rw [Nat.add_mul, Nat.one_mul] at hlow' hhigh' hodd'
    rw [if_pos]
    by_cases h : d < 2 * r
    · exact .inl h
    · refine .inr ⟨by omega, ?_⟩
      by_contra heven
      have := hodd' (by omega)
      omega

/-! ## The exponent -/

/-- The exponent of the grid on which a fraction is rounded. -/
def roundExponent (f : Format) (x : Nat × Nat) : Int :=
  let least := max f.minExponent ((x.1.log2 : Int) - x.2.log2 - f.precision)
  let floor := scale 2 (-least) x
  if Nat.pow 2 f.precision ≤ floor.1 / floor.2 then least + 1 else least

/-- An exponent whose grid a number has: the number does not fill up the next grid, and fills up
this one unless it is the least. -/
structure HasGrid (f : Format) (q : ℚ) (e : Int) : Prop where
  least : f.minExponent ≤ e
  below : q < 2 ^ ((f.precision : Int) + e)
  filled : e = f.minExponent ∨ 2 ^ ((f.precision : Int) - 1 + e) ≤ q

/-- **A number has only one grid.** -/
theorem grid_unique {e' : Int} (h : HasGrid f q e) (h' : HasGrid f q e') : e = e' := by
  have one_lt : (1 : ℚ) < 2 := one_lt_two
  rcases lt_trichotomy e e' with hlt | heq | hlt
  · have hfilled := h'.filled.resolve_left (by have := h.least; omega)
    have := (zpow_lt_zpow_iff_right₀ one_lt).mp (hfilled.trans_lt h.below)
    omega
  · exact heq
  · have hfilled := h.filled.resolve_left (by have := h'.least; omega)
    have := (zpow_lt_zpow_iff_right₀ one_lt).mp (hfilled.trans_lt h'.below)
    omega

/-- A fraction lies between the powers of two of the logarithms of its parts. -/
theorem ratio_between (h1 : x.1 ≠ 0) (h2 : 0 < x.2) :
    (2 : ℚ) ^ ((x.1.log2 : Int) - x.2.log2 - 1) < ratio x ∧
      ratio x < 2 ^ ((x.1.log2 : Int) - x.2.log2 + 1) := by
  have hlow1 : (2 : ℚ) ^ (x.1.log2 : Int) ≤ x.1 := by exact_mod_cast Nat.log2_self_le h1
  have hhigh1 : (x.1 : ℚ) < 2 ^ ((x.1.log2 : Int) + 1) := by
    exact_mod_cast Nat.lt_log2_self (n := x.1)
  have hlow2 : (2 : ℚ) ^ (x.2.log2 : Int) ≤ x.2 := by
    exact_mod_cast Nat.log2_self_le (Nat.ne_of_gt h2)
  have hhigh2 : (x.2 : ℚ) < 2 ^ ((x.2.log2 : Int) + 1) := by
    exact_mod_cast Nat.lt_log2_self (n := x.2)
  have hpos : (0 : ℚ) < x.2 := by exact_mod_cast h2
  unfold ratio
  rw [lt_div_iff₀ hpos, div_lt_iff₀ hpos]
  constructor
  · calc (2 : ℚ) ^ ((x.1.log2 : Int) - x.2.log2 - 1) * x.2
        < 2 ^ ((x.1.log2 : Int) - x.2.log2 - 1) * 2 ^ ((x.2.log2 : Int) + 1) := by gcongr
      _ = 2 ^ (x.1.log2 : Int) := by
        rw [← zpow_add₀ two_ne_zero]
        congr 1
        omega
      _ ≤ x.1 := hlow1
  · calc (x.1 : ℚ) < 2 ^ ((x.1.log2 : Int) + 1) := hhigh1
      _ = 2 ^ ((x.1.log2 : Int) - x.2.log2 + 1) * 2 ^ (x.2.log2 : Int) := by
        rw [← zpow_add₀ two_ne_zero]
        congr 1
        omega
      _ ≤ 2 ^ ((x.1.log2 : Int) - x.2.log2 + 1) * x.2 := by gcongr

/-- A fraction fills up a grid if its floor there says so. -/
theorem floor_le_iff (h2 : 0 < x.2) (p : Nat) (e : Int) :
    Nat.pow 2 p ≤ (scale 2 (-e) x).1 / (scale 2 (-e) x).2 ↔ (2 : ℚ) ^ ((p : Int) + e) ≤ ratio x := by
  have hden := scale_snd_pos 2 two_pos h2 (-e)
  have hdenq : (0 : ℚ) < (scale 2 (-e) x).2 := by exact_mod_cast hden
  have hpow : (0 : ℚ) < 2 ^ (-e) := by positivity
  rw [Nat.le_div_iff_mul_le hden, ← mul_le_mul_iff_left₀ hpow, ← ratio_scale_two,
    ← zpow_add₀ two_ne_zero, Int.add_neg_cancel_right, zpow_natCast, ratio, le_div_iff₀ hdenq]
  exact_mod_cast Iff.rfl

/-- **The exponent that a fraction is rounded with is that of its grid.** -/
theorem hasGrid_roundExponent (h1 : x.1 ≠ 0) (h2 : 0 < x.2) :
    HasGrid f (ratio x) (roundExponent f x) := by
  obtain ⟨hlow, hhigh⟩ := ratio_between h1 h2
  have mono : ∀ {a b : Int}, a ≤ b → (2 : ℚ) ^ a ≤ 2 ^ b := fun h =>
    zpow_le_zpow_right₀ one_le_two h
  unfold roundExponent
  dsimp only
  generalize hrough : (x.1.log2 : Int) - x.2.log2 - f.precision = rough at *
  split
  · next hfloor =>
    rw [floor_le_iff h2] at hfloor
    refine ⟨by omega, ?_, .inr (by convert hfloor using 2; omega)⟩
    by_cases h : f.minExponent ≤ rough
    · rw [max_eq_right h]
      exact hhigh.trans_le (mono (by omega))
    · exact hhigh.trans_le (mono (by omega))
  · next hfloor =>
    rw [floor_le_iff h2, not_le] at hfloor
    refine ⟨le_max_left _ _, hfloor, ?_⟩
    by_cases h : f.minExponent < rough
    · rw [max_eq_right h.le]
      exact .inr ((mono (by omega)).trans hlow.le)
    · exact .inl (max_eq_left (by omega))

/-! ## Rounding -/

/-- The significands and exponents of the positive numbers of a format. -/
structure Proper (f : Format) (m : Nat) (e : Int) : Prop where
  pos : 0 < m
  bounded : m < 2 ^ f.precision
  least : f.minExponent ≤ e
  greatest : e ≤ f.maxExponent
  normal : e = f.minExponent ∨ 2 ^ (f.precision - 1) ≤ m

/-- Whether a number is a power of two whose neighbour below is only half a unit away. -/
def isNarrow (f : Format) (m : Nat) (e : Int) : Bool :=
  m == Nat.pow 2 (f.precision - 1) && f.minExponent < e

/-- How many quarters of a unit the least of the reals is, that round to a number. -/
def lowQuarters (f : Format) (m : Nat) (e : Int) : Nat :=
  4 * m - if isNarrow f m e then 1 else 2

/-- The reals around a number: those between the middles to its neighbours, and these themselves
if the significand is even. -/
structure RoundsTo (f : Format) (m : Nat) (e : Int) (q : ℚ) : Prop where
  low : (lowQuarters f m e : ℚ) * 2 ^ (e - 2) ≤ q
  high : q ≤ (4 * m + 2 : Nat) * 2 ^ (e - 2)
  inner : m % 2 = 1 → (lowQuarters f m e : ℚ) * 2 ^ (e - 2) < q ∧
    q < (4 * m + 2 : Nat) * 2 ^ (e - 2)

/-- What becomes of a fraction whose quotient on its grid is known. -/
theorem round_of_quotient (s : Bool) (h1 : x.1 ≠ 0)
    (hk : roundQuotient (scale 2 (-roundExponent f x) x).1 (scale 2 (-roundExponent f x) x).2 = k) :
    Binary.round (f := f) s x =
      if k = 2 ^ f.precision then
        if f.maxExponent < roundExponent f x + 1 then .infinite s
        else .finite s (2 ^ (f.precision - 1)) (roundExponent f x + 1)
      else if f.maxExponent < roundExponent f x then .infinite s
      else .finite s k (roundExponent f x) := by
  rw [Binary.round, if_neg h1]
  unfold roundExponent at hk ⊢
  dsimp only at hk ⊢
  rw [hk]
  simp only [beq_iff_eq, Nat.pow_eq]
  split <;> rfl

theorem lowQuarters_ge (h : 0 < m) : (4 * m - 2 : ℚ) ≤ lowQuarters f m e := by
  unfold lowQuarters
  split
  · rw [Nat.cast_sub (by omega)]
    push_cast
    linarith
  · rw [Nat.cast_sub (by omega)]
    push_cast
    exact le_rfl

/-- The quotient of a fraction on a grid. -/
theorem roundQuotient_scale (h2 : 0 < x.2) (hlow : (k : ℚ) - 1 / 2 ≤ ratio x / 2 ^ e)
    (hhigh : ratio x / 2 ^ e ≤ k + 1 / 2)
    (hodd : k % 2 = 1 → (k : ℚ) - 1 / 2 < ratio x / 2 ^ e ∧ ratio x / 2 ^ e < k + 1 / 2) :
    roundQuotient (scale 2 (-e) x).1 (scale 2 (-e) x).2 = k := by
  have hscaled : ((scale 2 (-e) x).1 : ℚ) / (scale 2 (-e) x).2 = ratio x / 2 ^ e := by
    rw [← ratio, ratio_scale_two, zpow_neg, div_eq_mul_inv]
  rw [← hscaled] at hlow hhigh hodd
  exact roundQuotient_eq (scale_snd_pos 2 two_pos h2 _) hlow hhigh hodd

/-- Powers of two in quarters of the unit of the last place. -/
theorem zpow_quarters (n e : Int) : (2 : ℚ) ^ (n + e) = 2 ^ (n + 2) * 2 ^ (e - 2) := by
  rw [← zpow_add₀ two_ne_zero]
  congr 1
  omega

theorem unit_quarters (e : Int) : (2 : ℚ) ^ e = 4 * 2 ^ (e - 2) := by
  have h := zpow_quarters 0 e
  rw [zero_add, zero_add] at h
  rw [h]
  norm_num

theorem half_quarters (e : Int) : (2 : ℚ) ^ (e - 1) = 2 * 2 ^ (e - 2) := by
  have h := zpow_quarters (-1) e
  rw [neg_add_eq_sub] at h
  rw [h]
  norm_num

/-- A grid is filled up at twice as many units as half of it has. -/
theorem grid_quarters (hprecision : 0 < f.precision) (e : Int) :
    (2 : ℚ) ^ ((f.precision : Int) - 1 + e) = 4 * 2 ^ (f.precision - 1) * 2 ^ (e - 2) := by
  rw [zpow_quarters]
  congr 1
  obtain ⟨p, hp⟩ : ∃ p, f.precision = p + 1 := ⟨f.precision - 1, by omega⟩
  rw [hp, Nat.add_sub_cancel, Nat.cast_add, Nat.cast_one, add_sub_cancel_right,
    zpow_add₀ two_ne_zero, zpow_natCast, mul_comm]
  norm_num

theorem pow_precision (hprecision : 0 < f.precision) :
    2 ^ f.precision = 2 * 2 ^ (f.precision - 1) := by
  rw [← pow_succ', Nat.sub_add_cancel hprecision]

/-- A number around a number of a format does not fill up the next grid. -/
theorem RoundsTo.below (hprecision : 0 < f.precision) (h : Proper f m e)
    (hround : RoundsTo f m e q) : q < 2 ^ ((f.precision : Int) + e) := by
  have hfull : (2 : ℚ) ^ ((f.precision : Int) + e) = 8 * 2 ^ (f.precision - 1) * 2 ^ (e - 2) := by
    rw [show (f.precision : Int) + e = 1 + ((f.precision : Int) - 1 + e) by omega,
      zpow_add₀ two_ne_zero, grid_quarters hprecision]
    norm_num
    ring
  have hm : ((4 * m + 2 : Nat) : ℚ) < 8 * 2 ^ (f.precision - 1) := by
    have hbounded := h.bounded
    rw [pow_precision hprecision] at hbounded
    exact_mod_cast (by omega : 4 * m + 2 < 8 * 2 ^ (f.precision - 1))
  rw [hfull]
  exact hround.high.trans_lt (mul_lt_mul_of_pos_right hm (zpow_pos two_pos _))

theorem RoundsTo.pos (h : 0 < m) (hround : RoundsTo f m e q) : 0 < q := by
  have hm : (1 : ℚ) ≤ m := by exact_mod_cast h
  have hquarters := lowQuarters_ge (f := f) (e := e) h
  refine lt_of_lt_of_le (mul_pos ?_ (zpow_pos two_pos _)) hround.low
  linarith

/-- On the grid of the number its significand is the nearest. -/
theorem roundQuotient_of_filled (h : Proper f m e) (h2 : 0 < x.2)
    (hround : RoundsTo f m e (ratio x)) :
    roundQuotient (scale 2 (-e) x).1 (scale 2 (-e) x).2 = m := by
  have hu : (0 : ℚ) < 2 ^ (e - 2) := zpow_pos two_pos _
  have hquarters := mul_le_mul_of_nonneg_right (lowQuarters_ge (f := f) (e := e) h.pos) hu.le
  have hlow := hround.low
  have hhigh := hround.high
  have hinner := hround.inner
  push_cast at hhigh hinner
  have hunit : (0 : ℚ) < 2 ^ e := zpow_pos two_pos _
  refine roundQuotient_scale h2 ?_ ?_ fun hodd => ⟨?_, ?_⟩
  · rw [le_div_iff₀ hunit, unit_quarters]
    linarith
  · rw [div_le_iff₀ hunit, unit_quarters]
    linarith
  · rw [lt_div_iff₀ hunit, unit_quarters]
    have := (hinner hodd).1
    linarith
  · rw [div_lt_iff₀ hunit, unit_quarters]
    have := (hinner hodd).2
    linarith

/-- A number around a number of a format that does not fill up its grid lies just below a power of
two. -/
theorem narrow_of_not_filled (hprecision : 0 < f.precision) (h : Proper f m e)
    (hround : RoundsTo f m e q) (hleast : e ≠ f.minExponent)
    (hfilled : q < 2 ^ ((f.precision : Int) - 1 + e)) :
    m = 2 ^ (f.precision - 1) ∧ lowQuarters f m e = 4 * m - 1 := by
  have hnormal := h.normal.resolve_left hleast
  have hm : m = 2 ^ (f.precision - 1) := by
    by_contra hne
    have hmore : 2 ^ (f.precision - 1) + 1 ≤ m := by omega
    have hquarters : ((4 * 2 ^ (f.precision - 1) : Nat) : ℚ) ≤ lowQuarters f m e := by
      refine Nat.cast_le.mpr ?_
      unfold lowQuarters
      split <;> omega
    rw [grid_quarters hprecision] at hfilled
    push_cast at hquarters
    have := mul_le_mul_of_nonneg_right hquarters (zpow_pos (two_pos (α := ℚ)) (e - 2)).le
    linarith [hround.low]
  refine ⟨hm, ?_⟩
  have hnarrow : isNarrow f m e = true := by
    have := h.least
    simp only [isNarrow, Nat.pow_eq, Bool.and_eq_true, beq_iff_eq, decide_eq_true_eq]
    exact ⟨hm, by omega⟩
  rw [lowQuarters, if_pos hnarrow]

/-- **A fraction around a number is rounded to the number.** -/
theorem round_eq (s : Bool) (hprecision : 0 < f.precision) (h : Proper f m e) (h2 : 0 < x.2)
    (hround : RoundsTo f m e (ratio x)) :
    Binary.round s x = (.finite s m e : Binary f) := by
  have h1 : x.1 ≠ 0 := by
    intro hzero
    have hpos := hround.pos h.pos
    rw [ratio, hzero, Nat.cast_zero, zero_div] at hpos
    exact lt_irrefl _ hpos
  have hgrid := hasGrid_roundExponent (f := f) h1 h2
  have hgreatest := h.greatest
  by_cases hfilled : e = f.minExponent ∨ 2 ^ ((f.precision : Int) - 1 + e) ≤ ratio x
  · have hexponent : roundExponent f x = e :=
      grid_unique hgrid ⟨h.least, hround.below hprecision h, hfilled⟩
    rw [round_of_quotient s h1 (hexponent ▸ roundQuotient_of_filled h h2 hround), hexponent,
      if_neg h.bounded.ne, if_neg (by omega)]
  · -- just below a power of two the significand is carried over from the grid below
    rw [not_or, not_le] at hfilled
    obtain ⟨hm, hquarters⟩ := narrow_of_not_filled hprecision h hround hfilled.1 hfilled.2
    have hlow := hround.low
    have hu : (0 : ℚ) < 2 ^ (e - 2) := zpow_pos two_pos _
    have hone : (1 : ℚ) ≤ 2 ^ (f.precision - 1) := one_le_pow₀ one_le_two
    have hhigh := hfilled.2
    rw [hquarters, hm, Nat.cast_sub (by have := Nat.one_le_two_pow (n := f.precision - 1); omega)]
      at hlow
    push_cast at hlow
    have hgrid' : HasGrid f (ratio x) (e - 1) := by
      have hleast := h.least
      have hexp : (f.precision : Int) + (e - 1) = f.precision - 1 + e := by omega
      refine ⟨by omega, hexp ▸ hhigh, .inr ?_⟩
      rw [show (f.precision : Int) - 1 + (e - 1) = -1 + ((f.precision : Int) - 1 + e) by omega,
        zpow_add₀ two_ne_zero, grid_quarters hprecision]
      norm_num
      nlinarith
    have hexponent : roundExponent f x = e - 1 := grid_unique hgrid hgrid'
    rw [grid_quarters hprecision] at hhigh
    have hunit : (0 : ℚ) < 2 ^ (e - 1) := zpow_pos two_pos _
    have hcarried : roundQuotient (scale 2 (-roundExponent f x) x).1
        (scale 2 (-roundExponent f x) x).2 = 2 ^ f.precision := by
      rw [hexponent]
      have heven : ¬2 ^ f.precision % 2 = 1 := by
        rw [pow_precision hprecision]
        omega
      refine roundQuotient_scale h2 ?_ ?_ fun hodd => absurd hodd heven
      · rw [le_div_iff₀ hunit, half_quarters, Nat.cast_pow, Nat.cast_ofNat,
          ← Nat.sub_add_cancel hprecision, pow_succ]
        linarith
      · rw [div_le_iff₀ hunit, half_quarters, Nat.cast_pow, Nat.cast_ofNat,
          ← Nat.sub_add_cancel hprecision, pow_succ]
        linarith
    rw [round_of_quotient s h1 hcarried, hexponent, if_pos rfl, if_neg (by omega), ← hm,
      Int.sub_add_cancel]

/-! ## The numbers of a format -/

/-- The finite numbers of a format: the two zeros, and those of a proper significand. -/
def IsValue : Binary f → Prop
  | .finite _ m e => m = 0 ∧ e = f.minExponent ∨ Proper f m e
  | _ => False

theorem roundQuotient_between (n d : Nat) :
    n / d ≤ roundQuotient n d ∧ roundQuotient n d ≤ n / d + 1 := by
  unfold roundQuotient
  dsimp only
  split <;> omega

/-- **A fraction that is not too large is rounded to a finite number.** -/
theorem isValue_round (s : Bool) (hprecision : 0 < f.precision)
    (hexponents : f.minExponent < f.maxExponent) (h2 : 0 < x.2)
    (hx : ratio x < 2 ^ ((f.precision : Int) - 1 + f.maxExponent)) :
    IsValue (Binary.round s x : Binary f) := by
  by_cases h1 : x.1 = 0
  · rw [Binary.round, if_pos h1]
    exact .inl ⟨rfl, rfl⟩
  obtain ⟨hleast, hbelow, hfilled⟩ := hasGrid_roundExponent (f := f) h1 h2
  rw [round_of_quotient s h1 rfl]
  generalize roundExponent f x = e at *
  obtain ⟨hlow, hhigh⟩ := roundQuotient_between (scale 2 (-e) x).1 (scale 2 (-e) x).2
  generalize roundQuotient (scale 2 (-e) x).1 (scale 2 (-e) x).2 = k at *
  have hgreatest : e < f.maxExponent := by
    obtain rfl | hfilled := hfilled
    · exact hexponents
    · have := (zpow_lt_zpow_iff_right₀ one_lt_two).mp (hfilled.trans_lt hx)
      omega
  have hbounded : k ≤ 2 ^ f.precision := by
    have hfloor := mt (floor_le_iff h2 f.precision e).mp (not_le.mpr hbelow)
    rw [Nat.pow_eq] at hfloor
    omega
  have hnormal : e = f.minExponent ∨ 2 ^ (f.precision - 1) ≤ k := by
    refine hfilled.imp_right fun hfilled => ?_
    have hfloor := (floor_le_iff h2 (f.precision - 1) e).mpr
      (by rwa [Nat.cast_sub hprecision, Nat.cast_one])
    exact hfloor.trans hlow
  have hpow : 2 ^ (f.precision - 1) < 2 ^ f.precision :=
    Nat.pow_lt_pow_right (by decide) (by omega)
  split
  · rw [if_neg (by omega)]
    exact .inr ⟨Nat.two_pow_pos _, hpow, by omega, by omega, .inr le_rfl⟩
  · next hcarried =>
    rw [if_neg (by omega)]
    obtain rfl | hpos := Nat.eq_zero_or_pos k
    · have := Nat.two_pow_pos (f.precision - 1)
      exact .inl ⟨rfl, hnormal.resolve_right (by omega)⟩
    · exact .inr ⟨hpos, by omega, hleast, by omega, hnormal⟩

/-- Integers of 64 bits are finite numbers. -/
theorem isValue_ofInt {n : Int} (h : n.natAbs < 2 ^ 64) : IsValue (Binary.ofInt n : Binary64) := by
  refine isValue_round _ (by decide) (by decide) Nat.one_pos ?_
  have hn : (n.natAbs : ℚ) < 2 ^ 64 := by exact_mod_cast h
  have hbound : (2 : ℚ) ^ (64 : Int) ≤ 2 ^ ((Format.double.precision : Int) - 1
      + Format.double.maxExponent) := zpow_le_zpow_right₀ one_le_two (by decide)
  calc ratio (n.natAbs, 1) = n.natAbs := by rw [ratio, Nat.cast_one, div_one]
    _ < 2 ^ (64 : Int) := by exact_mod_cast hn
    _ ≤ _ := hbound

end ApiScaffold.Number
