import ApiScaffold.Number.Shortest
import ApiScaffold.Proofs.Number.Rounding

/-!
# The shortest decimal of a number is rounded to the number

The decimals that are tried lie on finer and finer grids, and one is taken only if it lies around
the number.  So what is found is rounded to the number (`roundsTo_shortest`), if anything is found.
It is, at the latest with 17 digits: then the steps of the grid are so small that the nearer of the
two points beside the number is less than a quarter or half a unit away (`onGrid_finest`).

* `IsSmall`: the formats for which 17 digits are enough.
* `decimalMagnitude_spec`: the power of ten above a number.
* `exists_onGrid`: **one of the grids has a point around the number.**
* `roundsTo_shortest`: **the shortest decimal is rounded to the number.**
-/

namespace ApiScaffold.Number

variable {f : Format} {m : Nat} {e step : Int} {x y center low high : Nat × Nat} {d : Decimal}
  {ends : Bool}

/-- The formats whose numbers are told apart by 17 digits, and whose exponents are neither large
nor few. -/
structure IsSmall (f : Format) : Prop where
  precision : 0 < f.precision
  digits : 2 ^ f.precision < 10 ^ 16
  least : -1100 ≤ f.minExponent
  greatest : f.maxExponent + f.precision ≤ 1100
  roomyBelow : f.minExponent ≤ -100
  roomyAbove : 100 ≤ f.maxExponent

theorem isSmall_double : IsSmall .double := by constructor <;> decide

/-! ## Comparison -/

theorem fractionLe_iff (hx : 0 < x.2) (hy : 0 < y.2) :
    fractionLe x y = true ↔ ratio x ≤ ratio y := by
  have hxq : (0 : ℚ) < x.2 := by exact_mod_cast hx
  have hyq : (0 : ℚ) < y.2 := by exact_mod_cast hy
  rw [fractionLe, decide_eq_true_eq, ratio, ratio, div_le_div_iff₀ hxq hyq]
  exact_mod_cast Iff.rfl

/-- The number that a decimal denotes. -/
def Decimal.value (d : Decimal) : ℚ := d.digits * 10 ^ d.exponent

theorem ratio_decimal (d : Decimal) : ratio (scale 10 d.exponent (d.digits, 1)) = d.value := by
  rw [ratio_scale (by decide), ratio, Nat.cast_one, div_one]
  rfl

/-- A decimal lies between two fractions, and is one of them only if they belong to it. -/
theorem isBetween_iff (hlow : 0 < low.2) (hhigh : 0 < high.2) :
    d.isBetween low high ends = true ↔ (ratio low ≤ d.value ∧ d.value ≤ ratio high) ∧
      (ends = false → ratio low < d.value ∧ d.value < ratio high) := by
  have hden : 0 < (scale 10 d.exponent (d.digits, 1)).2 :=
    scale_snd_pos 10 (by decide) Nat.one_pos _
  rw [Decimal.isBetween]
  simp only [Bool.and_eq_true, Bool.or_eq_true, Bool.not_eq_true',
    ← Bool.not_eq_true, fractionLe_iff hlow hden, fractionLe_iff hden hhigh,
    fractionLe_iff hden hlow, fractionLe_iff hhigh hden, ratio_decimal]
  cases ends <;> simp

/-! ## Powers of ten -/

/-- A power of ten is near a power of two if their logarithms are. -/
theorem powers_near : ∀ n < 1110,
    2 * 10 ^ (n * 30103 / 100000) ≤ 100 * 2 ^ n ∧ 2 * 2 ^ n ≤ 100 * 10 ^ (n * 30103 / 100000) ∧
      2 * 10 ^ ((n * 30103 + 99999) / 100000) ≤ 100 * 2 ^ n ∧
        2 * 2 ^ n ≤ 100 * 10 ^ ((n * 30103 + 99999) / 100000) := by decide +kernel

/-- The power of ten that the logarithm of a power of two gives is near to it. -/
theorem zpow_near {l : Int} (h : l.natAbs < 1110) :
    2 * (10 : ℚ) ^ (l * 30103 / 100000) ≤ 100 * 2 ^ l ∧
      2 * (2 : ℚ) ^ l ≤ 100 * 10 ^ (l * 30103 / 100000) := by
  obtain ⟨n, rfl | rfl⟩ := Int.eq_nat_or_neg l
  · obtain ⟨h10, h2, -⟩ := powers_near n (by omega)
    have hlog : (n : Int) * 30103 / 100000 = (n * 30103 / 100000 : Nat) := by omega
    rw [hlog, zpow_natCast, zpow_natCast]
    exact ⟨by exact_mod_cast h10, by exact_mod_cast h2⟩
  · obtain ⟨-, -, h10, h2⟩ := powers_near n (by omega)
    have hlog : -(n : Int) * 30103 / 100000 = -((n * 30103 + 99999) / 100000 : Nat) := by omega
    rw [hlog, zpow_neg, zpow_neg, zpow_natCast, zpow_natCast]
    generalize (n * 30103 + 99999) / 100000 = k at *
    have h10q : 2 * (10 : ℚ) ^ k ≤ 100 * 2 ^ n := by exact_mod_cast h10
    have h2q : 2 * (2 : ℚ) ^ n ≤ 100 * 10 ^ k := by exact_mod_cast h2
    have hpos10 : (0 : ℚ) < 10 ^ k := by positivity
    have hpos2 : (0 : ℚ) < 2 ^ n := by positivity
    constructor
    · rw [← div_eq_mul_inv, ← div_eq_mul_inv, div_le_div_iff₀ hpos10 hpos2]
      exact h2q
    · rw [← div_eq_mul_inv, ← div_eq_mul_inv, div_le_div_iff₀ hpos2 hpos10]
      exact h10q

theorem scale_lt_iff (hx : 0 < x.2) (k : Int) :
    (scale 10 (-k) x).1 < (scale 10 (-k) x).2 ↔ ratio x < 10 ^ k := by
  have hden := scale_snd_pos 10 (by decide) hx (-k)
  have hdenq : (0 : ℚ) < (scale 10 (-k) x).2 := by exact_mod_cast hden
  have hpow : (0 : ℚ) < 10 ^ k := by positivity
  have hscaled : ratio (scale 10 (-k) x) = ratio x / 10 ^ k := by
    rw [ratio_scale (by decide), zpow_neg, div_eq_mul_inv]
    rfl
  rw [← div_lt_one hpow, ← hscaled, ratio, div_lt_one hdenq, Nat.cast_lt]

/-- **The power of ten above a number**, and the number fills up the one below. -/
theorem decimalMagnitude_spec (h1 : x.1 ≠ 0) (h2 : 0 < x.2)
    (h : ((x.1.log2 : Int) - x.2.log2).natAbs < 1110) :
    (10 : ℚ) ^ (decimalMagnitude x - 1) ≤ ratio x ∧ ratio x < 10 ^ decimalMagnitude x := by
  obtain ⟨hlow, hhigh⟩ := ratio_between h1 h2
  obtain ⟨hnear10, hnear2⟩ := zpow_near h
  unfold decimalMagnitude
  dsimp only
  generalize (x.1.log2 : Int) - x.2.log2 = l at *
  generalize hr : l * 30103 / 100000 = r at *
  simp only [decide_eq_true_eq, scale_lt_iff h2]
  have step : ∀ k : Int, (10 : ℚ) ^ (k + 1) = 10 * 10 ^ k := fun k => by
    rw [zpow_add_one₀ (by norm_num), mul_comm]
  split
  · next hexceeds =>
    refine ⟨?_, hexceeds⟩
    refine le_of_lt (lt_of_le_of_lt ?_ hlow)
    have h10 : (10 : ℚ) ^ r = 100 * 10 ^ (r - 1 - 1) := by
      rw [show r = r - 1 - 1 + 1 + 1 by omega, step, step]
      ring_nf
    have h2' : (2 : ℚ) ^ l = 2 * 2 ^ (l - 1) := by
      rw [show l = l - 1 + 1 by omega, zpow_add_one₀ two_ne_zero, mul_comm]
      ring_nf
    rw [h10, h2'] at hnear10
    linarith
  next hexceeds =>
  rw [not_lt] at hexceeds
  split
  · next hnext => exact ⟨by rwa [add_sub_cancel_right], hnext⟩
  next hnext =>
  rw [not_lt] at hnext
  split
  · next hlast =>
    refine ⟨?_, hlast⟩
    rw [show r - 1 + 2 - 1 = r - 1 + 1 by omega]
    exact hnext
  next hlast =>
  rw [not_lt] at hlast
  refine ⟨?_, ?_⟩
  · rw [show r - 1 + 3 - 1 = r - 1 + 2 by omega]
    exact hlast
  · have h10 : (10 : ℚ) ^ (r - 1 + 3) = 100 * 10 ^ r := by
      rw [show r - 1 + 3 = r + 1 + 1 by omega, step, step]
      ring
    have h2' : (2 : ℚ) ^ (l + 1) = 2 * 2 ^ l := by rw [zpow_add_one₀ two_ne_zero, mul_comm]
    rw [h10]
    rw [h2'] at hhigh
    exact hhigh.trans_le hnear2

/-! ## The grids -/

/-- What is found on a grid lies between the limits, on the grid, beside the number. -/
theorem onGrid_eq_some (h : onGrid center low high ends step = some d) :
    d.isBetween low high ends = true ∧ d.exponent = step ∧
      d.digits ≤ (scale 10 (-step) center).1 / (scale 10 (-step) center).2 + 1 := by
  unfold onGrid at h
  dsimp only at h
  split at h
  · next hbelow habove =>
    cases h
    split
    · exact ⟨hbelow, rfl, Nat.le_succ _⟩
    · exact ⟨habove, rfl, Nat.le_refl _⟩
  · next hbelow _ =>
    cases h
    exact ⟨hbelow, rfl, Nat.le_succ _⟩
  · next _ habove =>
    cases h
    exact ⟨habove, rfl, Nat.le_refl _⟩
  · cases h

/-- Something is found on a grid if one of the two points beside the number lies between the
limits. -/
theorem exists_onGrid_of_isBetween
    (h : (⟨(scale 10 (-step) center).1 / (scale 10 (-step) center).2, step⟩ : Decimal).isBetween
        low high ends = true ∨
      (⟨(scale 10 (-step) center).1 / (scale 10 (-step) center).2 + 1, step⟩ : Decimal).isBetween
        low high ends = true) :
    ∃ d, onGrid center low high ends step = some d := by
  unfold onGrid
  dsimp only
  split
  · exact ⟨_, rfl⟩
  · exact ⟨_, rfl⟩
  · exact ⟨_, rfl⟩
  · next hbelow habove =>
    rw [hbelow, habove] at h
    simp at h

/-- The floor of a number on a grid, and the next point, enclose the number. -/
theorem floor_enclose (center : Nat × Nat) (h2 : 0 < center.2) (step : Int) :
    (((scale 10 (-step) center).1 / (scale 10 (-step) center).2 : Nat) : ℚ) * 10 ^ step
        ≤ ratio center ∧
      ratio center
        < ((((scale 10 (-step) center).1 / (scale 10 (-step) center).2 : Nat) : ℚ) + 1)
          * 10 ^ step := by
  have hden := scale_snd_pos 10 (by decide) h2 (-step)
  have hdenq : (0 : ℚ) < (scale 10 (-step) center).2 := by exact_mod_cast hden
  have hpow : (0 : ℚ) < 10 ^ step := by positivity
  have hscaled : ratio (scale 10 (-step) center) = ratio center / 10 ^ step := by
    rw [ratio_scale (by decide), zpow_neg, div_eq_mul_inv]
    rfl
  rw [← le_div_iff₀ hpow, ← div_lt_iff₀ hpow, ← hscaled, ratio, le_div_iff₀ hdenq,
    div_lt_iff₀ hdenq]
  generalize (scale 10 (-step) center).1 = a at *
  generalize (scale 10 (-step) center).2 = b at *
  refine ⟨by exact_mod_cast Nat.div_mul_le_self a b, ?_⟩
  exact_mod_cast (by rw [Nat.mul_comm]; exact Nat.lt_mul_div_succ a hden : a < (a / b + 1) * b)

/-- The limits are further away than half a step that is small enough. -/
theorem limits_far {t u : ℚ} (hf : IsSmall f) (h : Proper f m e) (hu : 0 < u)
    (ht : t * 10 ^ 16 ≤ 4 * m * u) :
    lowQuarters f m e * u < 4 * m * u - t / 2 ∧ 4 * m * u + t / 2 < (4 * m + 2) * u := by
  have hdigits : (2 : ℚ) ^ f.precision < 10 ^ 16 := by exact_mod_cast hf.digits
  have hbounded : (m : ℚ) < 2 ^ f.precision := by exact_mod_cast h.bounded
  have hstep : t / 2 < 2 * u := by
    have : (m : ℚ) * u < 10 ^ 16 * u := mul_lt_mul_of_pos_right (hbounded.trans hdigits) hu
    linarith
  refine ⟨?_, by linarith⟩
  have hm := h.pos
  unfold lowQuarters
  split
  · next hnarrow =>
    -- the significand is a power of two, so half of the limit on it is left
    simp only [isNarrow, Nat.pow_eq, Bool.and_eq_true, beq_iff_eq] at hnarrow
    have hhalf : 2 * (m : ℚ) * u < 10 ^ 16 * u := by
      refine mul_lt_mul_of_pos_right ?_ hu
      have hpow := pow_precision hf.precision
      rw [← hnarrow.1] at hpow
      have : (2 * m : Nat) < 10 ^ 16 := hpow ▸ hf.digits
      exact_mod_cast this
    rw [Nat.cast_sub (by omega)]
    push_cast
    linarith
  · rw [Nat.cast_sub (by omega)]
    push_cast
    linarith

/-- The number itself, and the limits of the reals around it. -/
def centerOf (m : Nat) (e : Int) : Nat × Nat := scale 2 (e - 2) (4 * m, 1)

def lowOf (f : Format) (m : Nat) (e : Int) : Nat × Nat := scale 2 (e - 2) (lowQuarters f m e, 1)

def highOf (m : Nat) (e : Int) : Nat × Nat := scale 2 (e - 2) (4 * m + 2, 1)

theorem ratio_quarters (n : Nat) (e : Int) :
    ratio (scale 2 (e - 2) (n, 1)) = n * 2 ^ (e - 2) := by
  rw [ratio_scale_two, ratio, Nat.cast_one, div_one]

theorem snd_pos (n : Nat) (e : Int) : 0 < (scale 2 (e - 2) (n, 1)).2 :=
  scale_snd_pos 2 two_pos Nat.one_pos _

theorem ratio_centerOf (m : Nat) (e : Int) : ratio (centerOf m e) = 4 * m * 2 ^ (e - 2) := by
  rw [centerOf, ratio_quarters]
  push_cast
  rfl

/-- A number of a small format has a power of ten above it that is found. -/
theorem centerOf_magnitude (hf : IsSmall f) (h : Proper f m e) :
    (10 : ℚ) ^ (decimalMagnitude (centerOf m e) - 1) ≤ ratio (centerOf m e) ∧
      ratio (centerOf m e) < 10 ^ decimalMagnitude (centerOf m e) := by
  have hden : 0 < (centerOf m e).2 := snd_pos _ e
  have hu : (0 : ℚ) < 2 ^ (e - 2) := zpow_pos two_pos _
  have hm : (1 : ℚ) ≤ m := by exact_mod_cast h.pos
  have hbounded : (m : ℚ) < 2 ^ f.precision := by exact_mod_cast h.bounded
  have hleast : (2 : ℚ) ^ (-1100 : Int) ≤ ratio (centerOf m e) := by
    have hpow : (2 : ℚ) ^ (-1100 : Int) ≤ 2 ^ e :=
      zpow_le_zpow_right₀ one_le_two (hf.least.trans h.least)
    rw [unit_quarters e] at hpow
    rw [ratio_centerOf]
    nlinarith
  have hgreatest : ratio (centerOf m e) < (2 : ℚ) ^ (1100 : Int) := by
    have hpow : (2 : ℚ) ^ ((f.precision : Int) + e) ≤ 2 ^ (1100 : Int) :=
      zpow_le_zpow_right₀ one_le_two (by have := h.greatest; have := hf.greatest; omega)
    rw [zpow_add₀ two_ne_zero, zpow_natCast, unit_quarters e] at hpow
    have hless := mul_lt_mul_of_pos_right hbounded hu
    rw [ratio_centerOf]
    linarith
  have hnum : (centerOf m e).1 ≠ 0 := by
    intro hzero
    rw [ratio, hzero, Nat.cast_zero, zero_div] at hleast
    exact absurd hleast (not_le.mpr (zpow_pos two_pos _))
  obtain ⟨hlow, hhigh⟩ := ratio_between hnum hden
  have habove := (zpow_lt_zpow_iff_right₀ one_lt_two).mp (hlow.trans hgreatest)
  have hbelow := (zpow_lt_zpow_iff_right₀ one_lt_two).mp (hleast.trans_lt hhigh)
  exact decimalMagnitude_spec hnum hden (by omega)

/-- Between the limits lies what is no limit. -/
theorem isBetween_of_inside (hlow : lowQuarters f m e * 2 ^ (e - 2) < d.value)
    (hhigh : d.value < (4 * m + 2) * 2 ^ (e - 2)) :
    d.isBetween (lowOf f m e) (highOf m e) ends = true := by
  rw [lowOf, highOf, isBetween_iff (snd_pos _ e) (snd_pos _ e), ratio_quarters, ratio_quarters]
  push_cast
  exact ⟨⟨hlow.le, hhigh.le⟩, fun _ => ⟨hlow, hhigh⟩⟩

/-- **The grid of 17 digits has a point around the number.** -/
theorem exists_onGrid (hf : IsSmall f) (h : Proper f m e) (ends : Bool) :
    ∃ d, onGrid (centerOf m e) (lowOf f m e) (highOf m e) ends
      (decimalMagnitude (centerOf m e) - 17) = some d := by
  obtain ⟨hmagnitude, -⟩ := centerOf_magnitude hf h
  obtain ⟨hfloor, hnext⟩ := floor_enclose (centerOf m e) (snd_pos _ e)
    (decimalMagnitude (centerOf m e) - 17)
  have hsteps : (10 : ℚ) ^ (decimalMagnitude (centerOf m e) - 17) * 10 ^ 16
      ≤ ratio (centerOf m e) := by
    rw [← zpow_natCast (10 : ℚ) 16, ← zpow_add₀ (by norm_num)]
    convert hmagnitude using 2
    omega
  rw [ratio_centerOf] at hfloor hnext hsteps
  obtain ⟨hlow, hhigh⟩ := limits_far hf h (zpow_pos two_pos (e - 2)) hsteps
  apply exists_onGrid_of_isBetween
  generalize (scale 10 (-(decimalMagnitude (centerOf m e) - 17)) (centerOf m e)).1
    / (scale 10 (-(decimalMagnitude (centerOf m e) - 17)) (centerOf m e)).2 = digits at *
  have hpos : (0 : ℚ) < 10 ^ (decimalMagnitude (centerOf m e) - 17) := by positivity
  -- one of the two points is at most half a step away
  by_cases hhalf : 4 * m * 2 ^ (e - 2)
      - digits * (10 : ℚ) ^ (decimalMagnitude (centerOf m e) - 17)
        ≤ 10 ^ (decimalMagnitude (centerOf m e) - 17) / 2
  · left
    apply isBetween_of_inside <;> simp only [Decimal.value] <;> linarith
  · right
    rw [not_le] at hhalf
    apply isBetween_of_inside <;> simp only [Decimal.value] <;> push_cast <;> linarith

/-! ## The shortest decimal -/

theorem value_dropZeros (fuel : Nat) (d : Decimal) : (d.dropZeros fuel).value = d.value := by
  induction fuel generalizing d with
  | zero => rfl
  | succ fuel ih =>
    rw [Decimal.dropZeros]
    split
    · next h =>
      simp only [Bool.and_eq_true, decide_eq_true_eq, beq_iff_eq] at h
      have hdigits : (d.digits : ℚ) = 10 * (d.digits / 10 : Nat) := by
        exact_mod_cast (by omega : d.digits = 10 * (d.digits / 10))
      rw [ih, Decimal.value, Decimal.value, zpow_add_one₀ (by norm_num), hdigits]
      ring
    · rfl

theorem digits_dropZeros_le (fuel : Nat) (d : Decimal) : (d.dropZeros fuel).digits ≤ d.digits := by
  induction fuel generalizing d with
  | zero => exact Nat.le_refl _
  | succ fuel ih =>
    rw [Decimal.dropZeros]
    split
    · exact (ih _).trans (Nat.div_le_self _ _)
    · exact Nat.le_refl _

/-- A decimal that is found lies around the number. -/
theorem roundsTo_of_isBetween
    (h : d.isBetween (lowOf f m e) (highOf m e) (m % 2 == 0) = true) : RoundsTo f m e d.value := by
  rw [lowOf, highOf, isBetween_iff (snd_pos _ e) (snd_pos _ e), ratio_quarters,
    ratio_quarters] at h
  exact ⟨h.1.1, h.1.2, fun hodd => h.2 (by simp [hodd])⟩

/-- A grid of `n` digits has no point of more beside the number. -/
theorem digits_le_of_onGrid (hf : IsSmall f) (h : Proper f m e) {n : Nat}
    (hgrid : onGrid (centerOf m e) low high ends (decimalMagnitude (centerOf m e) - n) = some d) :
    d.digits ≤ 10 ^ n := by
  obtain ⟨-, -, hdigits⟩ := onGrid_eq_some hgrid
  obtain ⟨-, hmagnitude⟩ := centerOf_magnitude hf h
  obtain ⟨hfloor, -⟩ := floor_enclose (centerOf m e) (snd_pos _ e)
    (decimalMagnitude (centerOf m e) - n)
  have hpow : (0 : ℚ) < 10 ^ (decimalMagnitude (centerOf m e) - n) := by positivity
  have hsplit : (10 : ℚ) ^ decimalMagnitude (centerOf m e)
      = 10 ^ n * 10 ^ (decimalMagnitude (centerOf m e) - n) := by
    rw [← zpow_natCast (10 : ℚ) n, ← zpow_add₀ (by norm_num)]
    congr 1
    omega
  rw [hsplit] at hmagnitude
  have hless := lt_of_mul_lt_mul_right (hfloor.trans_lt hmagnitude) hpow.le
  exact hdigits.trans (by exact_mod_cast hless)

/-- The first point around a number on the grids of one digit, two digits and so on. -/
def firstOnGrid (f : Format) (m : Nat) (e : Int) : Option Decimal :=
  (List.range 17).findSome? fun (n : Nat) =>
    onGrid (centerOf m e) (lowOf f m e) (highOf m e) (m % 2 == 0)
      (decimalMagnitude (centerOf m e) - (n + 1))

theorem shortest_eq (f : Format) (m : Nat) (e : Int) :
    shortest f m e = ((firstOnGrid f m e).getD ⟨m, 0⟩).dropZeros 20 := rfl

/-- One of the grids has a point around the number, and its digits are few. -/
theorem exists_firstOnGrid (hf : IsSmall f) (h : Proper f m e) :
    ∃ d, firstOnGrid f m e = some d ∧ RoundsTo f m e d.value ∧ d.digits ≤ 10 ^ 17 := by
  obtain ⟨d, hd⟩ : ∃ d, firstOnGrid f m e = some d := by
    obtain ⟨last, hlast⟩ := exists_onGrid hf h (m % 2 == 0)
    rw [← Option.isSome_iff_exists, firstOnGrid, List.findSome?_isSome_iff]
    exact ⟨16, by decide, Option.isSome_iff_exists.mpr ⟨last, hlast⟩⟩
  obtain ⟨n, hn, hgrid⟩ := List.exists_of_findSome?_eq_some hd
  refine ⟨d, hd, roundsTo_of_isBetween (onGrid_eq_some hgrid).1, ?_⟩
  have hdigits := digits_le_of_onGrid hf h (n := n + 1) (by exact_mod_cast hgrid)
  exact hdigits.trans (Nat.pow_le_pow_right (by decide) (by have := List.mem_range.mp hn; omega))

/-- **The shortest decimal is rounded to the number**, and its digits are few. -/
theorem shortest_spec (hf : IsSmall f) (h : Proper f m e) :
    RoundsTo f m e (shortest f m e).value ∧ (shortest f m e).digits ≤ 10 ^ 17 := by
  obtain ⟨d, hd, hround, hdigits⟩ := exists_firstOnGrid hf h
  rw [shortest_eq, hd, Option.getD_some, value_dropZeros]
  exact ⟨hround, (digits_dropZeros_le 20 d).trans hdigits⟩

end ApiScaffold.Number
