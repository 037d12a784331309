import ApiScaffold.Proofs.Number.FloatText

/-!
# When two layouts write the same text

A number is written in full, or as in a JSON text.  Both layouts are made from one decimal, whose
last digit is not zero, and the texts differ in two ways only: a JSON text puts a point and a zero
behind an integer, and gives a power of ten to numbers that are small or large.  So a text in full
is that of an integer without a point (`write_full_eq_integer_iff`), or that of a fraction whose
JSON text has no power (`write_full_eq_json_iff`).

A text in full gives its decimal away: behind the point stand as many digits as the exponent says,
and the digits before and behind the point are those of the decimal and zeros in front
(`exists_split`).

* `Decimal.IsReduced`: a decimal without a zero at its end.
* `Binary.written?`: the sign and the decimal that a number is written with.
* `write_full_eq_integer_iff`, `write_full_eq_json_iff`: **when a text in full is that of an
  integer, and when it is that of a number in a JSON text.**
* `shortest_value_of_integer`: the decimal of an integer that is not too large.
-/

namespace ApiScaffold.Number

open Text (isAsciiDigit)

variable {f g : Format} {m : Nat} {e : Int} {d d' : Decimal}

theorem isSmall_single : IsSmall .single := by constructor <;> decide

/-! ## Reduced decimals -/

/-- Whether a decimal is zero, or its last digit is not. -/
def Decimal.IsReduced (d : Decimal) : Prop := d = ⟨0, 0⟩ ∨ d.digits % 10 ≠ 0

theorem dropZeros_mod_ten {fuel : Nat} (hpos : 0 < d.digits) (hfuel : d.digits < 10 ^ fuel) :
    (d.dropZeros fuel).digits % 10 ≠ 0 := by
  induction fuel generalizing d with
  | zero => omega
  | succ fuel ih =>
    rw [Decimal.dropZeros]
    by_cases hzero : d.digits % 10 = 0
    · have hdrop : (d.digits ≠ 0 && d.digits % 10 == 0) = true := by
        simp only [hzero, ne_eq, Bool.and_eq_true, decide_eq_true_eq, beq_self_eq_true, and_true]
        omega
      rw [if_pos hdrop]
      rw [pow_succ] at hfuel
      refine ih ?_ ?_
      · show 0 < d.digits / 10
        omega
      · show d.digits / 10 < 10 ^ fuel
        omega
    · have hkeep : ¬ (d.digits ≠ 0 && d.digits % 10 == 0) = true := by simp [hzero]
      rw [if_neg hkeep]
      exact hzero

/-- **The shortest decimal has no zero at its end.** -/
theorem shortest_mod_ten (hf : IsSmall f) (h : Proper f m e) :
    (shortest f m e).digits % 10 ≠ 0 := by
  obtain ⟨d, hd, hround, hdigits⟩ := exists_firstOnGrid hf h
  rw [shortest_eq, hd, Option.getD_some]
  have hpow : (0 : ℚ) < 10 ^ d.exponent := by positivity
  have hpos : (0 : ℚ) < d.digits := pos_of_mul_pos_left (hround.pos h.pos) hpow.le
  exact dropZeros_mod_ten (by exact_mod_cast hpos) (hdigits.trans_lt (by decide))

/-- The decimal of a number; zero has no digits. -/
def decimalOf (f : Format) (m : Nat) (e : Int) : Decimal := if m = 0 then ⟨0, 0⟩ else shortest f m e

/-- The sign and the decimal that a number is written with. -/
def Binary.written? : Binary f → Option (Bool × Decimal)
  | .finite s m e => some (s, decimalOf f m e)
  | _ => none

theorem isReduced_decimalOf {s : Bool} (hf : IsSmall f) (h : IsValue (.finite s m e : Binary f)) :
    (decimalOf f m e).IsReduced := by
  obtain ⟨rfl, -⟩ | hproper := h
  · exact .inl rfl
  · rw [decimalOf, if_neg (Nat.ne_of_gt hproper.pos)]
    exact .inr (shortest_mod_ten hf hproper)

/-! ## Digits in full -/

theorem toDigits_mul_pow {n : Nat} (hn : 0 < n) (k : Nat) :
    Nat.toDigits 10 (n * 10 ^ k) = Nat.toDigits 10 n ++ List.replicate k '0' := by
  induction k with
  | zero => simp
  | succ k ih =>
    have hpos : 0 < n * 10 ^ k := Nat.mul_pos hn (Nat.pow_pos (by decide))
    have hnext : n * 10 ^ (k + 1) = 10 * (n * 10 ^ k) + 0 := by rw [pow_succ]; ring
    rw [hnext, ← Nat.toDigits_append_toDigits (by decide) hpos (by decide), ih,
      List.append_assoc, List.replicate_succ']
    rfl

theorem toDigits_ten_injective {n k : Nat} (h : Nat.toDigits 10 n = Nat.toDigits 10 k) : n = k := by
  rw [← natOfDigits_toDigits n, h, natOfDigits_toDigits]

/-- The digits of a decimal, as they stand in its texts. -/
theorem toList_toString_nat (n : Nat) : (toString n).toList = Nat.toDigits 10 n := Nat.toList_repr

/-- An integer in full. -/
theorem layOut_full_integer (hd : d.IsReduced) (h : 0 ≤ d.exponent) :
    FloatLayout.full.layOut d = Nat.toDigits 10 (d.digits * 10 ^ d.exponent.toNat) := by
  have hlength : 0 < (Nat.toDigits 10 d.digits).length := Nat.length_toDigits_pos
  obtain rfl | hdigits := hd
  · rfl
  rw [toDigits_mul_pow (by omega), FloatLayout.layOut]
  simp only [FloatLayout.full, toList_toString_nat, if_true, Bool.false_eq_true, if_false]
  rw [if_neg (by omega), if_pos (by omega), List.append_nil]
  congr 2
  omega

/-- **A fraction in full gives its decimal away**: digits, a point, and as many digits as the
exponent says. -/
theorem exists_split (h : d.exponent < 0) : ∃ whole decimals,
    FloatLayout.full.layOut d = whole ++ '.' :: decimals ∧ IsDigits whole ∧ IsDigits decimals ∧
      natOfDigits (whole ++ decimals) = d.digits ∧ (decimals.length : Int) = -d.exponent := by
  have hdigits := isDigits_toDigits d.digits
  have hvalue := natOfDigits_toDigits d.digits
  rw [FloatLayout.layOut]
  simp only [FloatLayout.full, toList_toString_nat, if_true]
  generalize Nat.toDigits 10 d.digits = digits at *
  by_cases hpoint : (digits.length : Int) + d.exponent ≤ 0
  · -- all digits stand behind the point
    rw [if_pos hpoint]
    refine ⟨['0'], List.replicate (-(digits.length + d.exponent)).toNat '0' ++ digits, rfl,
      isDigits_zeros 1, (isDigits_zeros _).append hdigits, ?_, ?_⟩
    · rw [← List.append_assoc, ← List.replicate_one, List.replicate_append_replicate,
        natOfDigits_zeros_append, hvalue]
    · rw [List.length_append, List.length_replicate]
      omega
  · -- the point stands among the digits
    rw [if_neg hpoint, if_neg (by omega)]
    refine ⟨_, _, rfl, fun c hc => hdigits c (List.mem_of_mem_take hc),
      fun c hc => hdigits c (List.mem_of_mem_drop hc), ?_, ?_⟩
    · rw [List.take_append_drop, hvalue]
    · rw [List.length_drop]
      omega

theorem not_mem_of_isDigits {c : Char} {cs : List Char} (h : IsDigits cs)
    (hc : isAsciiDigit c = false) : c ∉ cs := fun hmem =>
  Bool.false_ne_true (hc.symm.trans (h c hmem))

/-- A text is split at its point in one way only. -/
theorem split_inj {whole whole' decimals decimals' : List Char} (h : IsDigits whole)
    (h' : IsDigits whole') (heq : whole ++ '.' :: decimals = whole' ++ '.' :: decimals') :
    whole = whole' ∧ decimals = decimals' := by
  obtain ⟨htake, hdrop⟩ := span_digits ('.' :: decimals) h (by simp [isAsciiDigit])
  obtain ⟨htake', hdrop'⟩ := span_digits ('.' :: decimals') h' (by simp [isAsciiDigit])
  rw [heq] at htake hdrop
  exact ⟨htake.symm.trans htake', (List.cons_inj_right '.').mp (hdrop.symm.trans hdrop')⟩

/-! ## The layout of a JSON text -/

/-- Whether a decimal is zero or neither small nor large; a JSON text gives it no power of ten. -/
def Decimal.IsModerate (d : Decimal) : Prop :=
  d.digits = 0 ∨ (10 : ℚ) ^ (-5 : Int) ≤ d.value ∧ d.value < 10 ^ (16 : Int)

/-- The first digit of a number stands at the power of ten below it. -/
theorem value_between (hpos : 0 < d.digits) :
    (10 : ℚ) ^ ((Nat.toDigits 10 d.digits).length + d.exponent - 1) ≤ d.value ∧
      d.value < 10 ^ ((Nat.toDigits 10 d.digits).length + d.exponent) := by
  have hpow : (0 : ℚ) < 10 ^ d.exponent := by positivity
  have hlength : 0 < (Nat.toDigits 10 d.digits).length := Nat.length_toDigits_pos
  have hlow : 10 ^ ((Nat.toDigits 10 d.digits).length - 1) ≤ d.digits := by
    by_contra hless
    have hfewer := (Nat.length_toDigits_le_iff (b := 10) (n := d.digits)
      (k := (Nat.toDigits 10 d.digits).length - 1) (by decide) ?_).mpr (Nat.lt_of_not_le hless)
    · omega
    · by_contra hnone
      rw [Nat.eq_zero_of_not_pos hnone] at hless
      omega
  have hhigh := lt_pow_length d.digits
  generalize (Nat.toDigits 10 d.digits).length = count at *
  have hlowq : (10 : ℚ) ^ ((count : Int) - 1) ≤ d.digits := by
    rw [← Nat.cast_one, ← Nat.cast_sub hlength, zpow_natCast]
    exact_mod_cast hlow
  have hhighq : (d.digits : ℚ) < 10 ^ (count : Int) := by exact_mod_cast hhigh
  rw [Decimal.value]
  constructor
  · rw [show (count : Int) + d.exponent - 1 = count - 1 + d.exponent by omega,
      zpow_add₀ (by norm_num)]
    exact mul_le_mul_of_nonneg_right hlowq hpow.le
  · rw [zpow_add₀ (by norm_num)]
    exact mul_lt_mul_of_pos_right hhighq hpow

theorem isModerate_iff (hpos : 0 < d.digits) : d.IsModerate ↔
    (-5 : Int) ≤ (Nat.toDigits 10 d.digits).length + d.exponent - 1 ∧
      (Nat.toDigits 10 d.digits).length + d.exponent - 1 ≤ (15 : Int) := by
  obtain ⟨hlow, hhigh⟩ := value_between hpos
  generalize ((Nat.toDigits 10 d.digits).length : Int) + d.exponent = point at *
  have hten : (1 : ℚ) < 10 := by norm_num
  rw [Decimal.IsModerate, or_iff_right (Nat.ne_of_gt hpos)]
  constructor
  · rintro ⟨hsmall, hlarge⟩
    have h1 := (zpow_lt_zpow_iff_right₀ hten).mp (hsmall.trans_lt hhigh)
    have h2 := (zpow_lt_zpow_iff_right₀ hten).mp (hlow.trans_lt hlarge)
    omega
  · rintro ⟨hsmall, hlarge⟩
    refine ⟨(zpow_le_zpow_right₀ hten.le hsmall).trans hlow, hhigh.trans_le ?_⟩
    exact zpow_le_zpow_right₀ hten.le (by omega)

/-- A JSON text has the digits in full, with a point and a zero behind an integer, where it gives
no power of ten. -/
theorem layOut_json_of_moderate (hd : d.IsReduced) (h : d.IsModerate) :
    FloatLayout.json.layOut d =
      FloatLayout.full.layOut d ++ if 0 ≤ d.exponent then ['.', '0'] else [] := by
  have hlength : 0 < (Nat.toDigits 10 d.digits).length := Nat.length_toDigits_pos
  obtain rfl | hdigits := hd
  · rfl
  obtain ⟨hlow, hhigh⟩ := (isModerate_iff (by omega)).mp h
  rw [FloatLayout.layOut, FloatLayout.layOut]
  simp only [FloatLayout.full, FloatLayout.json, toList_toString_nat, if_true, Bool.and_eq_true,
    decide_eq_true_eq]
  generalize Nat.toDigits 10 d.digits = digits at *
  rw [if_pos ⟨hlow, hhigh⟩]
  by_cases hpoint : (digits.length : Int) + d.exponent ≤ 0
  · rw [if_pos hpoint, if_pos hpoint, if_neg (by omega), List.append_nil]
  · rw [if_neg hpoint, if_neg hpoint]
    by_cases hinteger : 0 ≤ d.exponent
    · rw [if_pos (by omega), if_pos (by omega), if_pos hinteger]
      simp
    · rw [if_neg (by omega), if_neg (by omega), if_neg hinteger, List.append_nil]

theorem mem_layOut_json_of_not_moderate (h : ¬ d.IsModerate) :
    'e' ∈ FloatLayout.json.layOut d := by
  have hpos : 0 < d.digits := Nat.pos_of_ne_zero fun hzero => h (.inl hzero)
  rw [isModerate_iff hpos] at h
  rw [FloatLayout.layOut]
  simp only [FloatLayout.json, toList_toString_nat, Bool.and_eq_true, decide_eq_true_eq]
  rw [if_neg h]
  simp

/-! ## Decimals with the same text -/

theorem mem_layOut_full (hd : d.IsReduced) {c : Char} (hc : c ∈ FloatLayout.full.layOut d) :
    isAsciiDigit c = true ∨ c = '.' := by
  by_cases h : 0 ≤ d.exponent
  · rw [layOut_full_integer hd h] at hc
    exact .inl (isDigits_toDigits _ c hc)
  · obtain ⟨whole, decimals, hsplit, hwhole, hdecimals, -, -⟩ := exists_split (Int.not_le.mp h)
    rw [hsplit, List.mem_append, List.mem_cons] at hc
    rcases hc with hc | rfl | hc
    · exact .inl (hwhole c hc)
    · exact .inr rfl
    · exact .inl (hdecimals c hc)

/-- A reduced decimal with digits behind the point is no integer. -/
theorem value_ne_natCast (hd : d.IsReduced) (h : d.exponent < 0) (n : Nat) : d.value ≠ n := by
  intro heq
  obtain rfl | hdigits := hd
  · exact absurd h (by decide)
  obtain ⟨k, hk⟩ : ∃ k : Nat, d.exponent = -((k : Int) + 1) := ⟨(-d.exponent - 1).toNat, by omega⟩
  have hpow : (10 : ℚ) ^ (k + 1) ≠ 0 := by positivity
  rw [Decimal.value, hk, zpow_neg, ← div_eq_mul_inv, div_eq_iff (by positivity)] at heq
  have hwhole : d.digits = n * 10 ^ (k + 1) := by exact_mod_cast heq
  rw [pow_succ, ← Nat.mul_assoc] at hwhole
  omega

theorem value_of_integer (h : 0 ≤ d.exponent) :
    d.value = (d.digits * 10 ^ d.exponent.toNat : Nat) := by
  obtain ⟨k, hk⟩ := Int.eq_ofNat_of_zero_le h
  rw [Decimal.value, hk, zpow_natCast, Int.toNat_natCast]
  push_cast
  rfl

theorem point_mem_layOut_full_iff (hd : d.IsReduced) :
    '.' ∈ FloatLayout.full.layOut d ↔ d.exponent < 0 := by
  constructor
  · intro hmem
    by_contra h
    rw [layOut_full_integer hd (Int.not_lt.mp h)] at hmem
    exact not_mem_of_isDigits (isDigits_toDigits _) rfl hmem
  · intro h
    obtain ⟨whole, decimals, hsplit, -⟩ := exists_split h
    rw [hsplit]
    exact List.mem_append_right _ List.mem_cons_self

/-- A text in full is that of a natural number exactly if its decimal is that number. -/
theorem layOut_full_eq_iff (hd : d.IsReduced) (n : Nat) :
    FloatLayout.full.layOut d = Nat.toDigits 10 n ↔ d.value = n := by
  by_cases h : 0 ≤ d.exponent
  · rw [layOut_full_integer hd h, value_of_integer h, Nat.cast_inj]
    exact ⟨toDigits_ten_injective, congrArg _⟩
  · have hfraction := Int.not_le.mp h
    refine iff_of_false (fun heq => ?_) (value_ne_natCast hd hfraction n)
    have hpoint := (point_mem_layOut_full_iff hd).mpr hfraction
    rw [heq] at hpoint
    exact not_mem_of_isDigits (isDigits_toDigits n) rfl hpoint

/-- Fractions are told apart by their texts in full. -/
theorem eq_of_layOut_full (h : d.exponent < 0) (h' : d'.exponent < 0)
    (heq : FloatLayout.full.layOut d = FloatLayout.full.layOut d') : d = d' := by
  obtain ⟨whole, decimals, hsplit, hwhole, -, hdigits, hlength⟩ := exists_split h
  obtain ⟨whole', decimals', hsplit', hwhole', -, hdigits', hlength'⟩ := exists_split h'
  rw [hsplit, hsplit'] at heq
  obtain ⟨rfl, rfl⟩ := split_inj hwhole hwhole' heq
  have hexponent : d.exponent = d'.exponent := by omega
  obtain ⟨n, k⟩ := d
  obtain ⟨n', k'⟩ := d'
  dsimp only at *
  rw [← hdigits, ← hdigits', hexponent]

/-- **The text in full of one decimal is the JSON text of another** exactly if they are one, which
is a fraction that has no power of ten. -/
theorem layOut_full_eq_json_iff (hd : d.IsReduced) (hd' : d'.IsReduced) :
    FloatLayout.full.layOut d = FloatLayout.json.layOut d' ↔
      d = d' ∧ d.exponent < 0 ∧ d.IsModerate := by
  constructor
  · intro heq
    by_cases hmoderate : d'.IsModerate
    · rw [layOut_json_of_moderate hd' hmoderate] at heq
      by_cases hinteger : 0 ≤ d'.exponent
      · -- the zero behind the point would be the last digit of the decimal
        rw [if_pos hinteger, layOut_full_integer hd' hinteger] at heq
        have h : d.exponent < 0 := (point_mem_layOut_full_iff hd).mp (by rw [heq]; simp)
        obtain ⟨whole, decimals, hsplit, hwhole, -, hdigits, -⟩ := exists_split h
        rw [hsplit] at heq
        obtain ⟨-, rfl⟩ := split_inj hwhole (isDigits_toDigits _) heq
        have hten := natOfDigits_append_zeros whole 1
        rw [List.replicate_one, hdigits, pow_one] at hten
        obtain rfl | hlast := hd
        · exact absurd h (by decide)
        · omega
      · have hfraction := Int.not_le.mp hinteger
        rw [if_neg hinteger, List.append_nil] at heq
        have h : d.exponent < 0 := (point_mem_layOut_full_iff hd).mp
          (heq ▸ (point_mem_layOut_full_iff hd').mpr hfraction)
        obtain rfl := eq_of_layOut_full h hfraction heq
        exact ⟨rfl, h, hmoderate⟩
    · have hmem := mem_layOut_json_of_not_moderate hmoderate
      rw [← heq] at hmem
      rcases mem_layOut_full hd hmem with hdigit | hpoint
      · cases hdigit
      · cases hpoint
  · rintro ⟨rfl, h, hmoderate⟩
    rw [layOut_json_of_moderate hd hmoderate, if_neg (Int.not_le.mpr h), List.append_nil]

/-! ## Texts of numbers -/

/-- The sign in front of a text. -/
def signChars (negative : Bool) : List Char := if negative then ['-'] else []

/-- A text is a sign and a decimal that is laid out; so is zero, if its layout is that of no
digits. -/
theorem toList_write {layout : FloatLayout}
    (hzero : layout.layOut ⟨0, 0⟩ = (if layout.pointZero then "0.0" else "0").toList)
    (s : Bool) (m : Nat) (e : Int) : (layout.write (.finite s m e : Binary f)).toList =
      signChars s ++ layout.layOut (decimalOf f m e) := by
  rw [FloatLayout.write, decimalOf, signChars]
  by_cases hm : m = 0
  · rw [if_pos hm, if_pos hm, hzero]
    cases s <;> simp
  · rw [if_neg hm, if_neg hm]
    cases s <;> simp

theorem toList_write_full (s : Bool) (m : Nat) (e : Int) :
    (FloatLayout.full.write (.finite s m e : Binary f)).toList =
      signChars s ++ FloatLayout.full.layOut (decimalOf f m e) := toList_write rfl s m e

theorem toList_write_json (s : Bool) (m : Nat) (e : Int) :
    (FloatLayout.json.write (.finite s m e : Binary f)).toList =
      signChars s ++ FloatLayout.json.layOut (decimalOf f m e) := toList_write rfl s m e

theorem sign_inj {s t : Bool} {cs ds : List Char} (hcs : '-' ∉ cs) (hds : '-' ∉ ds) :
    signChars s ++ cs = signChars t ++ ds ↔ s = t ∧ cs = ds := by
  cases s <;> cases t
  · simp [signChars]
  · refine iff_of_false (fun heq => hcs ?_) (by simp)
    rw [show cs = '-' :: ds from heq]
    exact List.mem_cons_self
  · refine iff_of_false (fun heq => hds ?_) (by simp)
    rw [show ds = '-' :: cs from heq.symm]
    exact List.mem_cons_self
  · simp [signChars]

theorem sign_not_mem_layOut_full (hd : d.IsReduced) : '-' ∉ FloatLayout.full.layOut d := by
  intro hmem
  rcases mem_layOut_full hd hmem with h | h <;> cases h

/-- The text of an integer. -/
theorem toList_toString_signChars (i : Int) :
    (toString i).toList = signChars (decide (i < 0)) ++ Nat.toDigits 10 i.natAbs := by
  rw [toList_toString_sign, toList_toString_nat, signChars]
  by_cases hi : 0 ≤ i
  · rw [if_pos hi, decide_eq_false (by omega), if_neg Bool.false_ne_true]
  · rw [if_neg hi, decide_eq_true (by omega), if_pos rfl]

theorem toString_int_injective : Function.Injective (toString : Int → String) := by
  intro i j heq
  have hnone : ∀ n, '-' ∉ Nat.toDigits 10 n := fun n =>
    not_mem_of_isDigits (isDigits_toDigits n) rfl
  have hchars := congrArg String.toList heq
  rw [toList_toString_signChars, toList_toString_signChars, sign_inj (hnone _) (hnone _),
    decide_eq_decide] at hchars
  have hdigits := toDigits_ten_injective hchars.2
  omega

variable {s t : Bool} {n : Nat} {k : Int}

/-- **A number in full has the text of an integer** exactly if its decimal is that integer, with its
sign. -/
theorem write_full_eq_integer_iff (hf : IsSmall f) (h : IsValue (.finite s m e : Binary f))
    (i : Int) : FloatLayout.full.write (.finite s m e : Binary f) = toString i ↔
      s = decide (i < 0) ∧ (decimalOf f m e).value = i.natAbs := by
  have hd := isReduced_decimalOf hf h
  rw [← String.toList_inj, toList_write_full, toList_toString_signChars,
    sign_inj (sign_not_mem_layOut_full hd) (not_mem_of_isDigits (isDigits_toDigits _) rfl),
    layOut_full_eq_iff hd]

/-- **A number in full has the JSON text of another number** exactly if both have one decimal, which
is a fraction that has no power of ten. -/
theorem write_full_eq_json_iff (hf : IsSmall f) (hg : IsSmall g)
    (h : IsValue (.finite s m e : Binary f)) (h' : IsValue (.finite t n k : Binary g)) :
    FloatLayout.full.write (.finite s m e : Binary f) =
        FloatLayout.json.write (.finite t n k : Binary g) ↔
      (s = t ∧ decimalOf f m e = decimalOf g n k) ∧
        (decimalOf f m e).exponent < 0 ∧ (decimalOf f m e).IsModerate := by
  have hd := isReduced_decimalOf hf h
  have hd' := isReduced_decimalOf hg h'
  rw [← String.toList_inj, toList_write_full, toList_write_json, and_assoc,
    ← layOut_full_eq_json_iff hd hd']
  by_cases hmoderate : (decimalOf g n k).IsModerate
  · refine sign_inj (sign_not_mem_layOut_full hd) ?_
    rw [layOut_json_of_moderate hd' hmoderate, List.mem_append, not_or]
    refine ⟨sign_not_mem_layOut_full hd', ?_⟩
    split <;> simp
  · -- a power of ten stands in one of the texts only
    have hmem := mem_layOut_json_of_not_moderate hmoderate
    have hfull : 'e' ∉ FloatLayout.full.layOut (decimalOf f m e) := fun hmem => by
      rcases mem_layOut_full hd hmem with h | h <;> cases h
    refine iff_of_false (fun heq => ?_) fun ⟨_, heq⟩ => hfull (heq ▸ hmem)
    have hsign : 'e' ∉ signChars s := by cases s <;> decide
    exact (List.mem_append.not.mpr (not_or.mpr ⟨hsign, hfull⟩))
      (heq ▸ List.mem_append_right _ hmem)

/-! ## Integers -/

/-- An integer that a format can tell from its neighbours has no bits behind the point. -/
theorem exponent_nonpos (hf : IsSmall f) (h : Proper f m e) (hn : (m : ℚ) * 2 ^ e = n)
    (hsmall : n < 2 ^ f.precision) : e ≤ 0 := by
  by_contra hpos
  have hroom := hf.roomyBelow
  have hnormal : 2 ^ (f.precision - 1) ≤ m := h.normal.resolve_left (by omega)
  have hunit : (2 : ℚ) ≤ 2 ^ e := by
    have := zpow_le_zpow_right₀ (one_le_two (α := ℚ)) (show (1 : Int) ≤ e by omega)
    rwa [zpow_one] at this
  have hnormalq : (2 : ℚ) ^ (f.precision - 1) ≤ m := by exact_mod_cast hnormal
  have hsmallq : (n : ℚ) < 2 ^ f.precision := by exact_mod_cast hsmall
  have hfull : (2 : ℚ) ^ f.precision = 2 * 2 ^ (f.precision - 1) := by
    exact_mod_cast pow_precision hf.precision
  nlinarith

/-- The first of some numbers that has a result: the numbers before it have none. -/
theorem of_findSome?_range {α : Type} {p : Nat → Option α} {count : Nat} {a : α}
    (h : (List.range count).findSome? p = some a) :
    ∃ k < count, p k = some a ∧ ∀ i < k, p i = none := by
  obtain ⟨before, k, after, hrange, hk, hnone⟩ := List.findSome?_eq_some_iff.mp h
  have hbefore : before = List.range (min before.length count) := by
    rw [← List.take_range, hrange, List.take_left]
  have hget : (List.range count)[before.length]? = some k := by
    rw [hrange, List.getElem?_append_right (Nat.le_refl _), Nat.sub_self]
    rfl
  obtain ⟨hlength, hkth⟩ := List.getElem?_eq_some_iff.mp hget
  rw [List.length_range] at hlength
  rw [List.getElem_range] at hkth
  subst hkth
  refine ⟨_, hlength, hk, fun i hi => hnone i ?_⟩
  rw [hbefore, List.mem_range]
  omega

theorem ratio_centerOf_integer (hn : (m : ℚ) * 2 ^ e = n) : ratio (centerOf m e) = n := by
  rw [ratio_centerOf, ← hn, unit_quarters e]
  ring

/-- On the grid of the integers an integer is found. -/
theorem exists_onGrid_integer (h : Proper f m e) (hn : (m : ℚ) * 2 ^ e = n) :
    ∃ d, onGrid (centerOf m e) (lowOf f m e) (highOf m e) (m % 2 == 0) 0 = some d := by
  have hcenter := ratio_centerOf_integer hn
  obtain ⟨hfloor, hnext⟩ := floor_enclose (centerOf m e) (snd_pos _ e) 0
  rw [hcenter, zpow_zero, mul_one] at hfloor hnext
  have hdigits : (scale 10 (-0) (centerOf m e)).1 / (scale 10 (-0) (centerOf m e)).2 = n := by
    have h1 : (scale 10 (-0) (centerOf m e)).1 / (scale 10 (-0) (centerOf m e)).2 ≤ n := by
      exact_mod_cast hfloor
    have h2 : n < (scale 10 (-0) (centerOf m e)).1 / (scale 10 (-0) (centerOf m e)).2 + 1 := by
      exact_mod_cast hnext
    omega
  refine exists_onGrid_of_isBetween (.inl (isBetween_of_inside ?_ ?_)) <;>
    rw [Decimal.value, hdigits, zpow_zero, mul_one, ← hcenter, ratio_centerOf]
  · refine mul_lt_mul_of_pos_right ?_ (zpow_pos two_pos _)
    have hm := h.pos
    have hlow : lowQuarters f m e < 4 * m := by
      unfold lowQuarters
      split <;> omega
    exact_mod_cast hlow
  · exact mul_lt_mul_of_pos_right (by linarith) (zpow_pos two_pos _)

/-- What is found around an integer lies on a grid of integers: that of the integers themselves has
the number, and is tried before any finer one. -/
theorem exponent_nonneg_of_integer (hf : IsSmall f) (h : Proper f m e)
    (hn : (m : ℚ) * 2 ^ e = n) (hd : firstOnGrid f m e = some d) : 0 ≤ d.exponent := by
  obtain ⟨k, hk, hgrid, hnone⟩ := of_findSome?_range hd
  obtain ⟨-, hmagnitude⟩ := centerOf_magnitude hf h
  obtain ⟨-, hstep, -⟩ := onGrid_eq_some hgrid
  have hone : (1 : ℚ) ≤ n := by
    have hpos : (0 : ℚ) < n := hn ▸ mul_pos (by exact_mod_cast h.pos) (zpow_pos two_pos e)
    exact_mod_cast (by exact_mod_cast hpos : 0 < n)
  by_contra hneg
  have habove : 0 < decimalMagnitude (centerOf m e) := by
    have hless : (10 : ℚ) ^ (0 : Int) < 10 ^ decimalMagnitude (centerOf m e) := by
      rw [zpow_zero]
      exact hone.trans_lt (ratio_centerOf_integer hn ▸ hmagnitude)
    exact (zpow_lt_zpow_iff_right₀ (by norm_num)).mp hless
  have htried := hnone (decimalMagnitude (centerOf m e) - 1).toNat (by omega)
  have hzero : decimalMagnitude (centerOf m e)
      - ((decimalMagnitude (centerOf m e) - 1).toNat + 1) = 0 := by omega
  obtain ⟨found, hfound⟩ := exists_onGrid_integer h hn
  rw [hzero, hfound] at htried
  cases htried

/-- **The shortest decimal of an integer that is not too large is the integer.** -/
theorem shortest_value_of_integer (hf : IsSmall f) (h : Proper f m e) (hn : (m : ℚ) * 2 ^ e = n)
    (hsmall : n < 2 ^ f.precision) : (shortest f m e).value = n := by
  obtain ⟨d, hd, hround, -⟩ := exists_firstOnGrid hf h
  rw [shortest_eq, hd, Option.getD_some, value_dropZeros]
  have hvalue := value_of_integer (exponent_nonneg_of_integer hf h hn hd)
  generalize d.digits * 10 ^ d.exponent.toNat = k at hvalue
  have hunit : (2 : ℚ) ^ e ≤ 1 := by
    have := zpow_le_zpow_right₀ (one_le_two (α := ℚ)) (exponent_nonpos hf h hn hsmall)
    rwa [zpow_zero] at this
  have hlow := hround.low
  have hhigh := hround.high
  have hu : (0 : ℚ) < 2 ^ (e - 2) := zpow_pos two_pos _
  have hquarters := mul_le_mul_of_nonneg_right (lowQuarters_ge (f := f) (e := e) h.pos) hu.le
  rw [unit_quarters e] at hn hunit
  push_cast at hhigh
  rw [hvalue] at hlow hhigh ⊢
  -- both are integers, and less than one apart
  have h1 : (k : ℚ) < n + 1 := by linarith
  have h2 : (n : ℚ) < k + 1 := by linarith
  have h1' : k < n + 1 := by exact_mod_cast h1
  have h2' : n < k + 1 := by exact_mod_cast h2
  rw [show k = n by omega]

end ApiScaffold.Number
