import ApiScaffold.Number.FloatText
import ApiScaffold.Proofs.Number.Shortest
import ApiScaffold.Proofs.Param
import Mathlib.Data.List.TakeWhile

/-!
# The text of a floating number is read as the number

The layout of a decimal puts a point among its digits, zeros around them or a power of ten behind
them, and the reader takes all of it back: it finds digits and an exponent that denote the same
number as the decimal, though not always the same digits.  That number is rounded to the one that
the decimal was made from.

* `Parts`: the parts of a decimal text: its digits before and behind the point, and its power of
  ten.
* `readFraction_chars`: **the digits and the exponent that are read** from the parts of a text.
* `exists_parts`: the exact layout of a decimal has parts that denote the same number.
* `ofDecimal_eq`: a decimal around a number is rounded to the number.
* `exists_parts_of_write`: **the exact text of a finite number is read as the number.**
-/

namespace ApiScaffold.Number

open Text (isAsciiDigit)

variable {f : Format} {m n : Nat} {e k : Int} {cs ds : List Char} {d : Decimal}

/-! ## Digits -/

theorem natOfDigits_eq (cs : List Char) : natOfDigits cs = Nat.ofDigitChars 10 cs 0 := by
  simp only [natOfDigits, Nat.ofDigitChars, Nat.mul_comm, digitValue]

theorem natOfDigits_toDigits (n : Nat) : natOfDigits (Nat.toDigits 10 n) = n := by
  rw [natOfDigits_eq, Nat.ofDigitChars_ten_toDigits]

theorem ofDigitChars_zeros (k n : Nat) :
    Nat.ofDigitChars 10 (List.replicate k '0') n = n * 10 ^ k := by
  induction k generalizing n with
  | zero => rw [pow_zero, Nat.mul_one]; rfl
  | succ k ih =>
    rw [List.replicate_succ, Nat.ofDigitChars_cons, ih, pow_succ]
    simp only [Nat.sub_self, Nat.add_zero]
    ring

/-- Zeros behind digits multiply the number. -/
theorem natOfDigits_append_zeros (cs : List Char) (k : Nat) :
    natOfDigits (cs ++ List.replicate k '0') = natOfDigits cs * 10 ^ k := by
  rw [natOfDigits_eq, Nat.ofDigitChars_append, ofDigitChars_zeros, natOfDigits_eq]

/-- Zeros before digits do not count. -/
theorem natOfDigits_zeros_append (k : Nat) (cs : List Char) :
    natOfDigits (List.replicate k '0' ++ cs) = natOfDigits cs := by
  rw [natOfDigits_eq, Nat.ofDigitChars_append, ofDigitChars_zeros, Nat.zero_mul, natOfDigits_eq]

/-- Digits only. -/
def IsDigits (cs : List Char) : Prop := ∀ c ∈ cs, isAsciiDigit c = true

theorem isDigits_toDigits (n : Nat) : IsDigits (Nat.toDigits 10 n) :=
  fun _ => isAsciiDigit_of_mem_toDigits

theorem isDigits_zeros (k : Nat) : IsDigits (List.replicate k '0') := by
  intro c hc
  rw [List.eq_of_mem_replicate hc]
  rfl

theorem IsDigits.append (hcs : IsDigits cs) (hds : IsDigits ds) : IsDigits (cs ++ ds) := by
  intro c hc
  exact (List.mem_append.mp hc).elim (hcs c) (hds c)

/-- Digits end where something else begins. -/
theorem span_digits (ds : List Char) (hcs : IsDigits cs)
    (hds : ∀ c ∈ ds.head?, isAsciiDigit c = false) :
    (cs ++ ds).takeWhile isAsciiDigit = cs ∧ (cs ++ ds).dropWhile isAsciiDigit = ds := by
  cases ds with
  | nil =>
    rw [List.append_nil]
    exact ⟨List.takeWhile_eq_self_iff.mpr hcs, List.dropWhile_eq_nil_iff.mpr hcs⟩
  | cons c ds =>
    have hc := hds c rfl
    rw [List.takeWhile_append_of_pos hcs, List.dropWhile_append_of_pos hcs,
      List.takeWhile_cons_of_neg (by simp [hc]), List.dropWhile_cons_of_neg (by simp [hc]),
      List.append_nil]
    exact ⟨rfl, rfl⟩

/-! ## The parts of a text -/

/-- The parts of a decimal text without a sign. -/
structure Parts where
  whole : List Char
  decimals : Option (List Char)
  power : Option Int

namespace Parts

/-- The text of a power of ten. -/
def powerChars : Option Int → List Char
  | none => []
  | some n => 'e' :: (toString n).toList

/-- The text of the parts. -/
def chars (p : Parts) : List Char :=
  p.whole ++ (p.decimals.elim [] ('.' :: ·) ++ powerChars p.power)

/-- The digits before and behind the point. -/
def digits (p : Parts) : List Char := p.whole ++ p.decimals.getD []

/-- The exponent of the last digit. -/
def exponent (p : Parts) : Int := p.power.getD 0 - (p.decimals.getD []).length

/-- The parts of a number: digits, at least one before the point, and a point or a power. -/
structure IsNumber (p : Parts) : Prop where
  whole : p.whole ≠ []
  digits : IsDigits p.digits
  float : p.decimals.isSome = true ∨ p.power.isSome = true

end Parts

/-- The text of a floating number has a point or the letter of an exponent. -/
theorem Parts.IsNumber.any_mark {p : Parts} (hp : p.IsNumber) :
    (p.chars.any fun c => c == '.' || c == 'e') = true := by
  rw [Parts.chars, List.any_append, List.any_append]
  obtain h | h := hp.float
  · obtain ⟨decimals, hdecimals⟩ := Option.isSome_iff_exists.mp h
    simp [hdecimals]
  · obtain ⟨n, hn⟩ := Option.isSome_iff_exists.mp h
    simp [hn, Parts.powerChars]

theorem toList_toString_int (n : Int) : (toString n).toList = Nat.toDigits 10 n.toNat ∧ 0 ≤ n ∨
    (toString n).toList = '-' :: Nat.toDigits 10 n.natAbs ∧ n < 0 := by
  cases n with
  | ofNat k => exact .inl ⟨Nat.toList_repr, Int.natCast_nonneg k⟩
  | negSucc k =>
    refine .inr ⟨?_, Int.negSucc_lt_zero k⟩
    show ("-" ++ Nat.repr (k + 1)).toList = _
    rw [String.toList_append, Nat.toList_repr]
    rfl

/-- An exponent is read as it is written. -/
theorem readExponent_repr (n : Int) : readExponent n.repr.toList = some n := by
  show readExponent (toString n).toList = some n
  obtain ⟨h, hn⟩ | ⟨h, hn⟩ := toList_toString_int n
  · have hdigits := isDigits_toDigits n.toNat
    have hvalue := natOfDigits_toDigits n.toNat
    rw [h]
    cases hcs : Nat.toDigits 10 n.toNat with
    | nil => exact absurd hcs Nat.toDigits_ne_nil
    | cons c cs =>
      rw [hcs] at hdigits hvalue
      have hc := hdigits c List.mem_cons_self
      unfold readExponent
      split
      · next heq => cases heq
      · next heq => cases heq; exact absurd hc (by decide)
      · next heq => cases heq; exact absurd hc (by decide)
      · rw [if_pos (List.all_eq_true.mpr hdigits), hvalue, Int.toNat_of_nonneg hn]
  · rw [h, readExponent, if_pos, natOfDigits_toDigits]
    · congr 1
      omega
    · have hempty : (Nat.toDigits 10 n.natAbs).isEmpty = false :=
        List.isEmpty_eq_false_iff.mpr Nat.toDigits_ne_nil
      rw [hempty, List.all_eq_true.mpr (isDigits_toDigits _)]
      rfl

theorem head?_powerChars (power : Option Int) :
    ∀ c ∈ (Parts.powerChars power).head?, isAsciiDigit c = false := by
  cases power with
  | none => exact nofun
  | some n =>
    intro c hc
    cases hc
    rfl

/-- **The digits and the exponent that are read** from the parts of a text. -/
theorem readFraction_chars (negative : Bool) {p : Parts} (hp : p.IsNumber) :
    (readFraction negative p.chars : Option (Binary f))
      = some (.ofDecimal negative (natOfDigits p.digits) p.exponent) := by
  obtain ⟨whole, decimals, power⟩ := p
  obtain ⟨hne, hdigits, -⟩ := hp
  have hempty : whole.isEmpty = false := List.isEmpty_eq_false_iff.mpr hne
  have hwhole : IsDigits whole := fun c hc => hdigits c (List.mem_append_left _ hc)
  have hpower := head?_powerChars power
  cases decimals with
  | none =>
    obtain ⟨htake, hdrop⟩ := span_digits _ hwhole hpower
    simp only [readFraction, Parts.chars, Option.elim_none, List.nil_append, htake, hdrop]
    cases power with
    | none => simp [Parts.powerChars, hempty, Parts.digits, Parts.exponent]
    | some n =>
      simp [Parts.powerChars, hempty, Parts.digits, Parts.exponent, readExponent_repr]
  | some decimals =>
    have hdecimals : IsDigits decimals := fun c hc => hdigits c (List.mem_append_right _ hc)
    obtain ⟨htake, hdrop⟩ := span_digits ('.' :: (decimals ++ Parts.powerChars power)) hwhole
      (by intro c hc; cases hc; rfl)
    obtain ⟨htake', hdrop'⟩ := span_digits _ hdecimals hpower
    simp only [readFraction, Parts.chars, Option.elim_some, List.cons_append, htake, hdrop, htake',
      hdrop', hempty, Bool.false_and, Bool.false_eq_true, if_false]
    cases power with
    | none => rfl
    | some n => simp [Parts.powerChars, Parts.digits, Parts.exponent, readExponent_repr]

/-! ## The exact layout -/

/-- The digits of a number are as many as its powers of ten. -/
theorem lt_pow_length (n : Nat) : n < 10 ^ (Nat.toDigits 10 n).length :=
  (Nat.length_toDigits_le_iff (by decide) Nat.length_toDigits_pos).mp (Nat.le_refl _)

/-- The parts of a decimal text that denote a decimal with few digits. -/
structure Parts.Denotes (p : Parts) (d : Decimal) : Prop where
  isNumber : p.IsNumber
  few : natOfDigits p.digits < 10 ^ 18
  value : (natOfDigits p.digits : ℚ) * 10 ^ p.exponent = d.value

variable {digits : List Char}

/-- Parts with the digits and the exponent of a decimal denote it. -/
theorem Parts.denotes_of_eq {p : Parts} (hp : p.IsNumber) (h : d.digits ≤ 10 ^ 17)
    (hdigits : natOfDigits p.digits = d.digits) (hexponent : p.exponent = d.exponent) :
    p.Denotes d :=
  ⟨hp, hdigits.trans_lt (h.trans_lt (by decide)), by rw [hdigits, hexponent, Decimal.value]⟩

/-- All digits behind the point. -/
theorem denotes_behind (hdigits : IsDigits digits) (h : natOfDigits digits ≤ 10 ^ 17)
    (hpoint : (digits.length : Int) + k ≤ 0) :
    Parts.Denotes
      ⟨['0'], some (List.replicate (-(digits.length + k)).toNat '0' ++ digits), none⟩
      ⟨natOfDigits digits, k⟩ := by
  refine Parts.denotes_of_eq ⟨by simp, ?_, .inl rfl⟩ h ?_ ?_
  · exact IsDigits.append (isDigits_zeros 1) ((isDigits_zeros _).append hdigits)
  · show natOfDigits (['0'] ++ (List.replicate _ '0' ++ digits)) = natOfDigits digits
    rw [← List.append_assoc, ← List.replicate_one, List.replicate_append_replicate,
      natOfDigits_zeros_append]
  · simp only [Parts.exponent, Option.getD_none, Option.getD_some, List.length_append,
      List.length_replicate]
    omega

/-- All digits before the point, with zeros behind them. -/
theorem denotes_before (hdigits : IsDigits digits) (hne : digits ≠ [])
    (h : natOfDigits digits < 10 ^ digits.length) (hpoint : (digits.length : Int) + k ≤ 16)
    {n : Nat} (hn : (n : Int) = k) :
    Parts.Denotes ⟨digits ++ List.replicate n '0', some ['0'], none⟩ ⟨natOfDigits digits, k⟩ := by
  have hread : natOfDigits (digits ++ List.replicate n '0' ++ ['0'])
      = natOfDigits digits * 10 ^ (n + 1) := by
    rw [List.append_assoc, ← List.replicate_one, List.replicate_append_replicate,
      natOfDigits_append_zeros]
  refine ⟨⟨by simp [hne], ?_, .inl rfl⟩, ?_, ?_⟩
  · exact (hdigits.append (isDigits_zeros n)).append (isDigits_zeros 1)
  · refine hread.trans_lt ?_
    calc natOfDigits digits * 10 ^ (n + 1)
        < 10 ^ digits.length * 10 ^ (n + 1) := Nat.mul_lt_mul_of_pos_right h (by positivity)
      _ = 10 ^ (digits.length + (n + 1)) := (pow_add 10 _ _).symm
      _ ≤ 10 ^ 18 := Nat.pow_le_pow_right (by decide) (by omega)
  · show (natOfDigits (digits ++ List.replicate n '0' ++ ['0']) : ℚ) * 10 ^ (-1 : Int) = _
    rw [hread, Decimal.value, ← hn, zpow_natCast, pow_succ]
    push_cast
    norm_num
    ring

/-- The point among the digits. -/
theorem denotes_among (hdigits : IsDigits digits) (h : natOfDigits digits ≤ 10 ^ 17) {n : Nat}
    (hn : 0 < n) (hpoint : (digits.length : Int) + k = n) (hk : k < 0) :
    Parts.Denotes ⟨digits.take n, some (digits.drop n), none⟩ ⟨natOfDigits digits, k⟩ := by
  refine Parts.denotes_of_eq ⟨?_, ?_, .inl rfl⟩ h ?_ ?_
  · rw [Ne, List.take_eq_nil_iff, not_or]
    refine ⟨by omega, ?_⟩
    rintro rfl
    simp at hpoint
    omega
  · show IsDigits (digits.take n ++ digits.drop n)
    rwa [List.take_append_drop]
  · show natOfDigits (digits.take n ++ digits.drop n) = natOfDigits digits
    rw [List.take_append_drop]
  · simp only [Parts.exponent, Option.getD_none, Option.getD_some, List.length_drop]
    omega

/-- A power of ten behind the digits. -/
theorem denotes_power {c : Char} {cs : List Char} (hdigits : IsDigits (c :: cs))
    (h : natOfDigits (c :: cs) ≤ 10 ^ 17) :
    Parts.Denotes ⟨[c], if cs = [] then none else some cs, some (cs.length + k)⟩
      ⟨natOfDigits (c :: cs), k⟩ := by
  have hparts : (if cs = [] then none else some cs : Option (List Char)).getD [] = cs := by
    split
    · next hcs => exact hcs.symm
    · rfl
  have hall : Parts.digits ⟨[c], if cs = [] then none else some cs, some (cs.length + k)⟩
      = c :: cs := by
    simp only [Parts.digits, hparts, List.singleton_append]
  refine Parts.denotes_of_eq ⟨by simp, hall ▸ hdigits, .inr rfl⟩ h (congrArg natOfDigits hall) ?_
  simp only [Parts.exponent, hparts, Option.getD_some]
  omega

theorem toList_toString_sign (n : Int) : (toString n).toList
    = (if 0 ≤ n then [] else ['-']) ++ (toString n.natAbs).toList := by
  have hnat : ∀ k : Nat, (toString k).toList = Nat.toDigits 10 k := fun k => Nat.toList_repr
  obtain ⟨h, hn⟩ | ⟨h, hn⟩ := toList_toString_int n
  · rw [h, if_pos hn, hnat, List.nil_append]
    congr 1
    omega
  · rw [h, if_neg (by omega), hnat, List.singleton_append]

/-- **The exact layout of a decimal has parts that denote it.** -/
theorem exists_parts (h : d.digits ≤ 10 ^ 17) :
    ∃ p : Parts, FloatLayout.exact.layOut d = p.chars ∧ p.Denotes d := by
  obtain ⟨n, k⟩ := d
  have hdigits := isDigits_toDigits n
  have hvalue := natOfDigits_toDigits n
  have hlength := lt_pow_length n
  have hne : Nat.toDigits 10 n ≠ [] := Nat.toDigits_ne_nil
  unfold FloatLayout.layOut FloatLayout.exact
  dsimp only at h ⊢
  rw [show (toString n).toList = Nat.toDigits 10 n from Nat.toList_repr]
  generalize Nat.toDigits 10 n = digits at *
  subst hvalue
  split
  · next hfirst =>
    simp only [Bool.and_eq_true, decide_eq_true_eq] at hfirst
    split
    · next hpoint =>
      exact ⟨_, by simp [Parts.chars, Parts.powerChars], denotes_behind hdigits h hpoint⟩
    next hpoint =>
    split
    · next hbefore =>
      exact ⟨_, by simp [Parts.chars, Parts.powerChars],
        denotes_before hdigits hne hlength (by omega)
          (n := ((digits.length : Int) + k - digits.length).toNat) (by omega)⟩
    · next hbefore =>
      exact ⟨_, by simp [Parts.chars, Parts.powerChars],
        denotes_among hdigits h (n := ((digits.length : Int) + k).toNat) (by omega) (by omega)
          (by omega)⟩
  · cases digits with
    | nil => exact absurd rfl hne
    | cons c cs =>
      refine ⟨_, ?_, denotes_power hdigits h⟩
      have hfirst : ((c :: cs).length : Int) + k - 1 = cs.length + k := by
        rw [List.length_cons]
        omega
      simp only [hfirst, Parts.chars, Parts.powerChars, toList_toString_sign]
      cases cs <;> simp

/-! ## Rounding what is read -/

/-- Powers of ten are further from one than those of eight. -/
theorem two_zpow_le {k : Int} (hk : 0 ≤ k) : (2 : ℚ) ^ (3 * k) ≤ 10 ^ k := by
  rw [zpow_mul]
  exact zpow_le_zpow_left₀ hk (by norm_num) (by norm_num)

theorem le_two_zpow {k : Int} (hk : k ≤ 0) : (10 : ℚ) ^ k ≤ 2 ^ (3 * k) := by
  have h := two_zpow_le (k := -k) (by omega)
  rw [mul_neg, zpow_neg, zpow_neg] at h
  exact (inv_le_inv₀ (zpow_pos (by norm_num) _) (zpow_pos (by norm_num) _)).mp h

/-- The reals around a number of a format lie within the range of the format. -/
theorem RoundsTo.range {q : ℚ} (hprecision : 0 < f.precision) (h : Proper f m e)
    (hround : RoundsTo f m e q) :
    (2 : ℚ) ^ (f.minExponent - 1) ≤ q ∧ q < 2 ^ ((f.precision : Int) + f.maxExponent) := by
  have hu : (0 : ℚ) < 2 ^ (e - 2) := zpow_pos two_pos _
  have hm : (1 : ℚ) ≤ m := by exact_mod_cast h.pos
  constructor
  · calc (2 : ℚ) ^ (f.minExponent - 1) ≤ 2 ^ (e - 1) :=
          zpow_le_zpow_right₀ one_le_two (by have := h.least; omega)
      _ = 2 * 2 ^ (e - 2) := half_quarters e
      _ ≤ lowQuarters f m e * 2 ^ (e - 2) := by
        have hquarters := lowQuarters_ge (f := f) (e := e) h.pos
        exact mul_le_mul_of_nonneg_right (by linarith) hu.le
      _ ≤ q := hround.low
  · exact (hround.below hprecision h).trans_le
      (zpow_le_zpow_right₀ one_le_two (by have := h.greatest; omega))

/-- **A decimal around a number is rounded to the number.** -/
theorem ofDecimal_eq (negative : Bool) (hf : IsSmall f) (h : Proper f m e) (hn : n < 10 ^ 18)
    (hround : RoundsTo f m e (n * 10 ^ k)) :
    Binary.ofDecimal negative n k = (.finite negative m e : Binary f) := by
  have hpow : (0 : ℚ) < 10 ^ k := by positivity
  have hpos : 0 < n := by
    have := hround.pos h.pos
    exact_mod_cast pos_of_mul_pos_left this hpow.le
  have hlog : n.log2 < 60 := by
    rw [Nat.log2_lt (by omega)]
    omega
  obtain ⟨hlow, hhigh⟩ := hround.range hf.precision h
  have hdigits : f.precision < 54 := by
    have hlarge := hf.digits
    by_contra hcontra
    exact absurd (hlarge.trans_le' (Nat.pow_le_pow_right (by decide) (by omega : 54 ≤ f.precision)))
      (by decide)
  have hroom := hf.roomyAbove
  have hroom' := hf.roomyBelow
  -- the exponent is within the range of the format
  have hk : 3 * k < f.precision + f.maxExponent := by
    by_cases hk : 0 ≤ k
    · have hone : (1 : ℚ) ≤ n := by exact_mod_cast hpos
      have hle : (2 : ℚ) ^ (3 * k) ≤ n * 10 ^ k := by
        have := two_zpow_le hk
        nlinarith
      exact (zpow_lt_zpow_iff_right₀ one_lt_two).mp (hle.trans_lt hhigh)
    · omega
  have hk' : f.minExponent - 1 < 3 * (k + 18) := by
    by_cases hk : k + 18 ≤ 0
    · have hnq : (n : ℚ) < 10 ^ 18 := by exact_mod_cast hn
      have hless : (n : ℚ) * 10 ^ k < 2 ^ (3 * (k + 18)) := by
        refine lt_of_lt_of_le ?_ (le_two_zpow hk)
        rw [zpow_add₀ (by norm_num), mul_comm ((10 : ℚ) ^ k)]
        exact mul_lt_mul_of_pos_right hnq hpow
      exact (zpow_lt_zpow_iff_right₀ one_lt_two).mp (hlow.trans_lt hless)
    · omega
  rw [Binary.ofDecimal, if_neg (by omega)]
  dsimp only
  rw [if_neg (by omega), if_neg (by omega)]
  refine round_eq negative hf.precision h (scale_snd_pos 10 (by decide) Nat.one_pos _) ?_
  rw [ratio_decimal ⟨n, k⟩]
  exact hround

theorem Binary.neg_abs {x : Binary f} (h : x.isNegative = true) : x.abs.neg = x := by
  cases x with
  | nan => cases h
  | infinite negative => cases negative with
    | true => rfl
    | false => cases h
  | finite negative m e => cases negative with
    | true => rfl
    | false => cases h

theorem Binary.abs_eq {x : Binary f} (h : x.isNegative = false) : x.abs = x := by
  cases x with
  | nan => rfl
  | infinite negative => cases negative with
    | true => cases h
    | false => rfl
  | finite negative m e => cases negative with
    | true => cases h
    | false => rfl

/-- **The exact text of a finite number is read as the number**: behind the sign it has parts that
denote its magnitude. -/
theorem exists_parts_of_write (hf : IsSmall f) {x : Binary f} (hx : IsValue x) :
    ∃ p : Parts, p.IsNumber ∧
      (FloatLayout.exact.write x).toList = (if x.isNegative then ['-'] else []) ++ p.chars ∧
      readFraction false p.chars = some x.abs := by
  cases x with
  | nan => exact hx.elim
  | infinite s => exact hx.elim
  | finite s m e =>
    obtain ⟨rfl, rfl⟩ | hproper := hx
    · refine ⟨⟨['0'], some ['0'], none⟩, ⟨by simp, isDigits_zeros 2, .inl rfl⟩, ?_, ?_⟩
      · cases s <;>
          simp [FloatLayout.write, FloatLayout.exact, Parts.chars, Parts.powerChars,
            Binary.isNegative]
      · exact readFraction_chars false ⟨by simp, isDigits_zeros 2, .inl rfl⟩
    · obtain ⟨hround, hdigits⟩ := shortest_spec hf hproper
      obtain ⟨p, hchars, hp⟩ := exists_parts hdigits
      refine ⟨p, hp.isNumber, ?_, ?_⟩
      · rw [FloatLayout.write, if_neg (Nat.ne_of_gt hproper.pos), hchars]
        cases s with
        | false => exact String.toList_ofList
        | true =>
          show ("-" ++ String.ofList p.chars).toList = _
          rw [String.toList_append, String.toList_ofList, String.toList_ofList]
          rfl
      · rw [readFraction_chars false hp.isNumber,
          ofDecimal_eq false hf hproper hp.few (hp.value ▸ hround)]
        rfl

end ApiScaffold.Number
