import ApiScaffold.Param
import ApiScaffold.Proofs.Number.Digits

/-!
# Values of parameters are read as they are written

The reader of integers keeps the number of the digits behind it with its sign, so the bounds have
to hold of every number on the way; they do, because more digits only lead further away from zero
(`le_ofDigitChars`).

* `readInt_toString`: **an integer within the bounds is read as it is written.**
* `ParamValue.read_text`: **so is every value of a type without fractions.**
-/

namespace ApiScaffold

namespace Number

open Text (isAsciiDigit)

variable {low high n : Int} {c : Char}

/-- The number of more digits is not less. -/
theorem le_ofDigitChars (cs : List Char) : ∀ n : Nat, n ≤ Nat.ofDigitChars 10 cs n := by
  induction cs with
  | nil =>
    intro n
    exact Nat.le_refl n
  | cons c cs ih =>
    intro n
    rw [Nat.ofDigitChars_cons]
    exact Nat.le_trans (by omega) (ih _)

/-- **Digits are read onto a number**, if the bounds hold of the result. -/
theorem readDigits_eq {sign : Int} (hsign : sign = 1 ∨ sign = -1) (hlow : low ≤ 0)
    (hhigh : 0 ≤ high) : ∀ (cs : List Char) (n : Nat), (∀ c ∈ cs, isAsciiDigit c = true) →
      low ≤ sign * Nat.ofDigitChars 10 cs n → sign * Nat.ofDigitChars 10 cs n ≤ high →
      readDigits low high sign (sign * n) cs = .ok (sign * Nat.ofDigitChars 10 cs n) := by
  intro cs
  induction cs with
  | nil =>
    intro n _ _ _
    rfl
  | cons c cs ih =>
    intro n hdigits hge hle
    obtain ⟨hdigit, hdigits⟩ := List.forall_mem_cons.mp hdigits
    have hnext : sign * (n : Int) * 10 + sign * (digitValue c : Int) =
        sign * (10 * n + digitValue c : Nat) := by
      rcases hsign with rfl | rfl <;> omega
    have hfar := le_ofDigitChars cs (10 * n + digitValue c)
    rw [Nat.ofDigitChars_cons] at hge hle ⊢
    change low ≤ sign * Nat.ofDigitChars 10 cs (10 * n + digitValue c) at hge
    change sign * Nat.ofDigitChars 10 cs (10 * n + digitValue c) ≤ high at hle
    have hnotHigh : ¬high < sign * (10 * n + digitValue c : Nat) := by
      rcases hsign with rfl | rfl <;> omega
    have hnotLow : ¬sign * (10 * n + digitValue c : Nat) < low := by
      rcases hsign with rfl | rfl <;> omega
    rw [readDigits, if_pos hdigit, hnext]
    dsimp only
    rw [if_neg hnotHigh, if_neg hnotLow]
    exact ih _ hdigits hge hle

theorem isAsciiDigit_of_mem_toDigits {n : Nat} (h : c ∈ Nat.toDigits 10 n) :
    isAsciiDigit c = true := by
  have hdigit := Nat.isDigit_of_mem_toDigits (by decide) (by decide) h
  simpa only [isAsciiDigit, Char.isDigit, Char.le_def, ge_iff_le] using hdigit

/-- The digits of a natural number are read as that number with the sign. -/
theorem readDigits_toDigits {sign : Int} (hsign : sign = 1 ∨ sign = -1) (hlow : low ≤ 0)
    (hhigh : 0 ≤ high) (n : Nat) (hge : low ≤ sign * n) (hle : sign * n ≤ high) :
    readDigits low high sign 0 (Nat.toDigits 10 n) = .ok (sign * n) := by
  have h := readDigits_eq hsign hlow hhigh (Nat.toDigits 10 n) 0
    fun _ => isAsciiDigit_of_mem_toDigits
  rw [Nat.ofDigitChars_ten_toDigits] at h
  simpa only [Int.natCast_zero, Int.mul_zero] using h hge hle

/-- A text that begins with a digit has no sign. -/
theorem readIntChars_digit (hc : isAsciiDigit c = true) (cs : List Char) :
    readIntChars low high (c :: cs) = readDigits low high 1 0 (c :: cs) := by
  have hplus : c ≠ '+' := by
    rintro rfl
    exact absurd hc (by decide)
  have hminus : c ≠ '-' := by
    rintro rfl
    exact absurd hc (by decide)
  unfold readIntChars
  split
  · next heq => cases heq
  · next heq => exact absurd (List.cons.inj heq).1 hplus
  · next heq => exact absurd (List.cons.inj heq).1 hminus
  · next heq => exact absurd (List.cons.inj heq).1 hplus
  · next heq => exact absurd (List.cons.inj heq).1 hminus
  · rfl

theorem readIntChars_minus (hlow : low < 0) (c : Char) (cs : List Char) :
    readIntChars low high ('-' :: c :: cs) = readDigits low high (-1) 0 (c :: cs) := by
  rw [readIntChars, if_pos hlow]
  intro heq
  cases heq

/-- **An integer within the bounds is read as it is written.** -/
theorem readInt_toString (hlow : low ≤ 0) (hhigh : 0 ≤ high) (hge : low ≤ n) (hle : n ≤ high) :
    readInt low high (toString n) = .ok n := by
  cases n with
  | ofNat k =>
    rw [Int.ofNat_eq_natCast] at hge hle ⊢
    have hchars : (toString (k : Int)).toList = Nat.toDigits 10 k := Nat.toList_repr
    have hread := readDigits_toDigits (.inl rfl) hlow hhigh k (by omega) (by omega)
    rw [Int.one_mul] at hread
    rw [readInt, hchars]
    cases hdigits : Nat.toDigits 10 k with
    | nil => exact absurd hdigits Nat.toDigits_ne_nil
    | cons c cs =>
      have hc : c ∈ Nat.toDigits 10 k := hdigits ▸ List.mem_cons_self
      rw [readIntChars_digit (isAsciiDigit_of_mem_toDigits hc), ← hdigits]
      exact hread
  | negSucc k =>
    have hchars : (toString (Int.negSucc k)).toList = '-' :: Nat.toDigits 10 (k + 1) := by
      show ("-" ++ Nat.repr (k + 1)).toList = _
      rw [String.toList_append, Nat.toList_repr]
      rfl
    have hneg : -1 * ((k + 1 : Nat) : Int) = Int.negSucc k := by omega
    have hread := readDigits_toDigits (.inr rfl) hlow hhigh (k + 1) (by omega) (by omega)
    rw [hneg] at hread
    rw [readInt, hchars]
    cases hdigits : Nat.toDigits 10 (k + 1) with
    | nil => exact absurd hdigits Nat.toDigits_ne_nil
    | cons c cs =>
      rw [readIntChars_minus (by omega), ← hdigits]
      exact hread

end Number

namespace ParamValue

open Number (int32Bounds int64Bounds)

variable {v : ParamValue} {type : Primitive}

/-- **A value of a type without fractions is read as it is written.** -/
theorem read_text (htype : type ≠ .float ∧ type ≠ .double) (h : v.hasType type = true) :
    read type v.text = .ok v := by
  cases type with
  | float => exact absurd rfl htype.1
  | double => exact absurd rfl htype.2
  | string =>
    cases v with
    | string s => rfl
    | _ => cases h
  | boolean =>
    cases v with
    | bool b => cases b <;> rfl
    | _ => cases h
  | int32 =>
    cases v with
    | integer n =>
      simp only [hasType, Bool.and_eq_true, decide_eq_true_eq] at h
      rw [read, text, Number.readInt32,
        Number.readInt_toString (by decide) (by decide) h.1 h.2]
      rfl
    | _ => cases h
  | int64 =>
    cases v with
    | integer n =>
      simp only [hasType, Bool.and_eq_true, decide_eq_true_eq] at h
      rw [read, text, Number.readInt64,
        Number.readInt_toString (by decide) (by decide) h.1 h.2]
      rfl
    | _ => cases h

end ParamValue

end ApiScaffold
