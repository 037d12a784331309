import ApiScaffold.Number.Reader
import Mathlib.Logic.Function.Basic

/-!
# Decimal digits

A natural number is written in one way and read in many: a plus sign and any zeros may stand
before its digits.  Nothing else may, so what is left without them is the number as it is
written.  The reader keeps the number of the digits behind it; its digits and those that are
still to come are the digits of the result (`toDigits_append_of_readDigits`).

* `digits_injective`: numbers are told apart by their digits.
* `plain`: a text without a plus sign and zeros before it.
* `plain_of_readNat`: **a number other than zero is read only from its digits in plain form.**
-/

namespace ApiScaffold.Number

open Text (isAsciiDigit)

variable {n high : Nat} {c : Char} {cs : List Char} {s : String}

/-! ## Writing -/

/-- Numbers are told apart by their digits: reading them back gives the number. -/
theorem digits_injective : Function.Injective (toString : Nat → String) :=
  Function.LeftInverse.injective (g := fun s => Nat.ofDigitChars 10 s.toList 0) fun n => by
    show Nat.ofDigitChars 10 (Nat.repr n).toList 0 = n
    rw [Nat.toList_repr, Nat.ofDigitChars_ten_toDigits]

/-- A text with a character that is no digit is not that of a number. -/
theorem toString_ne_of_mem (hmem : c ∈ s.toList) (hc : c.isDigit = false) : toString n ≠ s := by
  rintro rfl
  rw [show (toString n).toList = Nat.toDigits 10 n from Nat.toList_repr] at hmem
  rw [Nat.isDigit_of_mem_toDigits (by decide) (by decide) hmem] at hc
  cases hc

/-! ## Reading -/

/-- A text without the zeros before it. -/
def withoutZeros (cs : List Char) : List Char := cs.dropWhile (· == '0')

/-- The characters of a text without a plus sign and zeros before them. -/
def plainChars : List Char → List Char
  | '+' :: cs => withoutZeros cs
  | cs => withoutZeros cs

/-- A text without a plus sign and zeros before it. -/
def plain (s : String) : String := String.ofList (plainChars s.toList)

theorem digit_bounds (h : isAsciiDigit c = true) : 48 ≤ c.toNat ∧ c.toNat ≤ 57 := by
  simp only [isAsciiDigit, Bool.and_eq_true, decide_eq_true_eq] at h
  exact h

theorem digitValue_lt (h : isAsciiDigit c = true) : digitValue c < 10 := by
  have hbounds := digit_bounds h
  show c.toNat - 48 < 10
  omega

/-- A digit is the one that its value is written with. -/
theorem digitChar_digitValue (h : isAsciiDigit c = true) : Nat.digitChar (digitValue c) = c := by
  have hbounds := digit_bounds h
  apply Char.toNat_inj.mp
  rw [Nat.toNat_digitChar_of_lt_ten (digitValue_lt h)]
  show 48 + (c.toNat - 48) = c.toNat
  omega

theorem digitValue_pos (h : isAsciiDigit c = true) (hc : c ≠ '0') : 0 < digitValue c := by
  have hbounds := digit_bounds h
  have hne : c.toNat ≠ 48 := fun heq => hc (Char.toNat_inj.mp heq)
  show 0 < c.toNat - 48
  omega

/-- A reading that goes on has read a digit. -/
theorem readDigits_cons (acc : Nat) {m : Int} (h : readDigits 0 high 1 acc (c :: cs) = .ok m) :
    isAsciiDigit c = true ∧
      readDigits 0 high 1 (10 * acc + digitValue c : Nat) cs = .ok m := by
  rw [readDigits] at h
  split at h
  · next hdigit =>
    have hnext : (acc : Int) * 10 + 1 * (digitValue c : Int) = (10 * acc + digitValue c : Nat) := by
      omega
    simp only [hnext] at h
    split at h
    · cases h
    · split at h
      · cases h
      · exact ⟨hdigit, h⟩
  · cases h

/-- **The digits that have been read and those to come are the digits of the result.** -/
theorem toDigits_append_of_readDigits {m : Int} : ∀ {cs : List Char} {acc : Nat}, 0 < acc →
    readDigits 0 high 1 acc cs = .ok m → Nat.toDigits 10 acc ++ cs = Nat.toDigits 10 m.toNat := by
  intro cs
  induction cs with
  | nil =>
    intro acc _ h
    cases h
    rw [List.append_nil, Int.toNat_natCast]
  | cons c cs ih =>
    intro acc hacc h
    obtain ⟨hdigit, hrest⟩ := readDigits_cons acc h
    have hwritten : Nat.toDigits 10 acc ++ [c] = Nat.toDigits 10 (10 * acc + digitValue c) := by
      rw [← Nat.toDigits_append_toDigits (by decide) hacc (digitValue_lt hdigit),
        Nat.toDigits_of_lt_base (digitValue_lt hdigit), digitChar_digitValue hdigit]
    calc Nat.toDigits 10 acc ++ c :: cs
        = (Nat.toDigits 10 acc ++ [c]) ++ cs := by rw [List.append_assoc, List.singleton_append]
      _ = Nat.toDigits 10 (10 * acc + digitValue c) ++ cs := by rw [hwritten]
      _ = Nat.toDigits 10 m.toNat := ih (by omega) hrest

/-- A number other than zero is read from its digits and zeros before them. -/
theorem withoutZeros_of_readDigits {m : Int} (hm : m ≠ 0) : ∀ {cs : List Char},
    readDigits 0 high 1 0 cs = .ok m → withoutZeros cs = Nat.toDigits 10 m.toNat := by
  intro cs
  induction cs with
  | nil =>
    intro h
    cases h
    exact absurd rfl hm
  | cons c cs ih =>
    intro h
    obtain ⟨hdigit, hrest⟩ := readDigits_cons 0 h
    rw [Nat.mul_zero, Nat.zero_add] at hrest
    by_cases hc : c = '0'
    · subst hc
      exact ih hrest
    · have hwritten := toDigits_append_of_readDigits (digitValue_pos hdigit hc) hrest
      rw [Nat.toDigits_of_lt_base (digitValue_lt hdigit), digitChar_digitValue hdigit] at hwritten
      rw [withoutZeros, List.dropWhile_cons_of_neg (by simpa using hc)]
      exact hwritten

/-- The digits stand behind the plus sign. -/
theorem plainChars_of_readIntChars {m : Int} (h : readIntChars 0 high cs = .ok m) (hm : m ≠ 0) :
    plainChars cs = Nat.toDigits 10 m.toNat := by
  unfold readIntChars at h
  split at h
  · cases h
  · cases h
  · cases h
  · exact withoutZeros_of_readDigits hm h
  · cases h
  · next hplus _ =>
    rw [plainChars]
    · exact withoutZeros_of_readDigits hm h
    · exact hplus

/-- **A number other than zero is read only from its digits in plain form.** -/
theorem plain_of_readNat (h : readNat high s = .ok n) (hn : n ≠ 0) : plain s = toString n := by
  unfold readNat readInt at h
  cases hread : readIntChars 0 high s.toList with
  | error e => rw [hread] at h; cases h
  | ok m =>
    rw [hread] at h
    cases h
    have hm : m ≠ 0 := by
      rintro rfl
      exact hn rfl
    rw [plain, plainChars_of_readIntChars hread hm]
    exact Nat.repr_eq_ofList_toDigits.symm

end ApiScaffold.Number
