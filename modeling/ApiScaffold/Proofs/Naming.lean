import ApiScaffold.Naming
import ApiScaffold.Proofs.Text.Split
import Mathlib.Data.List.Basic

/-!
# The characters of names

A snake name can hold characters of any script, and the case tables can take a character beyond
ASCII to an ASCII one.  Still, of ASCII there are only lower case letters, digits and underscores
in it: other ASCII characters are written in lower case, as a mark between words, or not at all,
and the tables lead to no other one.

* `Tame`: a character that is beyond ASCII or one of those.
* `tame_of_mem_lowerForm`: **the lower case form of an upper case character is tame.**
* `tame_of_mem_field`: **so are all characters of the name of a field or a function.**
* `written_of_mem_snakeFrom`: **where the characters of lower case words come from**; that they
  are tame is drawn from it.
-/

namespace ApiScaffold.Naming

open Text

variable {c d : Char} {cs : List Char} {s : String}

/-- The ASCII characters of names. -/
def isNameChar (c : Char) : Bool := isAsciiLower c || isAsciiDigit c || c == '_'

/-- A character that is beyond ASCII or one of those of names. -/
def Tame (c : Char) : Prop := isAscii c = true → isNameChar c = true

theorem tame_of_isNameChar (h : isNameChar c = true) : Tame c := fun _ => h

/-- What holds of the ASCII characters by their codes, holds of them. -/
theorem of_ascii {p : Char → Bool} (hcodes : ∀ n < 128, p (Char.ofNat n) = true)
    (h : isAscii c = true) : p c = true := by
  have hcode := hcodes c.toNat (of_decide_eq_true h)
  rwa [Char.ofNat_toNat] at hcode

theorem tame_of_code {n : Nat} (hn : 128 ≤ n) (hvalid : n.isValidChar) : Tame (Char.ofNat n) := by
  intro h
  have hcode : (Char.ofNat n).toNat = n := by
    rw [Char.ofNat, dif_pos hvalid]
    rfl
  rw [isAscii, hcode] at h
  exact absurd (of_decide_eq_true h) (by omega)

/-! ## The tables -/

/-- A run of the lower case table leads to tame characters: beyond ASCII, or from one character to
one letter. -/
def leadsTame (run : Nat × Nat × Nat × Int) : Bool :=
  let (low, high, _, shift) := run
  128 ≤ low + shift &&
      (high + shift < 0xD800 || (0xDFFF < low + shift && high + shift < 0x110000)) ||
    low == high && isNameChar (Char.ofNat (low + shift).toNat)

theorem lowerRuns_tame : ∀ run ∈ lowerRuns, leadsTame run = true := by decide +kernel

theorem lowerExpansions_tame :
    ∀ e ∈ lowerExpansions, ∀ code ∈ e.2,
      isNameChar (Char.ofNat code) = true ∨ 128 ≤ code ∧ code.isValidChar := by decide +kernel

theorem tame_of_shiftBy {n code : Nat} (h : shiftBy lowerRuns n = some code) :
    Tame (Char.ofNat code) := by
  unfold shiftBy at h
  split at h
  · next low high step shift hrun =>
    cases h
    have hleads := lowerRuns_tame _ (List.mem_of_find?_eq_some hrun)
    have hrange := List.find?_some hrun
    simp only [Bool.and_eq_true, decide_eq_true_eq] at hrange
    simp only [leadsTame, Bool.or_eq_true, Bool.and_eq_true, decide_eq_true_eq, beq_iff_eq]
      at hleads
    rcases hleads with ⟨hbeyond, hvalid⟩ | ⟨hsame, hname⟩
    · refine tame_of_code (by omega) ?_
      rcases hvalid with hlow | ⟨hmiddle, hhigh⟩
      · left
        omega
      · right
        omega
    · obtain rfl : n = low := by omega
      exact tame_of_isNameChar hname
  · cases h

/-- **The lower case form of an upper case character is tame.** -/
theorem tame_of_mem_lowerForm (h : isUpper c = true) (hd : d ∈ lowerForm c) : Tame d := by
  by_cases hascii : isAscii c = true
  · -- an ASCII letter has the letter in lower case
    rw [isUpper, if_pos hascii] at h
    rw [lowerForm_ascii hascii, if_pos h, List.mem_singleton] at hd
    have hletter := of_ascii (p := fun c => !isAsciiUpper c || isNameChar (Char.ofNat (c.toNat + 32)))
      (by decide +kernel) hascii
    rw [h, Bool.not_true, Bool.false_or] at hletter
    exact hd ▸ tame_of_isNameChar hletter
  · rw [lowerForm, if_neg hascii, caseForm] at hd
    split at hd
    · next codes hlookup =>
      obtain ⟨code, hcode, rfl⟩ := List.mem_map.mp hd
      obtain ⟨_, _, hentry, -⟩ := List.lookup_eq_some_iff.mp hlookup
      have hmem : (c.toNat, codes) ∈ lowerExpansions := by
        rw [hentry]
        simp
      rcases lowerExpansions_tame _ hmem code hcode with hname | ⟨hbeyond, hvalid⟩
      · exact tame_of_isNameChar hname
      · exact tame_of_code hbeyond hvalid
    · split at hd
      · next code hshift =>
        obtain rfl := List.mem_singleton.mp hd
        exact tame_of_shiftBy hshift
      · obtain rfl := List.mem_singleton.mp hd
        exact fun h => absurd h hascii

/-! ## Names -/

theorem tame_of_isAlphanumeric (hupper : ¬isUpper c = true) (h : isAlphanumeric c = true) :
    Tame c := by
  intro hascii
  have hletter := of_ascii (p := fun c => isUpper c || !isAlphanumeric c || isNameChar c)
    (by decide +kernel) hascii
  simpa [hupper, h] using hletter

/-- What a name writes in lower case words: an underscore, the lower case form of an upper case
character, or an alphanumeric character as it is. -/
inductive Written (cs : List Char) : Char → Prop
  | mark : Written cs '_'
  | lowered {c d : Char} (hd : d ∈ cs) (hupper : isUpper d = true) (hform : c ∈ lowerForm d) :
      Written cs c
  | kept {c : Char} (hc : c ∈ cs) (hupper : ¬isUpper c = true) (hletter : isAlphanumeric c = true) :
      Written cs c

theorem Written.cons (h : Written cs c) : Written (d :: cs) c := by
  cases h with
  | mark => exact .mark
  | lowered hd hupper hform => exact .lowered (List.mem_cons_of_mem _ hd) hupper hform
  | kept hc hupper hletter => exact .kept (List.mem_cons_of_mem _ hc) hupper hletter

/-- **Where the characters of lower case words come from.** -/
theorem written_of_mem_snakeFrom {last : Option Char} {afterLower : Bool}
    (h : c ∈ snakeFrom last afterLower cs) : Written cs c := by
  induction cs generalizing last afterLower with
  | nil => cases h
  | cons x xs ih =>
    rw [snakeFrom] at h
    split at h
    · next hupper =>
      dsimp only at h
      rcases List.mem_append.mp h with hwritten | hrest
      · split at hwritten
        · rcases List.mem_cons.mp hwritten with rfl | hform
          · exact .mark
          · exact .lowered List.mem_cons_self hupper hform
        · exact .lowered List.mem_cons_self hupper hwritten
      · exact (ih hrest).cons
    · next hupper =>
      split at h
      · next hletter =>
        rcases List.mem_cons.mp h with rfl | hrest
        · exact .kept List.mem_cons_self hupper hletter
        · exact (ih hrest).cons
      · split at h
        · split at h
          · rcases List.mem_cons.mp h with rfl | hrest
            · exact .mark
            · exact (ih hrest).cons
          · exact (ih h).cons
        · exact (ih h).cons

theorem Written.tame (h : Written cs c) : Tame c := by
  cases h with
  | mark => exact tame_of_isNameChar (by decide)
  | lowered _ hupper hform => exact tame_of_mem_lowerForm hupper hform
  | kept _ hupper hletter => exact tame_of_isAlphanumeric hupper hletter

theorem written_of_mem_snakeChars (h : c ∈ snakeChars cs) : Written cs c :=
  written_of_mem_snakeFrom (mem_of_mem_trimWhile h)

theorem tame_of_mem_snakeChars (h : c ∈ snakeChars cs) : Tame c :=
  (written_of_mem_snakeChars h).tame

/-- The forms that the name of a field or a function has for its lower case words. -/
inductive FieldForm (cs : List Char) : List Char → Prop
  | empty (h : cs = []) : FieldForm cs "param".toList
  | digit {c : Char} {rest : List Char} (h : cs = c :: rest) (hc : isAsciiDigit c = true) :
      FieldForm cs ('p' :: '_' :: cs)
  | keyword {c : Char} {rest : List Char} (h : cs = c :: rest) (hc : isAsciiDigit c = false)
      (hword : String.ofList cs ∈ keywords) : FieldForm cs (cs ++ ['_'])
  | word {c : Char} {rest : List Char} (h : cs = c :: rest) (hc : isAsciiDigit c = false)
      (hword : String.ofList cs ∉ keywords) : FieldForm cs cs

theorem fieldForm (s : String) : FieldForm (snakeChars s.toList) (field s).toList := by
  unfold field
  split
  next hchars => exact .empty hchars
  next c rest hchars =>
    rw [← hchars]
    by_cases hdigit : isAsciiDigit c = true
    · rw [if_pos hdigit, String.toList_ofList]
      exact .digit hchars hdigit
    · rw [if_neg hdigit]
      rw [Bool.not_eq_true] at hdigit
      by_cases hword : String.ofList (snakeChars s.toList) ∈ keywords
      · rw [if_pos (List.contains_iff_mem.mpr hword), String.toList_append, String.toList_ofList]
        exact .keyword hchars hdigit hword
      · rw [if_neg (by simpa using hword), String.toList_ofList]
        exact .word hchars hdigit hword

/-- **Of ASCII, the name of a field or a function holds lower case letters, digits and underscores
only.** -/
theorem tame_of_mem_field (h : c ∈ (field s).toList) : Tame c := by
  have hwords : ∀ d ∈ snakeChars s.toList, Tame d := fun d hd => tame_of_mem_snakeChars hd
  have hp : Tame 'p' := tame_of_isNameChar (by decide)
  have hmark : Tame '_' := tame_of_isNameChar (by decide)
  have hform := fieldForm s
  generalize (field s).toList = name at h hform
  cases hform with
  | empty =>
    have hall : "param".toList.all isNameChar = true := by decide
    exact tame_of_isNameChar (List.all_eq_true.mp hall c h)
  | digit =>
    rcases List.mem_cons.mp h with rfl | h
    · exact hp
    · rcases List.mem_cons.mp h with rfl | h
      · exact hmark
      · exact hwords c h
  | keyword =>
    rcases List.mem_append.mp h with h | h
    · exact hwords c h
    · rwa [List.mem_singleton.mp h]
  | word => exact hwords c h

/-- The name of a field or a function is not empty and does not begin with a digit. -/
theorem exists_field_eq_cons (s : String) :
    ∃ c cs, (field s).toList = c :: cs ∧ isAsciiDigit c = false := by
  have hform := fieldForm s
  generalize (field s).toList = name at hform
  cases hform with
  | empty => exact ⟨'p', ['a', 'r', 'a', 'm'], by decide, by decide⟩
  | digit => exact ⟨'p', _, rfl, by decide⟩
  | keyword h hc => exact ⟨_, _, by rw [h]; rfl, hc⟩
  | word h hc => exact ⟨_, _, h, hc⟩

end ApiScaffold.Naming
