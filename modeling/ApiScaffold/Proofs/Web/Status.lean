import ApiScaffold.Proofs.Number.Digits
import ApiScaffold.Web.Status
import Mathlib.Data.List.Nodup

/-!
# The names of status codes

Different codes have different type names.  The names come in two kinds that do not mix: a code
with a phrase is named by its phrase, and no phrase begins with the word `Status`; any other code
is named by its digits behind that word.

* `variantName_of_reason`, `variantName_of_none`: the two kinds.
* `variantName_injective`: **no two codes have the same name.**
* `variantName_eq_badRequest`, `variantName_ne_internalError`: of the two names that all
  operations share, the one is the name of code 400 and the other is the name of no code.
-/

namespace ApiScaffold.Web.Status

variable {m n : Nat} {reason : String}

/-- The word before the digits of a code without a phrase. -/
def unnamed : String := "Status"

/-- The characters of the phrases as type names. -/
def phraseNames : List (List Char) := reasons.map fun r => Naming.properChars r.2.toList

/-! ## Codes with a phrase -/

/-- The phrases stay apart as type names, from each other and from all other names of codes. -/
theorem phraseNames_apart :
    phraseNames.Nodup ∧
      (∀ name ∈ phraseNames,
        name.head?.any Text.isAsciiUpper = true ∧ unnamed.toList.isPrefixOf name = false) ∧
      "InternalError".toList ∉ phraseNames := by
  decide +kernel

theorem mem_reasons (h : reason? n = some reason) : (n, reason) ∈ reasons := by
  obtain ⟨before, after, hsplit, -⟩ := List.lookup_eq_some_iff.mp h
  rw [hsplit]
  simp

theorem mem_phraseNames (h : reason? n = some reason) :
    Naming.properChars reason.toList ∈ phraseNames :=
  List.mem_map.mpr ⟨(n, reason), mem_reasons h, rfl⟩

/-- A code with a phrase is named by it. -/
theorem variantName_of_reason (h : reason? n = some reason) :
    variantName n = Naming.proper reason := by
  have hupper := (phraseNames_apart.2.1 _ (mem_phraseNames h)).1
  have hphrase : (Naming.proper reason).toList = Naming.properChars reason.toList :=
    String.toList_ofList
  unfold variantName
  simp only [h, Option.map_some, Option.getD_some, hphrase]
  cases hchars : Naming.properChars reason.toList with
  | nil => rw [hchars] at hupper; cases hupper
  | cons c cs =>
    rw [hchars] at hupper
    exact if_pos hupper

/-! ## Codes without one -/

/-- A code without a phrase is named by its digits. -/
theorem variantName_of_none (h : reason? n = none) : variantName n = unnamed ++ toString n := by
  unfold variantName
  simp only [h]
  rfl

theorem unnamed_ne_proper (h : reason? n = some reason) (digits : String) :
    unnamed ++ digits ≠ Naming.proper reason := by
  intro heq
  have hprefix := (phraseNames_apart.2.1 _ (mem_phraseNames h)).2
  have hchars : unnamed.toList ++ digits.toList = Naming.properChars reason.toList := by
    rw [← String.toList_append, heq]
    exact String.toList_ofList
  rw [← hchars, Bool.eq_false_iff] at hprefix
  exact hprefix (List.isPrefixOf_iff_prefix.mpr (List.prefix_append _ _))

/-! ## All codes -/

/-- **No two codes have the same name.** -/
theorem variantName_injective : Function.Injective variantName := by
  intro m n h
  cases hm : reason? m with
  | none =>
    rw [variantName_of_none hm] at h
    cases hn : reason? n with
    | none =>
      rw [variantName_of_none hn] at h
      exact Number.digits_injective ((String.append_right_inj unnamed).mp h)
    | some second =>
      rw [variantName_of_reason hn] at h
      exact absurd h (unnamed_ne_proper hn _)
  | some first =>
    rw [variantName_of_reason hm] at h
    cases hn : reason? n with
    | none =>
      rw [variantName_of_none hn] at h
      exact absurd h.symm (unnamed_ne_proper hm _)
    | some second =>
      rw [variantName_of_reason hn] at h
      have heq : (m, first) = (n, second) :=
        List.inj_on_of_nodup_map phraseNames_apart.1 (mem_reasons hm) (mem_reasons hn)
          (String.ofList_injective h)
      exact congrArg Prod.fst heq

theorem variantName_eq_badRequest : variantName n = "BadRequest" ↔ n = 400 := by
  have h400 : variantName 400 = "BadRequest" := by decide +kernel
  rw [← h400]
  exact variantName_injective.eq_iff

/-- No code is named as the failure that stands for what cannot be interpreted. -/
theorem variantName_ne_internalError (n : Nat) : variantName n ≠ "InternalError" := by
  intro h
  cases hn : reason? n with
  | none =>
    rw [variantName_of_none hn] at h
    have hword : (unnamed ++ toString n).toList.head? = some 'S' := by
      rw [String.toList_append]
      rfl
    rw [h] at hword
    cases hword
  | some reason =>
    rw [variantName_of_reason hn] at h
    refine phraseNames_apart.2.2 ?_
    rw [← h]
    show (String.ofList (Naming.properChars reason.toList)).toList ∈ phraseNames
    rw [String.toList_ofList]
    exact mem_phraseNames hn

end ApiScaffold.Web.Status
