import ApiScaffold.Document.Reader
import ApiScaffold.Proofs.Text.Split

/-!
# Base paths

The blanks around a base path are dropped, and of what is left the slashes at the end.  Nothing goes
back to the blanks then: one that stood before those slashes ends the path, and it is dropped when
the path is read again.

* `stem`: a base path before a slash is set in front of it.
* `getLast?_stem_iff`: **it ends with a blank exactly if slashes stood behind one.**
* `IsNormalBase`, `normalBasePath_eq_self_iff`: **the base paths that stay as they are.**
* `base_path_normal_iff`: **what is made of a text**, and when it stays as it is.
-/

namespace ApiScaffold

open Text

variable {s base : String} {cs : List Char}

/-! ## The stem -/

/-- What is left of a base path before a slash is set in front. -/
def stem (cs : List Char) : List Char := dropEndWhile (· == '/') (trimChars cs)

/-- Without the blanks around it, a text ends in slashes that stand behind a blank. -/
def SlashesBehindBlank (cs : List Char) : Prop :=
  ∃ front blank slashes, trimChars cs = front ++ blank :: '/' :: slashes ∧
    isBlank blank = true ∧ ∀ c ∈ slashes, c = '/'

theorem getLast?_stem_ne (cs : List Char) : (stem cs).getLast? ≠ some '/' := by
  intro hlast
  have hslash := dropEndWhile_last (· == '/') (trimChars cs) '/' hlast
  simp at hslash

/-- **What is left ends with a blank exactly if slashes stood behind one.** -/
theorem getLast?_stem_iff :
    (∃ c ∈ (stem cs).getLast?, isBlank c = true) ↔ SlashesBehindBlank cs := by
  constructor
  · rintro ⟨blank, hlast, hblank⟩
    obtain ⟨front, hfront⟩ := List.getLast?_eq_some_iff.mp hlast
    obtain ⟨dropped, htrimmed, hslashes⟩ := exists_dropped (· == '/') (trimChars cs)
    change trimChars cs = stem cs ++ dropped at htrimmed
    rw [hfront, List.append_assoc] at htrimmed
    cases dropped with
    | nil =>
      -- a trimmed text does not end with a blank
      have hends := (trimWhile_ends isBlank cs).2 blank
      rw [← trimChars, htrimmed] at hends
      simp [hblank] at hends
    | cons slash slashes =>
      obtain ⟨hslash, hslashes⟩ := List.forall_mem_cons.mp hslashes
      rw [beq_iff_eq.mp hslash] at htrimmed
      exact ⟨front, blank, slashes, htrimmed, hblank, fun c hc => beq_iff_eq.mp (hslashes c hc)⟩
  · rintro ⟨front, blank, slashes, htrimmed, hblank, hslashes⟩
    have hkept : (blank == '/') = false := by
      rw [beq_eq_false_iff_ne]
      rintro rfl
      exact absurd hblank (by decide)
    have hdropped : dropEndWhile (· == '/') ('/' :: slashes) = [] := by
      refine List.rdropWhile_eq_nil_iff.mpr fun c hc => ?_
      rcases List.mem_cons.mp hc with rfl | hc
      · rfl
      · rw [hslashes c hc]
        rfl
    have hstem : stem cs = front ++ [blank] := by
      rw [stem, htrimmed, dropEndWhile_mark (p := (· == '/')) hkept, hdropped]
    exact ⟨blank, by rw [hstem]; simp, hblank⟩

/-- What stays as it is has no blanks around it and no slash behind. -/
theorem stem_eq_self_iff : stem cs = cs ↔ (∀ c ∈ cs.head?, isBlank c = false) ∧
    ∀ c ∈ cs.getLast?, c ≠ '/' ∧ isBlank c = false := by
  constructor
  · intro h
    have hprefix : stem cs <+: trimChars cs := isPrefix_dropEndWhile _ _
    have hinfix : trimChars cs <:+: cs := isInfix_trimWhile _ _
    have htrimmed : trimChars cs = cs := by
      apply hinfix.eq_of_length
      have hle := hprefix.length_le
      rw [h] at hle
      exact Nat.le_antisymm hinfix.length_le hle
    have hends := trimWhile_ends isBlank cs
    rw [← trimChars, htrimmed] at hends
    refine ⟨hends.1, fun c hc => ⟨?_, hends.2 c hc⟩⟩
    rintro rfl
    exact getLast?_stem_ne cs (h.symm ▸ hc)
  · rintro ⟨hhead, hlast⟩
    have htrimmed : trimChars cs = cs := trimWhile_of_ends hhead fun c hc => (hlast c hc).2
    rw [stem, htrimmed]
    apply dropEndWhile_of_last
    intro c hc
    simpa using (hlast c hc).1

/-- A slash in front stays in front, unless nothing is left. -/
theorem head?_stem (h : cs.head? = some '/') : stem cs = [] ∨ (stem cs).head? = some '/' := by
  have hhead : (trimChars cs).head? = some '/' := by
    obtain ⟨rest, rfl⟩ := List.head?_eq_some_iff.mp h
    rw [trimChars, head?_trimWhile, List.dropWhile_cons_of_neg (by decide)]
    rfl
  cases hstem : stem cs with
  | nil => exact .inl rfl
  | cons c rest =>
    right
    have hprefix : stem cs <+: trimChars cs := isPrefix_dropEndWhile _ _
    rw [hstem] at hprefix
    obtain ⟨dropped, htrimmed⟩ := hprefix
    rwa [← htrimmed] at hhead

/-! ## The base path -/

/-- Empty, or with a slash in front and neither a slash nor a blank behind. -/
def IsNormalBase (base : String) : Prop :=
  base = "" ∨ base.toList.head? = some '/' ∧
    ∀ c ∈ base.toList.getLast?, c ≠ '/' ∧ isBlank c = false

theorem toList_normalBasePath (s : String) : (normalBasePath s).toList =
    if stem s.toList = [] ∨ (stem s.toList).head? = some '/' then stem s.toList
    else '/' :: stem s.toList := by
  fun_cases normalBasePath s with
  | case1 trimmed hstem =>
    have hempty : stem s.toList = [] := hstem
    simp [hempty]
  | case2 trimmed rest hstem =>
    have hfront : (stem s.toList).head? = some '/' := List.head?_eq_some_iff.mpr ⟨rest, hstem⟩
    rw [if_pos (.inr hfront), String.toList_ofList]
    rfl
  | case3 trimmed hempty hslash =>
    have hfront : ¬(stem s.toList = [] ∨ (stem s.toList).head? = some '/') := by
      rintro (hstem | hhead)
      · exact hempty hstem
      · obtain ⟨rest, hstem⟩ := List.head?_eq_some_iff.mp hhead
        exact hslash rest hstem
    rw [if_neg hfront, String.toList_ofList]
    rfl

/-- A base path is empty or has a slash in front. -/
theorem head?_normalBasePath (s : String) :
    normalBasePath s = "" ∨ (normalBasePath s).toList.head? = some '/' := by
  rw [← String.toList_eq_nil_iff, toList_normalBasePath]
  split
  next h => exact h
  next h => exact .inr rfl

/-- A base path ends with what is left of its text. -/
theorem getLast?_normalBasePath (s : String) :
    (normalBasePath s).toList.getLast? = (stem s.toList).getLast? := by
  rw [toList_normalBasePath]
  split
  next h => rfl
  next h =>
    obtain ⟨c, rest, hstem⟩ := List.exists_cons_of_ne_nil fun hstem => h (.inl hstem)
    rw [hstem, List.getLast?_cons_cons]

/-- **A base path is in normal form exactly if no slashes stood behind a blank.** -/
theorem isNormalBase_normalBasePath_iff :
    IsNormalBase (normalBasePath s) ↔ ¬SlashesBehindBlank s.toList := by
  have hlast : (∀ c ∈ (normalBasePath s).toList.getLast?, c ≠ '/' ∧ isBlank c = false) ↔
      ¬SlashesBehindBlank s.toList := by
    rw [getLast?_normalBasePath, ← getLast?_stem_iff]
    constructor
    · rintro hends ⟨c, hc, hblank⟩
      rw [(hends c hc).2] at hblank
      cases hblank
    · intro hends c hc
      refine ⟨?_, Bool.eq_false_iff.mpr fun hblank => hends ⟨c, hc, hblank⟩⟩
      rintro rfl
      exact getLast?_stem_ne _ hc
  rw [IsNormalBase, ← hlast]
  rcases head?_normalBasePath s with hempty | hhead
  · simp [hempty]
  · constructor
    · rintro (hempty | hends)
      · simp [hempty]
      · exact hends.2
    · intro hends
      exact .inr ⟨hhead, hends⟩

/-- **The base paths in normal form are those that stay as they are.** -/
theorem normalBasePath_eq_self_iff : normalBasePath base = base ↔ IsNormalBase base := by
  by_cases hhead : base.toList.head? = some '/'
  · have hstem : (normalBasePath base).toList = stem base.toList := by
      rw [toList_normalBasePath, if_pos (head?_stem hhead)]
    rw [← String.toList_inj, hstem, stem_eq_self_iff, IsNormalBase]
    constructor
    · intro h
      exact .inr ⟨hhead, h.2⟩
    · rintro (rfl | ⟨-, hends⟩)
      · cases hhead
      · refine ⟨?_, hends⟩
        intro c hc
        rw [hhead] at hc
        cases hc
        decide
  · constructor
    · intro h
      have hfront := head?_normalBasePath base
      rw [h] at hfront
      exact .inl (hfront.resolve_right hhead)
    · rintro (rfl | ⟨hslash, -⟩)
      · rfl
      · exact absurd hslash hhead

/-- **What is made of a text as a base path**: it is empty or begins with a slash, and it does not
end with one.  It ends with no blank, and stays as it is, exactly if the text does not end in
slashes behind a blank, the blanks around it left out. -/
theorem base_path_normal_iff (s : String) :
    (normalBasePath s = "" ∨ (normalBasePath s).toList.head? = some '/') ∧
      (normalBasePath s).toList.getLast? ≠ some '/' ∧
      (IsNormalBase (normalBasePath s) ↔ ¬SlashesBehindBlank s.toList) ∧
      (normalBasePath (normalBasePath s) = normalBasePath s ↔ ¬SlashesBehindBlank s.toList) := by
  refine ⟨head?_normalBasePath s, ?_, isNormalBase_normalBasePath_iff, ?_⟩
  · rw [getLast?_normalBasePath]
    exact getLast?_stem_ne _
  · rw [normalBasePath_eq_self_iff]
    exact isNormalBase_normalBasePath_iff

/-- **A blank before the last slash ends the base path**, until that is read again. -/
theorem blank_before_slash_kept :
    normalBasePath "/v1 /" = "/v1 " ∧ ¬IsNormalBase (normalBasePath "/v1 /") ∧
      normalBasePath (normalBasePath "/v1 /") = "/v1" := by
  have hbase : normalBasePath "/v1 /" = "/v1 " := by decide
  have hagain : normalBasePath "/v1 " = "/v1" := by decide
  refine ⟨hbase, fun hnormal => ?_, by rw [hbase, hagain]⟩
  rw [hbase, ← normalBasePath_eq_self_iff, hagain] at hnormal
  exact absurd hnormal (by decide)

end ApiScaffold
