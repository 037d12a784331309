import ApiScaffold.Pattern.Match
import Mathlib.Data.List.Basic

/-!
# What it means that a pattern occurs

`Matches` says which texts a pattern matches, by the form of the pattern and without a word about
how they are found; since a pattern may look at its surroundings, a text is taken between the
characters on both sides of it.  The matcher goes over a text once and keeps the patterns that what
follows may still match.  The two agree (`occursIn_iff`).

Two facts about a single pattern carry this.  A pattern matches the empty text where it says so
(`matchesEmpty_iff`), and it matches a text that begins with a character exactly if one of its
residuals matches what is behind it (`residuals_iff`).  In a repetition the character belongs to
the first part that is not empty, and the empty ones before it count as often as needed; that is
where a repetition has to have a range (`isRanged`), as every one has that is read.

* `Joined`, `Repeats`: texts that are put together of parts, and of so many of one kind.
* `occursFrom_iff`: the induction over the text, with the patterns that are kept.
* `occursIn_iff`: **a pattern occurs in a text exactly if it matches some part of it.**
* `occursIn_whole`: the texts that a pattern of whole texts admits.
-/

namespace ApiScaffold.Pattern

/-- A property of a text between the characters before and behind it. -/
abbrev Part := Option Char → List Char → Option Char → Prop

/-- Whether a text is one part and another one behind it. -/
def Joined (M N : Part) : Part := fun before xs after =>
  ∃ ys zs, xs = ys ++ zs ∧ M before ys (zs.head?.or after) ∧ N (ys.getLast?.or before) zs after

/-- Whether a text is made of so many parts of one kind. -/
def Repeats (M : Part) : Nat → Part
  | 0 => fun _ xs _ => xs = []
  | n + 1 => Joined M (Repeats M n)

/-- Whether a pattern matches a text between two characters. -/
def Matches : Pattern → Part
  | nothing => fun _ xs _ => xs = []
  | chars set => fun _ xs _ => ∃ c, set.mem c = true ∧ xs = [c]
  | look condition => fun before xs after => xs = [] ∧ condition.holds before after = true
  | seq p q => Joined p.Matches q.Matches
  | alt p q => fun before xs after => p.Matches before xs after ∨ q.Matches before xs after
  | rep p least most => fun before xs after =>
    ∃ n, least ≤ n ∧ (∀ m ∈ most, n ≤ m) ∧ Repeats p.Matches n before xs after

/-- Whether every repetition has a range. -/
def isRanged : Pattern → Bool
  | seq p q => p.isRanged && q.isRanged
  | alt p q => p.isRanged && q.isRanged
  | rep p least most => p.isRanged && most.all (least ≤ ·)
  | _ => true

variable {M N : Part} {p q r : Pattern} {before after : Option Char} {c : Char} {xs : List Char}

/-! ## Texts put together -/

/-- Any text. -/
def Anything : Part := fun _ _ _ => True

theorem joined_nil : Joined M N before [] after ↔ M before [] after ∧ N before [] after := by
  constructor
  · rintro ⟨ys, zs, hxs, hM, hN⟩
    obtain ⟨rfl, rfl⟩ := List.append_eq_nil_iff.mp hxs.symm
    exact ⟨hM, hN⟩
  · rintro ⟨hM, hN⟩
    exact ⟨[], [], rfl, hM, hN⟩

theorem getLast?_cons_or (c : Char) (ys : List Char) (before : Option Char) :
    (c :: ys).getLast?.or before = ys.getLast?.or (some c) := by
  rw [List.getLast?_cons]
  cases ys.getLast? <;> rfl

/-- **The first character belongs to the first part, or that is empty.** -/
theorem joined_cons : Joined M N before (c :: xs) after ↔
    M before [] (some c) ∧ N before (c :: xs) after ∨
      Joined (fun _ ys after => M before (c :: ys) after) N (some c) xs after := by
  constructor
  · rintro ⟨ys, zs, hxs, hM, hN⟩
    cases ys with
    | nil =>
      obtain rfl : c :: xs = zs := hxs
      exact .inl ⟨hM, hN⟩
    | cons y ys =>
      obtain ⟨rfl, rfl⟩ := List.cons.inj hxs
      rw [getLast?_cons_or] at hN
      exact .inr ⟨ys, zs, rfl, hM, hN⟩
  · rintro (⟨hM, hN⟩ | ⟨ys, zs, rfl, hM, hN⟩)
    · exact ⟨[], c :: xs, rfl, hM, hN⟩
    · refine ⟨c :: ys, zs, rfl, hM, ?_⟩
      rw [getLast?_cons_or]
      exact hN

theorem anywhere_cons : Joined Anything N before (c :: xs) after ↔
    N before (c :: xs) after ∨ Joined Anything N (some c) xs after := by
  rw [joined_cons]
  exact or_congr_left (and_iff_right trivial)

theorem repeats_nil (n : Nat) :
    Repeats M n before [] after ↔ n = 0 ∨ M before [] after := by
  induction n with
  | zero => exact ⟨fun _ => .inl rfl, fun _ => rfl⟩
  | succ n ih =>
    rw [Repeats, joined_nil, ih]
    exact ⟨fun h => .inr h.1, fun h => ⟨h.resolve_left (Nat.succ_ne_zero n),
      .inr (h.resolve_left (Nat.succ_ne_zero n))⟩⟩

/-- **The first character belongs to the first part that is not empty.** -/
theorem repeats_cons (n : Nat) : Repeats M n before (c :: xs) after ↔
    ∃ k m, n = k + (m + 1) ∧ (k = 0 ∨ M before [] (some c)) ∧
      Joined (fun _ ys after => M before (c :: ys) after) (Repeats M m) (some c) xs after := by
  induction n with
  | zero =>
    refine ⟨fun h => (by cases h), ?_⟩
    rintro ⟨k, m, hn, -⟩
    cases hn
  | succ n ih =>
    rw [Repeats, joined_cons, ih]
    constructor
    · rintro (⟨hM, k, m, rfl, -, hjoined⟩ | hjoined)
      · exact ⟨k + 1, m, Nat.add_right_comm _ _ _, .inr hM, hjoined⟩
      · exact ⟨0, n, (Nat.zero_add _).symm, .inl rfl, hjoined⟩
    · rintro ⟨k, m, hn, hM, hjoined⟩
      cases k with
      | zero =>
        obtain rfl : n = m := by omega
        exact .inr hjoined
      | succ k =>
        have hM := hM.resolve_left (Nat.succ_ne_zero k)
        exact .inl ⟨hM, k, m, by omega, .inr hM, hjoined⟩

/-! ## One pattern -/

/-- **A pattern matches the empty text where it says so.** -/
theorem matchesEmpty_iff (hp : p.isRanged = true) :
    p.matchesEmpty before after = true ↔ p.Matches before [] after := by
  induction p generalizing before after with
  | nothing => exact ⟨fun _ => rfl, fun _ => rfl⟩
  | chars set =>
    refine ⟨fun h => (by cases h), ?_⟩
    rintro ⟨c, -, h⟩
    cases h
  | look condition => exact ⟨fun h => ⟨rfl, h⟩, fun h => h.2⟩
  | seq p q ihp ihq =>
    obtain ⟨hp, hq⟩ := Bool.and_eq_true_iff.mp hp
    rw [matchesEmpty, Bool.and_eq_true, ihp hp, ihq hq]
    exact joined_nil.symm
  | alt p q ihp ihq =>
    obtain ⟨hp, hq⟩ := Bool.and_eq_true_iff.mp hp
    rw [matchesEmpty, Bool.or_eq_true, ihp hp, ihq hq]
    exact Iff.rfl
  | rep p least most ih =>
    obtain ⟨hp, hrange⟩ := Bool.and_eq_true_iff.mp hp
    rw [matchesEmpty, Bool.or_eq_true, beq_iff_eq, ih hp]
    constructor
    · intro h
      refine ⟨least, Nat.le_refl least, fun m hm => ?_, (repeats_nil least).mpr h⟩
      rw [Option.mem_def.mp hm] at hrange
      exact of_decide_eq_true hrange
    · rintro ⟨n, hleast, -, hrepeats⟩
      obtain rfl | hempty := (repeats_nil n).mp hrepeats
      · exact .inl (Nat.le_zero.mp hleast)
      · exact .inr hempty

theorem seqOf_matches :
    (seqOf p q).Matches before xs after ↔ (seq p q).Matches before xs after := by
  cases p with
  | nothing =>
    constructor
    · intro h
      exact ⟨[], xs, rfl, rfl, h⟩
    · rintro ⟨ys, zs, rfl, rfl, h⟩
      exact h
  | _ => exact Iff.rfl

theorem isRanged_seqOf (hp : p.isRanged = true) (hq : q.isRanged = true) :
    (seqOf p q).isRanged = true := by
  cases p with
  | nothing => exact hq
  | _ => exact Bool.and_eq_true_iff.mpr ⟨hp, hq⟩

theorem mem_merge {ps qs : List Pattern} : r ∈ merge ps qs ↔ r ∈ ps ∨ r ∈ qs := by
  induction ps generalizing qs with
  | nil => simp [merge]
  | cons p ps ih =>
    rw [merge, List.foldl_cons, ← merge, ih]
    by_cases hp : qs.contains p = true
    · have hmem : p ∈ qs := List.contains_iff_mem.mp hp
      rw [if_pos hp, List.mem_cons]
      constructor
      · rintro (h | h)
        · exact .inl (.inr h)
        · exact .inr h
      · rintro ((rfl | h) | h)
        · exact .inr hmem
        · exact .inl h
        · exact .inr h
    · rw [if_neg hp, List.mem_cons, List.mem_cons, or_left_comm, or_assoc]

/-- What is left of a range of repetitions when one of them is taken that is not empty, and before
it as many as needed that are. -/
theorem range_iff {least : Nat} {most : Option Nat} (hrange : most.all (least ≤ ·) = true)
    (empty : Bool) (m : Nat) :
    (∃ k, (k = 0 ∨ empty = true) ∧ least ≤ k + (m + 1) ∧ ∀ n ∈ most, k + (m + 1) ≤ n) ↔
      most ≠ some 0 ∧ (if empty then 0 else least - 1) ≤ m ∧ ∀ n ∈ most.map (· - 1), m ≤ n := by
  cases most with
  | none =>
    cases empty with
    | false => simp
    | true => simpa using ⟨least, by omega⟩
  | some most =>
    have hrange : least ≤ most := by simpa using hrange
    cases empty with
    | false => simp; omega
    | true =>
      simp
      constructor
      · rintro ⟨k, hk⟩
        omega
      · rintro hm
        exact ⟨least - (m + 1), by omega, by omega⟩

/-- The residuals of a first part, with what is behind it. -/
theorem joined_residuals {rs : List Pattern} (h : ∀ ys after,
    M before (c :: ys) after ↔ ∃ r ∈ rs, r.Matches (some c) ys after) :
    Joined (fun _ ys after => M before (c :: ys) after) N (some c) xs after ↔
      ∃ r ∈ rs, Joined r.Matches N (some c) xs after := by
  constructor
  · rintro ⟨ys, zs, rfl, hM, hN⟩
    obtain ⟨r, hr, hmatches⟩ := (h _ _).mp hM
    exact ⟨r, hr, ys, zs, rfl, hmatches, hN⟩
  · rintro ⟨r, hr, ys, zs, rfl, hmatches, hN⟩
    exact ⟨ys, zs, rfl, (h _ _).mpr ⟨r, hr, hmatches⟩, hN⟩

theorem map_seqOf_matches {rs : List Pattern} :
    (∃ r ∈ rs.map (seqOf · q), r.Matches before xs after) ↔
      ∃ r ∈ rs, Joined r.Matches q.Matches before xs after := by
  simp only [List.mem_map, exists_exists_and_eq_and, seqOf_matches, Matches]

theorem isRanged_residuals (hp : p.isRanged = true) (hr : r ∈ p.residuals before c) :
    r.isRanged = true := by
  induction p generalizing r with
  | nothing => cases hr
  | chars set =>
    rw [residuals] at hr
    split at hr
    · obtain rfl := List.mem_singleton.mp hr
      rfl
    · cases hr
  | look condition => cases hr
  | seq p q ihp ihq =>
    obtain ⟨hp, hq⟩ := Bool.and_eq_true_iff.mp hp
    have hfirst : r ∈ (p.residuals before c).map (seqOf · q) → r.isRanged = true := by
      intro h
      obtain ⟨r, hmem, rfl⟩ := List.mem_map.mp h
      exact isRanged_seqOf (ihp hp hmem) hq
    rw [residuals] at hr
    split at hr
    · exact (mem_merge.mp hr).elim hfirst (ihq hq)
    · exact hfirst hr
  | alt p q ihp ihq =>
    obtain ⟨hp, hq⟩ := Bool.and_eq_true_iff.mp hp
    exact (mem_merge.mp hr).elim (ihp hp) (ihq hq)
  | rep p least most ih =>
    obtain ⟨hp, hrange⟩ := Bool.and_eq_true_iff.mp hp
    rw [residuals] at hr
    split at hr
    · cases hr
    · obtain ⟨r, hmem, rfl⟩ := List.mem_map.mp hr
      refine isRanged_seqOf (ih hp hmem) (Bool.and_eq_true_iff.mpr ⟨hp, ?_⟩)
      cases most with
      | none => rfl
      | some most =>
        have hrange : least ≤ most := by simpa using hrange
        simp only [Option.map_some, Option.all_some, decide_eq_true_eq]
        split <;> omega

/-- A repetition that matches a text begins with a part that is not empty, and goes on. -/
theorem rep_cons {least : Nat} {most : Option Nat} (hp : p.isRanged = true)
    (hrange : most.all (least ≤ ·) = true) :
    (rep p least most).Matches before (c :: xs) after ↔ most ≠ some 0 ∧
      Joined (fun _ ys after => p.Matches before (c :: ys) after)
        (rep p (if p.matchesEmpty before (some c) then 0 else least - 1)
          (most.map (· - 1))).Matches (some c) xs after := by
  have hcount := range_iff hrange (p.matchesEmpty before (some c))
  constructor
  · rintro ⟨n, hleast, hn, hrepeats⟩
    obtain ⟨k, m, rfl, hk, ys, zs, hxs, hfirst, hrest⟩ := (repeats_cons n).mp hrepeats
    have hk : k = 0 ∨ p.matchesEmpty before (some c) = true := hk.imp_right (matchesEmpty_iff hp).mpr
    obtain ⟨hmost, hleast, hm⟩ := (hcount m).mp ⟨k, hk, hleast, hn⟩
    exact ⟨hmost, ys, zs, hxs, hfirst, m, hleast, hm, hrest⟩
  · rintro ⟨hmost, ys, zs, hxs, hfirst, m, hleast, hm, hrest⟩
    obtain ⟨k, hk, hleast, hn⟩ := (hcount m).mpr ⟨hmost, hleast, hm⟩
    have hk : k = 0 ∨ p.Matches before [] (some c) := hk.imp_right (matchesEmpty_iff hp).mp
    exact ⟨k + (m + 1), hleast, hn,
      (repeats_cons _).mpr ⟨k, m, rfl, hk, ys, zs, hxs, hfirst, hrest⟩⟩

/-- **A pattern matches a text that begins with a character exactly if one of its residuals
matches what is behind the character.** -/
theorem residuals_iff (hp : p.isRanged = true) : p.Matches before (c :: xs) after ↔
    ∃ r ∈ p.residuals before c, r.Matches (some c) xs after := by
  induction p generalizing xs after with
  | nothing => exact ⟨fun h => (by cases h), fun ⟨_, hr, _⟩ => (by cases hr)⟩
  | chars set =>
    rw [residuals]
    constructor
    · rintro ⟨d, hmem, hxs⟩
      obtain ⟨rfl, rfl⟩ := List.cons.inj hxs
      rw [if_pos hmem]
      exact ⟨nothing, List.mem_singleton_self nothing, rfl⟩
    · rintro ⟨r, hr, hmatches⟩
      split at hr
      case isTrue hmem =>
        obtain rfl := List.mem_singleton.mp hr
        obtain rfl : xs = [] := hmatches
        exact ⟨c, hmem, rfl⟩
      case isFalse => cases hr
  | look condition => exact ⟨fun h => (by cases h.1), fun ⟨_, hr, _⟩ => (by cases hr)⟩
  | seq p q ihp ihq =>
    obtain ⟨hp, hq⟩ := Bool.and_eq_true_iff.mp hp
    rw [Matches, joined_cons, ← matchesEmpty_iff hp, ihq hq, joined_residuals fun _ _ => ihp hp,
      ← map_seqOf_matches, residuals]
    split
    case isTrue hempty => simp only [hempty, true_and, mem_merge, or_and_right, exists_or, or_comm]
    case isFalse hempty => simp only [hempty, Bool.false_eq_true, false_and, false_or]
  | alt p q ihp ihq =>
    obtain ⟨hp, hq⟩ := Bool.and_eq_true_iff.mp hp
    simp only [Matches, ihp hp, ihq hq, residuals, mem_merge, or_and_right, exists_or]
  | rep p least most ih =>
    obtain ⟨hp, hrange⟩ := Bool.and_eq_true_iff.mp hp
    rw [rep_cons hp hrange, joined_residuals fun _ _ => ih hp, ← map_seqOf_matches, residuals]
    by_cases hmost : most = some 0
    · rw [if_pos hmost]
      exact ⟨fun h => absurd hmost h.1, fun ⟨_, hr, _⟩ => (by cases hr)⟩
    · rw [if_neg hmost]
      exact and_iff_right hmost

/-! ## The pass over a text -/

/-- The first character is behind the match, or what is left of the pattern matches behind it. -/
theorem begins_cons (hp : p.isRanged = true) : Joined p.Matches Anything before (c :: xs) after ↔
    p.Matches before [] (some c) ∨
      ∃ r ∈ p.residuals before c, Joined r.Matches Anything (some c) xs after := by
  rw [joined_cons, joined_residuals fun _ _ => residuals_iff hp]
  exact or_congr_left (and_iff_left trivial)

theorem mem_foldl_merge {ps acc : List Pattern} :
    r ∈ ps.foldl (fun acc p => merge (p.residuals before c) acc) acc ↔
      r ∈ acc ∨ ∃ p ∈ ps, r ∈ p.residuals before c := by
  induction ps generalizing acc with
  | nil => simp
  | cons p ps ih =>
    rw [List.foldl_cons, ih, mem_merge, List.exists_mem_cons_iff, or_assoc, or_left_comm]

theorem exists_mem_merge_singleton {root : Pattern} {kept : List Pattern} {P : Pattern → Prop} :
    (∃ p ∈ merge [root] kept, P p) ↔ (∃ p ∈ kept, P p) ∨ P root := by
  simp only [mem_merge, List.mem_singleton, or_and_right, exists_or, exists_eq_left, or_comm]

theorem isRanged_merge {root : Pattern} {kept : List Pattern} (hroot : root.isRanged = true)
    (hkept : ∀ p ∈ kept, p.isRanged = true) (hp : p ∈ merge [root] kept) : p.isRanged = true := by
  obtain hp | hp := mem_merge.mp hp
  · exact List.mem_singleton.mp hp ▸ hroot
  · exact hkept p hp

/-- The matcher finds what one of the patterns that are kept matches here, or the whole pattern
here or further on. -/
theorem occursFrom_iff {root : Pattern} {kept : List Pattern} (hroot : root.isRanged = true)
    (hkept : ∀ p ∈ kept, p.isRanged = true) : occursFrom root before kept xs = true ↔
      (∃ p ∈ kept, Joined p.Matches Anything before xs none) ∨
        Joined Anything (Joined root.Matches Anything) before xs none := by
  induction xs generalizing before kept with
  | nil =>
    have hmerged := fun p => isRanged_merge (p := p) hroot hkept
    have hempty : (∃ p ∈ merge [root] kept, p.matchesEmpty before none = true) ↔
        ∃ p ∈ merge [root] kept, Joined p.Matches Anything before [] none :=
      exists_congr fun p => and_congr_right fun hp =>
        (matchesEmpty_iff (hmerged p hp)).trans (joined_nil.trans (and_iff_left trivial)).symm
    rw [occursFrom, List.any_eq_true, hempty, exists_mem_merge_singleton]
    exact or_congr_right (joined_nil.trans (and_iff_right trivial)).symm
  | cons c xs ih =>
    have hmerged := fun p => isRanged_merge (p := p) hroot hkept
    have hleft : ∀ p ∈ (merge [root] kept).foldl
        (fun acc p => merge (p.residuals before c) acc) [], p.isRanged = true := by
      intro r hr
      obtain hr | ⟨p, hp, hr⟩ := mem_foldl_merge.mp hr
      · cases hr
      · exact isRanged_residuals (hmerged p hp) hr
    -- a kept pattern matches here, or what is left of it does behind the character
    have hbegin : ((∃ p ∈ merge [root] kept, p.matchesEmpty before (some c) = true) ∨
        ∃ r ∈ (merge [root] kept).foldl (fun acc p => merge (p.residuals before c) acc) [],
          Joined r.Matches Anything (some c) xs none) ↔
        ∃ p ∈ merge [root] kept, Joined p.Matches Anything before (c :: xs) none := by
      constructor
      · rintro (⟨p, hp, hempty⟩ | ⟨r, hr, hrest⟩)
        · exact ⟨p, hp, (begins_cons (hmerged p hp)).mpr
            (.inl ((matchesEmpty_iff (hmerged p hp)).mp hempty))⟩
        · obtain hr | ⟨p, hp, hr⟩ := mem_foldl_merge.mp hr
          · cases hr
          · exact ⟨p, hp, (begins_cons (hmerged p hp)).mpr (.inr ⟨r, hr, hrest⟩)⟩
      · rintro ⟨p, hp, hbegins⟩
        obtain hempty | ⟨r, hr, hrest⟩ := (begins_cons (hmerged p hp)).mp hbegins
        · exact .inl ⟨p, hp, (matchesEmpty_iff (hmerged p hp)).mpr hempty⟩
        · exact .inr ⟨r, mem_foldl_merge.mpr (.inr ⟨p, hp, hr⟩), hrest⟩
    rw [occursFrom, Bool.or_eq_true, List.any_eq_true, ih hleft, ← or_assoc, hbegin,
      exists_mem_merge_singleton, or_assoc]
    exact or_congr_right anywhere_cons.symm

/-- **A pattern occurs in a text exactly if it matches some part of it.** -/
theorem occursIn_iff (hp : p.isRanged = true) (s : String) : p.occursIn s = true ↔
    ∃ front part back, s.toList = front ++ (part ++ back) ∧
      p.Matches front.getLast? part back.head? := by
  rw [occursIn, occursFrom_iff hp fun _ h => (by cases h)]
  constructor
  · rintro (⟨_, h, -⟩ | ⟨front, _, htext, -, part, back, rfl, hpart, -⟩)
    · cases h
    · simp only [Option.or_none] at hpart
      exact ⟨front, part, back, htext, hpart⟩
  · rintro ⟨front, part, back, htext, hpart⟩
    refine .inr ⟨front, part ++ back, htext, trivial, part, back, rfl, ?_, trivial⟩
    simpa only [Option.or_none] using hpart

/-- The start of the text is the first of two parts, and it is empty. -/
example : (seq (rep (alt (look .startText) (chars (.single 'a'))) 2 none)
    (look .endText)).occursIn "a" = true := by
  decide

/-! ## Whole texts -/

/-- A text of one character or more, all of them members of a set. -/
def whole (set : CharSet) : Pattern :=
  seq (look .startText) (seq (rep (chars set) 1 none) (look .endText))

theorem repeats_chars {set : CharSet} {n : Nat} : Repeats (chars set).Matches n before xs after ↔
    xs.length = n ∧ ∀ c ∈ xs, set.mem c = true := by
  induction n generalizing before xs with
  | zero =>
    constructor
    · rintro rfl
      exact ⟨rfl, fun _ h => (by cases h)⟩
    · exact fun h => List.length_eq_zero_iff.mp h.1
  | succ n ih =>
    constructor
    · rintro ⟨_, zs, rfl, ⟨c, hc, rfl⟩, hrest⟩
      obtain ⟨rfl, hmem⟩ := ih.mp hrest
      exact ⟨rfl, List.forall_mem_cons.mpr ⟨hc, hmem⟩⟩
    · rintro ⟨hlength, hmem⟩
      obtain ⟨c, zs, rfl⟩ := List.exists_cons_of_length_eq_add_one hlength
      obtain ⟨hc, hmem⟩ := List.forall_mem_cons.mp hmem
      exact ⟨[c], zs, rfl, ⟨c, hc, rfl⟩, ih.mpr ⟨Nat.succ.inj hlength, hmem⟩⟩

/-- **A pattern of whole texts admits all nonempty texts of its characters**, and no others. -/
theorem occursIn_whole (set : CharSet) (s : String) : (whole set).occursIn s = true ↔
    s ≠ "" ∧ ∀ c ∈ s.toList, set.mem c = true := by
  rw [occursIn_iff rfl, ne_eq, ← String.toList_eq_nil_iff]
  constructor
  · rintro ⟨front, part, back, htext, _, rest, rfl, ⟨rfl, hstart⟩, xs, _, rfl,
      ⟨n, hn, -, hrepeats⟩, rfl, hend⟩
    have hfront : front = [] := List.getLast?_eq_none_iff.mp (Option.isNone_iff_eq_none.mp hstart)
    have hback : back = [] := List.head?_eq_none_iff.mp (Option.isNone_iff_eq_none.mp hend)
    have hs : s.toList = xs := by simpa [hfront, hback] using htext
    obtain ⟨hlength, hmem⟩ := repeats_chars.mp hrepeats
    refine ⟨fun h => ?_, hs ▸ hmem⟩
    rw [← hs, h, List.length_nil] at hlength
    omega
  · rintro ⟨hne, hmem⟩
    refine ⟨[], s.toList, [], by simp, [], s.toList, rfl, ⟨rfl, rfl⟩, s.toList, [],
      (List.append_nil _).symm, ?_, rfl, rfl⟩
    exact ⟨s.toList.length, List.length_pos_iff.mpr hne, fun _ h => (by cases h),
      repeats_chars.mpr ⟨rfl, hmem⟩⟩

end ApiScaffold.Pattern
