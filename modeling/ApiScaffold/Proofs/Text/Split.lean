import ApiScaffold.Text.Blank
import Mathlib.Data.List.DropRight

/-!
# Pieces between marks, and lines

* `splitWhere_mark`: **a mark parts the pieces before it from those behind it.**
* `splitWhere_of_forall`, `mem_of_mem_splitWhere`: without a mark there is one piece, and no piece
  holds one.
* `splitOn_join`: a text that joins two is split like either of them.
* `splitWhere_intercalate`: texts without a mark that are joined by it are split again.
* `splitWhere_flatMap`: pieces that are each ended by a mark are split one after another.
* `splitWhere_injective`: a text is the pieces between its marks, joined again.
* `splitWhere_head_ne_nil`: the first piece has something in it unless a mark stands first.
* `dropEndWhile_mark`: what is dropped from the end is behind an element that stays.
* `trimWhile_ends`, `trimWhile_of_ends`: what a text without what is dropped at its ends is.
* `lineChars_intercalate`: lines that have characters are read back from their text.
-/

namespace ApiScaffold.Text

variable {α : Type} {p : α → Bool} {mark : α} {xs : List α}

/-! ## Texts and their characters -/

theorem map_ofList_toList (texts : List String) :
    (texts.map String.toList).map String.ofList = texts := by
  have hback : String.ofList ∘ String.toList = id := funext fun _ => String.ofList_toList
  rw [List.map_map, hback, List.map_id]

theorem map_toList_ofList (lines : List (List Char)) :
    (lines.map String.ofList).map String.toList = lines := by
  have hback : String.toList ∘ String.ofList = id := funext fun _ => String.toList_ofList
  rw [List.map_map, hback, List.map_id]

/-! ## Splitting -/

theorem splitWhere_of_forall (h : ∀ x ∈ xs, p x = false) : splitWhere p xs = [xs] := by
  induction xs with
  | nil => rfl
  | cons x xs ih =>
    obtain ⟨hx, hxs⟩ := List.forall_mem_cons.mp h
    rw [splitWhere, hx, ih hxs]
    rfl

/-- A mark parts the pieces before it from those behind it. -/
theorem splitWhere_mark (hmark : p mark = true) (xs ys : List α) :
    splitWhere p (xs ++ mark :: ys) = splitWhere p xs ++ splitWhere p ys := by
  induction xs with
  | nil =>
    show splitWhere p (mark :: ys) = [] :: splitWhere p ys
    rw [splitWhere, if_pos hmark]
  | cons x xs ih =>
    rw [List.cons_append, splitWhere, splitWhere, ih]
    cases p x with
    | true => rfl
    | false =>
      cases hpieces : splitWhere p xs with
      | nil => exact absurd hpieces (splitWhere_ne_nil p xs)
      | cons piece rest => rfl

/-- A text without a mark comes into the first piece of what stands behind it. -/
theorem splitWhere_append (h : ∀ x ∈ xs, p x = false) (ys : List α) :
    ∃ piece rest, splitWhere p ys = piece :: rest ∧
      splitWhere p (xs ++ ys) = (xs ++ piece) :: rest := by
  induction xs with
  | nil =>
    obtain ⟨piece, rest, hsplit⟩ := List.exists_cons_of_ne_nil (splitWhere_ne_nil p ys)
    exact ⟨piece, rest, hsplit, hsplit⟩
  | cons x xs ih =>
    obtain ⟨hx, hxs⟩ := List.forall_mem_cons.mp h
    obtain ⟨piece, rest, hsplit, happend⟩ := ih hxs
    refine ⟨piece, rest, hsplit, ?_⟩
    rw [List.cons_append, splitWhere, hx, happend]
    rfl

/-- The first piece has something in it unless a mark stands first. -/
theorem splitWhere_head_ne_nil {piece : List α} {rest : List (List α)}
    (h : splitWhere p xs = piece :: rest) :
    piece ≠ [] ↔ ∃ x, xs.head? = some x ∧ p x = false := by
  cases xs with
  | nil =>
    cases h
    simp
  | cons x xs =>
    rw [splitWhere] at h
    cases hx : p x with
    | true =>
      rw [hx, if_pos rfl] at h
      cases h
      simp [hx]
    | false =>
      rw [hx, if_neg Bool.false_ne_true] at h
      split at h
      · cases h
        simp [hx]
      · cases h
        simp [hx]

/-- The pieces between marks hold no mark. -/
theorem mem_of_mem_splitWhere {x : α} {piece : List α}
    (hpiece : piece ∈ splitWhere p xs) (hx : x ∈ piece) : x ∈ xs ∧ p x = false := by
  induction xs generalizing piece with
  | nil =>
    obtain rfl := List.mem_singleton.mp hpiece
    cases hx
  | cons y ys ih =>
    rw [splitWhere] at hpiece
    split at hpiece
    · rcases List.mem_cons.mp hpiece with rfl | hpiece
      · cases hx
      · obtain ⟨hmem, hp⟩ := ih hpiece hx
        exact ⟨List.mem_cons_of_mem _ hmem, hp⟩
    · next hy =>
      rw [Bool.not_eq_true] at hy
      cases hsplit : splitWhere p ys with
      | nil => exact absurd hsplit (splitWhere_ne_nil p ys)
      | cons first rest =>
        rw [hsplit] at hpiece ih
        rcases List.mem_cons.mp hpiece with rfl | hpiece
        · rcases List.mem_cons.mp hx with rfl | hx
          · exact ⟨List.mem_cons_self, hy⟩
          · obtain ⟨hmem, hp⟩ := ih List.mem_cons_self hx
            exact ⟨List.mem_cons_of_mem _ hmem, hp⟩
        · obtain ⟨hmem, hp⟩ := ih (List.mem_cons_of_mem _ hpiece) hx
          exact ⟨List.mem_cons_of_mem _ hmem, hp⟩

/-- Pieces that are each ended by a mark are split one after another; nothing stands behind the
last mark. -/
theorem splitWhere_flatMap (hmark : p mark = true) (pieces : List (List α)) :
    splitWhere p (pieces.flatMap (· ++ [mark])) = pieces.flatMap (splitWhere p) ++ [[]] := by
  induction pieces with
  | nil => rfl
  | cons piece pieces ih =>
    rw [List.flatMap_cons, List.append_assoc, List.singleton_append, splitWhere_mark hmark, ih,
      List.flatMap_cons, List.append_assoc]

theorem intercalate_splitWhere (c : Char) (cs : List Char) :
    [c].intercalate (splitWhere (· == c) cs) = cs := by
  induction cs with
  | nil => rfl
  | cons d cs ih =>
    obtain ⟨piece, rest, hsplit⟩ := List.exists_cons_of_ne_nil (splitWhere_ne_nil (· == c) cs)
    rw [hsplit] at ih
    by_cases hd : d = c
    · rw [splitWhere, if_pos (beq_iff_eq.mpr hd), hsplit, List.intercalate_cons_cons, ih, hd]
      rfl
    · rw [splitWhere, if_neg (by simpa using hd), hsplit]
      simp only
      cases rest with
      | nil => rw [List.intercalate_singleton] at ih ⊢; rw [ih]
      | cons next rest =>
        rw [List.intercalate_cons_cons] at ih ⊢
        rw [List.cons_append, List.cons_append, ih]

/-- A text is told by the pieces between its marks. -/
theorem splitWhere_injective (c : Char) : Function.Injective (splitWhere (· == c)) :=
  Function.LeftInverse.injective (intercalate_splitWhere c)

/-- A text that joins two by a mark is split like either of them. -/
theorem splitOn_join (c : Char) (s t : String) :
    splitOn c (s ++ String.singleton c ++ t) = splitOn c s ++ splitOn c t := by
  have hchars : (s ++ String.singleton c ++ t).toList = s.toList ++ c :: t.toList := by
    rw [String.toList_append, String.toList_append, String.toList_singleton, List.append_assoc]
    rfl
  rw [splitOn, hchars, splitWhere_mark (by simp), List.map_append]
  rfl

theorem not_mem_of_mem_splitOn {c : Char} {s piece : String} (h : piece ∈ splitOn c s) :
    c ∉ piece.toList := by
  obtain ⟨cs, hcs, rfl⟩ := List.mem_map.mp h
  intro hc
  rw [String.toList_ofList] at hc
  simpa using (mem_of_mem_splitWhere hcs hc).2

theorem splitWhere_of_not_mem {c : Char} {cs : List Char} (h : c ∉ cs) :
    splitWhere (· == c) cs = [cs] :=
  splitWhere_of_forall fun _ hd => beq_false_of_ne fun heq => h (heq ▸ hd)

theorem splitOn_of_not_mem {c : Char} {s : String} (h : c ∉ s.toList) : splitOn c s = [s] := by
  rw [splitOn, splitWhere_of_not_mem h, List.map_singleton, String.ofList_toList]

/-- Texts without a mark that are joined by it are split again. -/
theorem splitWhere_intercalate {c : Char} {pieces : List (List Char)} (hne : pieces ≠ [])
    (h : ∀ piece ∈ pieces, c ∉ piece) : splitWhere (· == c) ([c].intercalate pieces) = pieces := by
  induction pieces with
  | nil => exact absurd rfl hne
  | cons piece rest ih =>
    obtain ⟨hpiece, hrest⟩ := List.forall_mem_cons.mp h
    cases rest with
    | nil => rw [List.intercalate_singleton, splitWhere_of_not_mem hpiece]
    | cons next rest =>
      rw [List.intercalate_cons_cons, List.append_assoc, List.singleton_append,
        splitWhere_mark (by simp), splitWhere_of_not_mem hpiece,
        ih (List.cons_ne_nil _ _) hrest]
      rfl

theorem splitOn_intercalate {c : Char} {mark : String} {pieces : List String}
    (hmark : mark.toList = [c]) (hne : pieces ≠ []) (h : ∀ piece ∈ pieces, c ∉ piece.toList) :
    splitOn c (mark.intercalate pieces) = pieces := by
  rw [splitOn, String.toList_intercalate, hmark,
    splitWhere_intercalate (mt List.map_eq_nil_iff.mp hne) (List.forall_mem_map.mpr h),
    map_ofList_toList]

/-! ## Ends that are dropped -/

/-- What is dropped from the end is behind an element that stays. -/
theorem dropEndWhile_mark (h : p mark = false) (xs ys : List α) :
    dropEndWhile p (xs ++ mark :: ys) = xs ++ mark :: dropEndWhile p ys := by
  rw [dropEndWhile, dropEndWhile, List.reverse_append, List.reverse_cons, List.append_assoc,
    List.singleton_append, List.dropWhile_append]
  split
  next hempty =>
    rw [List.dropWhile_cons_of_neg (by simp [h]), List.isEmpty_iff.mp hempty]
    simp
  next => simp

theorem dropEndWhile_cons {x : α} (h : p x = false) (xs : List α) :
    dropEndWhile p (x :: xs) = x :: dropEndWhile p xs :=
  dropEndWhile_mark h [] xs

theorem isPrefix_dropEndWhile (p : α → Bool) (xs : List α) : dropEndWhile p xs <+: xs :=
  List.rdropWhile_prefix p xs

/-- What stays does not end with what is dropped. -/
theorem dropEndWhile_last (p : α → Bool) (xs : List α) :
    ∀ x ∈ (dropEndWhile p xs).getLast?, p x = false := by
  intro x hx
  obtain ⟨hne, rfl⟩ := List.mem_getLast?_eq_getLast hx
  exact Bool.eq_false_iff.mpr (List.rdropWhile_last_not p xs hne)

/-- A text is what stays of it and what is dropped. -/
theorem exists_dropped (p : α → Bool) (xs : List α) :
    ∃ ys, xs = dropEndWhile p xs ++ ys ∧ ∀ y ∈ ys, p y = true :=
  ⟨xs.rtakeWhile p, List.rdropWhile_append_rtakeWhile.symm, fun _ hy => List.mem_rtakeWhile_imp hy⟩

theorem dropEndWhile_of_last (hlast : ∀ x ∈ xs.getLast?, p x = false) : dropEndWhile p xs = xs :=
  List.rdropWhile_eq_self_iff.mpr fun hne =>
    Bool.eq_false_iff.mp (hlast _ (List.getLast?_eq_some_getLast hne))

theorem isInfix_trimWhile (p : α → Bool) (xs : List α) : trimWhile p xs <:+: xs :=
  (isPrefix_dropEndWhile p _).isInfix.trans (List.dropWhile_suffix p).isInfix

theorem mem_of_mem_trimWhile {x : α} (h : x ∈ trimWhile p xs) : x ∈ xs :=
  (isInfix_trimWhile p xs).subset h

theorem head?_trimWhile (p : α → Bool) (xs : List α) :
    (trimWhile p xs).head? = (xs.dropWhile p).head? := by
  rw [trimWhile]
  cases hrest : xs.dropWhile p with
  | nil => rfl
  | cons y ys =>
    have hy : p y = false := by
      have hhead := List.head?_dropWhile_not p xs
      rw [hrest] at hhead
      simpa using hhead
    rw [dropEndWhile_cons hy]
    rfl

/-- A trimmed text neither begins nor ends with what is dropped. -/
theorem trimWhile_ends (p : α → Bool) (xs : List α) :
    (∀ x ∈ (trimWhile p xs).head?, p x = false) ∧ ∀ x ∈ (trimWhile p xs).getLast?, p x = false := by
  constructor
  · intro x hx
    have hhead := List.head?_dropWhile_not p xs
    rw [head?_trimWhile, Option.mem_def] at hx
    rw [hx] at hhead
    exact hhead
  · exact dropEndWhile_last p _

/-- A text that neither begins nor ends with what is dropped stays as it is. -/
theorem trimWhile_of_ends (hhead : ∀ x ∈ xs.head?, p x = false)
    (hlast : ∀ x ∈ xs.getLast?, p x = false) : trimWhile p xs = xs := by
  have hfront : xs.dropWhile p = xs := by
    cases xs with
    | nil => rfl
    | cons x xs => exact List.dropWhile_cons_of_neg (by simp [hhead x rfl])
  rw [trimWhile, hfront]
  exact dropEndWhile_of_last hlast

/-! ## Lines -/

section Lines

variable {line : List Char} {lines : List (List Char)}

theorem dropReturn_of_ne (h : line.getLast? ≠ some '\r') : dropReturn line = line := by
  unfold dropReturn
  split
  · next hlast => exact absurd hlast h
  · rfl

theorem map_dropReturn (h : ∀ line ∈ lines, line.getLast? ≠ some '\r') :
    lines.map dropReturn = lines := by
  rw [List.map_congr_left fun line hline => dropReturn_of_ne (h line hline), List.map_id']

/-- Lines that have characters are read back from their text. -/
theorem lineChars_intercalate (hfilled : ∀ line ∈ lines, line ≠ [])
    (hfeed : ∀ line ∈ lines, '\n' ∉ line) (hreturn : ∀ line ∈ lines, line.getLast? ≠ some '\r') :
    lineChars (['\n'].intercalate lines) = lines := by
  rcases List.eq_nil_or_concat lines with rfl | ⟨front, last, rfl⟩
  · rfl
  · have hlast : last ≠ [] := hfilled last (by simp)
    have hfront : front.map dropReturn = front :=
      map_dropReturn fun line hline => hreturn line (by simp [hline])
    rw [lineChars, splitWhere_intercalate (by simp) hfeed]
    simp only [List.concat_eq_append, List.getLast?_append, List.getLast?_singleton,
      Option.some_or, List.dropLast_concat, hfront]

end Lines

end ApiScaffold.Text
