import ApiScaffold.Proofs.Traversal
import Mathlib.Data.List.Nodup

/-!
# Sorting by a key

Elements that a key tells apart can be sorted in one way only, so the order in which they come
does not show in the sorted list.  That is said of two lists at once, whose elements are alike
and have the same keys (`forall₂_mergeSort`).

* `KeyOrder`: an order of keys that a sorting can go by.
* `pairwise_of_forall₂`: what holds of any two elements, holds of any two that are alike to them.
* `sorted_unique`: **one list of elements with different keys is sorted.**
* `forall₂_mergeSort`: **lists that are alike up to their order are alike when they are sorted.**
-/

namespace ApiScaffold

variable {α β κ : Type}

/-- An order of keys that a sorting can go by. -/
structure KeyOrder (le : κ → κ → Bool) : Prop where
  trans : ∀ a b c, le a b = true → le b c = true → le a c = true
  total : ∀ a b, (le a b || le b a) = true
  antisymm : ∀ a b, le a b = true → le b a = true → a = b

/-- What holds of any two elements of a list, holds of any two that are alike to them. -/
theorem pairwise_of_forall₂ {R : α → β → Prop} {P : α → α → Prop} {Q : β → β → Prop}
    (hstep : ∀ a a' b b', R a b → R a' b' → P a a' → Q b b') {l : List α} {l' : List β}
    (h : List.Forall₂ R l l') (hl : l.Pairwise P) : l'.Pairwise Q := by
  induction h with
  | nil => exact .nil
  | @cons a b as bs hab hrest ih =>
    obtain ⟨hfirst, hl⟩ := List.pairwise_cons.mp hl
    refine List.pairwise_cons.mpr ⟨fun b' hb' => ?_, ih hl⟩
    obtain ⟨a', ha', hab'⟩ := exists_of_mem_forall₂ hrest hb'
    exact hstep _ _ _ _ hab hab' (hfirst a' ha')

variable {le : κ → κ → Bool}

theorem KeyOrder.sorted (order : KeyOrder le) (key : α → κ) (l : List α) :
    (l.mergeSort fun a b => le (key a) (key b)).Pairwise fun a b => le (key a) (key b) = true :=
  List.pairwise_mergeSort (fun a b c => order.trans (key a) (key b) (key c))
    (fun a b => order.total (key a) (key b)) l

/-- **Of the lists with some elements, whose keys differ, one is sorted.** -/
theorem KeyOrder.sorted_unique (order : KeyOrder le) (key : α → κ) {l l' : List α}
    (hperm : l.Perm l') (hkeys : (l.map key).Nodup)
    (hl : l.Pairwise fun a b => le (key a) (key b) = true)
    (hl' : l'.Pairwise fun a b => le (key a) (key b) = true) : l = l' := by
  refine List.Perm.eq_of_pairwise (fun a b ha hb hab hba => ?_) hl hl' hperm
  have hkey : key a = key b := order.antisymm _ _ hab hba
  exact List.inj_on_of_nodup_map hkeys ha (hperm.mem_iff.mpr hb) hkey

/-- Elements whose keys differ are sorted in one way, in whatever order they come. -/
theorem KeyOrder.mergeSort_eq_of_perm (order : KeyOrder le) (key : α → κ) {l l' : List α}
    (hperm : l.Perm l') (hkeys : (l.map key).Nodup) :
    (l.mergeSort fun a b => le (key a) (key b)) = l'.mergeSort fun a b => le (key a) (key b) := by
  have hsorted := List.mergeSort_perm l fun a b => le (key a) (key b)
  refine order.sorted_unique key ?_ ?_ (order.sorted key l) (order.sorted key l')
  · exact hsorted.trans (hperm.trans (List.mergeSort_perm l' _).symm)
  · exact (hsorted.map key).nodup_iff.mpr hkeys

/-- **Lists that are alike up to their order are alike when they are sorted**, if likeness keeps
the keys and the keys differ. -/
theorem KeyOrder.forall₂_mergeSort (order : KeyOrder le) (key : α → κ) (key' : β → κ)
    {R : α → β → Prop} (hkey : ∀ a b, R a b → key a = key' b) {l l₀ : List α} {l' : List β} (hperm : l.Perm l₀)
    (halike : List.Forall₂ R l₀ l') (hkeys : (l.map key).Nodup) :
    List.Forall₂ R (l.mergeSort fun a b => le (key a) (key b))
      (l'.mergeSort fun a b => le (key' a) (key' b)) := by
  -- the elements of the first list in the order of the second one, once that is sorted
  have hsorted := List.mergeSort_perm l' fun a b => le (key' a) (key' b)
  obtain ⟨l₁, hl₁, hperm₁⟩ := List.perm_comp_forall₂ hsorted halike.flip
  have halike₁ : List.Forall₂ R l₁ (l'.mergeSort fun a b => le (key' a) (key' b)) := hl₁.flip
  have hascends : l₁.Pairwise fun a b => le (key a) (key b) = true := by
    refine pairwise_of_forall₂ ?_ hl₁ (order.sorted key' l')
    intro b b' a a' hab hab' hle
    rw [hkey _ _ hab, hkey _ _ hab']
    exact hle
  have hone : (l.mergeSort fun a b => le (key a) (key b)) = l₁ := by
    refine order.sorted_unique key ?_ ?_ (order.sorted key l) hascends
    · exact (List.mergeSort_perm l _).trans (hperm.trans hperm₁.symm)
    · exact ((List.mergeSort_perm l _).map key).nodup_iff.mpr hkeys
  rw [hone]
  exact halike₁

end ApiScaffold
