import Mathlib.Data.List.Forall2
import Mathlib.Data.List.Perm.Basic

/-!
# Steps and traversals that can fail

What is known where a step behind another one succeeds, and where a step succeeds on every
element of a list.

* `bind_eq_ok`: two steps succeed if the first one does, and the second one on its result.
* `mapM_of_refusals`: a traversal ends at the first element that is refused.
* `mapM_eq_ok_iff`: a traversal succeeds exactly if it has a result for each element, in order.
* `forall₂_of_filterMapM`: the same where some elements are passed over.
* `mapM_perm`: in another order it succeeds as well, with its results in another order.
* `mapM_flatMap_eq_some`: a traversal of many lists succeeds where it does on each.
-/

namespace ApiScaffold

variable {α β γ ρ ε : Type}

theorem bind_eq_ok {x : Except ε α} {f : α → Except ε β} {b : β} :
    (x >>= f) = .ok b ↔ ∃ a, x = .ok a ∧ f a = .ok b := by
  cases x with
  | error e =>
    constructor
    · intro h
      cases h
    · rintro ⟨a, h, -⟩
      cases h
  | ok a =>
    constructor
    · intro h
      exact ⟨a, rfl, h⟩
    · rintro ⟨_, h, hf⟩
      cases h
      exact hf

theorem map_eq_ok {f : α → β} {x : Except ε α} {b : β} :
    x.map f = .ok b ↔ ∃ a, x = .ok a ∧ f a = b := by
  cases x with
  | error e =>
    constructor
    · intro h
      cases h
    · rintro ⟨a, h, -⟩
      cases h
  | ok a => simp [Except.map]

theorem mapError_eq_ok {ε' : Type} {f : ε → ε'} {x : Except ε α} {a : α} :
    x.mapError f = .ok a ↔ x = .ok a := by
  cases x <;> simp [Except.mapError]

theorem toOption_eq_some_iff {x : Except ε α} {a : α} : x.toOption = some a ↔ x = .ok a := by
  cases x <;> simp [Except.toOption]

theorem isOk_iff {x : Except ε α} : x.isOk = true ↔ ∃ a, x = .ok a := by
  cases x <;> simp [Except.isOk, Except.toBool]

/-- Each element of the second of two lists that are alike is alike to one of the first. -/
theorem exists_of_mem_forall₂ {R : α → β → Prop} {l : List α} {bs : List β} {b : β}
    (h : List.Forall₂ R l bs) (hb : b ∈ bs) : ∃ a ∈ l, R a b := by
  induction h with
  | nil => cases hb
  | cons ha _ ih =>
    rcases List.mem_cons.mp hb with rfl | hb
    · exact ⟨_, List.mem_cons_self, ha⟩
    · obtain ⟨a, hmem, ha⟩ := ih hb
      exact ⟨a, List.mem_cons_of_mem _ hmem, ha⟩

/-- A property holds of all elements of a list exactly if another one does of all elements of a
list that is alike. -/
theorem forall_mem_iff_of_forall₂ {R : α → β → Prop} {p : α → Prop} {q : β → Prop} {l : List α}
    {bs : List β} (h : List.Forall₂ R l bs) (hpq : ∀ a b, R a b → (p a ↔ q b)) :
    (∀ a ∈ l, p a) ↔ ∀ b ∈ bs, q b := by
  induction h with
  | nil => exact iff_of_true (List.forall_mem_nil _) (List.forall_mem_nil _)
  | cons ha _ ih => rw [List.forall_mem_cons, List.forall_mem_cons, hpq _ _ ha, ih]

/-- One relation holds between the elements of two lists that are alike, exactly if all elements of
the first have the property that decides it. -/
theorem forall₂_iff_of_forall₂ {R S : α → β → Prop} {p : α → Prop} {l : List α} {bs : List β}
    (h : List.Forall₂ R l bs) (hp : ∀ a b, R a b → (S a b ↔ p a)) :
    List.Forall₂ S l bs ↔ ∀ a ∈ l, p a := by
  induction h with
  | nil => exact iff_of_true .nil (List.forall_mem_nil _)
  | cons ha _ ih => rw [List.forall₂_cons, List.forall_mem_cons, hp _ _ ha, ih]

/-- A traversal in which each element is refused or mapped: the first refusal is the result, and
without one all elements are mapped. -/
theorem mapM_of_refusals {f : α → Except ε β} {refusal : α → Option ρ} {report : ρ → ε}
    {g : α → β} (h : ∀ a, f a = (refusal a).elim (.ok (g a)) fun x => .error (report x))
    (l : List α) :
    l.mapM f = (l.findSome? refusal).elim (.ok (l.map g)) fun x => .error (report x) := by
  induction l with
  | nil => rfl
  | cons a l ih =>
    rw [List.mapM_cons, List.findSome?_cons, h a, ih]
    cases refusal a with
    | some e => rfl
    | none => cases l.findSome? refusal <;> rfl

section

variable {f : α → Except ε β} {l : List α} {bs : List β}

/-- A traversal that succeeds has a result for each element, in order. -/
theorem forall₂_of_mapM (h : l.mapM f = .ok bs) : List.Forall₂ (fun a b => f a = .ok b) l bs := by
  induction l generalizing bs with
  | nil =>
    cases h
    exact .nil
  | cons a l ih =>
    rw [List.mapM_cons] at h
    obtain ⟨b, ha, h⟩ := bind_eq_ok.mp h
    obtain ⟨rest, hl, h⟩ := bind_eq_ok.mp h
    cases h
    exact .cons ha (ih hl)

theorem mapM_of_forall₂ (h : List.Forall₂ (fun a b => f a = .ok b) l bs) : l.mapM f = .ok bs := by
  induction h with
  | nil => rfl
  | cons ha _ ih =>
    rw [List.mapM_cons, ha, ih]
    rfl

/-- **A traversal succeeds exactly if it has a result for each element, in order.** -/
theorem mapM_eq_ok_iff : l.mapM f = .ok bs ↔ List.Forall₂ (fun a b => f a = .ok b) l bs :=
  ⟨forall₂_of_mapM, mapM_of_forall₂⟩

/-- **In another order a traversal succeeds as well**, with its results in another order. -/
theorem mapM_perm {l' : List α} (hl : l'.Perm l) (h : l.mapM f = .ok bs) :
    ∃ bs', l'.mapM f = .ok bs' ∧ bs'.Perm bs := by
  obtain ⟨bs', hresults, hperm⟩ := List.perm_comp_forall₂ hl (forall₂_of_mapM h)
  exact ⟨bs', mapM_of_forall₂ hresults, hperm⟩

/-- Traversals of two lists that succeed alike on their elements succeed alike. -/
theorem mapM_eq_ok_congr {γ : Type} {l' : List γ} {g : γ → Except ε β}
    (h : List.Forall₂ (fun a c => ∀ b, f a = .ok b ↔ g c = .ok b) l l') :
    l.mapM f = .ok bs ↔ l'.mapM g = .ok bs := by
  rw [mapM_eq_ok_iff, mapM_eq_ok_iff]
  induction h generalizing bs with
  | nil => rw [List.forall₂_nil_left_iff, List.forall₂_nil_left_iff]
  | cons ha _ ih =>
    rw [List.forall₂_cons_left_iff, List.forall₂_cons_left_iff]
    constructor
    · rintro ⟨b, rest, hb, hrest, rfl⟩
      exact ⟨b, rest, (ha b).mp hb, ih.mp hrest, rfl⟩
    · rintro ⟨b, rest, hb, hrest, rfl⟩
      exact ⟨b, rest, (ha b).mpr hb, ih.mpr hrest, rfl⟩

/-- A traversal that passes over some elements has a result for each of the others, in order. -/
theorem forall₂_of_filterMapM {key : α → Option γ} {g : γ → Except ε β}
    {f : α → Except ε (Option β)} (hnone : ∀ a, key a = none → f a = .ok none)
    (hsome : ∀ a c, key a = some c → f a = (g c).map some) (h : l.filterMapM f = .ok bs) :
    List.Forall₂ (fun c b => g c = .ok b) (l.filterMap key) bs := by
  induction l generalizing bs with
  | nil =>
    cases h
    exact .nil
  | cons a l ih =>
    rw [List.filterMapM_cons] at h
    obtain ⟨result, ha, h⟩ := bind_eq_ok.mp h
    cases hkey : key a with
    | none =>
      rw [hnone a hkey] at ha
      cases ha
      rw [List.filterMap_cons_none hkey]
      exact ih h
    | some c =>
      rw [hsome a c hkey] at ha
      obtain ⟨b, hb, rfl⟩ := map_eq_ok.mp ha
      obtain ⟨rest, hrest, h⟩ := bind_eq_ok.mp h
      cases h
      rw [List.filterMap_cons_some hkey]
      exact .cons hb (ih hrest)

/-- Each result is that of an element. -/
theorem exists_of_mem_mapM {b : β} (h : l.mapM f = .ok bs) (hb : b ∈ bs) :
    ∃ a ∈ l, f a = .ok b :=
  exists_of_mem_forall₂ (R := fun a b => f a = .ok b) (forall₂_of_mapM h) hb

/-- What a step says of its result, the traversal says of all results. -/
theorem map_of_mapM {g : β → γ} {k : α → γ} (hstep : ∀ a b, f a = .ok b → g b = k a)
    (h : l.mapM f = .ok bs) : bs.map g = l.map k := by
  have hall := forall₂_of_mapM h
  clear h
  induction hall with
  | nil => rfl
  | cons ha _ ih => rw [List.map_cons, List.map_cons, hstep _ _ ha, ih]

end

section

variable {f : α → Option β} {l l' : List α} {bs bs' : List β} {xs : List γ}

/-- A traversal of two lists succeeds where both succeed. -/
theorem mapM_append_eq_some (h : l.mapM f = some bs) (h' : l'.mapM f = some bs') :
    (l ++ l').mapM f = some (bs ++ bs') := by
  rw [List.mapM_append, h, h']
  rfl

theorem mapM_map_eq_some {g : γ → α} {k : γ → β} (h : ∀ x ∈ xs, f (g x) = some (k x)) :
    (xs.map g).mapM f = some (xs.map k) := by
  induction xs with
  | nil => rfl
  | cons x xs ih =>
    obtain ⟨hx, hxs⟩ := List.forall_mem_cons.mp h
    rw [List.map_cons, List.mapM_cons, hx, ih hxs]
    rfl

/-- A traversal of many lists succeeds where it does on each. -/
theorem mapM_flatMap_eq_some {g : γ → List α} {k : γ → List β}
    (h : ∀ x ∈ xs, (g x).mapM f = some (k x)) :
    (xs.flatMap g).mapM f = some (xs.flatMap k) := by
  induction xs with
  | nil => rfl
  | cons x xs ih =>
    obtain ⟨hx, hxs⟩ := List.forall_mem_cons.mp h
    rw [List.flatMap_cons, List.flatMap_cons]
    exact mapM_append_eq_some hx (ih hxs)

end

end ApiScaffold
