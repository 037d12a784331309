import ApiScaffold.Json.Value
import Mathlib.Data.List.Basic

/-!
# The members of an object

Members are set one after another, each in the place of its key.  One step keeps the keys in
ascending order, adds at most its own key, and changes what stands under that key only.

* `ascending_setMember`: **the keys stay in ascending order.**
* `mem_keys_setMember`: the keys are those from before and the new one.
* `memberOf?_setMember`: **what stands under a key afterwards.**
* `memberOf?_eq_some_iff`: members with ascending keys are found under their keys.
* `memberOf?_sortMembers`: what stands under a key of an object that is made from members.
-/

namespace ApiScaffold.Json

variable {α : Type} {key k : String} {value v : α} {members : List (String × α)}

/-- The keys ascend strictly. -/
def Ascending (members : List (String × α)) : Prop := members.Pairwise fun a b => a.1 < b.1

theorem mem_keys_setMember :
    k ∈ (setMember key value members).map (·.1) ↔ k = key ∨ k ∈ members.map (·.1) := by
  induction members with
  | nil => simp [setMember]
  | cons m rest ih =>
    rw [setMember]
    split
    next heq => simp [heq]
    next hne =>
      split
      next hlt => simp
      next hge =>
        rw [List.map_cons, List.mem_cons, ih, List.map_cons, List.mem_cons]
        exact or_left_comm

/-- **The keys stay in ascending order.** -/
theorem ascending_setMember (h : Ascending members) : Ascending (setMember key value members) := by
  induction members with
  | nil => exact List.pairwise_singleton _ _
  | cons m rest ih =>
    obtain ⟨hfirst, hrest⟩ := List.pairwise_cons.mp h
    rw [setMember]
    split
    next heq =>
      subst heq
      exact List.pairwise_cons.mpr ⟨hfirst, hrest⟩
    next hne =>
      split
      next hlt =>
        refine List.pairwise_cons.mpr ⟨List.forall_mem_cons.mpr ⟨hlt, fun b hb => ?_⟩, h⟩
        exact String.lt_trans hlt (hfirst b hb)
      next hge =>
        refine List.pairwise_cons.mpr ⟨fun b hb => ?_, ih hrest⟩
        rcases mem_keys_setMember.mp (List.mem_map_of_mem hb) with hkey | hkey
        · -- a key that is not below another one and differs from it is above
          rw [hkey]
          exact Classical.byContradiction fun hlt =>
            hne (String.le_antisymm (String.not_lt.mp hlt) (String.not_lt.mp hge))
        · obtain ⟨b', hb', heq⟩ := List.mem_map.mp hkey
          rw [← heq]
          exact hfirst b' hb'

theorem memberOf?_cons (m : String × α) :
    memberOf? (m :: members) k = if k = m.1 then some m.2 else memberOf? members k := by
  rw [memberOf?, List.lookup_cons]
  by_cases hk : k = m.1
  · rw [if_pos hk, beq_iff_eq.mpr hk]
  · rw [if_neg hk, beq_eq_false_iff_ne.mpr hk]
    rfl

/-- **What stands under a key after a member is set.** -/
theorem memberOf?_setMember :
    memberOf? (setMember key value members) k =
      if k = key then some value else memberOf? members k := by
  induction members with
  | nil => exact memberOf?_cons (key, value)
  | cons m rest ih =>
    rw [setMember]
    split
    next heq =>
      rw [memberOf?_cons, memberOf?_cons, ← heq]
      by_cases hk : k = key
      · rw [if_pos hk, if_pos hk]
      · rw [if_neg hk, if_neg hk, if_neg hk]
    next hne =>
      split
      next hlt => exact memberOf?_cons (key, value)
      next hge =>
        rw [memberOf?_cons, memberOf?_cons, ih]
        by_cases hm : k = m.1
        · have hk : k ≠ key := fun hk => hne (hk.symm.trans hm)
          rw [if_pos hm, if_neg hk, if_pos hm]
        · rw [if_neg hm, if_neg hm]

/-- Members with ascending keys are found under their keys. -/
theorem memberOf?_eq_some_iff (h : Ascending members) :
    memberOf? members k = some v ↔ (k, v) ∈ members := by
  induction members with
  | nil => simp [memberOf?]
  | cons m rest ih =>
    obtain ⟨hfirst, hrest⟩ := List.pairwise_cons.mp h
    rw [memberOf?_cons, List.mem_cons]
    by_cases hm : k = m.1
    · have hnot : (k, v) ∉ rest := fun hmem =>
        String.lt_irrefl m.1 (hm ▸ hfirst (k, v) hmem)
      rw [if_pos hm, or_iff_left hnot, Option.some.injEq, Prod.ext_iff, eq_comm]
      exact (and_iff_right hm).symm
    · rw [if_neg hm, ih hrest, or_iff_right fun e => hm (congrArg Prod.fst e)]

/-- What stands under a key of sorted members: the last of them counts. -/
theorem memberOf?_sortMembers (members : List (String × α)) (key : String) :
    memberOf? (sortMembers members) key = memberOf? members.reverse key := by
  rw [sortMembers, List.foldl_eq_foldr_reverse]
  induction members.reverse with
  | nil => rfl
  | cons m rest ih => rw [List.foldr_cons, memberOf?_setMember, ih, memberOf?_cons]

end ApiScaffold.Json
