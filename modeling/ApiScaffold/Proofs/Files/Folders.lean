import ApiScaffold.Files.Access
import ApiScaffold.Proofs.Files.Node

/-!
# Making folders

A folder is made with those that lead to it, the last of them first.  Each of the steps either
leaves the tree as it is or puts a folder where nothing was, so the tree only grows (`Grown`), and
it grows on the way to the folder and nowhere else.  A step that fails counts all the same if the
folder is there; so all is well in the end exactly where the folder is there.

* `Entry.Grown`: folders have come to places where nothing was.
* `settle_made`: a single step to a folder.
* `makeFolders_grown`: **the tree grows on the way to the folder only**, and the folder is there if
  all went well.
* `makeFolders_again`: **a folder that is there is not made again.**
-/

namespace ApiScaffold

namespace Entry

variable {root root' root'' : Entry} {home q : Place} {path : String} {W V : Place → Prop}

/-- Whether nothing has happened to a tree but that folders have come to some places where nothing
was. -/
def Grown (W : Place → Prop) (root root' : Entry) : Prop :=
  ∀ q, root'.nodeAt? q = root.nodeAt? q ∨
    W q ∧ root.nodeAt? q = none ∧ root'.nodeAt? q = some .folder

theorem Grown.refl (W : Place → Prop) (root : Entry) : Grown W root root := fun _ => .inl rfl

theorem Grown.mono (h : Grown W root root') (hWV : ∀ q, W q → V q) : Grown V root root' :=
  fun q => (h q).imp_right (And.imp_left (hWV q))

theorem Grown.trans (h : Grown W root root') (h' : Grown W root' root'') :
    Grown W root root'' := by
  intro q
  rcases h' q with hkept | ⟨hW, hnone, hfolder⟩
  · rw [hkept]
    exact h q
  · rcases h q with hkept | ⟨-, -, hbefore⟩
    · exact .inr ⟨hW, hkept.symm.trans hnone, hfolder⟩
    · rw [hbefore] at hnone
      cases hnone

theorem Grown.folder (h : Grown W root root') (hq : root.nodeAt? q = some .folder) :
    root'.nodeAt? q = some .folder := by
  rcases h q with hkept | ⟨-, -, hfolder⟩
  · rw [hkept, hq]
  · exact hfolder

/-- A folder behind the growth was one before, or nothing was there. -/
theorem Grown.before (h : Grown W root root') (hq : root'.nodeAt? q = some .folder) :
    root.nodeAt? q = none ∨ root.nodeAt? q = some .folder := by
  rcases h q with hkept | ⟨-, hnone, -⟩
  · exact .inr (hkept.symm.trans hq)
  · exact .inl hnone

/-- What is no folder behind the growth was there before. -/
theorem Grown.kept (h : Grown W root root') (hq : root'.nodeAt? q ≠ some .folder) :
    root'.nodeAt? q = root.nodeAt? q := by
  rcases h q with hkept | ⟨-, -, hfolder⟩
  · exact hkept
  · exact absurd hfolder hq

/-! ## A single folder -/

theorem grown_makeFolder (h : root.makeFolder home path = .ok root') :
    Grown (· = Place.ofPath home path) root root' := by
  obtain ⟨-, -, hnone, hafter⟩ := makeFolder_ok h
  intro q
  rw [hafter]
  by_cases hq : q = Place.ofPath home path
  · rw [if_pos hq, hq]
    exact .inr ⟨rfl, hnone, rfl⟩
  · rw [if_neg hq]
    exact .inl rfl

theorem isFolder_of_makeFolder (h : root.makeFolder home path = .ok root') :
    root'.isFolder home path = true := by
  obtain ⟨hpath, hway, -, hafter⟩ := makeFolder_ok h
  have hplace : root'.nodeAt? (Place.ofPath home path) = some .folder := by
    rw [hafter, if_pos rfl]
  refine isFolder_iff.mpr ⟨hpath, fun d hd => ?_, hplace⟩
  rcases hway d hd with rfl | hfolder
  · exact hplace
  · exact (grown_makeFolder h).folder hfolder

end Entry

namespace Access

open Entry (Grown)

variable {around : Surroundings} {root : Entry} {path : String} {paths : List String}

theorem run_changing (f : Entry → Except FileFault Entry) : (changing f).run root =
    match f root with
    | .ok root' => (.ok (), root')
    | .error fault => (.error fault, root) := by
  have hrun : (changing f).run root = StateT.run (match f root with
      | .ok root' => do set root'; return .ok ()
      | .error fault => return .error fault) root := rfl
  rw [hrun]
  cases f root <;> rfl

theorem run_settle (made : Except FileFault Unit) :
    ((inTree around).settle path made).run root =
      (match made with
        | .ok () => .ok ()
        | .error fault => if root.isFolder around.home path then .ok () else .error fault, root) := by
  cases made <;> rfl

theorem run_makeFoldersFrom (path : String) (rest : List String) :
    ((inTree around).makeFoldersFrom (path :: rest)).run root =
      if path.isEmpty then (.ok (), root) else
        match ((inTree around).makeFolder path).run root with
        | (.error .notFound, after) =>
          match ((inTree around).makeFoldersFrom rest).run after with
          | (.ok (), above) =>
            let last := ((inTree around).makeFolder path).run above
            ((inTree around).settle path last.1).run last.2
          | (.error fault, above) => (.error fault, above)
        | (made, after) => ((inTree around).settle path made).run after := by
  rw [makeFoldersFrom]
  by_cases hpath : path.isEmpty = true
  · rw [if_pos hpath, if_pos hpath]
    rfl
  · rw [if_neg hpath, if_neg hpath, StateT.run_bind]
    obtain ⟨made, after⟩ := ((inTree around).makeFolder path).run root
    cases made with
    | ok _ => rfl
    | error fault =>
      cases fault with
      | notFound =>
        dsimp only
        show StateT.run (_ >>= _) after = _
        rw [StateT.run_bind]
        obtain ⟨outcome, above⟩ := ((inTree around).makeFoldersFrom rest).run after
        cases outcome <;> rfl
      | alreadyThere => rfl
      | notFolder => rfl
      | isFolder => rfl
      | other text => rfl

/-- **A step to a folder makes it or does nothing**, and counts only if the folder is there. -/
theorem settle_made {made : Except FileFault Unit} {after : Entry}
    (h : ((inTree around).makeFolder path).run root = (made, after)) :
    Grown (· = Place.ofPath around.home path) root after ∧
      ∃ outcome, ((inTree around).settle path made).run after = (outcome, after) ∧
        (outcome = .ok () → after.isFolder around.home path = true) := by
  have hstep := (run_changing (Entry.makeFolder around.home path)).symm.trans h
  split at hstep
  · next root' hmade =>
    cases hstep
    exact ⟨Entry.grown_makeFolder hmade, .ok (), rfl, fun _ => Entry.isFolder_of_makeFolder hmade⟩
  · next fault hfault =>
    cases hstep
    refine ⟨Grown.refl _ _, _, run_settle _, fun hok => ?_⟩
    by_contra hnot
    simp only at hok
    rw [if_neg hnot] at hok
    cases hok

/-- Whether one of some paths leads to a place. -/
def LedTo (home : Place) (paths : List String) (q : Place) : Prop :=
  ∃ path ∈ paths, q = Place.ofPath home path

/-- The last step is to the folder itself, whatever was made before. -/
theorem settle_last {before after : Entry} {made : Except FileFault Unit} {rest : List String}
    (hbefore : Grown (LedTo around.home (path :: rest)) root before)
    (hmade : ((inTree around).makeFolder path).run before = (made, after)) :
    ∃ outcome last, ((inTree around).settle path made).run after = (outcome, last) ∧
      Grown (LedTo around.home (path :: rest)) root last ∧
      (outcome = .ok () → ∀ p ∈ (path :: rest).head?, p = "" ∨
        last.isFolder around.home p = true) := by
  obtain ⟨hgrown, outcome, hsettled, hthere⟩ := settle_made hmade
  refine ⟨outcome, after, hsettled,
    hbefore.trans (hgrown.mono fun q hq => ⟨path, List.mem_cons_self, hq⟩), ?_⟩
  rintro hok _ ⟨⟩
  exact .inr (hthere hok)

/-- What is left behind by making folders, the induction being on those that are still to be made:
the tree grows at their places only, and the first of them is there if all went well. -/
theorem makeFoldersFrom_grown (around : Surroundings) (paths : List String) (root : Entry) :
    ∃ outcome after, ((inTree around).makeFoldersFrom paths).run root = (outcome, after) ∧
      Grown (LedTo around.home paths) root after ∧
      (outcome = .ok () → ∀ path ∈ paths.head?, path = "" ∨
        after.isFolder around.home path = true) := by
  induction paths generalizing root with
  | nil => exact ⟨_, _, rfl, Grown.refl _ _, fun hok => by cases hok⟩
  | cons path rest ih =>
    rw [run_makeFoldersFrom]
    by_cases hpath : path.isEmpty = true
    · rw [if_pos hpath]
      refine ⟨_, _, rfl, Grown.refl _ _, ?_⟩
      rintro - _ ⟨⟩
      exact .inl (String.isEmpty_iff.mp hpath)
    · rw [if_neg hpath]
      split
      · next after hmissing =>
        obtain ⟨outcome, above, hrest, hgrown, -⟩ := ih after
        have hafter : Grown (LedTo around.home (path :: rest)) root after :=
          (settle_made hmissing).1.mono fun q hq => ⟨path, List.mem_cons_self, hq⟩
        have habove : Grown (LedTo around.home (path :: rest)) root above :=
          hafter.trans (hgrown.mono fun q ⟨p, hp, hq⟩ => ⟨p, List.mem_cons_of_mem _ hp, hq⟩)
        rw [hrest]
        cases outcome with
        | error fault => exact ⟨_, _, rfl, habove, fun hok => by cases hok⟩
        | ok _ => exact settle_last habove rfl
      · next made after _ hmade => exact settle_last (Grown.refl _ _) hmade

/-- **The tree grows on the way to the folder only**, and the folder is there if all went well. -/
theorem makeFolders_grown (around : Surroundings) (path : String) (root : Entry) :
    ∃ outcome after, ((inTree around).makeFolders path).run root = (outcome, after) ∧
      Grown (Place.IsAlong around.home path) root after ∧
      (outcome = .ok () → path = "" ∨ after.isFolder around.home path = true) := by
  obtain ⟨outcome, after, hrun, hgrown, hthere⟩ :=
    makeFoldersFrom_grown around (Path.ancestors path) root
  refine ⟨outcome, after, hrun, hgrown.mono ?_, fun hok => hthere hok path rfl⟩
  rintro q ⟨ancestor, hancestor, rfl⟩
  exact Place.way_ancestors _ path hancestor

/-- **A folder that is there is not made again.** -/
theorem makeFolders_again (h : path = "" ∨ root.isFolder around.home path = true) :
    ((inTree around).makeFolders path).run root = (.ok (), root) := by
  rw [makeFolders, Path.ancestors, Path.ancestorsFrom, run_makeFoldersFrom]
  by_cases hpath : path = ""
  · rw [if_pos (by simpa using hpath)]
  · rw [if_neg (by simpa using hpath)]
    have hthere := h.resolve_left hpath
    have hmade : ((inTree around).makeFolder path).run root =
        (.error .alreadyThere, root) := by
      refine (run_changing _).trans ?_
      rw [Entry.makeFolder_of_isFolder hthere]
    rw [hmade]
    dsimp only
    rw [run_settle]
    dsimp only
    rw [if_pos hthere]

end Access

end ApiScaffold
