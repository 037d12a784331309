import ApiScaffold.Proofs.Files.Folders
import ApiScaffold.Proofs.Task.Perform
import ApiScaffold.Proofs.Traversal

/-!
# What writing files leaves behind

A file is written after the folders that lead to it, and only if it differs.  The first of these
steps grows the tree on the way to the file, the second one changes what is at its place; so what one
file leaves behind is known (`Stored.single`), and it can be told from the tree before the folders
were made as well (`Stored.of_grown`).  One file leaves the place of every other one as it was, for
whatever is on the way to a file that is written is a folder.

* `Stored`: files are at their places, in folders, and all other places are as they were.
* `writeArtifact_ok`: **a file is written, or it is there already.**
* `Stored.cons`, `writeArtifacts_ok`: **files are written one after the other.**
* `writeArtifacts_again`: **files that are there already are left alone.**
-/

namespace ApiScaffold

open Entry (Grown)
open Place (ofPath way)

variable {around : Surroundings} {home : Place} {root root' root'' : Entry} {a : Artifact}
  {artifacts : List Artifact} {folder : String}

namespace Artifact

/-- Whether no file with the content of an artifact is at its place. -/
def Differs (a : Artifact) (old : Option Node) : Prop :=
  old.bind Node.content? ≠ some (Text.utf8 a.content)

instance (a : Artifact) (old : Option Node) : Decidable (a.Differs old) :=
  inferInstanceAs (Decidable (_ ≠ _))

theorem not_differs_iff {old : Option Node} :
    ¬ a.Differs old ↔ ∃ mode, old = some (.file (Text.utf8 a.content) mode) := by
  rw [Differs, not_ne_iff]
  cases old with
  | none => simp
  | some node => cases node <;> simp [Node.content?]

/-- What is at the place of an artifact afterwards: the bits that an artifact asks for are set where
its file is written, and a file that is the same already is left as it is. -/
def nodeAfter (a : Artifact) (old : Option Node) : Node :=
  .file (Text.utf8 a.content) <|
    if a.Differs old then (a.permissions.map (· % 0o1000)).getD (Entry.modeAfter old)
    else Entry.modeAfter old

theorem nodeAfter_of_not_differs {old : Option Node} (h : ¬ a.Differs old) :
    some (a.nodeAfter old) = old := by
  obtain ⟨mode, rfl⟩ := not_differs_iff.mp h
  rw [nodeAfter, if_neg h]
  rfl

end Artifact

/-- What is left behind by writing files: they are at their places, in folders, and all other places
are as they were. -/
structure Stored (home : Place) (artifacts : List Artifact) (root root' : Entry) : Prop where
  named : ∀ a ∈ artifacts, a.path ≠ ""
  files : ∀ a ∈ artifacts, root.nodeAt? (ofPath home a.path) ≠ some .folder ∧
    root'.nodeAt? (ofPath home a.path) = some (a.nodeAfter (root.nodeAt? (ofPath home a.path)))
  folders : ∀ a ∈ artifacts, ∀ d ∈ way home a.path,
    (root.nodeAt? d = none ∨ root.nodeAt? d = some .folder) ∧ root'.nodeAt? d = some .folder
  others : ∀ q, (∀ a ∈ artifacts, q ≠ ofPath home a.path ∧ q ∉ way home a.path) →
    root'.nodeAt? q = root.nodeAt? q

/-! ## A tree on which files are stored -/

theorem Stored.of_grown {W : Place → Prop} {before : Entry} (hgrown : Grown W root before)
    (hway : ∀ q, W q → ∃ a ∈ artifacts, q ∈ way home a.path)
    (h : Stored home artifacts before root') :
    Stored home artifacts root root' where
  named := h.named
  files a ha := by
    obtain ⟨hfile, hafter⟩ := h.files a ha
    rw [← hgrown.kept hfile]
    exact ⟨hfile, hafter⟩
  folders a ha d hd := by
    obtain ⟨hbefore, hafter⟩ := h.folders a ha d hd
    refine ⟨?_, hafter⟩
    rcases hbefore with hnone | hfolder
    · left
      rw [← hgrown.kept (by rw [hnone]; simp), hnone]
    · exact hgrown.before hfolder
  others q hq := by
    rw [h.others q hq]
    rcases hgrown q with hkept | ⟨hW, -⟩
    · exact hkept
    · obtain ⟨a, ha, hd⟩ := hway q hW
      exact absurd hd (hq a ha).2

theorem Stored.place_cases (h : Stored home artifacts root root') (q : Place) :
    root'.nodeAt? q = root.nodeAt? q ∨ (∃ a ∈ artifacts, q = ofPath home a.path) ∨
      ∃ a ∈ artifacts, q ∈ way home a.path := by
  by_cases hfile : ∃ a ∈ artifacts, q = ofPath home a.path
  · exact .inr (.inl hfile)
  · by_cases hway : ∃ a ∈ artifacts, q ∈ way home a.path
    · exact .inr (.inr hway)
    · exact .inl (h.others q fun a ha => ⟨fun hq => hfile ⟨a, ha, hq⟩, fun hq => hway ⟨a, ha, hq⟩⟩)

/-- A folder stays, whatever is written. -/
theorem Stored.folder_stays {q : Place} (h : Stored home artifacts root root')
    (hq : root.nodeAt? q = some .folder) : root'.nodeAt? q = some .folder := by
  rcases h.place_cases q with hkept | ⟨a, ha, rfl⟩ | ⟨a, ha, hway⟩
  · rw [hkept, hq]
  · exact absurd hq (h.files a ha).1
  · exact (h.folders a ha q hway).2

/-- A single file is stored in folders that are there. -/
theorem Stored.single (hnamed : a.path ≠ "")
    (hway : ∀ d ∈ way home a.path, root.nodeAt? d = some .folder)
    (hfile : root.nodeAt? (ofPath home a.path) ≠ some .folder)
    (hafter : ∀ q, root'.nodeAt? q = if q = ofPath home a.path
      then some (a.nodeAfter (root.nodeAt? (ofPath home a.path))) else root.nodeAt? q) :
    Stored home [a] root root' where
  named := List.forall_mem_singleton.mpr hnamed
  files := List.forall_mem_singleton.mpr ⟨hfile, by rw [hafter, if_pos rfl]⟩
  folders := List.forall_mem_singleton.mpr fun d hd => by
    refine ⟨.inr (hway d hd), ?_⟩
    rw [hafter, if_neg, hway d hd]
    rintro rfl
    exact hfile (hway _ hd)
  others q hq := by rw [hafter, if_neg (hq a (List.mem_singleton_self a)).1]

theorem Stored.elsewhere {q : Place} (h : Stored home [a] root root')
    (hfile : q ≠ ofPath home a.path) (hway : q ∉ way home a.path) :
    root'.nodeAt? q = root.nodeAt? q :=
  h.others q (List.forall_mem_singleton.mpr ⟨hfile, hway⟩)

/-- What is no folder and not the file itself was there before. -/
theorem Stored.kept {q : Place} (h : Stored home [a] root root')
    (hfolder : root'.nodeAt? q ≠ some .folder) (hfile : q ≠ ofPath home a.path) :
    root'.nodeAt? q = root.nodeAt? q :=
  h.elsewhere hfile fun hway => hfolder (h.folders a (List.mem_singleton_self a) q hway).2

/-- **Files at different places are stored one after the other.**  No file is on the way to another
one, as there would have to be a folder. -/
theorem Stored.cons {middle : Entry} (hfirst : Stored home [a] root middle)
    (hrest : Stored home artifacts middle root')
    (hplaces : ∀ b ∈ artifacts, ofPath home b.path ≠ ofPath home a.path) :
    Stored home (a :: artifacts) root root' := by
  have ha : a ∈ [a] := List.mem_singleton_self a
  obtain ⟨hbefore, hafter⟩ := hfirst.files a ha
  have hapart : ∀ b ∈ artifacts, ofPath home a.path ∉ way home b.path := by
    intro b hb hway
    have hmiddle := (hrest.folders b hb _ hway).1
    rw [hafter] at hmiddle
    exact absurd hmiddle (by simp [Artifact.nodeAfter])
  constructor
  case named => exact List.forall_mem_cons.mpr ⟨hfirst.named a ha, hrest.named⟩
  case files =>
    refine List.forall_mem_cons.mpr ⟨⟨hbefore, ?_⟩, fun b hb => ?_⟩
    · rw [← hafter]
      exact hrest.others _ fun b hb => ⟨(hplaces b hb).symm, hapart b hb⟩
    · obtain ⟨hmiddle, hstored⟩ := hrest.files b hb
      rw [← hfirst.kept hmiddle (hplaces b hb)]
      exact ⟨hmiddle, hstored⟩
  case folders =>
    refine List.forall_mem_cons.mpr ⟨fun d hd => ?_, fun b hb d hd => ?_⟩
    · obtain ⟨hbefore, hmiddle⟩ := hfirst.folders a ha d hd
      exact ⟨hbefore, hrest.folder_stays hmiddle⟩
    · obtain ⟨hmiddle, hstored⟩ := hrest.folders b hb d hd
      refine ⟨?_, hstored⟩
      by_cases hway : d ∈ way home a.path
      · exact (hfirst.folders a ha d hway).1
      · have hfile : d ≠ ofPath home a.path := fun hd' => hapart b hb (hd' ▸ hd)
        rwa [hfirst.elsewhere hfile hway] at hmiddle
  case others =>
    intro q hq
    obtain ⟨hqa, hqrest⟩ := List.forall_mem_cons.mp hq
    rw [hrest.others q hqrest, hfirst.elsewhere hqa.1 hqa.2]

/-- A file stays unless another one is written at its place. -/
theorem Stored.file_stays {q : Place} {content : List UInt8} {mode : Nat}
    (h : Stored home artifacts root root') (hq : root.nodeAt? q = some (.file content mode))
    (hwritten : ∀ a ∈ artifacts, a.Differs (root.nodeAt? (ofPath home a.path)) →
      q ≠ ofPath home a.path) :
    root'.nodeAt? q = some (.file content mode) := by
  rcases h.place_cases q with hkept | ⟨a, ha, rfl⟩ | ⟨a, ha, hway⟩
  · rw [hkept, hq]
  · have hsame : ¬ a.Differs (root.nodeAt? (ofPath home a.path)) :=
      fun hdiffers => hwritten a ha hdiffers rfl
    rw [(h.files a ha).2, Artifact.nodeAfter_of_not_differs hsame, hq]
  · exact absurd (h.folders a ha q hway).1 (by simp [hq])

theorem Stored.read (h : Stored home artifacts root root') (ha : a ∈ artifacts) :
    root'.read home a.path = .ok (Text.utf8 a.content) :=
  Entry.read_eq_ok_iff.mpr
    ⟨h.named a ha, fun d hd => (h.folders a ha d hd).2, _, (h.files a ha).2⟩

/-- What could be read can be read, unless it is written. -/
theorem Stored.read_stays {path : String} {content : List UInt8}
    (h : Stored home artifacts root root') (hread : root.read home path = .ok content)
    (hwritten : ∀ a ∈ artifacts, a.Differs (root.nodeAt? (ofPath home a.path)) →
      ofPath home path ≠ ofPath home a.path) :
    root'.read home path = .ok content := by
  obtain ⟨hpath, hway, mode, hfile⟩ := Entry.read_eq_ok_iff.mp hread
  exact Entry.read_eq_ok_iff.mpr
    ⟨hpath, fun d hd => h.folder_stays (hway d hd), mode, h.file_stays hfile hwritten⟩

/-! ## Steps with a fault -/

theorem perform_attempt_ok {action path : String} {step : StateM Entry (Except FileFault Unit)} :
    root.perform (attempt action path step) = (.ok (), root') ↔
      step.run root = (.ok (), root') := by
  rw [perform_attempt]
  obtain ⟨outcome, after⟩ := step.run root
  cases outcome with
  | error fault =>
    constructor
    · intro h
      cases h
    · intro h
      cases h
  | ok _ =>
    constructor
    · intro h
      cases h
      rfl
    · intro h
      cases h
      rfl

theorem perform_changing_ok {action path : String} {f : Entry → Except FileFault Entry} :
    root.perform (attempt action path (Access.changing f)) = (.ok (), root') ↔
      f root = .ok root' := by
  rw [perform_attempt_ok, Access.run_changing]
  cases f root with
  | error fault =>
    constructor
    · intro h
      cases h
    · intro h
      cases h
  | ok after =>
    constructor
    · intro h
      cases h
      rfl
    · intro h
      cases h
      rfl

/-! ## Folders -/

theorem ensureFolder_ok {path : String}
    (h : root.perform (ensureFolder (.inTree around) path) = (.ok (), root')) :
    Grown (Place.IsAlong around.home path) root root' := by
  obtain ⟨outcome, after, hrun, hgrown, -⟩ :=
    Access.makeFolders_grown around path root
  have hmade := perform_attempt_ok.mp h
  rw [hrun, Prod.mk.injEq] at hmade
  rw [← hmade.2]
  exact hgrown

/-- A folder is not made where all that is along its path is there. -/
theorem ensureFolder_again {path : String}
    (h : ∀ d, Place.IsAlong around.home path d → root.nodeAt? d = some .folder) :
    root.perform (ensureFolder (.inTree around) path) = (.ok (), root) := by
  refine perform_attempt_ok.mpr (Access.makeFolders_again ?_)
  rw [or_iff_not_imp_left]
  intro hpath
  exact Entry.isFolder_iff.mpr ⟨hpath, fun d hd => h d (.inl hd), h _ (.inr rfl)⟩

theorem ensureParent_ok {path : String}
    (h : root.perform (ensureParent (.inTree around) path) = (.ok (), root')) :
    Grown (· ∈ way around.home path) root root' := by
  rw [ensureParent] at h
  split at h
  · next parent hparent => exact (ensureFolder_ok h).mono fun d => Place.way_parent hparent
  · cases h
    exact Grown.refl _ _

theorem ensureParent_again {path : String}
    (h : ∀ d ∈ way around.home path, root.nodeAt? d = some .folder) :
    root.perform (ensureParent (.inTree around) path) = (.ok (), root) := by
  rw [ensureParent]
  split
  · next parent hparent =>
    exact ensureFolder_again fun d hd => h d (Place.way_parent hparent hd)
  · rfl

/-! ## A single file -/

theorem perform_read (path : String) :
    root.perform (liftM ((Access.inTree around).read path) : ExceptT OutputFault (StateM Entry) _) =
      (.ok (root.read around.home path), root) := rfl

/-- The permission bits of a file are those that it had, unless the artifact asks for others. -/
theorem setArtifactMode_of_read {content : List UInt8} {old : Nat}
    (hread : root.read around.home a.path = .ok content)
    (hfile : root.nodeAt? (ofPath around.home a.path) = some (.file content old)) :
    ∃ root', root.perform (setArtifactMode (.inTree around) a) = (.ok (), root') ∧
      ∀ q, root'.nodeAt? q = if q = ofPath around.home a.path
        then some (.file content ((a.permissions.map (· % 0o1000)).getD old))
        else root.nodeAt? q := by
  rw [setArtifactMode]
  cases hpermissions : a.permissions with
  | none =>
    refine ⟨root, rfl, fun q => ?_⟩
    split
    · next hq => rw [hq, hfile]; rfl
    · rfl
  | some mode =>
    obtain ⟨after, hset, hafter⟩ := Entry.setMode_of_read mode hread
    exact ⟨after, perform_changing_ok.mpr hset, hafter⟩

theorem storeArtifact_again (h : root.read around.home a.path = .ok (Text.utf8 a.content)) :
    root.perform (storeArtifact (.inTree around) a) = (.ok false, root) := by
  rw [storeArtifact, perform_bind, perform_read]
  dsimp only
  rw [if_pos (toOption_eq_some_iff.mpr h)]
  rfl

/-- **A file is written where it can be, unless it is there already.** -/
theorem storeArtifact_of_writable (h : root.Writable around.home a.path) :
    ∃ root', root.perform (storeArtifact (.inTree around) a) =
        (.ok (decide (a.Differs (root.nodeAt? (ofPath around.home a.path)))), root') ∧
      Stored around.home [a] root root' := by
  by_cases hdiffers : a.Differs (root.nodeAt? (ofPath around.home a.path))
  · obtain ⟨written, hwrite⟩ : ∃ written,
        root.write around.home a.path (Text.utf8 a.content) = .ok written :=
      ⟨_, Entry.write_eq_ok_iff.mpr ⟨h, rfl⟩⟩
    have hplace := Entry.nodeAt?_write hwrite (ofPath around.home a.path)
    rw [if_pos rfl] at hplace
    obtain ⟨root', hmode, hafter⟩ :=
      setArtifactMode_of_read (a := a) (Entry.read_of_write hwrite) hplace
    refine ⟨root', ?_, .single h.named h.way h.place fun q => ?_⟩
    · rw [decide_eq_true hdiffers, storeArtifact, perform_bind, perform_read]
      dsimp only
      rw [if_neg]
      · exact perform_bind_ok.mpr ⟨(), written, perform_changing_ok.mpr hwrite,
          perform_bind_ok.mpr ⟨(), root', hmode, rfl⟩⟩
      · intro hsame
        obtain ⟨-, -, mode, hfile⟩ := Entry.read_eq_ok_iff.mp (toOption_eq_some_iff.mp hsame)
        exact Artifact.not_differs_iff.mpr ⟨mode, hfile⟩ hdiffers
    · rw [hafter, Entry.nodeAt?_write hwrite, Artifact.nodeAfter, if_pos hdiffers]
      split
      · rfl
      · rfl
  · obtain ⟨mode, hfile⟩ := Artifact.not_differs_iff.mp hdiffers
    refine ⟨root, ?_, .single h.named h.way h.place fun q => ?_⟩
    · rw [decide_eq_false hdiffers]
      exact storeArtifact_again (Entry.read_eq_ok_iff.mpr ⟨h.named, h.way, mode, hfile⟩)
    · rw [Artifact.nodeAfter_of_not_differs hdiffers]
      split
      · next hq => rw [hq]
      · rfl

theorem writable_of_storeArtifact {changed : Bool}
    (h : root.perform (storeArtifact (.inTree around) a) = (.ok changed, root')) :
    root.Writable around.home a.path := by
  rw [storeArtifact] at h
  obtain ⟨current, _, hread, h⟩ := perform_bind_ok.mp h
  rw [perform_read] at hread
  cases hread
  split at h
  · next hsame => exact Entry.writable_of_read (toOption_eq_some_iff.mp hsame)
  · obtain ⟨_, written, hwrite, -⟩ := perform_bind_ok.mp h
    exact (Entry.write_eq_ok_iff.mp (perform_changing_ok.mp hwrite)).1

/-- **A file that was written is stored.** -/
theorem writeArtifact_ok {changed : Bool}
    (h : root.perform (writeArtifact (.inTree around) a) = (.ok changed, root')) :
    Stored around.home [a] root root' ∧
      changed = decide (a.Differs (root.nodeAt? (ofPath around.home a.path))) := by
  rw [writeArtifact] at h
  obtain ⟨_, before, hparent, h⟩ := perform_bind_ok.mp h
  obtain ⟨_, hstore, hstored⟩ := storeArtifact_of_writable (writable_of_storeArtifact h)
  rw [hstore] at h
  cases h
  have hgrown := ensureParent_ok hparent
  have ha : a ∈ [a] := List.mem_singleton_self a
  refine ⟨hstored.of_grown hgrown fun q hq => ⟨a, ha, hq⟩, ?_⟩
  rw [hgrown.kept (hstored.files a ha).1]

/-- **A file that is there already is left alone**, with all that is around it. -/
theorem writeArtifact_again (h : root.read around.home a.path = .ok (Text.utf8 a.content)) :
    root.perform (writeArtifact (.inTree around) a) = (.ok false, root) := by
  obtain ⟨-, hway, -⟩ := Entry.read_eq_ok_iff.mp h
  rw [writeArtifact, perform_bind, ensureParent_again hway]
  exact storeArtifact_again h

/-! ## Several files -/

/-- **Files are written one after the other**, the induction being on those that are left, and those
that differed are counted. -/
theorem writeArtifacts_ok {written : Nat}
    (hplaces : artifacts.Pairwise fun a b => ofPath around.home a.path ≠ ofPath around.home b.path)
    (h : root.perform (writeArtifacts (.inTree around) artifacts) = (.ok written, root')) :
    Stored around.home artifacts root root' ∧
      written =
        artifacts.countP fun a => a.Differs (root.nodeAt? (ofPath around.home a.path)) := by
  induction artifacts generalizing root written with
  | nil =>
    cases h
    refine ⟨⟨?_, ?_, ?_, fun _ _ => rfl⟩, rfl⟩
    all_goals exact List.forall_mem_nil _
  | cons a rest ih =>
    obtain ⟨ha, hrest⟩ := List.pairwise_cons.mp hplaces
    rw [writeArtifacts] at h
    obtain ⟨changed, middle, hfirst, h⟩ := perform_bind_ok.mp h
    obtain ⟨others, _, hothers, h⟩ := perform_bind_ok.mp h
    cases h
    obtain ⟨hstored, rfl⟩ := writeArtifact_ok hfirst
    obtain ⟨hrestStored, rfl⟩ := ih hrest hothers
    refine ⟨hstored.cons hrestStored fun b hb => (ha b hb).symm, ?_⟩
    have hcount : rest.countP (fun b => b.Differs (middle.nodeAt? (ofPath around.home b.path))) =
        rest.countP fun b => b.Differs (root.nodeAt? (ofPath around.home b.path)) := by
      refine List.countP_congr fun b hb => ?_
      rw [hstored.kept (hrestStored.files b hb).1 (ha b hb).symm]
    rw [hcount, List.countP_cons]
    split
    · rfl
    · rfl

/-- **Nothing fails where the files can be written**, the induction being on those that are left:
each of them leaves the folders of the others as they are. -/
theorem writeArtifacts_of_writable
    (hplaces : artifacts.Pairwise fun a b => ofPath around.home a.path ≠ ofPath around.home b.path)
    (h : ∀ a ∈ artifacts, root.Writable around.home a.path) :
    ∃ written root',
      root.perform (writeArtifacts (.inTree around) artifacts) = (.ok written, root') := by
  induction artifacts generalizing root with
  | nil => exact ⟨0, root, rfl⟩
  | cons a rest ih =>
    obtain ⟨hplace, hplaces⟩ := List.pairwise_cons.mp hplaces
    obtain ⟨ha, hrest⟩ := List.forall_mem_cons.mp h
    obtain ⟨middle, hstore, hstored⟩ := storeArtifact_of_writable ha
    have hmiddle : ∀ b ∈ rest, middle.Writable around.home b.path := by
      intro b hb
      obtain ⟨hended, hway, hfile⟩ := hrest b hb
      refine ⟨hended, fun d hd => hstored.folder_stays (hway d hd), ?_⟩
      rwa [hstored.elsewhere (hplace b hb).symm fun hd => hfile (ha.way _ hd)]
    obtain ⟨written, root', hrun⟩ := ih hplaces hmiddle
    have hfirst : root.perform (writeArtifact (.inTree around) a) =
        (.ok (decide (a.Differs (root.nodeAt? (ofPath around.home a.path)))), middle) := by
      rw [writeArtifact, perform_bind, ensureParent_again ha.way]
      exact hstore
    rw [writeArtifacts]
    exact ⟨_, root', perform_bind_ok.mpr
      ⟨_, middle, hfirst, perform_bind_ok.mpr ⟨written, root', hrun, rfl⟩⟩⟩

/-- **Files that are there already are left alone.** -/
theorem writeArtifacts_again
    (h : ∀ a ∈ artifacts, root.read around.home a.path = .ok (Text.utf8 a.content)) :
    root.perform (writeArtifacts (.inTree around) artifacts) = (.ok 0, root) := by
  induction artifacts with
  | nil => rfl
  | cons a rest ih =>
    obtain ⟨ha, hrest⟩ := List.forall_mem_cons.mp h
    rw [writeArtifacts, perform_bind, writeArtifact_again ha]
    dsimp only
    rw [perform_bind, ih hrest]
    rfl

end ApiScaffold
