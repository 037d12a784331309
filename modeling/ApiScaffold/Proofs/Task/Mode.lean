import ApiScaffold.Proofs.Task.Write

/-!
# Permission bits of files that are written

The permission bits that an artifact asks for are set behind its content, so a file that has the
content already is left with the bits that it has.  What an artifact finds is what is there when its
turn comes, and what it leaves stays unless a later one is written to the same file: two paths may
lead to one file.

* `writeArtifacts_cons_ok`, `writeArtifacts_append_ok`: files are written one after the other.
* `node_apart`: **where no artifact is written, all stays**, but for the folders that are made; the
  induction is on the artifacts.
* `written_artifact`: **what is at the path of an artifact in the end.**
* `node_unchanged`: a file that has the content already.
* `unchanged_file_keeps_mode`: a file keeps its bits though others were asked for.
-/

namespace ApiScaffold

open Place (ofPath way)

variable {around : Surroundings} {root root' : Entry} {a : Artifact}
  {artifacts before after : List Artifact} {written : Nat}

/-- A file is written, and the others to the tree that it leaves behind. -/
theorem writeArtifacts_cons_ok :
    root.perform (writeArtifacts (.inTree around) (a :: artifacts)) = (.ok written, root') ↔
      ∃ changed middle others,
        root.perform (writeArtifact (.inTree around) a) = (.ok changed, middle) ∧
        middle.perform (writeArtifacts (.inTree around) artifacts) = (.ok others, root') ∧
        (if changed then others + 1 else others) = written := by
  rw [writeArtifacts]
  constructor
  · intro h
    obtain ⟨changed, middle, hfirst, h⟩ := perform_bind_ok.mp h
    obtain ⟨others, _, hothers, h⟩ := perform_bind_ok.mp h
    cases h
    exact ⟨changed, middle, others, hfirst, hothers, rfl⟩
  · rintro ⟨changed, middle, others, hfirst, hothers, rfl⟩
    exact perform_bind_ok.mpr ⟨changed, middle, hfirst,
      perform_bind_ok.mpr ⟨others, root', hothers, rfl⟩⟩

theorem writeArtifacts_append_ok
    (h : root.perform (writeArtifacts (.inTree around) (before ++ after)) = (.ok written, root')) :
    ∃ earlier middle later,
      root.perform (writeArtifacts (.inTree around) before) = (.ok earlier, middle) ∧
      middle.perform (writeArtifacts (.inTree around) after) = (.ok later, root') := by
  induction before generalizing root written with
  | nil => exact ⟨0, root, written, rfl, h⟩
  | cons a rest ih =>
    obtain ⟨changed, middle, others, hfirst, hothers, -⟩ := writeArtifacts_cons_ok.mp h
    obtain ⟨earlier, last, later, hrest, hlater⟩ := ih hothers
    exact ⟨_, last, later,
      writeArtifacts_cons_ok.mpr ⟨changed, middle, earlier, hfirst, hrest, rfl⟩, hlater⟩

/-- A folder stays, whatever is written. -/
theorem folder_stays {q : Place}
    (h : root.perform (writeArtifacts (.inTree around) artifacts) = (.ok written, root'))
    (hq : root.nodeAt? q = some .folder) : root'.nodeAt? q = some .folder := by
  induction artifacts generalizing root written with
  | nil =>
    cases h
    exact hq
  | cons a rest ih =>
    obtain ⟨changed, middle, others, hfirst, hothers, -⟩ := writeArtifacts_cons_ok.mp h
    exact ih hothers ((writeArtifact_ok hfirst).1.folder_stays hq)

/-- **Where no artifact is written, all stays**, unless a folder is made where nothing was. -/
theorem node_apart {q : Place}
    (h : root.perform (writeArtifacts (.inTree around) artifacts) = (.ok written, root'))
    (hother : ∀ b ∈ artifacts, ofPath around.home b.path ≠ q) :
    root'.nodeAt? q = root.nodeAt? q ∨
      root.nodeAt? q = none ∧ root'.nodeAt? q = some .folder := by
  induction artifacts generalizing root written with
  | nil =>
    cases h
    exact .inl rfl
  | cons a rest ih =>
    obtain ⟨ha, hrest⟩ := List.forall_mem_cons.mp hother
    obtain ⟨changed, middle, others, hfirst, hothers, -⟩ := writeArtifacts_cons_ok.mp h
    have hstored := (writeArtifact_ok hfirst).1
    by_cases hway : q ∈ way around.home a.path
    · obtain ⟨hbefore, hmade⟩ := hstored.folders a (List.mem_singleton_self a) q hway
      have hend := folder_stays hothers hmade
      rcases hbefore with hnone | hfolder
      · exact .inr ⟨hnone, hend⟩
      · exact .inl (hend.trans hfolder.symm)
    · rw [← hstored.elsewhere ha.symm hway]
      exact ih hothers hrest

/-- What is at the path of an artifact in the end, if no later one is written there. -/
theorem node_written
    (h : root.perform (writeArtifacts (.inTree around) (a :: after)) = (.ok written, root'))
    (hlast : ∀ b ∈ after, ofPath around.home b.path ≠ ofPath around.home a.path) :
    root'.nodeAt? (ofPath around.home a.path) =
      some (a.nodeAfter (root.nodeAt? (ofPath around.home a.path))) := by
  obtain ⟨changed, middle, others, hfirst, hafter, -⟩ := writeArtifacts_cons_ok.mp h
  have hnode := ((writeArtifact_ok hfirst).1.files a (List.mem_singleton_self a)).2
  rcases node_apart hafter hlast with hkept | ⟨hnone, -⟩
  · rw [hkept, hnode]
  · rw [hnode] at hnone
    cases hnone

/-- A file that has the content already is left as it was, whatever bits are asked for. -/
theorem node_unchanged
    (h : root.perform (writeArtifacts (.inTree around) (a :: after)) = (.ok written, root'))
    (hlast : ∀ b ∈ after, ofPath around.home b.path ≠ ofPath around.home a.path)
    (hsame : ¬a.Differs (root.nodeAt? (ofPath around.home a.path))) :
    root'.nodeAt? (ofPath around.home a.path) = root.nodeAt? (ofPath around.home a.path) := by
  rw [node_written h hlast, Artifact.nodeAfter_of_not_differs hsame]

/-- **What writing artifacts leaves at the path of each.**  Let artifacts be written without a
fault, and take one to whose file no later one is written.  Then its path holds its content.  If no
file with that content was there when its turn came, it has the permission bits that the artifact
asks for.  What was there when its turn came is what the tree held at first, unless an earlier
artifact was written to the same file. -/
theorem written_artifact (around : Surroundings) (before after : List Artifact) (a : Artifact)
    (h : root.perform (writeArtifacts (.inTree around) (before ++ a :: after)) =
      (.ok written, root'))
    (hlast : ∀ b ∈ after, ofPath around.home b.path ≠ ofPath around.home a.path) :
    root'.read around.home a.path = .ok (Text.utf8 a.content) ∧
      ∃ earlier middle,
        root.perform (writeArtifacts (.inTree around) before) = (.ok earlier, middle) ∧
        ((∀ b ∈ before, ofPath around.home b.path ≠ ofPath around.home a.path) →
          middle.nodeAt? (ofPath around.home a.path) = root.nodeAt? (ofPath around.home a.path)) ∧
        (a.Differs (middle.nodeAt? (ofPath around.home a.path)) →
          ∀ mode, a.permissions = some mode →
            root'.mode? around.home a.path = some (mode % 0o1000)) := by
  obtain ⟨earlier, middle, later, hbefore, hlater⟩ := writeArtifacts_append_ok h
  obtain ⟨changed, next, others, hfirst, hafter, -⟩ := writeArtifacts_cons_ok.mp hlater
  have ha : a ∈ [a] := List.mem_singleton_self a
  have hstored := (writeArtifact_ok hfirst).1
  have hfile := (hstored.files a ha).1
  have hnamed := hstored.named a ha
  have hway : ∀ d ∈ way around.home a.path, root'.nodeAt? d = some .folder := fun d hd =>
    folder_stays hafter (hstored.folders a ha d hd).2
  have hend := node_written hlater hlast
  refine ⟨Entry.read_eq_ok_iff.mpr ⟨hnamed, hway, _, hend⟩, earlier, middle, hbefore,
    fun hfresh => ?_, fun hdiffers mode hmode => ?_⟩
  · rcases node_apart hbefore hfresh with hkept | ⟨-, hfolder⟩
    · exact hkept
    · exact absurd hfolder hfile
  · refine Entry.mode?_eq_some_iff.mpr ⟨hnamed, hway, Text.utf8 a.content, ?_⟩
    rw [hend, Artifact.nodeAfter, if_pos hdiffers, hmode]
    rfl

/-- A folder with a script that may only be read and written. -/
def scriptTree : Entry := .folder [("run.sh", .file (Text.utf8 "make\n") 0o644)]

/-- A script that may be executed. -/
def scriptArtifact (content : String) : Artifact :=
  { path := "run.sh", content, permissions := some 0o755 }

/-- A script that has changed may be executed once it is written. -/
theorem written_artifact_script :
    ∃ written root',
      scriptTree.perform (writeArtifacts (.inTree { home := [] })
          ([{ path := "bin/a", content := "" }] ++ scriptArtifact "make all\n" ::
            [{ path := "bin/b", content := "" }])) = (.ok written, root') ∧
        root'.read [] "run.sh" = .ok (Text.utf8 "make all\n") ∧
        root'.mode? [] "run.sh" = some 0o755 := by
  obtain ⟨written, root', hrun⟩ : ∃ written root',
      scriptTree.perform (writeArtifacts (.inTree { home := [] })
        ([{ path := "bin/a", content := "" }] ++ scriptArtifact "make all\n" ::
          [{ path := "bin/b", content := "" }])) = (.ok written, root') := by
    have hsuccess : (scriptTree.perform (writeArtifacts (.inTree { home := [] })
        ([{ path := "bin/a", content := "" }] ++ scriptArtifact "make all\n" ::
          [{ path := "bin/b", content := "" }]))).1 = .ok 3 := by decide +kernel
    exact ⟨3, _, Prod.ext hsuccess rfl⟩
  obtain ⟨hread, earlier, middle, -, hfound, hset⟩ :=
    written_artifact { home := [] } [{ path := "bin/a", content := "" }]
      [{ path := "bin/b", content := "" }] (scriptArtifact "make all\n") hrun (by decide)
  refine ⟨_, _, hrun, hread, hset ?_ _ rfl⟩
  rw [hfound (by decide)]
  decide +kernel

/-- **A script that has not changed is left as it was**, though it was to be executed; and of two
paths that lead to one file the first does not hold its content. -/
theorem unchanged_file_keeps_mode :
    let unchanged := scriptTree.perform
      (writeArtifacts (.inTree { home := [] }) [scriptArtifact "make\n"])
    let twice := scriptTree.perform (writeArtifacts (.inTree { home := [] })
      [{ path := "run.sh", content := "a" }, { path := "./run.sh", content := "b" }])
    unchanged.1 = .ok 0 ∧ unchanged.2.mode? [] "run.sh" = some 0o644 ∧
      twice.1 = .ok 2 ∧ twice.2.read [] "run.sh" = .ok (Text.utf8 "b") := by
  intro unchanged twice
  refine ⟨?_, ?_, ?_, ?_⟩
  all_goals decide +kernel

end ApiScaffold
