import ApiScaffold.Package.Generate
import ApiScaffold.Proofs.Traversal

/-!
# When a package is generated

The emitters write the same files for every plan, so no two files of a package have the same path,
and nothing but the name of the package and the document can be refused.

* `packageFiles`: the files of a package, with what is written into each.
* `emitAll_eq`: **the files are always written.**
* `generate_eq_ok_iff`: **a package is generated exactly if its name is one and the document
compiles.**
-/

namespace ApiScaffold

open Package.Source

variable {request : PackageRequest} {document : Document} {g : GeneratedPackage}

theorem emitFile_content (path : String) (write : Plan → Lines) (plan : Plan) :
    (emitFile path write plan).content = (write plan).text := rfl

/-- The files of a package, in the order in which they are written. -/
def packageFiles : List (String × (Plan → Lines)) :=
  [("Cargo.toml", manifest), ("src/lib.rs", library), ("src/inputs.rs", inputs),
    ("src/outputs.rs", outputs), ("src/client.rs", client), ("src/controller.rs", controller),
    ("src/server.rs", server), ("src/mock.rs", mock)]

/-- The artifacts of a plan, in ascending order of their paths. -/
def artifactsOf (plan : Plan) : List Artifact :=
  (packageFiles.map fun file => emitFile file.1 file.2 plan).mergeSort
    fun a b => decide (a.path ≤ b.path)

theorem mem_artifactsOf {plan : Plan} {a : Artifact} :
    a ∈ artifactsOf plan ↔ ∃ file ∈ packageFiles, emitFile file.1 file.2 plan = a := by
  rw [artifactsOf, (List.mergeSort_perm _ _).mem_iff, List.mem_map]

/-- The paths of the artifacts do not depend on the plan. -/
theorem paths_artifactsOf (plan : Plan) : (artifactsOf plan).map (·.path) =
    (packageFiles.map (·.1)).mergeSort fun s t => decide (s ≤ t) := by
  rw [artifactsOf, List.map_mergeSort (s := fun s t : String => decide (s ≤ t))]
  · rfl
  · intro a _ b _
    rfl

/-- No two artifacts have the same path. -/
theorem nodup_paths_artifactsOf (plan : Plan) : ((artifactsOf plan).map (·.path)).Nodup := by
  rw [paths_artifactsOf, (List.mergeSort_perm _ _).nodup_iff]
  decide

/-- The emitters of a package never fail, and write its files. -/
theorem mapM_emitters (plan : Plan) : ∃ emitted, emitters.mapM (· plan) = .ok emitted ∧
    emitted.flatten = packageFiles.map fun file => emitFile file.1 file.2 plan :=
  ⟨_, rfl, rfl⟩

/-- **The files are always written**: no two have the same path. -/
theorem emitAll_eq (plan : Plan) : emitAll emitters plan = .ok (artifactsOf plan) := by
  obtain ⟨emitted, hemitted, hfiles⟩ := mapM_emitters plan
  refine bind_eq_ok.mpr ⟨emitted, hemitted, ?_⟩
  rw [hfiles]
  exact if_pos (nodup_paths_artifactsOf plan)

/-- **A package is generated exactly if its name is one and the document compiles.** -/
theorem generate_eq_ok_iff : generate emitters request (.ok document) = .ok g ↔
    Naming.isPackageName request.package = true ∧ ∃ codes, compileDocument document = .ok codes ∧
      g = ⟨artifactsOf (Plan.of request document codes), codes.length⟩ := by
  constructor
  · intro h
    rw [generate] at h
    by_cases hname : Naming.isPackageName request.package = true
    · rw [if_pos hname] at h
      obtain ⟨_, hdocument, h⟩ := bind_eq_ok.mp h
      cases hdocument
      obtain ⟨codes, hcodes, h⟩ := bind_eq_ok.mp h
      rw [emitAll_eq] at h
      cases h
      exact ⟨hname, codes, mapError_eq_ok.mp hcodes, rfl⟩
    · rw [if_neg hname] at h
      cases h
  · rintro ⟨hname, codes, hcodes, rfl⟩
    rw [generate, if_pos hname]
    refine bind_eq_ok.mpr ⟨document, rfl, bind_eq_ok.mpr ⟨codes, mapError_eq_ok.mpr hcodes, ?_⟩⟩
    rw [emitAll_eq]
    rfl

end ApiScaffold
