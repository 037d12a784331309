import ApiScaffold.Proofs.Package.Generation
import ApiScaffold.Proofs.Task.Run
import ApiScaffold.Proofs.Task.Write

/-!
# What a generated package leaves behind

The files of a package have different paths, all of names, so within any folder they go to different
places below it (`Fileable.places`), and the folder is on the way to each of them
(`Fileable.exists_way`).  So what making the folder adds to a tree is on the way to the files, and
all that is left behind is told by the files alone.  The document is read before anything is written;
a second time, it is read from the tree that was left behind, where all is in place already.

* `writePackage_ok`: **the files of a package are written into a folder.**
* `writePackage_again`: **a package that is there already is left alone.**
* `generation_is_exact_and_idempotent`: **a package that was generated is there, nothing else has
  changed, and generating it again changes nothing.**
-/

namespace ApiScaffold

open Place (ofPath way)

variable {around : Surroundings} {request : GenerateRequest} {root root' : Entry}
  {artifacts : List Artifact} {g : GeneratedPackage} {folder : String} {written : Nat}

/-! ## The files of a package within a folder -/

/-- Whether there are files, with paths of names, no two the same. -/
structure Fileable (artifacts : List Artifact) : Prop where
  exist : artifacts ≠ []
  names : ∀ a ∈ artifacts, ∀ name ∈ Path.pieces a.path, Place.IsName name
  distinct : artifacts.Pairwise fun a b => Path.pieces a.path ≠ Path.pieces b.path

theorem fileable_artifactsOf (plan : Plan) : Fileable (artifactsOf plan) := by
  have hpaths : ((artifactsOf plan).map (·.path)).Perm (packageFiles.map (·.1)) := by
    rw [paths_artifactsOf]
    exact List.mergeSort_perm _ _
  constructor
  case exist =>
    intro hnil
    rw [hnil] at hpaths
    exact absurd hpaths.length_eq (by decide)
  case names =>
    intro a ha
    obtain ⟨file, hfile, rfl⟩ := mem_artifactsOf.mp ha
    have hnames : ∀ file ∈ packageFiles, ∀ name ∈ Path.pieces file.1, Place.IsName name := by
      decide +kernel
    exact hnames file hfile
  case distinct =>
    have hnodup : ((packageFiles.map (·.1)).map Path.pieces).Nodup := by decide +kernel
    have hpieces := (hpaths.map Path.pieces).nodup_iff.mpr hnodup
    rw [List.map_map] at hpieces
    exact List.pairwise_map.mp hpieces

/-- Within a folder, the files have different places below that of the folder. -/
theorem Fileable.places (h : Fileable artifacts) (home : Place) (folder : String) :
    (artifacts.map (·.within folder)).Pairwise
      fun a b => ofPath home a.path ≠ ofPath home b.path := by
  refine List.pairwise_map.mpr (h.distinct.imp_of_mem fun {a b} ha hb hpieces hplace => ?_)
  have hjoin (c : Artifact) (hc : c ∈ artifacts) :
      ofPath home (c.within folder).path = ofPath home folder ++ Path.pieces c.path :=
    Place.ofPath_join folder (h.names c hc)
  rw [hjoin a ha, hjoin b hb] at hplace
  exact hpieces (List.append_cancel_left hplace)

/-- The folder is on the way to the files. -/
theorem Fileable.exists_way (h : Fileable artifacts) {home d : Place}
    (hd : Place.IsAlong home folder d) :
    ∃ a ∈ artifacts.map (·.within folder), d ∈ way home a.path := by
  obtain ⟨a, ha⟩ := List.exists_mem_of_ne_nil _ h.exist
  exact ⟨_, List.mem_map_of_mem ha, Place.way_join (h.names a ha) hd⟩

/-- **The files of a package are written into a folder.** -/
theorem writePackage_ok (hfiles : Fileable artifacts)
    (h : root.perform (writePackage (.inTree around) folder artifacts) = (.ok written, root')) :
    Stored around.home (artifacts.map (·.within folder)) root root' ∧
      written = (artifacts.map (·.within folder)).countP
        fun a => a.Differs (root.nodeAt? (ofPath around.home a.path)) := by
  rw [writePackage] at h
  obtain ⟨_, before, hfolder, h⟩ := perform_bind_ok.mp h
  have hgrown := ensureFolder_ok hfolder
  obtain ⟨hstored, rfl⟩ := writeArtifacts_ok (hfiles.places around.home folder) h
  refine ⟨hstored.of_grown hgrown fun d hd => hfiles.exists_way hd,
    List.countP_congr fun a ha => ?_⟩
  rw [hgrown.kept (hstored.files a ha).1]

/-- Where the folders of all files are there, only the files are written. -/
theorem perform_writePackage (hfiles : Fileable artifacts)
    (h : ∀ a ∈ artifacts.map (·.within folder), ∀ d ∈ way around.home a.path,
      root.nodeAt? d = some .folder) :
    root.perform (writePackage (.inTree around) folder artifacts) =
      root.perform (writeArtifacts (.inTree around) (artifacts.map (·.within folder))) := by
  have hfolder : root.perform (ensureFolder (.inTree around) folder) = (.ok (), root) := by
    refine ensureFolder_again fun d hd => ?_
    obtain ⟨a, ha, hway⟩ := hfiles.exists_way hd
    exact h a ha d hway
  rw [writePackage, perform_bind, hfolder]

/-- **A package that is there already is left alone**, with all that is around it. -/
theorem writePackage_again (hfiles : Fileable artifacts)
    (h : Stored around.home (artifacts.map (·.within folder)) root root') :
    root'.perform (writePackage (.inTree around) folder artifacts) = (.ok 0, root') := by
  rw [perform_writePackage hfiles fun a ha d hd => (h.folders a ha d hd).2]
  exact writeArtifacts_again fun a ha => h.read ha

/-- **A package is written where all of its files can be.** -/
theorem writePackage_of_writable (hfiles : Fileable artifacts)
    (h : ∀ a ∈ artifacts.map (·.within folder), root.Writable around.home a.path) :
    ∃ written root', root.perform (writePackage (.inTree around) folder artifacts) =
      (.ok written, root') := by
  rw [perform_writePackage hfiles fun a ha => (h a ha).way]
  exact writeArtifacts_of_writable (hfiles.places around.home folder) h

/-! ## The package of a request -/

theorem generate_ok {emitters : List Emitter} {request : PackageRequest}
    {loaded : Except GenerationError Document} (h : generate emitters request loaded = .ok g) :
    ∃ document, loaded = .ok document := by
  cases loaded with
  | ok document => exact ⟨document, rfl⟩
  | error e =>
    rw [generate] at h
    split at h
    · cases h
    · cases h

/-- What a package is generated from, and the files that come of it. -/
theorem packageFor_ok (h : root.packageFor around emitters request = .ok g) :
    (isUrl request.source = false →
        ∃ content, root.read around.home request.source = .ok content) ∧
      ∃ plan, g.artifacts = artifactsOf plan := by
  rw [Entry.packageFor] at h
  obtain ⟨document, hloaded⟩ := generate_ok h
  rw [hloaded] at h
  obtain ⟨-, codes, -, rfl⟩ := generate_eq_ok_iff.mp h
  refine ⟨fun hurl => ?_, _, rfl⟩
  rw [loaded_of_file hurl] at hloaded
  cases hread : root.read around.home request.source with
  | ok content => exact ⟨content, rfl⟩
  | error fault =>
    rw [hread] at hloaded
    cases hloaded

theorem permissions_artifactsOf {plan : Plan} {a : Artifact} (ha : a ∈ artifactsOf plan) :
    a.permissions = none := by
  obtain ⟨file, -, rfl⟩ := mem_artifactsOf.mp ha
  rfl

/-- **A package that was generated is there, and nothing else has changed.**  Its files hold their
contents and keep the permission bits that files at their places had; on the way to them are folders,
where there were folders or nothing before; what is anywhere else is what was there.  The report
counts the files that differed before.  If the document is none of those, generating the package
again gives the same report, but for the count, and leaves the tree as it is. -/
theorem generation_is_exact_and_idempotent (around : Surroundings) (request : GenerateRequest)
    (root root' : Entry) (report : GenerateReport)
    (h : root.perform (runGenerate (.inTree around) request) = (.ok report, root')) :
    ∃ g, root.packageFor around emitters request = .ok g ∧
      let files := g.artifacts.map (·.within request.outputDir)
      let place (a : Artifact) := ofPath around.home a.path
      report = g.report request.outputDir (files.countP fun a => a.Differs (root.nodeAt? (place a))) ∧
      (∀ a ∈ files, root'.read around.home a.path = .ok (Text.utf8 a.content) ∧
        root'.nodeAt? (place a) =
          some (.file (Text.utf8 a.content) (Entry.modeAfter (root.nodeAt? (place a))))) ∧
      (∀ a ∈ files, ∀ d ∈ way around.home a.path,
        (root.nodeAt? d = none ∨ root.nodeAt? d = some .folder) ∧
          root'.nodeAt? d = some .folder) ∧
      (∀ q, (∀ a ∈ files, q ≠ place a ∧ q ∉ way around.home a.path) →
        root'.nodeAt? q = root.nodeAt? q) ∧
      ((isUrl request.source = false → ∀ a ∈ files, a.Differs (root.nodeAt? (place a)) →
          ofPath around.home request.source ≠ place a) →
        root'.perform (runGenerate (.inTree around) request) =
          (.ok { report with written := 0 }, root')) := by
  obtain ⟨hvalid, g, hpackage, written, hwrite, rfl⟩ := perform_runGenerate_ok.mp h
  obtain ⟨hsource, plan, hartifacts⟩ := packageFor_ok hpackage
  have hfileable : Fileable g.artifacts := hartifacts ▸ fileable_artifactsOf plan
  obtain ⟨hstored, rfl⟩ := writePackage_ok hfileable hwrite
  refine ⟨g, hpackage, rfl, fun a ha => ⟨hstored.read ha, ?_⟩, hstored.folders, hstored.others,
    fun hwritten => ?_⟩
  · obtain ⟨b, hb, rfl⟩ := List.mem_map.mp ha
    have hpermissions : b.permissions = none := permissions_artifactsOf (hartifacts ▸ hb)
    rw [(hstored.files _ ha).2, Artifact.nodeAfter,
      show (b.within request.outputDir).permissions = none from hpermissions]
    split
    · rfl
    · rfl
  · have hloaded : root'.loaded around request.source = root.loaded around request.source := by
      refine loaded_congr fun hurl => ?_
      obtain ⟨content, hread⟩ := hsource hurl
      rw [hread]
      exact hstored.read_stays hread (hwritten hurl)
    refine perform_runGenerate_ok.mpr ⟨hvalid, g, ?_, 0, writePackage_again hfileable hstored, rfl⟩
    rw [Entry.packageFor, hloaded]
    exact hpackage

/-- A document without paths. -/
def bareText : String :=
  "\x7b\"swagger\":\"2.0\",\"info\":\x7b\"title\":\"Items\",\"version\":\"1\"\x7d,\"paths\":\x7b\x7d\x7d"

/-- A document, and folders for the files of a package. -/
def bareTree : Entry :=
  .folder [("api.json", .file (Text.utf8 bareText) 0o600), ("out", .folder [("src", .folder [])])]

/-- Eight files are written beside the document, and none of them a second time. -/
theorem generation_is_exact_and_idempotent_bareTree :
    let request : GenerateRequest := { source := "api.json", package := "items", outputDir := "out" }
    ∃ report root',
      bareTree.perform (runGenerate (.inTree { home := [] }) request) = (.ok report, root') ∧
        report.written = 8 ∧ root'.nodeAt? ["api.json"] = bareTree.nodeAt? ["api.json"] ∧
        root'.perform (runGenerate (.inTree { home := [] }) request) =
          (.ok { report with written := 0 }, root') := by
  intro request
  obtain ⟨g, hpackage⟩ : ∃ g, bareTree.packageFor { home := [] } emitters request = .ok g := by
    have hcompiled : ((bareTree.loaded { home := [] } "api.json").bind fun document =>
        (compileDocument document).mapError GenerationError.document).isOk = true := by
      decide +kernel
    obtain ⟨codes, hcodes⟩ := isOk_iff.mp hcompiled
    obtain ⟨document, hdocument, hcodes⟩ := bind_eq_ok.mp hcodes
    have hname : Naming.isPackageName request.package = true := by decide +kernel
    exact ⟨_, (congrArg (generate emitters request.toPackageRequest) hdocument).trans
      (generate_eq_ok_iff.mpr ⟨hname, codes, mapError_eq_ok.mp hcodes, rfl⟩)⟩
  obtain ⟨-, plan, hartifacts⟩ := packageFor_ok hpackage
  have hfiles {p : Artifact → Prop} (h : ∀ file ∈ packageFiles,
      p ((emitFile file.1 file.2 plan).within "out")) :
      ∀ a ∈ g.artifacts.map (·.within "out"), p a := by
    rw [hartifacts]
    refine List.forall_mem_map.mpr fun a ha => ?_
    obtain ⟨file, hfile, rfl⟩ := mem_artifactsOf.mp ha
    exact h file hfile
  have hplaces : ∀ file ∈ packageFiles,
      bareTree.nodeAt? (ofPath [] (Path.join "out" file.1)) = none ∧
        (Path.pieces (Path.join "out" file.1)).getLast? ≠ some "" ∧
        ∀ d ∈ way [] (Path.join "out" file.1), bareTree.nodeAt? d = some .folder := by
    decide +kernel
  have hsource : ofPath [] request.source = ["api.json"] := by decide +kernel
  have hapart : ∀ file ∈ packageFiles, ["api.json"] ≠ ofPath [] (Path.join "out" file.1) ∧
      ["api.json"] ∉ way [] (Path.join "out" file.1) := by
    decide +kernel
  obtain ⟨written, root', hwrite⟩ : ∃ written root', bareTree.perform
      (writePackage (.inTree { home := [] }) "out" g.artifacts) = (.ok written, root') := by
    refine writePackage_of_writable (hartifacts ▸ fileable_artifactsOf plan) <|
      hfiles fun file hfile => ?_
    obtain ⟨habsent, hended, hway⟩ := hplaces file hfile
    exact ⟨hended, hway, fun hfolder => by cases habsent.symm.trans hfolder⟩
  have hvalid : request.validate = .ok () := by decide +kernel
  have hrun := perform_runGenerate_ok.mpr ⟨hvalid, g, hpackage, written, hwrite, rfl⟩
  obtain ⟨g', hpackage', hreport, -, -, hothers, hagain⟩ :=
    generation_is_exact_and_idempotent _ _ _ _ _ hrun
  cases hpackage.symm.trans hpackage'
  have hcount : (g.artifacts.map (·.within "out")).countP
      (fun a => a.Differs (bareTree.nodeAt? (ofPath [] a.path))) = 8 := by
    refine (List.countP_eq_length.mpr (hfiles fun file hfile => decide_eq_true ?_)).trans ?_
    · show Artifact.Differs _ (bareTree.nodeAt? (ofPath [] (Path.join "out" file.1)))
      rw [(hplaces file hfile).1]
      exact nofun
    · rw [List.length_map, hartifacts, artifactsOf, List.length_mergeSort]
      rfl
  refine ⟨_, root', hrun, (congrArg GenerateReport.written hreport).trans hcount,
    hothers _ (hfiles hapart), hagain fun _ => hfiles fun file hfile _ => ?_⟩
  rw [hsource]
  exact (hapart file hfile).1

end ApiScaffold
