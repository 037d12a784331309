import ApiScaffold.Proofs.Task.Perform

/-!
# What generating a package leaves behind

A package is generated from what the request says and from the document that its source gives, and
reading a document changes nothing.  Only when the whole package is there does the first step follow
that can change a file.  `perform_runGenerate` lays the task out in that order; the error of a task
then tells how far it came.

* `perform_runGenerate`: the outcome of the task and the tree behind it, stage by stage.
* `failed_generation_keeps_files`: **a package that cannot be generated leaves no trace.**
-/

namespace ApiScaffold

variable {around : Surroundings} {emitters : List Emitter} {request : GenerateRequest}
  {root : Entry}

/-- The report on a package that was written. -/
def GeneratedPackage.report (g : GeneratedPackage) (outputDir : String) (written : Nat) :
    GenerateReport where
  written
  artifacts := g.artifacts.length
  operations := g.operations
  outputDir
  fingerprint := g.fingerprint

/-- The package of a request, where the tree holds the files. -/
def Entry.packageFor (around : Surroundings) (emitters : List Emitter) (request : GenerateRequest)
    (root : Entry) : Except GenerationError GeneratedPackage :=
  generate emitters request.toPackageRequest (root.loaded around request.source)

/-- **The stages of the task**: the request, the package, and only then the files. -/
theorem perform_runGenerate : root.perform (runGenerate (.inTree around) request emitters) =
    match request.validate with
    | .error e => (.error (.request e), root)
    | .ok () =>
      match root.packageFor around emitters request with
      | .error e => (.error (.generation e), root)
      | .ok g =>
        match root.perform (writePackage (.inTree around) request.outputDir g.artifacts) with
        | (.error fault, after) => (.error (.output fault), after)
        | (.ok written, after) => (.ok (g.report request.outputDir written), after) := by
  rw [runGenerate, perform_bind, perform_asTask, perform_given]
  cases request.validate with
  | error e => rfl
  | ok _ =>
    show root.perform (_ >>= _) = _
    rw [perform_bind, perform_lift, run_load]
    simp only
    rw [perform_bind, perform_asTask, perform_given, Entry.packageFor]
    cases generate emitters request.toPackageRequest (root.loaded around request.source) with
    | error e => rfl
    | ok g =>
      show root.perform (_ >>= _) = _
      dsimp only
      rw [perform_bind, perform_asTask]
      obtain ⟨outcome, after⟩ :=
        root.perform (writePackage (.inTree around) request.outputDir g.artifacts)
      cases outcome with
      | error fault => rfl
      | ok written => rfl

/-- What a task has come to if all went well. -/
theorem perform_runGenerate_ok {report : GenerateReport} {root' : Entry} :
    root.perform (runGenerate (.inTree around) request emitters) = (.ok report, root') ↔
      request.validate = .ok () ∧ ∃ g, root.packageFor around emitters request = .ok g ∧
        ∃ written, root.perform (writePackage (.inTree around) request.outputDir g.artifacts) =
          (.ok written, root') ∧ report = g.report request.outputDir written := by
  rw [perform_runGenerate]
  cases request.validate with
  | error e => simp
  | ok _ =>
    cases root.packageFor around emitters request with
    | error e => simp
    | ok g =>
      simp only [Except.ok.injEq, true_and, exists_eq_left']
      obtain ⟨outcome, after⟩ :=
        root.perform (writePackage (.inTree around) request.outputDir g.artifacts)
      cases outcome with
      | error fault => simp
      | ok written =>
        constructor
        · intro h
          cases h
          exact ⟨written, rfl, rfl⟩
        · rintro ⟨_, hwrite, rfl⟩
          cases hwrite
          rfl

/-- **A package that cannot be generated leaves no trace.**  The error of a request and that of a
generation stand for what they say, and behind both of them all files and folders are as they were.
Nothing is said of an error of the writing. -/
theorem failed_generation_keeps_files (around : Surroundings) (emitters : List Emitter)
    (request : GenerateRequest) (root : Entry) :
    let performed := root.perform (runGenerate (.inTree around) request emitters)
    (∀ e, performed.1 = .error (.request e) ↔ request.validate = .error e) ∧
      (∀ e, performed.1 = .error (.generation e) ↔
        request.validate = .ok () ∧ root.packageFor around emitters request = .error e) ∧
      ((∃ e, performed.1 = .error (.request e)) ∨ (∃ e, performed.1 = .error (.generation e)) →
        performed.2 = root) := by
  intro performed
  have hperformed : performed = _ := perform_runGenerate
  clear_value performed
  subst hperformed
  cases hvalid : request.validate with
  | error e => simp
  | ok _ =>
    cases hpackage : root.packageFor around emitters request with
    | error e => simp
    | ok g =>
      simp only
      obtain ⟨outcome, after⟩ :=
        root.perform (writePackage (.inTree around) request.outputDir g.artifacts)
      cases outcome with
      | error fault => simp
      | ok written => simp

/-- The document is missing, and a file stands where the manifest would go. -/
theorem missing_document_keeps_files :
    let root : Entry := .folder [("out", .folder [("Cargo.toml", .file (Text.utf8 "old") 0o600)])]
    let performed := root.perform (runGenerate (.inTree { home := [] })
      { source := "api.json", package := "items", outputDir := "out" } ApiScaffold.emitters)
    performed.1 = .error (.generation (.load
      "Failed to read api.json: No such file or directory (os error 2)")) ∧
      performed.2 = root := by
  intro root performed
  have hloaded : root.loaded { home := [] } "api.json" = .error (.load
      "Failed to read api.json: No such file or directory (os error 2)") :=
    (loaded_of_file rfl).trans rfl
  obtain ⟨-, hgeneration, hkept⟩ := failed_generation_keeps_files { home := [] }
    ApiScaffold.emitters { source := "api.json", package := "items", outputDir := "out" } root
  have herror := (hgeneration _).mpr ⟨rfl, by rw [Entry.packageFor, hloaded]; rfl⟩
  exact ⟨herror, hkept (.inr ⟨_, herror⟩)⟩

end ApiScaffold
