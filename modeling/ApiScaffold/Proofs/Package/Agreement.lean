import ApiScaffold.Proofs.Code.Names
import ApiScaffold.Proofs.Package.Generation
import ApiScaffold.Proofs.Package.Template.Files
import ApiScaffold.Proofs.Package.Title
import ApiScaffold.Proofs.Walk.Order
import ApiScaffold.Proofs.Walk.Responses

/-!
# A document that passes its check can be generated

A check loads a document and compiles it.  Generating a package goes on from there: the templates
of its files are rendered with the plan, and each of them could fail.  None does.  The code of a
document that compiles is such that its templates are rendered, whatever else the plan says, so a
check tells whether there will be a package and how many operations it will have.

* `rendered_templateFiles`: **each template is rendered to the file that it is the template of.**
* `generate_templates`: rendered from templates, a package is what it is without them.
* `compiled`: what a check and the generation of a package have in common.
* `check_agrees_generate`: **a check fails exactly if the generation does, and alike.**  Where they
  succeed, the package has as many operations as the check lists, its files ascend strictly, and
  each of them is what its template is rendered to.
-/

namespace ApiScaffold

open Package.Template

variable {document : Document} {codes : List Code.OperationCode} {plan : Plan}
  {request : PackageRequest} {loaded : Except GenerationError Document}

/-- The code of a document that compiles is written. -/
theorem written_of_compileDocument (h : compileDocument document = .ok codes) :
    ∀ c ∈ codes, Code.Written c := by
  intro c hc
  obtain ⟨ops, -, hcodes⟩ := bind_eq_ok.mp h
  obtain ⟨hcompiled, -⟩ := Code.compileAll_ok_iff.mp hcodes
  obtain ⟨o, -, ho⟩ := exists_of_mem_forall₂ hcompiled hc
  exact Code.written_of_compile ho

/-! ## Templates and files -/

namespace Package.Template

/-- The templates of all files. -/
def templateFiles : List TemplateFile := packageTemplates ++ clientTemplates ++ serverTemplates

/-- A template that is rendered to what is written into a file. -/
structure TemplateFile.Renders (plan : Plan) (template : TemplateFile)
    (file : String × (Plan → Lines)) : Prop where
  path : template.path = file.1
  lines : render plan.toJson template.rows = some (file.2 plan)

theorem renders_packageTemplates (h : ∀ o ∈ plan.operations, Code.Written o) :
    List.Forall₂ (TemplateFile.Renders plan) packageTemplates
      [("Cargo.toml", Source.manifest), ("src/lib.rs", Source.library),
        ("src/inputs.rs", Source.inputs), ("src/outputs.rs", Source.outputs)] :=
  .cons ⟨rfl, render_manifest plan⟩ <| .cons ⟨rfl, render_library plan⟩ <|
    .cons ⟨rfl, render_inputs h⟩ <| .cons ⟨rfl, render_outputs h⟩ .nil

theorem renders_clientTemplates (plan : Plan) :
    List.Forall₂ (TemplateFile.Renders plan) clientTemplates [("src/client.rs", Source.client)] :=
  .cons ⟨rfl, render_client plan⟩ .nil

theorem renders_serverTemplates (plan : Plan) :
    List.Forall₂ (TemplateFile.Renders plan) serverTemplates
      [("src/controller.rs", Source.controller), ("src/server.rs", Source.server),
        ("src/mock.rs", Source.mock)] :=
  .cons ⟨rfl, render_controller plan⟩ <| .cons ⟨rfl, render_server plan⟩ <|
    .cons ⟨rfl, render_mock plan⟩ .nil

/-- **Each template is rendered to its file.** -/
theorem rendered_templateFiles (h : ∀ o ∈ plan.operations, Code.Written o) :
    List.Forall₂ (TemplateFile.Renders plan) templateFiles packageFiles :=
  List.rel_append
    (List.rel_append (renders_packageTemplates h) (renders_clientTemplates plan))
    (renders_serverTemplates plan)

/-- A template that is rendered is emitted. -/
theorem TemplateFile.Renders.emit {template : TemplateFile} {file : String × (Plan → Lines)}
    (engine : Engine) (h : template.Renders plan file) :
    template.emit engine plan = .ok (emitFile file.1 file.2 plan) := by
  rw [TemplateFile.emit, engine.run_eq _ _ _ h.lines, h.path]
  rfl

/-- Templates that are rendered are emitted, in order. -/
theorem templateEmitter_eq {templates : List TemplateFile} {files : List (String × (Plan → Lines))}
    (engine : Engine) (h : List.Forall₂ (TemplateFile.Renders plan) templates files) :
    templateEmitter engine templates plan =
      .ok (files.map fun file => emitFile file.1 file.2 plan) := by
  refine mapM_of_forall₂ (List.forall₂_map_right_iff.mpr ?_)
  exact h.imp fun template file hrenders => hrenders.emit engine

/-- The emitters that render templates write the files of the plan. -/
theorem emitAll_templates (engine : Engine) (h : ∀ o ∈ plan.operations, Code.Written o) :
    emitAll (templateEmitters engine) plan = emitAll emitters plan := by
  have hpackage := templateEmitter_eq engine (renders_packageTemplates h)
  have hclient := templateEmitter_eq engine (renders_clientTemplates plan)
  have hserver := templateEmitter_eq engine (renders_serverTemplates plan)
  rw [emitAll, emitAll]
  simp only [templateEmitters, emitters, List.mapM_cons, List.mapM_nil, hpackage, hclient, hserver]
  rfl

end Package.Template

/-- Emitters that write the same files for the code of every document, generate the same
packages. -/
theorem generate_congr {some more : List Emitter}
    (h : ∀ document codes, compileDocument document = .ok codes →
      emitAll some (Plan.of request document codes) =
        emitAll more (Plan.of request document codes))
    (loaded : Except GenerationError Document) :
    generate some request loaded = generate more request loaded := by
  rw [generate, generate]
  cases loaded with
  | error e => rfl
  | ok document =>
    cases hcodes : compileDocument document with
    | error e => simp only [hcodes, bind, Except.bind, Except.mapError]
    | ok codes => simp only [hcodes, bind, Except.bind, Except.mapError, h document codes hcodes]

/-- **Rendered from templates, a package is what it is without them.** -/
theorem generate_templates (engine : Engine) (request : PackageRequest)
    (loaded : Except GenerationError Document) :
    generate (templateEmitters engine) request loaded = generate emitters request loaded :=
  generate_congr (fun _ _ hcodes => emitAll_templates engine (written_of_compileDocument hcodes))
    loaded

/-! ## What is common to a check and a generation -/

/-- A document that could be loaded, and its code. -/
def compiled (loaded : Except GenerationError Document) :
    Except GenerationError (Document × List Code.OperationCode) := do
  let document ← loaded
  let codes ← (compileDocument document).mapError .document
  return (document, codes)

theorem compiled_eq_ok (h : compiled loaded = .ok (document, codes)) :
    loaded = .ok document ∧ compileDocument document = .ok codes := by
  obtain ⟨_, hloaded, h⟩ := bind_eq_ok.mp h
  obtain ⟨_, hcodes, h⟩ := bind_eq_ok.mp h
  cases h
  exact ⟨hloaded, mapError_eq_ok.mp hcodes⟩

/-- A check reports on what has been compiled. -/
theorem check_eq_map (loaded : Except GenerationError Document) :
    check loaded = (compiled loaded).map fun (document, codes) =>
      ⟨document.title, codes.map (·.id), document.definitions.length⟩ := by
  cases loaded with
  | error e => rfl
  | ok document =>
    simp only [check, compiled, bind, Except.bind]
    cases (compileDocument document).mapError GenerationError.document <;> rfl

/-- Under a name that is one, a package is generated of what has been compiled. -/
theorem generate_eq_map (hname : Naming.isPackageName request.package = true)
    (loaded : Except GenerationError Document) :
    generate emitters request loaded = (compiled loaded).map fun (document, codes) =>
      ⟨artifactsOf (Plan.of request document codes), codes.length⟩ := by
  rw [generate, if_pos hname]
  cases loaded with
  | error e => rfl
  | ok document =>
    simp only [compiled, emitAll_eq, bind, Except.bind, pure, Except.pure]
    cases (compileDocument document).mapError GenerationError.document <;> rfl

/-! ## The files of a package -/

/-- The paths of the artifacts ascend strictly. -/
theorem ascend_paths_artifactsOf (plan : Plan) :
    ((artifactsOf plan).map (·.path)).Pairwise (· < ·) := by
  have hsorted : ((artifactsOf plan).map (·.path)).Pairwise (· ≤ ·) :=
    List.pairwise_map.mpr ((keyOrder_string.sorted Artifact.path _).imp of_decide_eq_true)
  refine (hsorted.and (nodup_paths_artifactsOf plan)).imp fun {s t} ⟨hle, hne⟩ => ?_
  exact Std.lt_of_le_of_ne hle hne

/-- The artifacts of a plan have the paths of the templates. -/
theorem perm_paths_artifactsOf (plan : Plan) :
    ((artifactsOf plan).map (·.path)).Perm (templateFiles.map (·.path)) := by
  rw [paths_artifactsOf]
  exact List.mergeSort_perm _ _

/-- What a template is rendered to is one of the artifacts. -/
theorem exists_rendered (engine : Engine) (h : ∀ o ∈ plan.operations, Code.Written o)
    {template : TemplateFile} (htemplate : template ∈ templateFiles) :
    ∃ lines, engine.run plan.toJson template.rows = some lines ∧
      { path := template.path, content := lines.text } ∈ artifactsOf plan := by
  obtain ⟨file, hfile, hrenders⟩ :=
    exists_of_mem_forall₂ (rendered_templateFiles h).flip htemplate
  refine ⟨file.2 plan, engine.run_eq _ _ _ hrenders.lines, ?_⟩
  rw [hrenders.path]
  exact mem_artifactsOf.mpr ⟨file, hfile, rfl⟩

/-! ## Checks and packages -/

/-- **A check agrees with the generation of a package**, whichever engine renders its templates.
One fails exactly if the other does, and alike.  Where they succeed, the package has as many
operations as the check lists, its files ascend strictly, and each of the templates has been
rendered to one of them. -/
theorem check_agrees_generate (engine : Engine) (loaded : Except GenerationError Document)
    (hname : Naming.isPackageName request.package = true) :
    (∀ e, check loaded = .error e ↔
        generate (templateEmitters engine) request loaded = .error e) ∧
      ∀ g, generate (templateEmitters engine) request loaded = .ok g →
        generate emitters request loaded = .ok g ∧
        ∃ document codes report, loaded = .ok document ∧ compileDocument document = .ok codes ∧
          check loaded = .ok report ∧
          g.operations = report.operations.length ∧
          (g.artifacts.map (·.path)).Pairwise (· < ·) ∧
          (g.artifacts.map (·.path)).Perm (templateFiles.map (·.path)) ∧
          ∀ template ∈ templateFiles, ∃ lines,
            engine.run (Plan.of request document codes).toJson template.rows = some lines ∧
              { path := template.path, content := lines.text } ∈ g.artifacts := by
  rw [generate_templates, generate_eq_map hname, check_eq_map]
  cases hcompiled : compiled loaded with
  | error e => exact ⟨fun e' => by simp [Except.map], nofun⟩
  | ok both =>
    obtain ⟨document, codes⟩ := both
    obtain ⟨hloaded, hcodes⟩ := compiled_eq_ok hcompiled
    refine ⟨fun e => ⟨nofun, nofun⟩, fun g hg => ?_⟩
    cases hg
    refine ⟨rfl, document, codes, _, hloaded, hcodes, rfl, (List.length_map _).symm, ?_⟩
    refine ⟨ascend_paths_artifactsOf _, perm_paths_artifactsOf _, fun template htemplate => ?_⟩
    exact exists_rendered engine (written_of_compileDocument hcodes) htemplate

/-- The code of a document with one operation. -/
theorem exists_compileDocument_items :
    ∃ codes, compileDocument (Walk.itemsDocument ["200"]) = .ok codes ∧
      codes.map (·.id) = ["listItems"] := by
  have hwalk (types : TypeMap) : Walk.operations types (Walk.itemsDocument ["200"]) =
      .ok [Walk.itemsOperation [.code 200]] :=
    Walk.operations_items (.cons (by decide +kernel) .nil) (by decide)
  have hids : (Code.compileAll { models := some [] } [Walk.itemsOperation [.code 200]]).map
      (·.map (·.id)) = .ok ["listItems"] := by decide +kernel
  obtain ⟨codes, hcodes, hids⟩ := map_eq_ok.mp hids
  exact ⟨codes, bind_eq_ok.mpr ⟨_, hwalk _, hcodes⟩, hids⟩

/-- A check of a document with one operation lists it, and its package has one. -/
theorem check_agrees_generate_items :
    ∃ report g, check (.ok (Walk.itemsDocument ["200"])) = .ok report ∧
      report.operations = ["listItems"] ∧
      generate (templateEmitters .plain) itemsRequest (.ok (Walk.itemsDocument ["200"])) = .ok g ∧
      g.operations = 1 ∧ (g.artifacts.map (·.path)).Pairwise (· < ·) := by
  have hname : Naming.isPackageName itemsRequest.package = true := by decide +kernel
  obtain ⟨codes, hcodes, hids⟩ := exists_compileDocument_items
  obtain ⟨herror, hok⟩ :=
    check_agrees_generate .plain (.ok (Walk.itemsDocument ["200"])) hname
  have hcheck : check (.ok (Walk.itemsDocument ["200"])) = .ok ⟨"Items", ["listItems"], 0⟩ := by
    rw [← hids]
    exact bind_eq_ok.mpr ⟨_, rfl, bind_eq_ok.mpr ⟨codes, mapError_eq_ok.mpr hcodes, rfl⟩⟩
  cases hgenerate : generate (templateEmitters .plain) itemsRequest
      (.ok (Walk.itemsDocument ["200"])) with
  | error e =>
    rw [herror e |>.mpr hgenerate] at hcheck
    cases hcheck
  | ok g =>
    obtain ⟨-, -, -, report, -, -, hreport, hoperations, hascend, -⟩ := hok g hgenerate
    rw [hcheck] at hreport
    cases hreport
    exact ⟨_, g, hcheck, rfl, rfl, hoperations, hascend⟩

end ApiScaffold
