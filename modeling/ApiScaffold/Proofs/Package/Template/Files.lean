import ApiScaffold.Proofs.Package.Template.Render

/-!
# The templates of a package are rendered to its files

The rows of a template are rendered to the lines of the file that they are the template of, part by
part.  The manifest and the root are for every plan, the inputs and the outputs for one whose code
is written: the template of a field gives an empty line of a description a blank, and that of a
variant takes a body whose type is empty for none.

The methods of a client, of a controller and of a test double stand in one block each, those of the
operations behind the fixed ones; the handlers of a server stand one behind another.  All of them
are rendered operation by operation, whatever the code of the operation is.

* `render_manifest`, `render_library`, `render_inputs`, `render_outputs`: **the templates of what a
  package offers are rendered to the lines of their files.**
* `render_client`, `render_controller`, `render_server`, `render_mock`: **so are those of the two
  sides of a package.**
-/

namespace ApiScaffold.Package.Template

open Code (FieldCode OperationCode Variant Written textArray)
open Json (Value)
open Source (dataArm labelArm statusArm variantLines)
open Text.Quoted (encode encode_ne)

variable {scope : Scope} {plan : Plan} {o : OperationCode} {vs : List Variant} {v : Variant}
  {key : String}

attribute [simp] Lines.block Lines.blockThen Lines.enclosed Lines.importOf writeMethods
  MethodCode.write Source.allowUnusedImports ofOperation

/-- The comment at the beginning of a file that names the interface. -/
@[simp]
theorem render_heading (plan : Plan) (front : String) :
    renderRows (scopeOf plan) (headingRows [.text front, .value ["title"]]) =
      some (Source.heading (front ++ plan.title)) := by
  unfold Source.heading Source.generatedMark
  simp [headingRows, String.append_assoc]

/-! ## The manifest and the root -/

theorem render_manifest (plan : Plan) :
    render plan.toJson manifestRows = some (Source.manifest plan) := by
  rw [render_plan]
  unfold Source.manifest Source.packageDescription Source.dependency
  simp [manifestRows, Row.render, find?_tail]

theorem render_library (plan : Plan) :
    render plan.toJson libraryRows = some (Source.library plan) := by
  have hdescription : (Row.each "line" ["description"]
      [.line 0 [.text "//! ", .value ["line"]]]).render (scopeOf plan) =
        some (plan.description.map fun line => s!"//! {line}") :=
    render_texts (by simp) fun text _ => by simp
  rw [render_plan]
  unfold Source.library Source.generatedMark
  by_cases hempty : plan.description = []
  · simp [libraryRows, textArray, Source.moduleNames, hempty]
  · simp [libraryRows, hdescription, textArray, Source.moduleNames, hempty]

/-! ## The inputs -/

theorem render_fields (scope : Scope) (h : Written o) :
    (Row.each "field" ["op", "fields"] fieldRows).render (("op", o.toJson) :: scope) =
      some (o.fields.flatMap fun f => (Source.fieldLines f).indent) := by
  have hfields : Scope.find? (("op", o.toJson) :: scope) ["op", "fields"] =
      some (.array (o.fields.map FieldCode.toJson)) := by
    simp
  refine render_each hfields fun f hf => ?_
  have hdoc : (Row.each "line" ["field", "doc"] [.line 1 [.text "/// ", .value ["line"]]]).render
      (("field", f.toJson) :: ("op", o.toJson) :: scope) = some (Lines.doc f.doc).indent := by
    rw [indent_doc]
    refine render_texts (by simp) fun text htext => ?_
    simp [Lines.docLine, h.docs f hf text htext]
  cases hattribute : f.attribute with
  | none =>
    simp [fieldRows, hdoc, Value.text?, Source.fieldLines, hattribute]
  | some text =>
    have htext := Code.attribute_ne hattribute
    simp [fieldRows, hdoc, Value.text?, Source.fieldLines, hattribute, htext]

theorem render_input (scope : Scope) (h : Written o) :
    renderRows (("op", o.toJson) :: scope) inputRows = some ("" :: Source.inputLines o) := by
  have hchecks : o.toJson.get? "validate_lines" = some (textArray o.checkLines) := by
    simp
  have hpath : o.toJson.get? "path_lines" = some (textArray o.pathLines) := by
    simp
  simp [inputRows, render_fields scope h, render_codeRow scope 2 hchecks,
    render_codeRow scope 2 hpath, Source.inputLines, Lines.paragraphs, Lines.doc, Lines.docLine,
    Lines.indent_of_filled (Code.filled_checkLines o),
    Lines.indent_of_filled (Code.filled_pathLines o), Lines.indent_map]

/-- **The template of the inputs.** -/
theorem render_inputs (h : ∀ o ∈ plan.operations, Written o) :
    render plan.toJson inputsRows = some (Source.inputs plan) := by
  have hoperations := render_operations plan fun o ho => render_input (scopeOf plan) (h o ho)
  rw [render_plan]
  simp [inputsRows, hoperations, Source.inputs, Lines.spaced, List.flatMap_map]

/-! ## The outputs -/

@[simp]
theorem statusArm_ne (v : Variant) : statusArm v ≠ "" := by
  unfold statusArm
  simp

@[simp]
theorem dataArm_ne (v : Variant) : dataArm v ≠ "" := by
  unfold dataArm
  split <;> simp

@[simp]
theorem labelArm_ne (v : Variant) : labelArm v ≠ "" := by
  unfold labelArm
  simp

/-- A variant has no body, or one whose type has a name. -/
theorem payload_cases (h : v.payload ≠ some "") :
    v.payload = none ∨ ∃ type, v.payload = some type ∧ type ≠ "" := by
  cases hpayload : v.payload with
  | none => exact .inl rfl
  | some type => exact .inr ⟨type, rfl, fun heq => h (heq ▸ hpayload)⟩

theorem render_variant (scope : Scope) (h : v.payload ≠ some "") :
    renderRows (("v", v.toJson) :: scope) variantRows = some (variantLines v).indent := by
  unfold variantLines
  obtain hnone | ⟨type, hsome, htype⟩ := payload_cases h
  · simp [variantRows, Value.text?, hnone]
  · simp [variantRows, Value.text?, hsome, htype]

theorem render_status (scope : Scope) (h : v.payload ≠ some "") :
    renderRows (("v", v.toJson) :: scope) [statusRow] = some [margin 3 (statusArm v)] := by
  unfold statusArm Source.variantPattern
  obtain hnone | ⟨type, hsome, htype⟩ := payload_cases h
  · simp [statusRow, patternPieces, Value.text?, hnone]
  · simp [statusRow, patternPieces, Value.text?, hsome, htype]

theorem render_data (scope : Scope) (h : v.payload ≠ some "") :
    renderRows (("v", v.toJson) :: scope) [dataRow] = some [margin 3 (dataArm v)] := by
  unfold dataArm
  obtain hnone | ⟨type, hsome, htype⟩ := payload_cases h
  · simp [dataRow, Value.text?, hnone]
  · simp [dataRow, Value.text?, hsome, htype]

theorem render_label (scope : Scope) (h : v.payload ≠ some "") :
    renderRows (("v", v.toJson) :: scope) [labelRow] = some [margin 3 (labelArm v)] := by
  unfold labelArm Source.variantPattern
  obtain hnone | ⟨type, hsome, htype⟩ := payload_cases h
  · simp [labelRow, patternPieces, Value.text?, hnone]
  · simp [labelRow, patternPieces, Value.text?, hsome, htype]

/-- The arms of the variants that an operation has under a key. -/
theorem render_arms (scope : Scope) {row : Row} {arm : Variant → String}
    (hitems : o.toJson.get? key = some (.array (vs.map Variant.toJson)))
    (harms : ∀ v ∈ vs, renderRows (("v", v.toJson) :: ("op", o.toJson) :: scope) [row] =
      some [margin 3 (arm v)]) :
    (eachVariant key [row]).render (("op", o.toJson) :: scope) =
      some (vs.map fun v => margin 3 (arm v)) := by
  rw [List.map_eq_flatMap]
  exact render_each (by simpa using hitems) harms

/-- The rows of the variants that an operation has under a key. -/
structure VariantRows (scope : Scope) (o : OperationCode) (key : String) (vs : List Variant) :
    Prop where
  declarations : (eachVariant key variantRows).render (("op", o.toJson) :: scope) =
    some (vs.flatMap fun v => (variantLines v).indent)
  status : (eachVariant key [statusRow]).render (("op", o.toJson) :: scope) =
    some (vs.map fun v => margin 3 (statusArm v))
  data : (eachVariant key [dataRow]).render (("op", o.toJson) :: scope) =
    some (vs.map fun v => margin 3 (dataArm v))
  label : (eachVariant key [labelRow]).render (("op", o.toJson) :: scope) =
    some (vs.map fun v => margin 3 (labelArm v))

theorem variantRows_of_payloads (scope : Scope)
    (hitems : o.toJson.get? key = some (.array (vs.map Variant.toJson)))
    (h : ∀ v ∈ vs, v.payload ≠ some "") : VariantRows scope o key vs where
  declarations := render_each (by simpa using hitems) fun v hv => render_variant _ (h v hv)
  status := render_arms scope hitems fun v hv => render_status _ (h v hv)
  data := render_arms scope hitems fun v hv => render_data _ (h v hv)
  label := render_arms scope hitems fun v hv => render_label _ (h v hv)

theorem variantRows_successes (scope : Scope) (h : Written o) :
    VariantRows scope o "success_variants" o.successes :=
  variantRows_of_payloads scope (by simp) fun v hv =>
    h.payloads v (List.mem_append_left _ hv)

theorem variantRows_failures (scope : Scope) (h : Written o) :
    VariantRows scope o "error_variants" o.failures :=
  variantRows_of_payloads scope (by simp) fun v hv =>
    h.payloads v (List.mem_append_right _ hv)

theorem render_success (scope : Scope) (h : Written o) :
    renderRows (("op", o.toJson) :: scope) successRows = some (Source.successLines o) := by
  have hrows := variantRows_successes scope h
  unfold Source.successLines Source.matchSelf
  by_cases hnone : o.successes = []
  · simp [successRows, matchRows, hrows.declarations, hnone, Source.matchMethod,
      Source.derivedTraits, Source.dataDoc, Source.dataType, Lines.paragraphs, Lines.doc,
      Lines.docLine]
  · simp [successRows, matchRows, hrows.declarations, hrows.status, hrows.data, hnone,
      Source.matchMethod, Source.derivedTraits, Source.dataDoc, Source.dataType, Lines.paragraphs,
      Lines.doc, Lines.docLine, Lines.indent_map]

theorem render_failure (scope : Scope) (h : Written o) :
    renderRows (("op", o.toJson) :: scope) failureRows = some (Source.failureLines o) := by
  have hrows := variantRows_failures scope h
  simp [failureRows, hrows.declarations, hrows.status, hrows.data, Source.failureLines,
    Source.matchMethod, Source.matchSelf, Source.derivedTraits, Source.dataDoc, Source.dataType,
    Lines.paragraphs, Lines.doc, Lines.docLine, Lines.indent_map]

theorem render_display (scope : Scope) (h : Written o) :
    renderRows (("op", o.toJson) :: scope) displayRows = some (Source.displayLines o) := by
  have hrows := variantRows_failures scope h
  simp [displayRows, hrows.label, Source.displayLines, Source.matchSelf, Lines.indent_map]

theorem render_dispatcher (scope : Scope) (o : OperationCode) :
    renderRows (("op", o.toJson) :: scope) dispatcherRows = some (Source.dispatcherLines o) := by
  have harms : (Row.each "arm" ["op", "dispatch_arms"] [.line 2 [.value ["arm"]]]).render
      (("op", o.toJson) :: scope) = some (o.armLines.map (margin 2)) :=
    render_texts (by simp) fun text _ => by simp
  simp [dispatcherRows, harms, Source.dispatcherLines, Lines.indent_map,
    Lines.indent_of_filled (Code.filled_armLines o), String.append_assoc]

theorem render_output (scope : Scope) (h : Written o) :
    renderRows (("op", o.toJson) :: scope) outputRows = some ("" :: Source.outputLines o) := by
  simp [outputRows, render_success scope h, render_failure scope h, render_display scope h,
    render_dispatcher scope o, Source.outputLines, Lines.paragraphs]

/-- **The template of the outputs.** -/
theorem render_outputs (h : ∀ o ∈ plan.operations, Written o) :
    render plan.toJson outputsRows = some (Source.outputs plan) := by
  have hoperations := render_operations plan fun o ho => render_output (scopeOf plan) (h o ho)
  rw [render_plan]
  simp [outputsRows, hoperations, Source.outputs, Source.outputImports, Lines.spaced,
    List.flatMap_map]

/-! ## The client -/

theorem render_settings (plan : Plan) :
    renderRows (scopeOf plan) settingsRows = some (Source.settingsLines plan) := by
  simp [settingsRows, Source.settingsLines]

theorem render_call (scope : Scope) (o : OperationCode) :
    renderRows (("op", o.toJson) :: scope) callRows =
      some ("" :: (Source.callMethod o).write.indent) := by
  have hrequest : o.toJson.get? "request_lines" = some (textArray o.requestLines) := by
    simp
  simp [callRows, render_codeRow scope 2 hrequest, Source.callMethod, indent_doc,
    Lines.indent_of_filled (Code.filled_requestLines o), Lines.indent_map, String.append_assoc]

/-- **The template of the client.** -/
theorem render_client (plan : Plan) :
    render plan.toJson clientRows = some (Source.client plan) := by
  have hoperations := render_operations plan fun o _ => render_call (scopeOf plan) o
  rw [render_plan]
  simp [clientRows, hoperations, render_settings, Source.client, Source.clientImports,
    Source.commas, Source.clientMethods, Source.fixedClientMethods, Lines.paragraphs_cons,
    Lines.spaced, Lines.doc, Lines.docLine, List.flatMap_map]

/-! ## The controller -/

theorem render_capability (scope : Scope) (o : OperationCode) :
    renderRows (("op", o.toJson) :: scope) capabilityRows =
      some (Source.capability o).write.indent := by
  simp [capabilityRows, Source.capability, indent_doc]

/-- **The template of the controller.** -/
theorem render_controller (plan : Plan) :
    render plan.toJson controllerRows = some (Source.controller plan) := by
  have hoperations := render_operations plan fun o _ => render_capability (scopeOf plan) o
  rw [render_plan]
  simp [controllerRows, hoperations, Source.controller]

/-! ## The server -/

theorem render_decoder (scope : Scope) (o : OperationCode) :
    renderRows (("op", o.toJson) :: scope) decoderRows = some ("" :: Source.decoderLines o) := by
  have hsources : o.toJson.get? "decode_lines" = some (textArray o.sourceLines) := by
    simp
  simp [decoderRows, render_codeRow scope 2 hsources, Source.decoderLines,
    Lines.indent_of_filled (Code.filled_sourceLines o), Lines.indent_map, String.append_assoc]

theorem render_handler (scope : Scope) (o : OperationCode) :
    renderRows (("op", o.toJson) :: scope) handlerRows = some ("" :: Source.handlerLines o) := by
  unfold Source.handlerLines
  cases hparameters : o.hasPathParameters with
  | false => simp [handlerRows, hparameters, String.append_assoc]
  | true => simp [handlerRows, hparameters, String.append_assoc]

/-- The routes of a plan. -/
theorem render_routes (plan : Plan) :
    (Row.each "route" ["routes"]
        [.line 2 [.text ".route(", .literal ["route", "path"], .text ", ",
          .value ["route", "method_chain"], .text ")"]]).render (scopeOf plan) =
      some (plan.routes.map fun r => margin 2 s!".route({encode r.path}, {r.chain})") := by
  have hroutes : Scope.find? (scopeOf plan) ["routes"] =
      some (.array (plan.routes.map Route.toJson)) := by
    simp
  rw [List.map_eq_flatMap]
  exact render_each hroutes fun r _ => by simp

/-- **The template of the server.** -/
theorem render_server (plan : Plan) :
    render plan.toJson serverRows = some (Source.server plan) := by
  have hboth (o : OperationCode) : renderRows (("op", o.toJson) :: scopeOf plan)
      (decoderRows ++ handlerRows) =
        some (Lines.spaced [Source.decoderLines o, Source.handlerLines o]) := by
    simp [render_decoder (scopeOf plan) o, render_handler (scopeOf plan) o, Lines.spaced]
  have hoperations := render_operations plan fun o _ => hboth o
  rw [render_plan]
  simp [serverRows, hoperations, render_routes, Source.server, Source.serverImports,
    Source.stateLines, Source.routerLines, Source.sharedFunctions, Lines.paragraphs, Lines.spaced,
    Lines.indent_map, List.flatMap_assoc]

/-! ## The test double -/

theorem render_replay (scope : Scope) (o : OperationCode) :
    renderRows (("op", o.toJson) :: scope) replayRows = some (Source.mockFields o).indent := by
  simp [replayRows, Source.mockFields]

theorem render_expectation (scope : Scope) (o : OperationCode) :
    renderRows (("op", o.toJson) :: scope) expectationRows =
      some (Lines.spaced ((Source.mockMethodsOf o).map fun m => m.write.indent)) := by
  simp [expectationRows, Source.mockMethodsOf, Lines.spaced, Lines.doc, Lines.docLine,
    ← String.append_assoc]

theorem render_answer (scope : Scope) (o : OperationCode) :
    renderRows (("op", o.toJson) :: scope) answerRows =
      some (Source.mockAnswer o).write.indent := by
  simp [answerRows, Source.mockAnswer, Lines.doc, encode_ne, String.append_assoc]

/-- **The template of the test double.** -/
theorem render_mock (plan : Plan) :
    render plan.toJson mockRows = some (Source.mock plan) := by
  have hreplays := render_operations plan fun o _ => render_replay (scopeOf plan) o
  have hexpectations := render_operations plan fun o _ => render_expectation (scopeOf plan) o
  have hanswers := render_operations plan fun o _ => render_answer (scopeOf plan) o
  rw [render_plan]
  unfold Source.mock Source.heading Source.generatedMark
  simp [mockRows, headingRows, hreplays, hexpectations, hanswers, Source.mockMethods,
    Lines.paragraphs_cons, Lines.spaced, Lines.doc, List.flatMap_map, List.flatMap_assoc]

end ApiScaffold.Package.Template
