import ApiScaffold.Package.Template.Service
import ApiScaffold.Proofs.Code.Written
import ApiScaffold.Proofs.Json.Members

/-!
# What the rows of a template are rendered to

The lines of a row depend on what its names stand for.  A loop is rendered item by item, each with
the name of the loop in front of the other names, so what a row makes of one item is all that has to
be known of it.

The names of a template are the keys of the data, and its lines stand at their places, while a file
is written with blocks whose lines are moved to the right.  Lines without characters are not moved;
the code of an operation has none.

* `find?_head`: a name of a loop is found first.
* `both`: the lines of two parts, one behind the other; `renderRows_cons`, `renderRows_append`.
* `render_each`: **a loop is rendered to the lines of its items.**
* `FieldCode.get?_toJson`, `Variant.get?_toJson`, `OperationCode.get?_toJson`, `Plan.get?_toJson`:
  what stands under the keys of the data.
* `indent_of_filled`: lines with characters are moved to the right.
-/

namespace ApiScaffold

open Json (Value memberOf?)

/-! ## The data -/

namespace Json

theorem get?_objectOf (members : List (String × Value)) (key : String) :
    (Value.objectOf members).get? key = memberOf? members.reverse key :=
  memberOf?_sortMembers members key

theorem objectOf_eq (members : List (String × Value)) :
    Value.objectOf members = .object ((Value.objectOf members).asObject?.getD []) := rfl

end Json

namespace Code

@[simp]
theorem FieldCode.get?_toJson (f : FieldCode) :
    f.toJson.get? "name" = some (.string f.name) ∧
      f.toJson.get? "rust_type" = some (.string f.type) ∧
      f.toJson.get? "serde_attr" = some (.text? f.attribute) ∧
      f.toJson.get? "doc" = some (textArray f.doc) := by
  simp [FieldCode.toJson, Json.get?_objectOf, memberOf?, List.lookup_cons]

@[simp]
theorem Variant.get?_toJson (v : Variant) :
    v.toJson.get? "name" = some (.string v.name) ∧
      v.toJson.get? "status" = some (.natural v.status) ∧
      v.toJson.get? "payload" = some (.text? v.payload) ∧
      v.toJson.get? "label" = some (.string v.label) := by
  simp [Variant.toJson, Json.get?_objectOf, memberOf?, List.lookup_cons]

@[simp]
theorem OperationCode.get?_toJson (o : OperationCode) :
    o.toJson.get? "id" = some (.string o.id) ∧
      o.toJson.get? "method" = some (.string o.method.upperName) ∧
      o.toJson.get? "fn_name" = some (.string o.functionName) ∧
      o.toJson.get? "input_type" = some (.string o.inputType) ∧
      o.toJson.get? "output_type" = some (.string o.outputType) ∧
      o.toJson.get? "error_type" = some (.string o.errorType) ∧
      o.toJson.get? "dispatcher" = some (.string o.dispatcher) ∧
      o.toJson.get? "decoder" = some (.string o.decoder) ∧
      o.toJson.get? "doc" = some (textArray o.doc) ∧
      o.toJson.get? "fields" = some (.array (o.fields.map FieldCode.toJson)) ∧
      o.toJson.get? "has_path_params" = some (.bool o.hasPathParameters) ∧
      o.toJson.get? "validate_lines" = some (textArray o.checkLines) ∧
      o.toJson.get? "path_lines" = some (textArray o.pathLines) ∧
      o.toJson.get? "request_lines" = some (textArray o.requestLines) ∧
      o.toJson.get? "decode_lines" = some (textArray o.sourceLines) ∧
      o.toJson.get? "success_variants" = some (.array (o.successes.map Variant.toJson)) ∧
      o.toJson.get? "error_variants" = some (.array (o.failures.map Variant.toJson)) ∧
      o.toJson.get? "dispatch_arms" = some (textArray o.armLines) := by
  simp [OperationCode.toJson, Json.get?_objectOf, memberOf?, List.lookup_cons]

end Code

@[simp]
theorem ClientDefaults.get?_toJson (c : ClientDefaults) :
    c.toJson.get? "timeout_ms" = some (.natural c.timeout) ∧
      c.toJson.get? "max_concurrent_requests" = some (.natural c.maxConcurrent) ∧
      c.toJson.get? "request_volume_threshold" = some (.natural c.volume) ∧
      c.toJson.get? "error_percent_threshold" = some (.natural c.errorPercent) ∧
      c.toJson.get? "sleep_window_ms" = some (.natural c.sleepWindow) := by
  simp [ClientDefaults.toJson, ClientDefaults.names, Json.get?_objectOf, memberOf?,
    List.lookup_cons]

/-- A route as a value. -/
def Route.toJson (r : Route) : Value :=
  .objectOf [("path", .string r.path), ("method_chain", .string r.chain)]

@[simp]
theorem Route.get?_toJson (r : Route) :
    r.toJson.get? "path" = some (.string r.path) ∧
      r.toJson.get? "method_chain" = some (.string r.chain) := by
  simp [Route.toJson, Json.get?_objectOf, memberOf?, List.lookup_cons]

@[simp]
theorem Plan.get?_toJson (p : Plan) :
    p.toJson.get? "package" = some (.string p.package) ∧
      p.toJson.get? "service_name" = some (.string p.serviceName) ∧
      p.toJson.get? "title" = some (.string p.title) ∧
      p.toJson.get? "api_version" = some (.string p.version) ∧
      p.toJson.get? "description" = some (Code.textArray p.description) ∧
      p.toJson.get? "base_path" = some (.string p.basePath) ∧
      p.toJson.get? "generator_version" = some (.string generatorVersion) ∧
      p.toJson.get? "client" = some p.client.toJson ∧
      p.toJson.get? "retry_policy" = some (.string p.retryPolicy) ∧
      p.toJson.get? "operations" = some (.array (p.operations.map Code.OperationCode.toJson)) ∧
      p.toJson.get? "routes" = some (.array (p.routes.map Route.toJson)) := by
  simp [Plan.toJson, Json.get?_objectOf, memberOf?, List.lookup_cons, Route.toJson]

/-! ## Indented lines -/

namespace Lines

variable {lines : Lines}

@[simp]
theorem indent_nil : indent [] = [] := rfl

@[simp]
theorem indent_cons (line : String) (lines : Lines) :
    indent (line :: lines) = (if line.isEmpty then line else "    " ++ line) :: indent lines :=
  rfl

@[simp]
theorem indent_append (lines more : Lines) : indent (lines ++ more) = indent lines ++ indent more :=
  List.map_append

@[simp]
theorem indent_flatMap {α : Type} (xs : List α) (f : α → Lines) :
    indent (xs.flatMap f) = xs.flatMap fun x => indent (f x) :=
  List.map_flatMap ..

/-- Lines with characters are moved to the right. -/
theorem indent_of_filled (h : lines.Filled) : lines.indent = lines.map ("    " ++ ·) := by
  refine List.map_congr_left fun line hline => if_neg ?_
  rw [String.isEmpty_iff]
  exact h line hline

theorem indent_map {α : Type} {xs : List α} {f : α → String} (h : ∀ x ∈ xs, f x ≠ "") :
    indent (xs.map f) = xs.map fun x => "    " ++ f x := by
  rw [indent_of_filled (filled_map h), List.map_map]
  rfl

/-- Groups behind a first one. -/
theorem paragraphs_cons (group : Lines) (groups : List Lines) :
    paragraphs (group :: groups) = group ++ spaced groups := by
  induction groups generalizing group with
  | nil => simp [paragraphs, spaced]
  | cons next groups ih =>
    rw [paragraphs, ih, spaced, spaced, List.flatMap_cons]
    · rfl
    · simp

end Lines

/-! ## Names -/

namespace Package.Template

open Code (OperationCode textArray)

variable {scope : Scope} {name : String} {v : Value} {keys : List String} {path : Path}
  {rows more body : List Row} {texts : List String} {depth : Nat} {key : String}

@[simp]
theorem member?_nil (v : Value) : member? [] v = some v := by rw [member?]

@[simp]
theorem member?_single (key : String) (v : Value) : member? [key] v = v.get? key := by
  cases h : v.get? key <;> simp [member?, h]

/-- A name of a loop is found first. -/
@[simp]
theorem find?_head : Scope.find? ((name, v) :: scope) (name :: keys) = member? keys v := by
  rw [Scope.find?, Json.memberOf?_cons, if_pos rfl, Option.bind_some]

/-- The names that the data of a plan give. -/
def scopeOf (plan : Plan) : Scope := plan.toJson.asObject?.getD []

theorem toJson_eq (plan : Plan) : plan.toJson = .object (scopeOf plan) := by
  rw [scopeOf, Plan.toJson]
  exact Json.objectOf_eq _

theorem render_plan (plan : Plan) (rows : List Row) :
    render plan.toJson rows = renderRows (scopeOf plan) rows := by
  rw [toJson_eq]
  rfl

@[simp]
theorem find?_scopeOf (plan : Plan) :
    Scope.find? (scopeOf plan) (name :: keys) = (plan.toJson.get? name).bind (member? keys) := by
  rw [toJson_eq]
  rfl

theorem find?_tail {other : String} (h : other ≠ name) :
    Scope.find? ((name, v) :: scope) (other :: keys) = Scope.find? scope (other :: keys) := by
  rw [Scope.find?, Json.memberOf?_cons, if_neg h, Scope.find?]

@[simp]
theorem shown_natural (n : Nat) : shown (.natural n) = toString n := by
  rw [Value.natural, shown]
  rfl

/-! ## Rows -/

attribute [simp] Test.holds? isTrue isEmpty? shown literalOf Piece.render renderPieces joined margin

@[simp]
theorem renderRows_nil : renderRows scope [] = some [] := by rw [renderRows]

/-- The lines of two parts of a template, if both are rendered. -/
def both (first second : Option Lines) : Option Lines :=
  first.bind fun lines => second.map (lines ++ ·)

@[simp]
theorem both_some (lines more : Lines) : both (some lines) (some more) = some (lines ++ more) := by
  rw [both, Option.bind_some, Option.map_some]

theorem both_assoc (first second third : Option Lines) :
    both (both first second) third = both first (both second third) := by
  cases first with
  | none => rfl
  | some lines =>
    cases second with
    | none => rfl
    | some more =>
      cases third with
      | none => rfl
      | some last => rw [both_some, both_some, both_some, both_some, List.append_assoc]

@[simp]
theorem renderRows_cons (row : Row) : renderRows scope (row :: rows) =
    both (row.render scope) (renderRows scope rows) := by
  rw [renderRows]
  rfl

@[simp]
theorem renderRows_append : renderRows scope (rows ++ more) =
    both (renderRows scope rows) (renderRows scope more) := by
  induction rows with
  | nil =>
    rw [List.nil_append, renderRows_nil]
    cases renderRows scope more <;> rfl
  | cons row rows ih => rw [List.cons_append, renderRows_cons, renderRows_cons, ih, both_assoc]

@[simp]
theorem render_fixed (lines : Lines) : (Row.fixed lines).render scope = some lines := by
  rw [Row.render]

@[simp]
theorem render_line (pieces : List Piece) : (Row.line depth pieces).render scope =
    (renderPieces scope pieces).map fun texts => [margin depth (joined texts)] := by
  rw [Row.render]

@[simp]
theorem render_choice (test : Test) (held other : List Row) :
    (Row.choice test held other).render scope =
      (test.holds? scope).bind fun holds =>
        if holds then renderRows scope held else renderRows scope other := by
  rw [Row.render]

/-- **A loop** is rendered to the lines of its items, one after another. -/
theorem render_each {α : Type} {xs : List α} {toJson : α → Value} {lines : α → Lines}
    (hitems : scope.find? path = some (.array (xs.map toJson)))
    (hbody : ∀ x ∈ xs, renderRows ((name, toJson x) :: scope) body = some (lines x)) :
    (Row.each name path body).render scope = some (xs.flatMap lines) := by
  have hall : (xs.map toJson).mapM (fun item => renderRows ((name, item) :: scope) body) =
      some (xs.map lines) := by
    clear hitems
    induction xs with
    | nil => rfl
    | cons x xs ih =>
      rw [List.forall_mem_cons] at hbody
      rw [List.map_cons, List.mapM_cons, hbody.1, ih hbody.2]
      rfl
  rw [Row.render, Scope.items?, hitems, Option.bind_some, Value.asArray?, Option.bind_some, hall,
    Option.map_some, List.flatMap_def]

/-- A loop over texts that makes a line of each. -/
theorem render_texts {line : String → String} (hitems : scope.find? path = some (textArray texts))
    (hbody : ∀ s ∈ texts, renderRows ((name, .string s) :: scope) body = some [line s]) :
    (Row.each name path body).render scope = some (texts.map line) := by
  rw [List.map_eq_flatMap]
  exact render_each hitems hbody

/-- The documentation comment of an operation. -/
@[simp]
theorem render_docRow (o : OperationCode) : (docRow depth).render (("op", o.toJson) :: scope) =
    some (o.doc.map fun text => margin depth (Lines.docLine text)) := by
  refine render_texts (by simp) fun text _ => ?_
  cases htext : text.isEmpty <;> simp [htext, Lines.docLine]

/-- Lines of code that an operation has under a key. -/
theorem render_codeRow (scope : Scope) (depth : Nat) {o : OperationCode}
    (h : o.toJson.get? key = some (textArray texts)) :
    (codeRow depth key).render (("op", o.toJson) :: scope) = some (texts.map (margin depth)) :=
  render_texts (by simpa using h) fun text _ => by simp

/-- Rows for each operation of a plan. -/
theorem render_operations (plan : Plan) {lines : OperationCode → Lines}
    (h : ∀ o ∈ plan.operations,
      renderRows (("op", o.toJson) :: scopeOf plan) rows = some (lines o)) :
    (eachOperation rows).render (scopeOf plan) = some (plan.operations.flatMap lines) :=
  render_each (by simp) h

/-- The lines of a documentation comment have characters. -/
theorem filled_doc (texts : List String) : (Lines.doc texts).Filled := by
  refine Lines.filled_map fun text _ => ?_
  rw [Lines.docLine]
  split <;> simp

theorem indent_doc (texts : List String) :
    (Lines.doc texts).indent = texts.map fun text => "    " ++ Lines.docLine text := by
  rw [Lines.indent_of_filled (filled_doc texts), Lines.doc, List.map_map]
  rfl

end Package.Template

end ApiScaffold
