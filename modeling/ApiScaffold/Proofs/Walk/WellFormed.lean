import ApiScaffold.Proofs.Walk.Order
import ApiScaffold.Proofs.Walk.Parameters

/-!
# What is known of the operations of a document

The operations that the walk accepts are those that code can be generated from.  Each of them
comes from one item of the document: its parameters are those that the item declares and those of
the path that the item does not override.  What holds of every such operation is gathered in
`Operation.WellFormed`; its parts come from the parameters, one after another
(`told_of_parametersFrom`, `countP_body_le`), from the types (`TypeMap.travels_of_parameterType`,
`TypeMap.allows_of_schemaType`) and from the statuses (`range_of_statusKey`).

* `Operation.WellFormed`: names, places, types and statuses of an operation.
* `wellFormed_of_describe`: **an operation that the walk accepts is well formed.**
* `describes_of_describe`: **its parameters are those of its path and of its item.**
-/

namespace ApiScaffold

/-- Whether one of some parameters has the name and the place of another. -/
def ParameterItem.OverriddenBy (own : List ParameterItem) (p : ParameterItem) : Prop :=
  ∃ q ∈ own, q.name = p.name ∧ q.location = p.location

instance (own : List ParameterItem) : DecidablePred (ParameterItem.OverriddenBy own) :=
  fun p => inferInstanceAs (Decidable (∃ q ∈ own, q.name = p.name ∧ q.location = p.location))

/-- The types that an operation names. -/
def Operation.types (o : Operation) : List ValueType :=
  o.parameters.map (·.type) ++ o.responses.filterMap (·.schema)

/-- An operation that code can be generated from, in a document with some models. -/
structure Operation.WellFormed (models : List String) (o : Operation) : Prop where
  names : (o.parameters.map (·.name)).Nodup
  fields : (o.parameters.map fun p => Naming.field p.name).Nodup
  body : o.parameters.countP (·.location == .body) ≤ 1
  required : ∀ p ∈ o.parameters, p.location = .path → p.required = true
  travels : ∀ p ∈ o.parameters, Travels p.location p.type
  flat : ∀ type ∈ o.types, type.IsFlat
  models : ∀ type ∈ o.types, ∀ name ∈ type.models, name ∈ models
  statuses : ∀ r ∈ o.responses, ∀ n, r.status = .code n → 200 ≤ n ∧ n ≤ 599

namespace Walk

variable {types : TypeMap} {document : Document} {path : PathItem} {item : OperationItem}
  {o : Operation} {ops : List Operation}

theorem range_of_statusKey {operation key : String} {n : Nat}
    (h : statusKey operation key = .ok (.code n)) : 200 ≤ n ∧ n ≤ 599 := by
  unfold statusKey at h
  split at h
  · cases h
  · split at h
    · split at h
      · next hrange =>
        cases h
        simpa only [Bool.and_eq_true, decide_eq_true_eq] using hrange
      · cases h
    · cases h

/-- The type of a response is that of its schema. -/
theorem allows_of_responseOf {operation : String} {response : ResponseItem} {r : Response}
    {type : ValueType} (h : responseOf types operation response = .ok r)
    (htype : r.schema = some type) : types.Allows type := by
  have hschema := (responseOf_eq_ok h).2
  rw [htype] at hschema
  cases hdeclared : response.schema with
  | none =>
    rw [hdeclared] at hschema
    cases hschema
  | some declared =>
    rw [hdeclared] at hschema
    obtain ⟨type', htype', heq⟩ := map_eq_ok.mp hschema
    cases heq
    exact TypeMap.allows_of_schemaType htype'

/-- What is declared by a path and not overridden, then what an item declares. -/
theorem mergedParameters_eq (shared own : List ParameterItem) :
    mergedParameters shared own = shared.filter (¬ ·.OverriddenBy own) ++ own := by
  unfold mergedParameters
  congr 1
  refine List.filter_congr fun p _ => ?_
  rw [decide_not]
  congr 1
  rw [Bool.eq_iff_iff, decide_eq_true_iff, List.any_eq_true]
  simp only [ParameterItem.OverriddenBy, Bool.and_eq_true, beq_iff_eq]

/-- **The parameters of an operation are those of its path that its item does not override, and
those of its item**, in the order of their declaration. -/
theorem describes_of_describe (h : describe types path item = .ok o) :
    List.Forall₂ (Parameter.Describes types o.id)
      (path.parameters.filter (¬ ·.OverriddenBy item.parameters) ++ item.parameters)
      o.parameters := by
  obtain ⟨parameters, responses, hparameters, -, -, rfl⟩ := describe_eq_ok_iff.mp h
  rw [← mergedParameters_eq]
  exact describes_of_parametersFrom hparameters

/-- The types of an operation are allowed. -/
theorem allows_of_mem_types (h : describe types path item = .ok o) :
    ∀ type ∈ o.types, types.Allows type := by
  intro type htype
  rcases List.mem_append.mp htype with hparameter | hresponse
  · obtain ⟨p, hp, rfl⟩ := List.mem_map.mp hparameter
    obtain ⟨declared, -, hdescribes⟩ := exists_of_mem_forall₂ (describes_of_describe h) hp
    obtain ⟨-, htravels, hknows⟩ := TypeMap.travels_of_parameterType hdescribes.type
    exact ⟨htravels.isFlat, hknows⟩
  · obtain ⟨r, hr, hschema⟩ := List.mem_filterMap.mp hresponse
    obtain ⟨parameters, responses, -, -, hresponses, rfl⟩ := describe_eq_ok_iff.mp h
    have hmem : r ∈ responses := (List.mergeSort_perm _ _).mem_iff.mp hr
    obtain ⟨declared, -, hdeclared⟩ := exists_of_mem_mapM hresponses hmem
    exact allows_of_responseOf hdeclared hschema

/-- **An operation that the walk accepts is well formed.** -/
theorem wellFormed_of_describe {models : List String} (hmodels : types.models = some models)
    (h : describe types path item = .ok o) : o.WellFormed models := by
  have hdescribes := describes_of_describe h
  have hallows := allows_of_mem_types h
  obtain ⟨parameters, responses, hparameters, -, hresponses, rfl⟩ := describe_eq_ok_iff.mp h
  have htold := told_of_parametersFrom hparameters
  constructor
  case names => exact htold.names
  case fields => exact htold.fields
  case body => exact countP_body_le hparameters
  case required =>
    intro p hp hplace
    obtain ⟨declared, -, hp⟩ := exists_of_mem_forall₂ hdescribes hp
    rw [hp.required, hplace, beq_self_eq_true, Bool.or_true]
  case travels =>
    intro p hp
    obtain ⟨declared, -, hp⟩ := exists_of_mem_forall₂ hdescribes hp
    exact (TypeMap.travels_of_parameterType hp.type).2.1
  case flat => exact fun type htype => (hallows type htype).flat
  case models => exact fun type htype => (hallows type htype).knows.exist models hmodels
  case statuses =>
    intro r hr n hcode
    have hmem : r ∈ responses := (List.mergeSort_perm _ _).mem_iff.mp hr
    obtain ⟨declared, -, hdeclared⟩ := exists_of_mem_mapM hresponses hmem
    have hstatus := (responseOf_eq_ok hdeclared).1
    rw [hcode] at hstatus
    exact range_of_statusKey hstatus

/-- **Every operation of a document is well formed, and its parameters are those of its path that
its item does not override, followed by those of its item.** -/
theorem operations_wellFormed (hmodels : types.models = some document.definitions)
    (h : operations types document = .ok ops) :
    ∀ o ∈ ops, o.WellFormed document.definitions ∧
      ∃ path ∈ document.paths, ∃ item ∈ path.operations,
        o.pathTemplate = path.path ∧ o.method = item.method ∧
        List.Forall₂ (Parameter.Describes types o.id)
          (path.parameters.filter (¬ ·.OverriddenBy item.parameters) ++ item.parameters)
          o.parameters := by
  intro o ho
  obtain ⟨path, hpath, item, hitem, hdescribe⟩ := exists_of_mem_operations h ho
  obtain ⟨htemplate, hmethod⟩ := place_of_describe hdescribe
  exact ⟨wellFormed_of_describe hmodels hdescribe, path, hpath, item, hitem, htemplate, hmethod,
    describes_of_describe hdescribe⟩

/-! ## A path with parameters of its own -/

/-- A parameter as it is declared. -/
def declared (name location : String) (schema : List (String × Json.Value)) : ParameterItem where
  name := name
  location := location
  required := false
  description := none
  schema := .object schema

/-- Stores an item: the limit is declared anew, and the body names a model. -/
def storeItem : OperationItem where
  method := .put
  operationId := some "storeItem"
  summary := none
  description := none
  parameters := [declared "limit" "query" [("type", .string "integer")],
    declared "item" "body" [("$ref", .string "#/definitions/Item")]]
  responses := [⟨"default", none, none⟩,
    ⟨"200", none, some (.object [("items", .object [("$ref", .string "#/definitions/Item")]),
      ("type", .string "array")])⟩]

/-- The path of an item, with parameters of its own. -/
def storePath : PathItem where
  path := "/items/\x7bid\x7d"
  parameters := [declared "id" "path" [("type", .string "string")],
    declared "limit" "query" [("type", .string "string")],
    declared "X-Tag" "header" [("type", .string "string")]]
  operations := [storeItem]

/-- A document of that path and one model. -/
def storeDocument : Document where
  title := "Store"
  version := "1.0"
  description := none
  basePath := ""
  paths := [storePath]
  definitions := ["Item"]

theorem operations_wellFormed_store :
    ∃ o, operations { models := some ["Item"] } storeDocument = .ok [o] ∧
      o.WellFormed ["Item"] ∧ o.parameters.map (·.name) = ["id", "X-Tag", "limit", "item"] := by
  have hnames : (describe { models := some ["Item"] } storePath storeItem).toOption.map
      (·.parameters.map (·.name)) = some ["id", "X-Tag", "limit", "item"] := by decide +kernel
  cases hdescribe : describe { models := some ["Item"] } storePath storeItem with
  | error e => rw [hdescribe] at hnames; cases hnames
  | ok o =>
    rw [hdescribe] at hnames
    have hoperations : operations { models := some ["Item"] } storeDocument = .ok [o] :=
      operations_single rfl rfl hdescribe
    have hmodels : ({ models := some ["Item"] } : TypeMap).models = some storeDocument.definitions :=
      rfl
    obtain ⟨hwell, -⟩ := operations_wellFormed hmodels hoperations o List.mem_cons_self
    exact ⟨o, hoperations, hwell, Option.some.inj hnames⟩

end Walk

end ApiScaffold
