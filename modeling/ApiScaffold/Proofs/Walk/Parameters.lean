import ApiScaffold.Operation.Walk
import ApiScaffold.Proofs.TypeMap
import ApiScaffold.Proofs.Walk.Responses

/-!
# The parameters of an operation

The walk takes each name and each field name of an operation once, so that every field stands for
one parameter and every name on the wire for one field.  Of the types, only plain ones travel
outside the body, and arrays of them in a query.

* `Parameter.Describes`: a parameter has the name, the place and the limits of its item.
* `describes_of_parametersFrom`: **each parameter describes its item, in the order of the items.**
* `Told`: parameters whose names and field names differ from each other and from those that were
  seen before.
* `told_of_parametersFrom`: **the parameters that the walk accepts are told apart.**
* `countP_body_le`: **at most one of them is a body.**
* `plain_of_query`: a query parameter has a plain type or is an array of one.
* `parameters_of_mem_operations`: both hold of every operation of a document.
-/

namespace ApiScaffold

/-- The plain type of a value, or of the items of an array. -/
def ValueType.plain? : ValueType → Option Primitive
  | .primitive p => some p
  | .array (.primitive p) => some p
  | _ => none

/-- How a parameter describes an item: it has the name and the place of the item, the type and the
limits that its schema declares, and a place in the path makes it required. -/
structure Parameter.Describes (types : TypeMap) (operation : String) (item : ParameterItem)
    (p : Parameter) : Prop where
  name : p.name = item.name
  location : p.location.name = item.location
  type : types.parameterType operation item = .ok (p.location, p.type)
  required : p.required = (item.required || p.location == .path)
  constraints : p.constraints = if p.location = .body then {} else .ofJson item.schema
  description : p.description = item.description

namespace Walk

variable {types : TypeMap} {operation : String} {seen : Seen} {items : List ParameterItem}
  {parameters : List Parameter}

/-! ## Names and fields -/

/-- Parameters whose names and field names are told apart, also from those seen before. -/
structure Told (seen : Seen) (parameters : List Parameter) : Prop where
  names : (parameters.map (·.name)).Nodup
  fields : (parameters.map fun p => Naming.field p.name).Nodup
  names_new : ∀ p ∈ parameters, p.name ∉ seen.names
  fields_new : ∀ p ∈ parameters, Naming.field p.name ∉ seen.fields

/-- What the walk has seen after one more parameter. -/
def Seen.add (seen : Seen) (p : Parameter) : Seen :=
  { names := p.name :: seen.names
    fields := Naming.field p.name :: seen.fields
    hasBody := seen.hasBody || p.location == .body }

/-- A parameter whose name, field name and body have not been seen. -/
structure Fresh (seen : Seen) (p : Parameter) : Prop where
  name : p.name ∉ seen.names
  field : Naming.field p.name ∉ seen.fields
  body : p.location = .body → seen.hasBody = false

/-- **One parameter**: it describes its item, and it has not been seen. -/
theorem parametersFrom_cons {item : ParameterItem}
    (h : parametersFrom types operation seen (item :: items) = .ok parameters) :
    ∃ p rest, parameters = p :: rest ∧ p.Describes types operation item ∧ Fresh seen p ∧
      parametersFrom types operation (seen.add p) items = .ok rest := by
  obtain ⟨⟨location, type⟩, htype, h⟩ := bind_eq_ok.mp h
  dsimp only at h
  split at h
  · cases h
  next hnew =>
  split at h
  · cases h
  next hbody =>
  obtain ⟨rest, hrest, h⟩ := bind_eq_ok.mp h
  cases h
  rw [Bool.or_eq_true, not_or, List.contains_iff_mem, List.contains_iff_mem] at hnew
  rw [Bool.and_eq_true, not_and, beq_iff_eq, Bool.not_eq_true] at hbody
  refine ⟨_, rest, rfl, ⟨rfl, ?_, htype, rfl, ?_, rfl⟩, ⟨hnew.1, hnew.2, hbody⟩, hrest⟩
  · exact Location.name_of_ofName? (TypeMap.travels_of_parameterType htype).1
  · simp only [beq_iff_eq]

/-- **Each parameter describes its item, in the order of the items.** -/
theorem describes_of_parametersFrom
    (h : parametersFrom types operation seen items = .ok parameters) :
    List.Forall₂ (Parameter.Describes types operation) items parameters := by
  induction items generalizing seen parameters with
  | nil =>
    cases h
    exact .nil
  | cons item items ih =>
    obtain ⟨p, rest, rfl, hdescribes, -, hrest⟩ := parametersFrom_cons h
    exact .cons hdescribes (ih hrest)

/-- **The parameters that the walk accepts are told apart.** -/
theorem told_of_parametersFrom (h : parametersFrom types operation seen items = .ok parameters) :
    Told seen parameters := by
  induction items generalizing seen parameters with
  | nil =>
    cases h
    exact ⟨.nil, .nil, List.forall_mem_nil _, List.forall_mem_nil _⟩
  | cons item items ih =>
    obtain ⟨p, rest, rfl, -, ⟨hname, hfield, -⟩, hrest⟩ := parametersFrom_cons h
    have told := ih hrest
    constructor
    · rw [List.map_cons, List.nodup_cons]
      refine ⟨fun m => ?_, told.names⟩
      obtain ⟨q, hq, heq⟩ := List.mem_map.mp m
      exact told.names_new q hq (heq ▸ List.mem_cons_self)
    · rw [List.map_cons, List.nodup_cons]
      refine ⟨fun m => ?_, told.fields⟩
      obtain ⟨q, hq, heq⟩ := List.mem_map.mp m
      exact told.fields_new q hq (heq ▸ List.mem_cons_self)
    · rintro q (_ | ⟨_, hq⟩)
      · exact hname
      · exact fun m => told.names_new q hq (List.mem_cons_of_mem _ m)
    · rintro q (_ | ⟨_, hq⟩)
      · exact hfield
      · exact fun m => told.fields_new q hq (List.mem_cons_of_mem _ m)

/-- **At most one parameter is a body**, and none if one has been seen. -/
theorem countP_body_le (h : parametersFrom types operation seen items = .ok parameters) :
    parameters.countP (·.location == .body) ≤ if seen.hasBody then 0 else 1 := by
  induction items generalizing seen parameters with
  | nil =>
    cases h
    exact Nat.zero_le _
  | cons item items ih =>
    obtain ⟨p, rest, rfl, -, hfresh, hrest⟩ := parametersFrom_cons h
    have hlater := ih hrest
    rw [List.countP_cons]
    by_cases hplace : p.location = .body
    · have hnone : rest.countP (·.location == .body) ≤ 0 := by
        simpa [Seen.add, hplace] using hlater
      simp only [hfresh.body hplace, hplace, beq_self_eq_true, if_true, Bool.false_eq_true,
        if_false]
      omega
    · simpa [Seen.add, hplace] using hlater

/-! ## Types -/

/-- Every parameter that the walk accepts has the place and the type of its item. -/
theorem type_of_mem_parameters (h : parametersFrom types operation seen items = .ok parameters)
    {p : Parameter} (hp : p ∈ parameters) :
    ∃ item ∈ items, types.parameterType operation item = .ok (p.location, p.type) := by
  obtain ⟨item, hitem, hdescribes⟩ := exists_of_mem_forall₂ (describes_of_parametersFrom h) hp
  exact ⟨item, hitem, hdescribes.type⟩

/-- **A query parameter has a plain type or is an array of one.** -/
theorem plain_of_query {item : ParameterItem} {type : ValueType}
    (h : types.parameterType operation item = .ok (.query, type)) :
    ∃ t, type.plain? = some t := by
  obtain ⟨-, htravels, -⟩ := TypeMap.travels_of_parameterType h
  cases htravels with
  | query p => exact ⟨p, rfl⟩
  | queryArray p => exact ⟨p, rfl⟩

/-! ## The operations of a document -/

variable {document : Document} {ops : List Operation} {o : Operation}

/-- **What is known of the parameters of an operation**: they are told apart, and those of the
query have plain types or are arrays of them. -/
theorem parameters_of_mem_operations (h : operations types document = .ok ops) (ho : o ∈ ops) :
    Told {} o.parameters ∧
      ∀ p ∈ o.parameters, p.location = .query → ∃ t, p.type.plain? = some t := by
  obtain ⟨path, -, item, -, h⟩ := exists_of_mem_operations h ho
  obtain ⟨parameters, responses, hparameters, -, -, rfl⟩ := describe_eq_ok_iff.mp h
  refine ⟨told_of_parametersFrom hparameters, fun p hp hquery => ?_⟩
  obtain ⟨item, -, htype⟩ := type_of_mem_parameters hparameters hp
  rw [hquery] at htype
  exact plain_of_query htype

end Walk

end ApiScaffold
