import ApiScaffold.Proofs.Traversal
import ApiScaffold.TypeMap

/-!
# Which types a schema can have

A type comes from one of three shapes, and where a parameter travels decides which of them it may
have.  The functions that choose a type lead down to two: a model that a reference names, and an
array of a model or of a plain type.  What is known of these two goes up to all others.

* `ValueType.IsFlat`: no array holds an array.
* `ValueType.models`: the models that a type names.
* `Travels`: which types travel where.
* `TypeMap.Allows`: a type that is flat and names only models that can be referred to and exist.
* `TypeMap.allows_of_schemaType`: **the type of a schema is one of those.**
* `TypeMap.travels_of_parameterType`: **the type of a parameter is one that travels in its place.**
-/

namespace ApiScaffold

open Json (Value)

namespace ValueType

/-- No array holds an array. -/
def IsFlat : ValueType → Prop
  | array item => item.isArray = false
  | _ => True

/-- The models that a type names. -/
def models : ValueType → List String
  | primitive _ => []
  | model name => [name]
  | array item => item.models

end ValueType

/-- Which types travel where: plain ones everywhere but in the body, arrays of them in a query, and
in the body a model or an array of models or of a plain type. -/
inductive Travels : Location → ValueType → Prop
  | path (p : Primitive) : Travels .path (.primitive p)
  | header (p : Primitive) : Travels .header (.primitive p)
  | query (p : Primitive) : Travels .query (.primitive p)
  | queryArray (p : Primitive) : Travels .query (.array (.primitive p))
  | body (name : String) : Travels .body (.model name)
  | bodyModels (name : String) : Travels .body (.array (.model name))
  | bodyArray (p : Primitive) : Travels .body (.array (.primitive p))

theorem Travels.isFlat {location : Location} {type : ValueType} (h : Travels location type) :
    type.IsFlat := by
  cases h <;> trivial

/-- A location is the one that is written. -/
theorem Location.name_of_ofName? {s : String} {location : Location}
    (h : Location.ofName? s = some location) : location.name = s := by
  have hname := List.find?_some h
  exact eq_of_beq hname

namespace TypeMap

variable {t : TypeMap} {place reference : String} {schema : Value} {type : ValueType}

/-- A name that a reference can lead to: not empty, and without a slash. -/
def IsReferable (name : String) : Prop := name ≠ "" ∧ '/' ∉ name.toList

/-- Every model that a type names can be referred to and exists. -/
structure Knows (t : TypeMap) (type : ValueType) : Prop where
  referable : ∀ name ∈ type.models, IsReferable name
  exist : ∀ models, t.models = some models → ∀ name ∈ type.models, name ∈ models

/-- A type that is flat and names only models that exist. -/
structure Allows (t : TypeMap) (type : ValueType) : Prop where
  flat : type.IsFlat
  knows : t.Knows type

theorem knows_primitive (p : Primitive) : t.Knows (.primitive p) :=
  ⟨List.forall_mem_nil _, fun _ _ => List.forall_mem_nil _⟩

theorem Knows.array (h : t.Knows type) : t.Knows (.array type) := ⟨h.referable, h.exist⟩

theorem knows_model {name : String} (href : IsReferable name)
    (hexist : ∀ models, t.models = some models → name ∈ models) : t.Knows (.model name) :=
  ⟨List.forall_mem_singleton.mpr href,
    fun models hmodels => List.forall_mem_singleton.mpr (hexist models hmodels)⟩

/-- **A reference to a model is a fixed beginning and a name that can be referred to.** -/
theorem modelName?_eq_some_iff {name : String} : modelName? reference = some name ↔
    reference = "#/definitions/" ++ name ∧ IsReferable name := by
  unfold modelName?
  dsimp only
  rw [Option.ite_none_right_eq_some, Option.some.injEq]
  simp only [Bool.and_eq_true, Bool.not_eq_true', List.isEmpty_eq_false_iff, List.contains_eq_mem,
    decide_eq_false_iff_not]
  constructor
  · rintro ⟨⟨⟨hstart, hne⟩, hslash⟩, rfl⟩
    obtain ⟨rest, hrest⟩ := List.isPrefixOf_iff_prefix.mp hstart
    rw [← hrest, List.drop_left] at hne hslash ⊢
    refine ⟨?_, ?_, ?_⟩
    · rw [← String.toList_inj, String.toList_append, ← hrest]
      exact congrArg _ String.toList_ofList.symm
    · exact fun hempty => hne (String.toList_ofList.symm.trans (congrArg String.toList hempty))
    · rwa [String.toList_ofList]
  · rintro ⟨rfl, hne, hslash⟩
    rw [String.toList_append, List.drop_left]
    refine ⟨⟨⟨List.isPrefixOf_iff_prefix.mpr (List.prefix_append _ _), ?_⟩, hslash⟩,
      String.ofList_toList⟩
    exact fun hempty => hne (String.toList_eq_nil_iff.mp hempty)

/-- A reference names a model that exists. -/
theorem model_of_modelOf (h : t.modelOf place reference = .ok type) :
    ∃ name, type = .model name ∧ t.Knows type := by
  unfold modelOf at h
  split at h
  · cases h
  · next name hname =>
    obtain ⟨-, href⟩ := modelName?_eq_some_iff.mp hname
    cases hmodels : t.models with
    | none =>
      rw [hmodels] at h
      cases h
      refine ⟨name, rfl, knows_model href fun models hsome => ?_⟩
      rw [hmodels] at hsome
      cases hsome
    | some models =>
      rw [hmodels] at h
      dsimp only at h
      split at h
      · next hknown =>
        cases h
        refine ⟨name, rfl, knows_model href fun models' hsome => ?_⟩
        rw [hmodels] at hsome
        cases hsome
        exact List.contains_iff_mem.mp hknown
      · cases h

/-- An array holds models that exist, or values of a plain type. -/
theorem items_of_arrayType (h : t.arrayType place schema = .ok type) :
    ∃ item, type = .array item ∧ t.Knows type ∧
      ((∃ name, item = .model name) ∨ ∃ p, item = .primitive p) := by
  unfold arrayType at h
  split at h
  · cases h
  · split at h
    · obtain ⟨item, hitem, rfl⟩ := map_eq_ok.mp h
      obtain ⟨name, rfl, hknows⟩ := model_of_modelOf hitem
      exact ⟨_, rfl, hknows.array, .inl ⟨name, rfl⟩⟩
    · split at h
      · next p _ =>
        cases h
        exact ⟨_, rfl, (knows_primitive p).array, .inr ⟨p, rfl⟩⟩
      · cases h

/-- The type of an array is allowed. -/
theorem allows_of_arrayType (h : t.arrayType place schema = .ok type) : t.Allows type := by
  obtain ⟨item, rfl, hknows, hitem⟩ := items_of_arrayType h
  refine ⟨?_, hknows⟩
  rcases hitem with ⟨name, rfl⟩ | ⟨p, rfl⟩ <;> rfl

/-- **The type of a schema is flat and names only models that exist.** -/
theorem allows_of_schemaType (h : t.schemaType place schema = .ok type) : t.Allows type := by
  unfold schemaType at h
  split at h
  · obtain ⟨name, rfl, hknows⟩ := model_of_modelOf h
    exact ⟨trivial, hknows⟩
  · split at h
    · exact allows_of_arrayType h
    · split at h
      · cases h
        exact ⟨trivial, knows_primitive _⟩
      · cases h
    · cases h

/-- The shapes of a schema. -/
theorem shape_of_schemaType (h : t.schemaType place schema = .ok type) :
    (∃ p, type = .primitive p) ∨ Travels .body type := by
  unfold schemaType at h
  split at h
  · obtain ⟨name, rfl, -⟩ := model_of_modelOf h
    exact .inr (.body name)
  · split at h
    · obtain ⟨item, rfl, -, ⟨name, rfl⟩ | ⟨p, rfl⟩⟩ := items_of_arrayType h
      · exact .inr (.bodyModels name)
      · exact .inr (.bodyArray p)
    · split at h
      · cases h
        exact .inl ⟨_, rfl⟩
      · cases h
    · cases h

theorem travels_of_bodyType (h : t.bodyType place schema = .ok type) :
    Travels .body type ∧ t.Knows type := by
  obtain ⟨type', htype, h⟩ := bind_eq_ok.mp h
  split at h
  · cases h
  · next hplain =>
    cases h
    rcases shape_of_schemaType htype with ⟨p, rfl⟩ | htravels
    · exact absurd rfl (hplain p)
    · exact ⟨htravels, (allows_of_schemaType htype).knows⟩

/-- A type outside the body is plain, or an array of a plain one where arrays may stand. -/
theorem plain_of_plainType {arrays : Bool} (h : t.plainType place schema arrays = .ok type) :
    (∃ p, type = .primitive p) ∨ arrays = true ∧ ∃ p, type = .array (.primitive p) := by
  unfold plainType at h
  split at h
  · split at h
    · next harrays =>
      obtain ⟨item, -, h⟩ := bind_eq_ok.mp h
      split at h
      · cases h
        exact .inr ⟨harrays, _, rfl⟩
      · cases h
    · cases h
  · split at h
    · cases h
      exact .inl ⟨_, rfl⟩
    · cases h
  · cases h

/-- **The type of a parameter is one that travels in its place**, and names only models that
exist. -/
theorem travels_of_parameterType {operation : String} {item : ParameterItem} {location : Location}
    (h : t.parameterType operation item = .ok (location, type)) :
    Location.ofName? item.location = some location ∧ Travels location type ∧ t.Knows type := by
  unfold parameterType at h
  split at h
  · cases h
  · next found hplace =>
    dsimp only at h
    obtain ⟨type', htype, heq⟩ := map_eq_ok.mp h
    obtain ⟨rfl, rfl⟩ := Prod.mk.inj heq
    refine ⟨hplace, ?_⟩
    clear hplace h heq
    cases found with
    | body => exact travels_of_bodyType htype
    | query =>
      rcases plain_of_plainType htype with ⟨p, rfl⟩ | ⟨-, p, rfl⟩
      · exact ⟨.query p, knows_primitive p⟩
      · exact ⟨.queryArray p, (knows_primitive p).array⟩
    | path =>
      rcases plain_of_plainType htype with ⟨p, rfl⟩ | ⟨harrays, -⟩
      · exact ⟨.path p, knows_primitive p⟩
      · cases harrays
    | header =>
      rcases plain_of_plainType htype with ⟨p, rfl⟩ | ⟨harrays, -⟩
      · exact ⟨.header p, knows_primitive p⟩
      · cases harrays

end TypeMap

end ApiScaffold
