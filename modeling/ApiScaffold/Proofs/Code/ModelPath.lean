import ApiScaffold.Document.Reader
import ApiScaffold.Proofs.Code.Compile
import ApiScaffold.Proofs.Code.Names
import ApiScaffold.Proofs.Identifier
import ApiScaffold.Proofs.Walk.WellFormed

/-!
# How models are spelled in generated source

A model is spelled by its path: the module of the models, and the name that a reference has behind
its last slash.  That name is a key of the document and goes into the source as it is, where it has
to stand for an identifier.  The walk looks a name up, and a reference cannot lead to one that is
empty or holds a slash, but nothing else is asked of it.  So a type is spelled as a type exactly if
the names of its models are identifiers.

* `TypeText`: the texts that spell a type.
* `typeText_sourceType_iff`: **a type is spelled by one of them exactly if its models have
  identifiers for names.**
* `Operation.spelled`: the types of an operation that are spelled in its code.
* `modelPaths_iff`: **the code of a document spells types only, exactly if all models that it
  names there have identifiers for names.**
-/

namespace ApiScaffold

/-! ## Texts of types -/

/-- What a type can stand in. -/
inductive Bracket
  | list | optional

def Bracket.opening : Bracket → String
  | list => "Vec<"
  | optional => "Option<"

/-- The texts that spell a type: a plain type, the path of a model, and these in brackets. -/
inductive TypeText : String → Prop
  | plain (p : Primitive) : TypeText p.sourceName
  | path {name : String} (h : Naming.isIdentifier name = true) :
      TypeText ("crate::models::" ++ name)
  | within (b : Bracket) {text : String} (h : TypeText text) : TypeText (b.opening ++ text ++ ">")

namespace TypeText

variable {b : Bracket} {text name : String}

theorem head?_append {s t : String} (h : s.toList ≠ []) :
    (s ++ t).toList.head? = s.toList.head? := by
  rw [String.toList_append, List.head?_append_of_ne_nil _ h]

/-- A text in brackets begins as its bracket does. -/
theorem head?_within (b : Bracket) (text : String) :
    (b.opening ++ text ++ ">").toList.head? = b.opening.toList.head? := by
  rw [String.append_assoc, head?_append (by cases b <;> decide)]

/-- The path of a model spells a type exactly if its name is an identifier. -/
theorem path_iff : TypeText ("crate::models::" ++ name) ↔ Naming.isIdentifier name = true := by
  refine ⟨fun h => ?_, .path⟩
  generalize htext : "crate::models::" ++ name = text at h
  -- the first character tells the forms apart
  have hhead : text.toList.head? = some 'c' := by
    rw [← htext, head?_append (by decide)]
    rfl
  cases h with
  | plain p => cases p <;> exact absurd hhead (by decide)
  | path h => exact (String.append_right_inj _).mp htext ▸ h
  | within b h =>
    rw [head?_within] at hhead
    cases b <;> exact absurd hhead (by decide)

/-- A text in brackets spells a type exactly if it does without them. -/
theorem within_iff : TypeText (b.opening ++ text ++ ">") ↔ TypeText text := by
  refine ⟨fun h => ?_, .within b⟩
  generalize htext : b.opening ++ text ++ ">" = whole at h
  have hhead : whole.toList.head? = b.opening.toList.head? := by rw [← htext, head?_within]
  cases h with
  | plain p => cases b <;> cases p <;> exact absurd hhead (by decide)
  | path h =>
    rw [head?_append (by decide)] at hhead
    cases b <;> exact absurd hhead (by decide)
  | within other h =>
    rw [head?_within] at hhead
    have hsame : other = b := by
      cases b <;> cases other
      case list.list | optional.optional => rfl
      case list.optional | optional.list => exact absurd hhead (by decide)
    subst hsame
    exact (String.append_right_inj _).mp ((String.append_left_inj _).mp htext) ▸ h

end TypeText

namespace TypeMap

variable {t : TypeMap} {type : ValueType}

/-- **A type is spelled by the text of a type exactly if its models have identifiers for names.** -/
theorem typeText_sourceType_iff (hpath : t.modelsPath = "crate::models") :
    TypeText (t.sourceType type) ↔ ∀ name ∈ type.models, Naming.isIdentifier name = true := by
  induction type with
  | primitive p => exact iff_of_true (.plain p) (List.forall_mem_nil _)
  | model name =>
    have htext : t.sourceType (.model name) = "crate::models::" ++ name := by
      rw [sourceType, hpath]
      rfl
    rw [htext, TypeText.path_iff, ValueType.models, List.forall_mem_singleton]
  | array item ih =>
    have htext : t.sourceType (.array item) =
        Bracket.list.opening ++ t.sourceType item ++ ">" := rfl
    rw [htext, TypeText.within_iff, ih, ValueType.models]

end TypeMap

/-! ## The types of an operation -/

/-- The types of the bodies that the variants of an operation carry: those of the responses with a
code of their own. -/
def Operation.bodies (o : Operation) : List ValueType :=
  o.responses.filterMap fun r => (Code.ownCode? r).bind fun _ => r.schema

/-- The types of an operation that are spelled in its code. -/
def Operation.spelled (o : Operation) : List ValueType :=
  o.parameters.map (·.type) ++ o.bodies

namespace Code

variable {types : TypeMap} {o : Operation} {ops : List Operation} {c : OperationCode}
  {codes : List OperationCode}

/-- The types that the code of an operation spells: those of its fields, and those of the bodies of
its responses. -/
def OperationCode.typeTexts (c : OperationCode) : List String :=
  c.fields.map (·.type) ++ (c.successes ++ c.failures).filterMap (·.payload)

theorem typeText_fieldCode_iff (hpath : types.modelsPath = "crate::models") (p : Parameter)
    (field : String) : TypeText (fieldCode types p field).type ↔
      ∀ name ∈ p.type.models, Naming.isIdentifier name = true := by
  rw [← TypeMap.typeText_sourceType_iff hpath, fieldCode]
  dsimp only
  split
  · exact TypeText.within_iff (b := .optional)
  · rfl

/-- The bodies of the variants are spelled as their types are. -/
theorem payloads_perm (h : compile types o = .ok c) :
    ((c.successes ++ c.failures).filterMap (·.payload)).Perm (o.bodies.map types.sourceType) := by
  have hparts := parts_of_variantsOf (compiled_of_compile h).variants
  have hown : (ownVariants types o).filterMap (·.payload) = o.bodies.map types.sourceType := by
    rw [ownVariants, List.filterMap_filterMap, Operation.bodies, List.map_filterMap]
    refine List.filterMap_congr fun r _ => ?_
    rw [ownVariant?]
    cases ownCode? r <;> rfl
  rw [← hown]
  exact hparts.perm.filterMap _

/-- **The code of an operation spells types only, exactly if the models of these types have
identifiers for names.** -/
theorem typeTexts_iff (hpath : types.modelsPath = "crate::models") (h : compile types o = .ok c) :
    (∀ text ∈ c.typeTexts, TypeText text) ↔
      ∀ type ∈ o.spelled, ∀ name ∈ type.models, Naming.isIdentifier name = true := by
  rw [OperationCode.typeTexts, Operation.spelled, List.forall_mem_append, List.forall_mem_append]
  refine and_congr ?_ ?_
  · -- a parameter that may be absent is spelled in brackets, which change nothing
    rw [(compiled_of_compile h).fields, List.map_map, List.forall_mem_map, List.forall_mem_map]
    exact forall₂_congr fun p _ => typeText_fieldCode_iff hpath p _
  · -- successes and failures are the bodies in another order
    simp only [(payloads_perm h).mem_iff]
    rw [List.forall_mem_map]
    exact forall₂_congr fun type _ => TypeMap.typeText_sourceType_iff hpath

/-- The types that the code of an operation spells are types of the operation. -/
theorem mem_types_of_mem_spelled {type : ValueType} (h : type ∈ o.spelled) : type ∈ o.types := by
  rcases List.mem_append.mp h with hparameter | hbody
  · exact List.mem_append_left _ hparameter
  · obtain ⟨r, hr, hschema⟩ := List.mem_filterMap.mp hbody
    obtain ⟨_, -, hschema⟩ := Option.bind_eq_some_iff.mp hschema
    exact List.mem_append_right _ (List.mem_filterMap.mpr ⟨r, hr, hschema⟩)

/-! ## A document -/

/-- **The code of a document spells types only, exactly if all models that it names there have
identifiers for names.**  Of these names nothing else is known than that they are not empty, hold no
slash, and are among the known models. -/
theorem modelPaths_iff (known : Option (List String)) (document : Document) {ops : List Operation}
    {codes : List OperationCode} (hwalk : Walk.operations { models := known } document = .ok ops)
    (hcompile : compileAll { models := known } ops = .ok codes) :
    ((∀ c ∈ codes, ∀ text ∈ c.typeTexts, TypeText text) ↔
      ∀ o ∈ ops, ∀ type ∈ o.spelled, ∀ name ∈ type.models, Naming.isIdentifier name = true) ∧
    ∀ o ∈ ops, ∀ type ∈ o.spelled, ∀ name ∈ type.models,
      (name ≠ "" ∧ '/' ∉ name.toList) ∧ ∀ models, known = some models → name ∈ models := by
  refine ⟨?_, ?_⟩
  · obtain ⟨hcompiled, -⟩ := compileAll_ok_iff.mp hcompile
    exact (forall_mem_iff_of_forall₂ hcompiled fun _ _ h => (typeTexts_iff rfl h).symm).symm
  · intro o ho type htype name hname
    obtain ⟨path, -, item, -, hdescribe⟩ := Walk.exists_of_mem_operations hwalk ho
    have hknows := (Walk.allows_of_mem_types hdescribe type (mem_types_of_mem_spelled htype)).knows
    exact ⟨hknows.referable name hname, fun models hmodels =>
      hknows.exist models hmodels name hname⟩

/-! ## A document of one model -/

/-- Gives an item, which is a model of some name. -/
def modelItem (name : String) : OperationItem where
  method := .get
  operationId := some "getItem"
  summary := none
  description := none
  parameters := []
  responses := [⟨"200", none, some (.object [("$ref", .string ("#/definitions/" ++ name))])⟩]

/-- A document of that operation, and the model that it names. -/
def modelDocument (name : String) : Document where
  title := "Items"
  version := "1.0"
  description := none
  basePath := ""
  paths := [⟨"/item", [], [modelItem name]⟩]
  definitions := [name]

/-- The value that the document is read from. -/
def modelValue (name : String) : Json.Value :=
  .object
    [("definitions", .object [(name, .object [("type", .string "object")])]),
      ("info", .object [("title", .string "Items"), ("version", .string "1.0")]),
      ("paths", .object [("/item", .object [("get", .object
        [("operationId", .string "getItem"),
          ("responses", .object [("200", .object [("schema",
            .object [("$ref", .string ("#/definitions/" ++ name))])])])])])]),
      ("swagger", .string "2.0")]

/-- What the operation is generated from. -/
def modelOperation (name : String) : Operation where
  id := "getItem"
  method := .get
  pathTemplate := "/item"
  summary := none
  description := none
  parameters := []
  responses := [⟨.code 200, some (.model name), none⟩]

theorem schemaType_model {name place : String} (h : TypeMap.IsReferable name) :
    TypeMap.schemaType { models := some [name] } place
      (.object [("$ref", .string ("#/definitions/" ++ name))]) = .ok (.model name) := by
  have hname : TypeMap.modelName? ("#/definitions/" ++ name) = some name :=
    TypeMap.modelName?_eq_some_iff.mpr ⟨rfl, h⟩
  have hreference : TypeMap.referenceOf (.object [("$ref", .string ("#/definitions/" ++ name))]) =
      some ("#/definitions/" ++ name) := rfl
  rw [TypeMap.schemaType, hreference]
  dsimp only
  rw [TypeMap.modelOf, hname]
  dsimp only
  rw [if_pos (List.contains_iff_mem.mpr (List.mem_singleton_self name))]

theorem responses_model {name : String} (h : TypeMap.IsReferable name) :
    (modelItem name).responses.mapM (Walk.responseOf { models := some [name] } "getItem") =
      .ok (modelOperation name).responses := by
  have hstatus : Walk.statusKey "getItem" "200" = .ok (.code 200) := by decide +kernel
  rw [modelItem, List.mapM_cons, Walk.responseOf, hstatus]
  show (do let r ← (do let schema ← some <$> TypeMap.schemaType _ _ _; _); _) = _
  rw [schemaType_model h]
  rfl

theorem describe_model {name : String} (h : TypeMap.IsReferable name) :
    Walk.describe { models := some [name] } ⟨"/item", [], [modelItem name]⟩ (modelItem name) =
      .ok (modelOperation name) := by
  have hid : Walk.operationId "/item" (modelItem name) = "getItem" := by rfl
  have hplaceholders : PathTemplate.checkPlaceholders "getItem" "/item" [] = .ok () := by
    decide +kernel
  refine Walk.describe_eq_ok_iff.mpr ⟨[], (modelOperation name).responses, rfl, ?_, ?_, ?_⟩
  · exact (congrArg (PathTemplate.checkPlaceholders · "/item" []) hid).trans hplaceholders
  · rw [hid]
    exact responses_model h
  · rw [modelOperation, List.mergeSort_singleton, hid]
    rfl

theorem operations_model {name : String} (h : TypeMap.IsReferable name) :
    Walk.operations { models := some [name] } (modelDocument name) = .ok [modelOperation name] :=
  Walk.operations_single rfl rfl (describe_model h)

/-- The name of the model comes into the source as it is. -/
theorem compileAll_model (name : String) :
    ∃ c, compileAll { models := some [name] } [modelOperation name] = .ok [c] ∧
      c.typeTexts = ["crate::models::" ++ name] := by
  have hid : Naming.proper (modelOperation name).id ≠ "" := by
    show Naming.proper "getItem" ≠ ""
    decide +kernel
  obtain ⟨c, hcompile⟩ : ∃ c, compile { models := some [name] } (modelOperation name) = .ok c :=
    exists_compile hid rfl rfl
  refine ⟨c, ?_, ?_⟩
  · exact compileAll_ok_iff.mpr
      ⟨.cons hcompile .nil, List.nodup_singleton _, List.nodup_singleton _⟩
  · rw [OperationCode.typeTexts, (compiled_of_compile hcompile).fields]
    exact List.perm_singleton.mp (payloads_perm hcompile)

/-- The code spells types only, if the name of the model is an identifier. -/
theorem modelPaths_iff_item :
    ∃ c, Walk.operations { models := some ["Item"] } (modelDocument "Item") =
        .ok [modelOperation "Item"] ∧
      compileAll { models := some ["Item"] } [modelOperation "Item"] = .ok [c] ∧
      c.typeTexts = ["crate::models::Item"] ∧ ∀ text ∈ c.typeTexts, TypeText text := by
  have hreferable : TypeMap.IsReferable "Item" := ⟨by decide, by decide⟩
  have hwalk := operations_model hreferable
  obtain ⟨c, hcompile, htexts⟩ := compileAll_model "Item"
  have hidentifier : Naming.isIdentifier "Item" = true := by decide +kernel
  have hspelled : ∀ o ∈ [modelOperation "Item"], ∀ type ∈ o.spelled, ∀ name ∈ type.models,
      Naming.isIdentifier name = true := by
    rw [List.forall_mem_singleton, show (modelOperation "Item").spelled = [.model "Item"] from rfl,
      List.forall_mem_singleton]
    exact List.forall_mem_singleton.mpr hidentifier
  have hpaths := (modelPaths_iff _ (modelDocument "Item") hwalk hcompile).1.mpr hspelled
  exact ⟨c, hwalk, hcompile, htexts, hpaths c List.mem_cons_self⟩

/-- **A model whose name is no identifier is accepted**: what stands in the source for its type is
no type. -/
theorem hyphenated_model_accepted :
    Document.ofJson (modelValue "My-Item") = .ok (modelDocument "My-Item") ∧
      Walk.operations { models := some ["My-Item"] } (modelDocument "My-Item") =
        .ok [modelOperation "My-Item"] ∧
      ∃ c, compileAll { models := some ["My-Item"] } [modelOperation "My-Item"] = .ok [c] ∧
        c.typeTexts = ["crate::models::My-Item"] ∧ ¬∀ text ∈ c.typeTexts, TypeText text := by
  obtain ⟨c, hcompile, htexts⟩ := compileAll_model "My-Item"
  refine ⟨rfl, operations_model ⟨by decide, by decide⟩, c, hcompile, htexts, fun htypes => ?_⟩
  rw [htexts, List.forall_mem_singleton] at htypes
  exact absurd (TypeText.path_iff.mp htypes) (by decide +kernel)

end Code

end ApiScaffold
