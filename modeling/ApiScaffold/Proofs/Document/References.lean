import ApiScaffold.Document.Reader
import ApiScaffold.Proofs.Traversal

/-!
# Where the parameters and responses of a document come from

A parameter or a response of a document is declared in its place, or there is a reference in its
place to a shared one.  The shared one can be a reference in turn, so that a declaration begins a
**chain** (`Leads`), but the reader follows one reference and takes what it finds there for the
declaration itself.  For a parameter that is refused, unless a name and a location stand beside the
second reference; a response needs nothing, so what stands at the end of the chain is lost.

What is read is matched with what is declared, place by place (`forall₂_parameters`,
`forall₂_responses`), by one lemma for each function of the reader.

* `parameterDeclarations`, `responseDeclarations`: what a document declares, in the order in which
  it is read.
* `Source`: what a declaration is taken for; `follow_ok_iff`: **the reader takes it for that.**
* `Chained`: a declaration that refers to a reference.
* `resolved_iff`: **every parameter and response is built from something that is no reference
  exactly if no declaration refers to a reference**; then it is the end of its chain.
-/

namespace ApiScaffold

open Json (Value)

/-- The parameters of a path, then those of its operations. -/
def PathItem.allParameters (p : PathItem) : List ParameterItem :=
  p.parameters ++ p.operations.flatMap (·.parameters)

/-- The responses of the operations of a path. -/
def PathItem.allResponses (p : PathItem) : List ResponseItem := p.operations.flatMap (·.responses)

namespace Document

/-- The parameters of a document. -/
def allParameters (d : Document) : List ParameterItem := d.paths.flatMap PathItem.allParameters

/-- The responses of a document. -/
def allResponses (d : Document) : List ResponseItem := d.paths.flatMap PathItem.allResponses

variable {root item v w : Value} {place reference : String} {section_ : String}

/-! ## References -/

/-- Whether a value is a reference. -/
def isReference (v : Value) : Bool := (v.stringAt? "$ref").isSome

/-- What a reference names in a section of a document. -/
def named? (root : Value) (section_ reference : String) : Option Value :=
  let start := s!"#/{section_}/".toList
  if start.isPrefixOf reference.toList then
    (root.get? section_).bind (·.get? (String.ofList (reference.toList.drop start.length)))
  else none

/-- A reference to a value. -/
def RefersTo (root : Value) (section_ : String) (item v : Value) : Prop :=
  ∃ reference, item.stringAt? "$ref" = some reference ∧ named? root section_ reference = some v

/-- What a declaration is taken for: itself, or what it refers to. -/
def Source (root : Value) (section_ : String) (item v : Value) : Prop :=
  isReference item = false ∧ v = item ∨ RefersTo root section_ item v

/-- A declaration that refers to a reference. -/
def Chained (root : Value) (section_ : String) (item : Value) : Prop :=
  ∃ v, RefersTo root section_ item v ∧ isReference v = true

/-- The end of the chain of references that begins at a declaration. -/
inductive Leads (root : Value) (section_ : String) : Value → Value → Prop
  | here {v : Value} (h : isReference v = false) : Leads root section_ v v
  | there {item v w : Value} (h : RefersTo root section_ item v) (h' : Leads root section_ v w) :
      Leads root section_ item w

theorem RefersTo.isReference (h : RefersTo root section_ item v) : isReference item = true := by
  obtain ⟨reference, hitem, -⟩ := h
  rw [Document.isReference, hitem]
  rfl

theorem RefersTo.unique (h : RefersTo root section_ item v) (h' : RefersTo root section_ item w) :
    v = w := by
  obtain ⟨reference, hitem, hv⟩ := h
  obtain ⟨reference', hitem', hw⟩ := h'
  rw [hitem] at hitem'
  cases hitem'
  rw [hv] at hw
  exact Option.some.inj hw

theorem Source.unique (h : Source root section_ item v) (h' : Source root section_ item w) :
    v = w := by
  rcases h with ⟨hplain, rfl⟩ | h
  · rcases h' with ⟨-, rfl⟩ | h'
    · rfl
    · rw [h'.isReference] at hplain
      cases hplain
  · rcases h' with ⟨hplain, -⟩ | h'
    · rw [h.isReference] at hplain
      cases hplain
    · exact h.unique h'

/-- **What a declaration is taken for is no reference exactly if it is the end of the chain.** -/
theorem Source.leads_iff (h : Source root section_ item v) :
    Leads root section_ item v ↔ isReference v = false := by
  constructor
  · -- a chain ends at no reference, wherever it begins
    intro hleads
    clear h
    induction hleads with
    | here h => exact h
    | there _ _ ih => exact ih
  · intro hplain
    rcases h with ⟨-, rfl⟩ | h
    · exact .here hplain
    · exact .there h (.here hplain)

/-- What a declaration is taken for is a reference exactly if the declaration is chained. -/
theorem Source.isReference_iff (h : Source root section_ item v) :
    isReference v = true ↔ Chained root section_ item := by
  constructor
  · intro href
    rcases h with ⟨hplain, rfl⟩ | h
    · rw [href] at hplain
      cases hplain
    · exact ⟨v, h, href⟩
  · rintro ⟨w, hw, href⟩
    rw [h.unique (.inr hw)]
    exact href

/-- A reference to what is no reference is not chained. -/
theorem not_chained (h : RefersTo root section_ item v) (hplain : isReference v = false) :
    ¬Chained root section_ item := by
  rintro ⟨w, hw, href⟩
  rw [hw.unique h, hplain] at href
  cases href

theorem follow_eq (root : Value) (place : String) (item : Value) (section_ : String) :
    follow root place item section_ =
      match item.stringAt? "$ref" with
      | none => .ok item
      | some reference =>
        match named? root section_ reference with
        | some v => .ok v
        | none => .error (.unresolvedReference place reference) := rfl

/-- **What the reader takes a declaration for.** -/
theorem follow_ok_iff : follow root place item section_ = .ok v ↔ Source root section_ item v := by
  rw [follow_eq, Source, RefersTo, isReference]
  cases item.stringAt? "$ref" with
  | none => simp [eq_comm]
  | some reference => cases hnamed : named? root section_ reference <;> simp [hnamed]

/-- A reference to nothing is refused. -/
theorem follow_error_iff {e : DocumentError} : follow root place item section_ = .error e ↔
    ∃ reference, item.stringAt? "$ref" = some reference ∧
      named? root section_ reference = none ∧ e = .unresolvedReference place reference := by
  rw [follow_eq]
  cases item.stringAt? "$ref" with
  | none => simp
  | some reference => cases hnamed : named? root section_ reference <;> simp [hnamed, eq_comm]

/-! ## What is declared -/

/-- The parameters that are declared in a list. -/
def listed (list : Option Value) : List Value := (list.bind Value.asArray?).getD []

/-- The members of an object, without the extensions. -/
def entries (object : Option Value) : List (String × Value) :=
  ((object.bind Value.asObject?).getD []).filter (!isExtension ·.1)

/-- The operations among the members of a path, by their methods. -/
def methodEntries (members : List (String × Value)) : List (Web.Method × Value) :=
  members.filterMap fun m => (Web.Method.ofName? m.1).map (·, m.2)

/-- The parameters that a path declares for all its operations, then those of its operations. -/
def pathParameters (members : List (String × Value)) : List Value :=
  listed (Json.memberOf? members "parameters") ++
    (methodEntries members).flatMap fun m => listed (m.2.get? "parameters")

/-- The responses of the operations of a path, by their keys. -/
def pathResponses (members : List (String × Value)) : List (String × Value) :=
  (methodEntries members).flatMap fun m => entries (m.2.get? "responses")

/-- The parameters that a document declares. -/
def parameterDeclarations (root : Value) : List Value :=
  (entries (root.get? "paths")).flatMap fun m => pathParameters ((m.2.asObject?).getD [])

/-- The responses that a document declares, by their keys. -/
def responseDeclarations (root : Value) : List (String × Value) :=
  (entries (root.get? "paths")).flatMap fun m => pathResponses ((m.2.asObject?).getD [])

/-! ## What is read -/

variable {ps : List ParameterItem} {rs : List ResponseItem} {list object : Option Value}
  {method : Web.Method} {path : String} {o : OperationItem} {members : List (String × Value)}
  {p : PathItem} {d : Document}

/-- A parameter is made of a value. -/
def MakesParameter (v : Value) (p : ParameterItem) : Prop := ∃ place, parameterOf place v = .ok p

/-- A response under a key is made of a value. -/
def MakesResponse (key : String) (v : Value) (r : ResponseItem) : Prop :=
  r = { key, description := textOf (v.get? "description"), schema := v.get? "schema" }

/-- A parameter is read in the place of a declaration. -/
def ReadsParameter (root item : Value) (p : ParameterItem) : Prop :=
  ∃ v, Source root "parameters" item v ∧ MakesParameter v p

/-- A response is read in the place of a declaration. -/
def ReadsResponse (root : Value) (entry : String × Value) (r : ResponseItem) : Prop :=
  ∃ v, Source root "responses" entry.2 v ∧ MakesResponse entry.1 v r

theorem orMalformed_eq_ok {α : Type} {value : Option α} {fault : Malformation} {a : α} :
    orMalformed value fault = .ok a ↔ value = some a := by
  cases value <;> simp [orMalformed, malformed]

theorem forall₂_parametersOf (h : parametersOf root place list = .ok ps) :
    List.Forall₂ (ReadsParameter root) (listed list) ps := by
  cases list with
  | none =>
    cases h
    exact .nil
  | some v =>
    obtain ⟨items, hitems, h⟩ := bind_eq_ok.mp h
    have hlisted : listed (some v) = items := by
      rw [listed, Option.bind_some, orMalformed_eq_ok.mp hitems]
      rfl
    rw [hlisted]
    refine (forall₂_of_mapM h).imp fun item p hp => ?_
    obtain ⟨w, hfollow, hp⟩ := bind_eq_ok.mp hp
    exact ⟨w, follow_ok_iff.mp hfollow, place, hp⟩

theorem forall₂_responsesOf (h : responsesOf root place object = .ok rs) :
    List.Forall₂ (ReadsResponse root) (entries object) rs := by
  cases object with
  | none =>
    cases h
    exact .nil
  | some v =>
    obtain ⟨members, hmembers, h⟩ := bind_eq_ok.mp h
    have hentries : entries (some v) = members.filter (!isExtension ·.1) := by
      rw [entries, Option.bind_some, orMalformed_eq_ok.mp hmembers]
      rfl
    rw [hentries]
    refine (forall₂_of_mapM h).imp fun entry r hr => ?_
    obtain ⟨w, hfollow, hr⟩ := bind_eq_ok.mp hr
    cases hr
    exact ⟨w, follow_ok_iff.mp hfollow, rfl⟩

theorem forall₂_operationOf (h : operationOf root path method v = .ok o) :
    List.Forall₂ (ReadsParameter root) (listed (v.get? "parameters")) o.parameters ∧
      List.Forall₂ (ReadsResponse root) (entries (v.get? "responses")) o.responses := by
  obtain ⟨_, -, h⟩ := bind_eq_ok.mp h
  obtain ⟨parameters, hparameters, h⟩ := bind_eq_ok.mp h
  obtain ⟨responses, hresponses, h⟩ := bind_eq_ok.mp h
  cases h
  exact ⟨forall₂_parametersOf hparameters, forall₂_responsesOf hresponses⟩

/-- What is read of a path: the members whose keys are methods have an operation each, and the
others are passed over. -/
theorem pathItemOf_ok (h : pathItemOf root path members = .ok p) : p.path = path ∧
    parametersOf root s!"path '{path}'" (Json.memberOf? members "parameters") = .ok p.parameters ∧
    List.Forall₂ (fun m o => operationOf root path m.1 m.2 = .ok o) (methodEntries members)
      p.operations := by
  obtain ⟨parameters, hparameters, h⟩ := bind_eq_ok.mp h
  obtain ⟨operations, hoperations, h⟩ := bind_eq_ok.mp h
  cases h
  refine ⟨rfl, hparameters, forall₂_of_filterMapM (g := fun m : Web.Method × Value =>
    operationOf root path m.1 m.2) ?_ ?_ hoperations⟩
  · rintro ⟨key, v⟩ hkey
    rw [Option.map_eq_none_iff] at hkey
    simp only [hkey]
    rfl
  · rintro ⟨key, v⟩ m hkey
    obtain ⟨method, hmethod, rfl⟩ := Option.map_eq_some_iff.mp hkey
    simp only [hmethod]
    rfl

/-- A path that is read is an object. -/
theorem pathOf_ok (h : pathOf root path v = .ok p) :
    ∃ members, v.asObject? = some members ∧ pathItemOf root path members = .ok p := by
  rw [pathOf] at h
  split at h
  · cases h
  obtain ⟨members, hmembers, h⟩ := bind_eq_ok.mp h
  refine ⟨members, orMalformed_eq_ok.mp hmembers, ?_⟩
  cases hreference : Json.memberOf? members "$ref" with
  | some reference =>
    rw [hreference] at h
    cases h
  | none =>
    rw [hreference] at h
    exact h

theorem forall₂_pathOf (h : pathOf root path v = .ok p) :
    List.Forall₂ (ReadsParameter root) (pathParameters (v.asObject?.getD [])) p.allParameters ∧
      List.Forall₂ (ReadsResponse root) (pathResponses (v.asObject?.getD [])) p.allResponses := by
  obtain ⟨members, hmembers, h⟩ := pathOf_ok h
  obtain ⟨-, hparameters, hread⟩ := pathItemOf_ok h
  rw [hmembers]
  refine ⟨List.rel_append (forall₂_parametersOf hparameters) ?_, ?_⟩
  · exact List.rel_flatMap hread fun m o ho => (forall₂_operationOf ho).1
  · exact List.rel_flatMap hread fun m o ho => (forall₂_operationOf ho).2

theorem forall₂_pathsOf {ps : List PathItem} (h : pathsOf root = .ok ps) :
    List.Forall₂ (fun m p => pathOf root m.1 m.2 = .ok p) (entries (root.get? "paths")) ps := by
  obtain ⟨paths, hpaths, h⟩ := bind_eq_ok.mp h
  obtain ⟨members, hmembers, h⟩ := bind_eq_ok.mp h
  rw [entries, orMalformed_eq_ok.mp hpaths, Option.bind_some, orMalformed_eq_ok.mp hmembers]
  exact forall₂_of_mapM h

theorem paths_of_ofJson (h : ofJson root = .ok d) : pathsOf root = .ok d.paths := by
  obtain ⟨_, -, h⟩ := bind_eq_ok.mp h
  obtain ⟨_, -, h⟩ := bind_eq_ok.mp h
  obtain ⟨_, -, h⟩ := bind_eq_ok.mp h
  obtain ⟨_, -, h⟩ := bind_eq_ok.mp h
  obtain ⟨paths, hpaths, h⟩ := bind_eq_ok.mp h
  cases h
  exact hpaths

/-- **The parameters of a document are those that it declares**, place by place. -/
theorem forall₂_parameters (h : ofJson root = .ok d) :
    List.Forall₂ (ReadsParameter root) (parameterDeclarations root) d.allParameters :=
  List.rel_flatMap (forall₂_pathsOf (paths_of_ofJson h)) fun _ _ hp => (forall₂_pathOf hp).1

/-- **The responses of a document are those that it declares**, place by place. -/
theorem forall₂_responses (h : ofJson root = .ok d) :
    List.Forall₂ (ReadsResponse root) (responseDeclarations root) d.allResponses :=
  List.rel_flatMap (forall₂_pathsOf (paths_of_ofJson h)) fun _ _ hp => (forall₂_pathOf hp).2

/-! ## What is resolved -/

/-- A parameter is built from what is no reference. -/
def ResolvesParameter (root item : Value) (p : ParameterItem) : Prop :=
  ∃ v, Source root "parameters" item v ∧ isReference v = false ∧ MakesParameter v p

/-- A response is built from what is no reference. -/
def ResolvesResponse (root : Value) (entry : String × Value) (r : ResponseItem) : Prop :=
  ∃ v, Source root "responses" entry.2 v ∧ isReference v = false ∧
    MakesResponse entry.1 v r

/-- No parameter and no response is declared by a reference to a reference. -/
def Unchained (root : Value) : Prop :=
  (∀ item ∈ parameterDeclarations root, ¬Chained root "parameters" item) ∧
    ∀ entry ∈ responseDeclarations root, ¬Chained root "responses" entry.2

/-- What a declaration is taken for is no reference, unless the declaration is chained. -/
theorem exists_plain_iff {made : Value → Prop} (h : ∃ v, Source root section_ item v ∧ made v) :
    (∃ v, Source root section_ item v ∧ isReference v = false ∧ made v) ↔
      ¬Chained root section_ item := by
  obtain ⟨v, hv, hmade⟩ := h
  constructor
  · rintro ⟨w, hw, hplain, -⟩ hchained
    rw [hw.isReference_iff.mpr hchained] at hplain
    cases hplain
  · intro hchained
    refine ⟨v, hv, ?_, hmade⟩
    rw [← Bool.not_eq_true]
    exact fun href => hchained (hv.isReference_iff.mp href)

theorem ReadsParameter.resolves_iff {p : ParameterItem} (h : ReadsParameter root item p) :
    ResolvesParameter root item p ↔ ¬Chained root "parameters" item := exists_plain_iff h

theorem ReadsResponse.resolves_iff {entry : String × Value} {r : ResponseItem}
    (h : ReadsResponse root entry r) :
    ResolvesResponse root entry r ↔ ¬Chained root "responses" entry.2 := exists_plain_iff h

/-- A parameter that is declared by a reference to a reference is accepted only with a name and a
location beside the second one. -/
theorem ReadsParameter.names_of_chained {p : ParameterItem} (h : ReadsParameter root item p)
    (hchained : Chained root "parameters" item) :
    ∃ v, RefersTo root "parameters" item v ∧ isReference v = true ∧
      textOf (v.get? "name") = some p.name ∧ textOf (v.get? "in") = some p.location := by
  obtain ⟨v, hv, place, hmade⟩ := h
  obtain ⟨w, hw, href⟩ := hchained
  obtain rfl := hv.unique (.inr hw)
  obtain ⟨name, hname, hmade⟩ := bind_eq_ok.mp hmade
  obtain ⟨location, hlocation, hmade⟩ := bind_eq_ok.mp hmade
  have hfields : p.name = name ∧ p.location = location := by
    -- with the schema of a body, or with the value itself for one
    split at hmade <;>
    · obtain ⟨schema, -, hmade⟩ := bind_eq_ok.mp hmade
      cases hmade
      exact ⟨rfl, rfl⟩
  rw [hfields.1, hfields.2]
  exact ⟨v, hw, href, orMalformed_eq_ok.mp hname, orMalformed_eq_ok.mp hlocation⟩

/-- A response that is built from what is no reference is the one at the end of its chain. -/
theorem ResolvesResponse.leads {entry : String × Value} {r : ResponseItem}
    (h : ResolvesResponse root entry r) :
    ∃ v, Leads root "responses" entry.2 v ∧ MakesResponse entry.1 v r := by
  obtain ⟨v, hv, hplain, hmade⟩ := h
  exact ⟨v, hv.leads_iff.mpr hplain, hmade⟩

/-- **What is read from a document that is accepted.**  Each parameter and response is built from
its declaration or from what that refers to.  All of them are built from what is no reference
exactly if no declaration refers to a reference, and then each response has the description and
the schema that stand at the end of its chain. -/
theorem resolved_iff (h : ofJson root = .ok d) :
    List.Forall₂ (ReadsParameter root) (parameterDeclarations root) d.allParameters ∧
      List.Forall₂ (ReadsResponse root) (responseDeclarations root) d.allResponses ∧
      (List.Forall₂ (ResolvesParameter root) (parameterDeclarations root) d.allParameters ∧
          List.Forall₂ (ResolvesResponse root) (responseDeclarations root) d.allResponses ↔
        Unchained root) ∧
      (Unchained root → List.Forall₂
        (fun entry r => ∃ v, Leads root "responses" entry.2 v ∧ MakesResponse entry.1 v r)
        (responseDeclarations root) d.allResponses) := by
  have hparameters := forall₂_parameters h
  have hresponses := forall₂_responses h
  have hresolved : List.Forall₂ (ResolvesResponse root) (responseDeclarations root)
      d.allResponses ↔ ∀ entry ∈ responseDeclarations root, ¬Chained root "responses" entry.2 :=
    forall₂_iff_of_forall₂ hresponses fun _ _ hr => hr.resolves_iff
  refine ⟨hparameters, hresponses, ?_, fun hunchained => ?_⟩
  · rw [hresolved, forall₂_iff_of_forall₂ hparameters fun _ _ hp => hp.resolves_iff, Unchained]
  · exact (hresolved.mpr hunchained.2).imp fun _ _ hr => hr.leads

/-- A reference to a shared declaration. -/
def referenceTo (section_ name : String) : Value :=
  .object [("$ref", .string ("#/" ++ section_ ++ "/" ++ name))]

/-- A shared parameter. -/
def sharedKey : Value := .object [("in", .string "query"), ("name", .string "key")]

/-- A shared response. -/
def sharedItem : Value :=
  .object [("description", .string "one item"), ("schema", referenceTo "definitions" "Item")]

/-- A document with a shared parameter and a shared response, `Item`, to which another one,
`Found`, refers; its operation refers to one of the two. -/
def sharedRoot (name : String) : Value :=
  .object [
    ("info", .object [("title", .string "Items"), ("version", .string "1.0")]),
    ("parameters", .object [("Key", sharedKey)]),
    ("paths", .object [("/item", .object [("get", .object [
      ("operationId", .string "getItem"),
      ("parameters", .array [referenceTo "parameters" "Key"]),
      ("responses", .object [("200", referenceTo "responses" name)])])])]),
    ("responses", .object [("Found", referenceTo "responses" "Item"), ("Item", sharedItem)]),
    ("swagger", .string "2.0")]

/-- References to what is no reference are resolved. -/
theorem resolved_iff_shared :
    ∃ d, ofJson (sharedRoot "Item") = .ok d ∧ Unchained (sharedRoot "Item") ∧
      d.allResponses = [⟨"200", some "one item", some (referenceTo "definitions" "Item")⟩] ∧
      List.Forall₂ (ResolvesParameter (sharedRoot "Item"))
        (parameterDeclarations (sharedRoot "Item")) d.allParameters ∧
      List.Forall₂ (ResolvesResponse (sharedRoot "Item"))
        (responseDeclarations (sharedRoot "Item")) d.allResponses := by
  obtain ⟨d, hread, hresponses⟩ : ∃ d, ofJson (sharedRoot "Item") = .ok d ∧
      d.allResponses = [⟨"200", some "one item", some (referenceTo "definitions" "Item")⟩] :=
    ⟨_, rfl, rfl⟩
  have hunchained : Unchained (sharedRoot "Item") := by
    have hkey : RefersTo (sharedRoot "Item") "parameters" (referenceTo "parameters" "Key")
        sharedKey := ⟨_, rfl, rfl⟩
    have hitem : RefersTo (sharedRoot "Item") "responses" (referenceTo "responses" "Item")
        sharedItem := ⟨_, rfl, rfl⟩
    exact ⟨List.forall_mem_singleton.mpr (not_chained hkey rfl),
      List.forall_mem_singleton.mpr (not_chained hitem rfl)⟩
  have hresolved := (resolved_iff hread).2.2.1.mpr hunchained
  exact ⟨d, hread, hunchained, hresponses, hresolved⟩

/-- **A reference to a reference is accepted**, and the response has neither the description nor
the schema at the end of the chain. -/
theorem chained_response_accepted :
    ∃ d, ofJson (sharedRoot "Found") = .ok d ∧ d.allResponses = [⟨"200", none, none⟩] ∧
      responseDeclarations (sharedRoot "Found") = [("200", referenceTo "responses" "Found")] ∧
      Leads (sharedRoot "Found") "responses" (referenceTo "responses" "Found") sharedItem ∧
      textOf (sharedItem.get? "description") = some "one item" ∧
      sharedItem.get? "schema" = some (referenceTo "definitions" "Item") ∧
      ¬List.Forall₂ (ResolvesResponse (sharedRoot "Found"))
        (responseDeclarations (sharedRoot "Found")) d.allResponses := by
  obtain ⟨d, hread, hresponses⟩ : ∃ d, ofJson (sharedRoot "Found") = .ok d ∧
      d.allResponses = [⟨"200", none, none⟩] := ⟨_, rfl, rfl⟩
  have hfirst : RefersTo (sharedRoot "Found") "responses" (referenceTo "responses" "Found")
      (referenceTo "responses" "Item") := ⟨_, rfl, rfl⟩
  have hsecond : RefersTo (sharedRoot "Found") "responses" (referenceTo "responses" "Item")
      sharedItem := ⟨_, rfl, rfl⟩
  refine ⟨d, hread, hresponses, rfl, .there hfirst (.there hsecond (.here rfl)), rfl, rfl, ?_⟩
  intro hresolved
  refine ((forall₂_iff_of_forall₂ (forall₂_responses hread) fun _ _ hr =>
    hr.resolves_iff).mp hresolved) _ List.mem_cons_self ?_
  exact ⟨_, hfirst, rfl⟩

end Document

end ApiScaffold
