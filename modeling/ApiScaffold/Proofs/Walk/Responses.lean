import ApiScaffold.Document.Reader
import ApiScaffold.Operation.Walk
import ApiScaffold.Proofs.Code.Dispatch
import ApiScaffold.Proofs.Number.Digits
import ApiScaffold.Proofs.Traversal

/-!
# The responses of an operation

The responses of an operation stand in ascending order of their status.  They are sorted, and
nothing takes out a status that occurs twice, so the order is strict only if no status does.
The keys of the responses are distinct as texts, but a status can be written in many ways: what
counts is the plain form of a key, which is the text of its status (`text_of_statusKey`).

* `StatusKey.lt`: the strict order.
* `describe_eq_ok_iff`: what is known of a description.
* `responses_of_describe`: the responses of an operation are those of its item, sorted.
* `names_nodup_iff`: the types of an operation have distinct variants exactly if no own code
  occurs twice.
* `responses_ascend_iff`: **the responses ascend strictly exactly if no two of the keys have the
  same plain form.**
-/

namespace ApiScaffold

/-! ## The order of the statuses -/

namespace StatusKey

variable {a b : StatusKey}

/-- Codes ascend strictly, and the response for all other codes comes last. -/
def lt (a b : StatusKey) : Prop := a.le b = true ∧ a ≠ b

theorem le_trans (a b c : StatusKey) (hab : a.le b = true) (hbc : b.le c = true) :
    a.le c = true := by
  cases a <;> cases b <;> cases c <;> simp_all [le]
  omega

theorem le_total (a b : StatusKey) : (a.le b || b.le a) = true := by
  cases a <;> cases b <;> simp [le]
  omega

/-- Statuses are told apart by their texts. -/
theorem text_injective : Function.Injective text := by
  have hdefault : ∀ n : Nat, toString n ≠ "default" := fun n =>
    Number.toString_ne_of_mem (c := 'd') (by decide) rfl
  intro a b heq
  cases a with
  | code m =>
    cases b with
    | code n => exact congrArg code (Number.digits_injective heq)
    | default => exact absurd heq (hdefault m)
  | default =>
    cases b with
    | code n => exact absurd heq.symm (hdefault n)
    | default => rfl

end StatusKey

namespace Walk

open Json (Value)

variable {types : TypeMap} {document : Document} {path : PathItem} {item : OperationItem}
  {o : Operation} {operation key : String} {status : StatusKey}

/-! ## From keys to responses -/

/-- **The plain form of a key is the text of its status.** -/
theorem text_of_statusKey (h : statusKey operation key = .ok status) :
    status.text = Number.plain key := by
  unfold statusKey at h
  split at h
  · next hkey =>
    cases h
    rw [hkey]
    rfl
  · split at h
    · next n hread =>
      split at h
      · next hrange =>
        cases h
        have hn : n ≠ 0 := by
          rintro rfl
          simp at hrange
        exact (Number.plain_of_readNat hread hn).symm
      · cases h
    · cases h

/-- **What is known of a response**: it has the status of its key, and the type of its schema. -/
theorem responseOf_eq_ok {response : ResponseItem} {r : Response}
    (h : responseOf types operation response = .ok r) :
    statusKey operation response.key = .ok r.status ∧
      response.schema.mapM (types.schemaType s!"{operation}: response {r.status.text}")
        = .ok r.schema := by
  obtain ⟨status, hstatus, h⟩ := bind_eq_ok.mp h
  obtain ⟨schema, hschema, h⟩ := bind_eq_ok.mp h
  cases h
  exact ⟨hstatus, hschema⟩

theorem text_of_responseOf {response : ResponseItem} {r : Response}
    (h : responseOf types operation response = .ok r) :
    r.status.text = Number.plain response.key :=
  text_of_statusKey (responseOf_eq_ok h).1

/-- **What is known of a description**: its parameters and responses are those of its item. -/
theorem describe_eq_ok_iff : describe types path item = .ok o ↔
    ∃ parameters responses,
      parametersFrom types (operationId path.path item) {}
          (mergedParameters path.parameters item.parameters) = .ok parameters ∧
        PathTemplate.checkPlaceholders (operationId path.path item) path.path parameters = .ok () ∧
        item.responses.mapM (responseOf types (operationId path.path item)) = .ok responses ∧
        o = {
          id := operationId path.path item, parameters
          method := item.method
          pathTemplate := path.path
          summary := item.summary
          description := item.description
          responses := responses.mergeSort fun a b => a.status.le b.status } := by
  constructor
  · intro h
    obtain ⟨parameters, hparameters, h⟩ := bind_eq_ok.mp h
    obtain ⟨_, hplaceholders, h⟩ := bind_eq_ok.mp h
    obtain ⟨responses, hresponses, h⟩ := bind_eq_ok.mp h
    cases h
    exact ⟨parameters, responses, hparameters, hplaceholders, hresponses, rfl⟩
  · rintro ⟨parameters, responses, hparameters, hplaceholders, hresponses, rfl⟩
    refine bind_eq_ok.mpr ⟨parameters, hparameters, ?_⟩
    refine bind_eq_ok.mpr ⟨(), hplaceholders, ?_⟩
    exact bind_eq_ok.mpr ⟨responses, hresponses, rfl⟩

/-- **The responses of an operation are those of its item, sorted.** -/
theorem responses_of_describe (h : describe types path item = .ok o) :
    (o.responses.map (·.status.text)).Perm (item.responses.map fun r => Number.plain r.key) ∧
      o.responses.Pairwise fun a b => a.status.le b.status = true := by
  obtain ⟨parameters, responses, -, -, hresponses, rfl⟩ := describe_eq_ok_iff.mp h
  constructor
  · rw [← map_of_mapM (fun _ _ hr => text_of_responseOf hr) hresponses]
    exact (List.mergeSort_perm _ _).map _
  · exact List.pairwise_mergeSort
      (fun (a b c : Response) => StatusKey.le_trans a.status b.status c.status)
      (fun (a b : Response) => StatusKey.le_total a.status b.status) responses

/-- Each operation of a document describes an item of a path. -/
theorem exists_of_mem_operations {ops : List Operation}
    (h : operations types document = .ok ops) (ho : o ∈ ops) :
    ∃ path ∈ document.paths, ∃ item ∈ path.operations, describe types path item = .ok o := by
  obtain ⟨⟨path, item⟩, hmem, hdescribe⟩ := exists_of_mem_mapM h ho
  obtain ⟨path', hpath, hitem⟩ := List.mem_flatMap.mp hmem
  obtain ⟨item', hitem, heq⟩ := List.mem_map.mp hitem
  cases heq
  exact ⟨path, (List.mergeSort_perm _ _).mem_iff.mp hpath, item,
    (List.mergeSort_perm _ _).mem_iff.mp hitem, hdescribe⟩

/-- The operation of a document that has a single one. -/
theorem operations_single {path : PathItem} {item : OperationItem} (hpaths : document.paths = [path])
    (hitems : path.operations = [item]) (h : describe types path item = .ok o) :
    operations types document = .ok [o] := by
  have hsorted : sortedPaths document = [path] := by
    rw [sortedPaths, hpaths]
    exact List.mergeSort_singleton _
  have hsorted' : sortedOperations path = [item] := by
    rw [sortedOperations, hitems]
    exact List.mergeSort_singleton _
  rw [operations, hsorted, List.flatMap_singleton, hsorted', List.map_singleton, List.mapM_cons]
  show (do let o ← describe types path item; _) = _
  rw [h]
  rfl

/-! ## The strict order -/

/-- Sorted responses ascend strictly exactly if no two of them have the same status. -/
theorem pairwise_lt_iff {responses : List Response}
    (h : responses.Pairwise fun a b => a.status.le b.status = true) :
    (responses.Pairwise fun a b => a.status.lt b.status) ↔
      (responses.map (·.status.text)).Nodup := by
  have htext : responses.map (·.status.text) = (responses.map (·.status)).map StatusKey.text := by
    rw [List.map_map]
    rfl
  rw [htext, List.nodup_map_iff StatusKey.text_injective, List.Nodup, List.pairwise_map]
  constructor
  · exact fun hlt => hlt.imp fun hab => hab.2
  · exact fun hne => h.and hne

/-- The texts of the statuses under which no response has a variant of its own. -/
def unownedTexts : List String := ["400", "500", "default"]

theorem mem_unownedTexts (status : StatusKey) :
    status.text ∈ unownedTexts ↔ ∀ n, status = .code n → n = 400 ∨ n = 500 := by
  have htexts : unownedTexts = [StatusKey.code 400, .code 500, .default].map StatusKey.text := rfl
  rw [htexts, List.mem_map_of_injective StatusKey.text_injective]
  cases status with
  | code m => simp
  | default => simp

/-- The text of a status that is an own code is the one that is not left out. -/
theorem ownText (r : Response) :
    (Code.ownCode? r).map toString =
      if r.status.text ∈ unownedTexts then none else some r.status.text := by
  cases hown : Code.ownCode? r with
  | none =>
    have hin : r.status.text ∈ unownedTexts := by
      refine (mem_unownedTexts _).mpr fun n hstatus => ?_
      by_contra hne
      rw [Code.ownCode?_eq_some.mpr ⟨hstatus, not_or.mp hne⟩] at hown
      cases hown
    rw [if_pos hin]
    rfl
  | some n =>
    obtain ⟨hstatus, h400, h500⟩ := Code.ownCode?_eq_some.mp hown
    have hout : r.status.text ∉ unownedTexts := fun hin =>
      ((mem_unownedTexts _).mp hin n hstatus).elim h400 h500
    rw [if_neg hout, hstatus]
    rfl

/-- The texts of the own codes are those of the statuses that are not left out. -/
theorem ownTexts (types : TypeMap) (o : Operation) :
    ((Code.ownVariants types o).map (·.status)).map toString =
      (o.responses.map (·.status.text)).filter (· ∉ unownedTexts) := by
  have hown : ((Code.ownVariants types o).map (·.status)).map toString =
      o.responses.filterMap fun r => (Code.ownCode? r).map toString := by
    simp only [Code.ownVariants, Code.ownVariant?, List.map_filterMap, Option.map_map]
    rfl
  rw [hown]
  induction o.responses with
  | nil => rfl
  | cons r rest ih =>
    rw [List.filterMap_cons, ownText, ih, List.map_cons, List.filter_cons]
    by_cases hin : r.status.text ∈ unownedTexts <;> simp [hin]

/-- **The responses of every operation stand in ascending order.  The order is strict exactly if no
two of their keys have the same plain form, and the types of the operation have distinct variants
exactly if no two of the keys do that stand for a variant.** -/
theorem responses_ascend_iff {ops : List Operation} (h : operations types document = .ok ops) :
    ∀ o ∈ ops, ∃ path ∈ document.paths, ∃ item ∈ path.operations,
      describe types path item = .ok o ∧
      (o.responses.Pairwise fun a b => a.status.le b.status = true) ∧
      ((o.responses.Pairwise fun a b => a.status.lt b.status) ↔
        (item.responses.map fun r => Number.plain r.key).Nodup) ∧
      ∀ c, Code.compile types o = .ok c →
        (((c.successes.map (·.name)).Nodup ∧
            (c.failures.map (·.name) ++ ["BadRequest", "InternalError"]).Nodup) ↔
          ((item.responses.map fun r => Number.plain r.key).filter (· ∉ unownedTexts)).Nodup) := by
  intro o ho
  obtain ⟨path, hpath, item, hitem, hdescribe⟩ := exists_of_mem_operations h ho
  obtain ⟨hkeys, hsorted⟩ := responses_of_describe hdescribe
  refine ⟨path, hpath, item, hitem, hdescribe, hsorted, ?_, fun c hcompile => ?_⟩
  · rw [pairwise_lt_iff hsorted, hkeys.nodup_iff]
  · have hparts := Code.parts_of_variantsOf (Code.compiled_of_compile hcompile).variants
    rw [← (hkeys.filter _).nodup_iff, ← ownTexts types, List.nodup_map_iff Number.digits_injective]
    exact hparts.names_nodup_iff

/-! ## A document of one operation -/

/-- An operation whose responses have the given keys. -/
def listItems (keys : List String) : OperationItem where
  method := .get
  operationId := some "listItems"
  summary := none
  description := none
  parameters := []
  responses := keys.map fun key => ⟨key, none, none⟩

/-- A document of that operation. -/
def itemsDocument (keys : List String) : Document where
  title := "Items"
  version := "1.0"
  description := none
  basePath := ""
  paths := [⟨"/items", [], [listItems keys]⟩]
  definitions := []

/-- The value that the document is read from. -/
def itemsValue (keys : List String) : Value :=
  .object
    [("info", .object [("title", .string "Items"), ("version", .string "1.0")]),
      ("paths", .object [("/items", .object [("get", .object
        [("operationId", .string "listItems"),
          ("responses", .object (keys.map fun key => (key, .object [])))])])]),
      ("swagger", .string "2.0")]

/-- What the operation is generated from. -/
def itemsOperation (statuses : List StatusKey) : Operation where
  id := "listItems"
  method := .get
  pathTemplate := "/items"
  summary := none
  description := none
  parameters := []
  responses := statuses.map fun status => ⟨status, none, none⟩

theorem responses_items {keys : List String} {statuses : List StatusKey}
    (hkeys : List.Forall₂ (fun key status => statusKey "listItems" key = .ok status) keys
      statuses) :
    (listItems keys).responses.mapM (responseOf types "listItems") =
      .ok (itemsOperation statuses).responses := by
  simp only [listItems, itemsOperation]
  induction hkeys with
  | nil => rfl
  | cons hkey _ ih =>
    rw [List.map_cons, List.mapM_cons, ih, responseOf, hkey]
    rfl

theorem describe_items {keys : List String} {statuses : List StatusKey}
    (hkeys : List.Forall₂ (fun key status => statusKey "listItems" key = .ok status) keys statuses)
    (hsorted : statuses.Pairwise fun a b => a.le b = true) :
    describe types ⟨"/items", [], [listItems keys]⟩ (listItems keys) =
      .ok (itemsOperation statuses) := by
  have hid : operationId "/items" (listItems keys) = "listItems" := by rfl
  have hparameters :
      parametersFrom types "listItems" {} (mergedParameters [] (listItems keys).parameters) = .ok [] :=
    rfl
  have hplaceholders : PathTemplate.checkPlaceholders "listItems" "/items" [] = .ok () := by
    decide +kernel
  have hsort : (itemsOperation statuses).responses.mergeSort (fun a b => a.status.le b.status) =
      (itemsOperation statuses).responses :=
    List.mergeSort_of_pairwise (List.pairwise_map.mpr hsorted)
  simp only [describe, hid, hparameters, hplaceholders, responses_items hkeys, bind, Except.bind,
    hsort]
  rfl

/-- The document has the one operation, if its keys are those of statuses in ascending order. -/
theorem operations_items {keys : List String} {statuses : List StatusKey}
    (hkeys : List.Forall₂ (fun key status => statusKey "listItems" key = .ok status) keys statuses)
    (hsorted : statuses.Pairwise fun a b => a.le b = true) :
    operations types (itemsDocument keys) = .ok [itemsOperation statuses] :=
  operations_single rfl rfl (describe_items hkeys hsorted)

/-- The responses of keys in plain form ascend strictly. -/
theorem responses_ascend_iff_plain :
    operations {} (itemsDocument ["200", "404", "default"]) =
        .ok [itemsOperation [.code 200, .code 404, .default]] ∧
      (itemsOperation [.code 200, .code 404, .default]).responses.Pairwise
        fun a b => a.status.lt b.status := by
  have hwalk : operations {} (itemsDocument ["200", "404", "default"]) =
      .ok [itemsOperation [.code 200, .code 404, .default]] :=
    operations_items
      (.cons (by decide +kernel) (.cons (by decide +kernel) (.cons (by decide +kernel) .nil)))
      (by decide)
  refine ⟨hwalk, ?_⟩
  obtain ⟨path, hpath, item, hitem, -, -, hstrict, -⟩ :=
    responses_ascend_iff hwalk _ List.mem_cons_self
  obtain rfl := List.mem_singleton.mp hpath
  obtain rfl := List.mem_singleton.mp hitem
  exact hstrict.mpr (by decide +kernel)

/-- **Two keys of one status are accepted**: the responses do not ascend strictly, and two
successes have the same name. -/
theorem repeated_status_accepted :
    Document.ofJson (itemsValue ["+200", "200"]) = .ok (itemsDocument ["+200", "200"]) ∧
      operations {} (itemsDocument ["+200", "200"]) =
        .ok [itemsOperation [.code 200, .code 200]] ∧
      (¬(itemsOperation [.code 200, .code 200]).responses.Pairwise
        fun a b => a.status.lt b.status) ∧
      ∃ c, Code.compile {} (itemsOperation [.code 200, .code 200]) = .ok c ∧
        ¬(c.successes.map (·.name)).Nodup := by
  refine ⟨rfl, ?_, ?_, ?_⟩
  · exact operations_items (.cons (by decide +kernel) (.cons (by decide +kernel) .nil)) (by decide)
  · intro hstrict
    exact ((List.pairwise_cons.mp hstrict).1 _ List.mem_cons_self).2 rfl
  · have hok : (Code.compile {} (itemsOperation [.code 200, .code 200])).isOk = true := by
      decide +kernel
    have hvariants : Code.variantsOf {} (itemsOperation [.code 200, .code 200]) =
        .ok ([⟨"Ok", 200, none⟩, ⟨"Ok", 200, none⟩], []) := by decide +kernel
    cases hcompile : Code.compile {} (itemsOperation [.code 200, .code 200]) with
    | error e => rw [hcompile] at hok; cases hok
    | ok c =>
      have heq := hvariants.symm.trans (Code.compiled_of_compile hcompile).variants
      have hsuccesses : [⟨"Ok", 200, none⟩, ⟨"Ok", 200, none⟩] = c.successes :=
        congrArg Prod.fst (Except.ok.inj heq)
      refine ⟨c, rfl, ?_⟩
      rw [← hsuccesses]
      decide

end Walk

end ApiScaffold
