import ApiScaffold.Proofs.Sorting
import ApiScaffold.Proofs.Text.Utf8
import ApiScaffold.Proofs.Walk.Responses

/-!
# The order of the operations of a document

The operations of a document stand in the order of their paths and, within a path, of their
methods; the responses of each stand in the order of their statuses.  Where no path, no method of
a path and no status of an operation occurs twice, that is the only such order: the order in which
a document lists its paths, the operations of a path and the responses of an operation does not
show.

The walk describes the items of a document one by one (`items`), so what is said of two documents
comes down to their items.  Those of a rearranged document are the same but for the order of
their responses (`forall₂_items`), and such an item has the same description (`describe_alike`).
Where an item has none, the two documents may report different faults, but both report one.

* `Document.Rearranged`: the same document with its lists in another order.
* `Document.KeysDiffer`: no path, no method of a path and no status of an operation occurs twice.
* `Operation.Before`: the order of the operations.
* `operations_ordered`: **each item of a document has one operation, and the operations ascend
  strictly.**
* `operations_rearranged`: **a rearranged document has the same operations.**
-/

namespace ApiScaffold

/-! ## Documents in another order -/

/-- The same operation with its responses in another order. -/
def OperationItem.Rearranged (a b : OperationItem) : Prop :=
  ∃ responses, a.responses.Perm responses ∧ b = { a with responses }

/-- The same path with its operations in another order, and their responses as well. -/
def PathItem.Rearranged (a b : PathItem) : Prop :=
  ∃ items operations, a.operations.Perm items ∧
    List.Forall₂ OperationItem.Rearranged items operations ∧ b = { a with operations }

/-- The same document with its paths in another order, and their operations as well. -/
def Document.Rearranged (a b : Document) : Prop :=
  ∃ items paths, a.paths.Perm items ∧ List.Forall₂ PathItem.Rearranged items paths ∧
    b = { a with paths }

/-- No two keys of an operation have the same status. -/
def OperationItem.StatusesDiffer (item : OperationItem) : Prop :=
  item.responses.Pairwise fun a b => ∀ operation status,
    Walk.statusKey operation a.key = .ok status → Walk.statusKey operation b.key ≠ .ok status

/-- No path, no method of a path and no status of an operation occurs twice. -/
structure Document.KeysDiffer (document : Document) : Prop where
  paths : (document.paths.map (·.path)).Nodup
  methods : ∀ path ∈ document.paths, (path.operations.map (·.method)).Nodup
  statuses : ∀ path ∈ document.paths, ∀ item ∈ path.operations, item.StatusesDiffer

/-- The order of the operations: by the bytes of the path, then by the name of the method. -/
def Operation.Before (a b : Operation) : Prop :=
  Text.utf8 a.pathTemplate < Text.utf8 b.pathTemplate ∨
    a.pathTemplate = b.pathTemplate ∧ a.method.name < b.method.name

/-! ## The three orders -/

theorem StatusKey.keyOrder : KeyOrder StatusKey.le where
  trans := StatusKey.le_trans
  total := StatusKey.le_total
  antisymm a b hab hba := by
    cases a with
    | code m =>
      cases b with
      | code n =>
        simp only [StatusKey.le, decide_eq_true_eq] at hab hba
        rw [Nat.le_antisymm hab hba]
      | default => cases hba
    | default =>
      cases b with
      | code n => cases hab
      | default => rfl

theorem keyOrder_nat : KeyOrder fun m n : Nat => decide (m ≤ n) where
  trans a b c hab hbc := by simp only [decide_eq_true_eq] at hab hbc ⊢; omega
  total a b := by simp only [Bool.or_eq_true, decide_eq_true_eq]; omega
  antisymm a b hab hba := by simp only [decide_eq_true_eq] at hab hba; omega

theorem keyOrder_string : KeyOrder fun s t : String => decide (s ≤ t) where
  trans a b c hab hbc := by
    simp only [decide_eq_true_eq] at hab hbc ⊢
    exact String.le_trans hab hbc
  total a b := by
    simp only [Bool.or_eq_true, decide_eq_true_eq]
    exact String.le_total a b
  antisymm a b hab hba := by
    simp only [decide_eq_true_eq] at hab hba
    exact String.le_antisymm hab hba

namespace Web.Method

theorem rank_injective : Function.Injective rank := by
  intro a b
  cases a <;> cases b <;> decide

/-- The methods are ranked by their names. -/
theorem rank_lt_iff {a b : Method} : a.rank < b.rank ↔ a.name < b.name := by
  cases a <;> cases b <;> decide

end Web.Method

namespace Walk

variable {types : TypeMap} {document document' : Document} {path path' : PathItem}
  {item item' : OperationItem} {o : Operation} {ops : List Operation}

/-! ## One item -/

/-- A description carries the path and the method of its item. -/
theorem place_of_describe (h : describe types path item = .ok o) :
    o.pathTemplate = path.path ∧ o.method = item.method := by
  obtain ⟨parameters, responses, -, -, -, rfl⟩ := describe_eq_ok_iff.mp h
  exact ⟨rfl, rfl⟩

/-- Responses of keys with different statuses have different statuses. -/
theorem statuses_nodup {operation : String} {responses : List Response}
    (hdiffer : item.StatusesDiffer)
    (h : item.responses.mapM (responseOf types operation) = .ok responses) :
    (responses.map (·.status)).Nodup := by
  refine List.pairwise_map.mpr (pairwise_of_forall₂ ?_ (forall₂_of_mapM h) hdiffer)
  intro a a' r r' ha ha' hkeys heq
  refine hkeys operation r.status (responseOf_eq_ok ha).1 ?_
  rw [(responseOf_eq_ok ha').1, heq]

/-- Keys with different plain forms have different statuses. -/
theorem statusesDiffer_of_plain (h : (item.responses.map fun r => Number.plain r.key).Nodup) :
    item.StatusesDiffer := by
  refine (List.pairwise_map.mp h).imp ?_
  intro a b hne operation status ha hb
  exact hne ((text_of_statusKey ha).symm.trans (text_of_statusKey hb))

theorem statusesDiffer_rearranged (hdiffer : item.StatusesDiffer) (h : item.Rearranged item') :
    item'.StatusesDiffer := by
  obtain ⟨responses, hperm, rfl⟩ := h
  refine (hperm.pairwise_iff ?_).mp hdiffer
  intro a b hab operation status hb ha
  exact hab operation status ha hb

/-- Two items of paths with the same text and the same parameters, of which one is the other in
another order. -/
structure Alike (a b : PathItem × OperationItem) : Prop where
  path : a.1.path = b.1.path
  parameters : a.1.parameters = b.1.parameters
  item : a.2.Rearranged b.2
  statuses : a.2.StatusesDiffer

theorem Alike.symm {a b : PathItem × OperationItem} (h : Alike a b) : Alike b a := by
  refine ⟨h.path.symm, h.parameters.symm, ?_, statusesDiffer_rearranged h.statuses h.item⟩
  obtain ⟨responses, hperm, hitem⟩ := h.item
  refine ⟨a.2.responses, ?_, ?_⟩
  · rw [hitem]
    exact hperm.symm
  · rw [hitem]

/-- **In another order an item has the same description.** -/
theorem describe_alike {a b : PathItem × OperationItem} (h : Alike a b)
    (ha : describe types a.1 a.2 = .ok o) : describe types b.1 b.2 = .ok o := by
  obtain ⟨parameters, responses, hparameters, hplaceholders, hresponses, rfl⟩ :=
    describe_eq_ok_iff.mp ha
  obtain ⟨responses', hperm, hitem⟩ := h.item
  obtain ⟨results, hresults, hsame⟩ := mapM_perm hperm.symm hresponses
  have hid : operationId b.1.path b.2 = operationId a.1.path a.2 := by rw [← h.path, hitem]; rfl
  refine describe_eq_ok_iff.mpr ⟨parameters, results, ?_, ?_, ?_, ?_⟩
  · rw [hid, ← h.parameters, hitem]
    exact hparameters
  · rw [hid, ← h.path]
    exact hplaceholders
  · rw [hid, hitem]
    exact hresults
  · -- the statuses differ, so there is one way to sort the responses
    have hsorted : (results.mergeSort fun a b => a.status.le b.status) =
        responses.mergeSort fun a b => a.status.le b.status :=
      (StatusKey.keyOrder.mergeSort_eq_of_perm Response.status hsame.symm
        (statuses_nodup h.statuses hresponses)).symm
    rw [hid, hsorted, hitem, ← h.path]

/-! ## The items of a document -/

/-- The items of a document, in the order in which they are described. -/
def items (document : Document) : List (PathItem × OperationItem) :=
  (sortedPaths document).flatMap fun path => (sortedOperations path).map (path, ·)

theorem operations_eq (types : TypeMap) (document : Document) :
    operations types document = (items document).mapM fun place => describe types place.1 place.2 := rfl

/-- The items are those of the paths of the document, in another order. -/
theorem items_perm (document : Document) :
    (items document).Perm
      (document.paths.flatMap fun path => path.operations.map (path, ·)) := by
  refine (List.mergeSort_perm _ _).flatMap fun path _ => ?_
  exact (List.mergeSort_perm _ _).map _

/-- The items of a document whose paths and their operations are listed in order. -/
theorem items_of_ordered
    (hpaths : document.paths.Pairwise fun a b => decide (a.path ≤ b.path) = true)
    (hmethods : ∀ path ∈ document.paths,
      path.operations.Pairwise fun a b => decide (a.method.rank ≤ b.method.rank) = true) :
    items document = document.paths.flatMap fun path => path.operations.map (path, ·) := by
  rw [items, sortedPaths, List.mergeSort_of_pairwise hpaths]
  refine List.flatMap_congr fun path hpath => ?_
  rw [sortedOperations, List.mergeSort_of_pairwise (hmethods path hpath)]

theorem ranks_nodup (h : (path.operations.map (·.method)).Nodup) :
    (path.operations.map (·.method.rank)).Nodup := by
  have hranks : path.operations.map (·.method.rank) =
      (path.operations.map (·.method)).map Web.Method.rank := by
    rw [List.map_map]
    rfl
  rw [hranks]
  exact h.map Web.Method.rank_injective

/-- **The items ascend strictly**, by their paths and then by their methods. -/
theorem items_ascend (hpaths : (document.paths.map (·.path)).Nodup)
    (hmethods : ∀ path ∈ document.paths, (path.operations.map (·.method)).Nodup) :
    (items document).Pairwise fun a b =>
      a.1.path < b.1.path ∨ a.1.path = b.1.path ∧ a.2.method.rank < b.2.method.rank := by
  have hpaths : ((sortedPaths document).map (·.path)).Nodup :=
    ((List.mergeSort_perm document.paths _).map _).nodup_iff.mpr hpaths
  refine List.pairwise_flatMap.mpr ⟨fun path hpath => ?_, ?_⟩
  · have hmem : path ∈ document.paths := (List.mergeSort_perm _ _).mem_iff.mp hpath
    have hranks : ((sortedOperations path).map (·.method.rank)).Nodup :=
      ((List.mergeSort_perm path.operations _).map _).nodup_iff.mpr
        (ranks_nodup (hmethods path hmem))
    have hsorted := keyOrder_nat.sorted (fun i : OperationItem => i.method.rank) path.operations
    refine List.pairwise_map.mpr ((hsorted.and (List.pairwise_map.mp hranks)).imp ?_)
    rintro a b ⟨hle, hne⟩
    exact .inr ⟨rfl, Nat.lt_of_le_of_ne (of_decide_eq_true hle) hne⟩
  · have hsorted := keyOrder_string.sorted PathItem.path document.paths
    refine (hsorted.and (List.pairwise_map.mp hpaths)).imp ?_
    rintro a b ⟨hle, hne⟩ x hx y hy
    obtain ⟨_, -, rfl⟩ := List.mem_map.mp hx
    obtain ⟨_, -, rfl⟩ := List.mem_map.mp hy
    refine .inl (Classical.byContradiction fun hlt => hne ?_)
    exact String.le_antisymm (of_decide_eq_true hle) (String.not_lt.mp hlt)

/-- The items of a rearranged path are alike, in the order of their methods. -/
theorem forall₂_sortedOperations (h : path.Rearranged path')
    (hmethods : (path.operations.map (·.method)).Nodup)
    (hstatuses : ∀ item ∈ path.operations, item.StatusesDiffer) :
    List.Forall₂ Alike ((sortedOperations path).map (path, ·))
      ((sortedOperations path').map (path', ·)) := by
  obtain ⟨items, operations, hperm, halike, rfl⟩ := h
  have halike' : List.Forall₂ (fun a b => a.StatusesDiffer ∧ a.Rearranged b) items operations :=
    (List.forall₂_and_left _ _).mpr
      ⟨fun item hitem => hstatuses item (hperm.mem_iff.mpr hitem), halike⟩
  have hsorted := keyOrder_nat.forall₂_mergeSort (fun i : OperationItem => i.method.rank)
    (fun i : OperationItem => i.method.rank) (fun a b hab => ?_) hperm halike'
    (ranks_nodup hmethods)
  · refine List.forall₂_map_left_iff.mpr (List.forall₂_map_right_iff.mpr (hsorted.imp ?_))
    rintro a b ⟨hdiffer, hrearranged⟩
    exact ⟨rfl, rfl, hrearranged, hdiffer⟩
  · obtain ⟨-, responses, -, rfl⟩ := hab
    rfl

/-- **The items of a rearranged document are alike.** -/
theorem forall₂_items (hdiffer : document.KeysDiffer) (h : document.Rearranged document') :
    List.Forall₂ Alike (items document) (items document') := by
  obtain ⟨listed, paths, hperm, halike, rfl⟩ := h
  have halike' : List.Forall₂ (fun a b => a ∈ document.paths ∧ a.Rearranged b) listed paths :=
    (List.forall₂_and_left _ _).mpr ⟨fun path hpath => hperm.mem_iff.mpr hpath, halike⟩
  have hsorted := keyOrder_string.forall₂_mergeSort PathItem.path PathItem.path
    (fun a b hab => ?_) hperm halike' hdiffer.paths
  · refine List.rel_flatMap hsorted ?_
    rintro a b ⟨hmem, hrearranged⟩
    exact forall₂_sortedOperations hrearranged (hdiffer.methods a hmem) (hdiffer.statuses a hmem)
  · obtain ⟨-, items, operations, -, -, rfl⟩ := hab
    rfl

/-! ## The operations -/

/-- **Each item of a document has one operation, and the operations ascend strictly.** -/
theorem operations_ordered (hdiffer : document.KeysDiffer)
    (h : operations types document = .ok ops) :
    (∃ listed, listed.Perm (document.paths.flatMap fun path => path.operations.map (path, ·)) ∧
      List.Forall₂ (fun place o => describe types place.1 place.2 = .ok o ∧
        o.pathTemplate = place.1.path ∧ o.method = place.2.method) listed ops) ∧
      ops.Pairwise Operation.Before := by
  rw [operations_eq] at h
  have hdescribed : List.Forall₂ (fun place o => describe types place.1 place.2 = .ok o ∧
      o.pathTemplate = place.1.path ∧ o.method = place.2.method) (items document) ops :=
    (forall₂_of_mapM h).imp fun place o ho => ⟨ho, place_of_describe ho⟩
  refine ⟨⟨items document, items_perm document, hdescribed⟩, ?_⟩
  refine pairwise_of_forall₂ ?_ hdescribed (items_ascend hdiffer.paths hdiffer.methods)
  rintro a b o o' ⟨-, hpath, hmethod⟩ ⟨-, hpath', hmethod'⟩ hbefore
  rw [Operation.Before, hpath, hpath', hmethod, hmethod']
  rcases hbefore with hlt | ⟨heq, hlt⟩
  · exact .inl (Text.utf8_lt hlt)
  · exact .inr ⟨heq, Web.Method.rank_lt_iff.mp hlt⟩

/-- **A rearranged document has the same operations**, or, as the document itself, none. -/
theorem operations_rearranged (hdiffer : document.KeysDiffer) (h : document.Rearranged document') :
    operations types document' = .ok ops ↔ operations types document = .ok ops := by
  rw [operations_eq, operations_eq]
  refine (mapM_eq_ok_congr ?_).symm
  refine (forall₂_items hdiffer h).imp fun a b hab o => ?_
  exact ⟨describe_alike hab, describe_alike hab.symm⟩

/-- **The operations of a document do not show in which order it lists its paths, their operations
and their responses**: each item has one operation, the operations ascend strictly, and a
rearranged document has the same ones. -/
theorem operations_canonical (types : TypeMap) (document : Document)
    (hdiffer : document.KeysDiffer) :
    (∀ ops, operations types document = .ok ops →
      (∃ listed, listed.Perm (document.paths.flatMap fun path => path.operations.map (path, ·)) ∧
        List.Forall₂ (fun place o => describe types place.1 place.2 = .ok o ∧
          o.pathTemplate = place.1.path ∧ o.method = place.2.method) listed ops) ∧
        ops.Pairwise Operation.Before) ∧
      ∀ document', document.Rearranged document' → ∀ ops,
        operations types document' = .ok ops ↔ operations types document = .ok ops :=
  ⟨fun _ h => operations_ordered hdiffer h, fun _ h _ => operations_rearranged hdiffer h⟩

/-! ## Two orders of one document -/

/-- An operation without parameters. -/
def bareItem (id : String) (method : Web.Method) (keys : List String) : OperationItem where
  method := method
  operationId := some id
  summary := none
  description := none
  parameters := []
  responses := keys.map fun key => ⟨key, none, none⟩

/-- A document of some paths. -/
def shelfDocument (paths : List PathItem) : Document where
  title := "Shelf"
  version := "1.0"
  description := none
  basePath := ""
  paths := paths
  definitions := []

/-- Two paths in ascending order. -/
def shelfPaths : List PathItem :=
  [⟨"/book", [], [bareItem "read" .get ["200"]]⟩,
    ⟨"/shelf", [], [bareItem "look" .get ["200", "404"], bareItem "fill" .post ["201", "default"]]⟩]

/-- The two paths, their operations and the responses of these in another order. -/
def shelfPathsRearranged : List PathItem :=
  [⟨"/shelf", [], [bareItem "fill" .post ["default", "201"], bareItem "look" .get ["404", "200"]]⟩,
    ⟨"/book", [], [bareItem "read" .get ["200"]]⟩]

theorem bareItem_rearranged {keys keys' : List String} (id : String) (method : Web.Method)
    (h : keys.Perm keys') : (bareItem id method keys).Rearranged (bareItem id method keys') :=
  ⟨_, h.map _, rfl⟩

theorem shelf_rearranged :
    (shelfDocument shelfPaths).Rearranged (shelfDocument shelfPathsRearranged) := by
  have hbook : PathItem.Rearranged ⟨"/book", [], [bareItem "read" .get ["200"]]⟩
      ⟨"/book", [], [bareItem "read" .get ["200"]]⟩ :=
    ⟨_, _, .refl _, .cons (bareItem_rearranged _ _ (.refl _)) .nil, rfl⟩
  refine ⟨_, _, .swap _ _ _, .cons ?_ (.cons hbook .nil), rfl⟩
  exact ⟨_, _, .swap _ _ _, .cons (bareItem_rearranged _ _ (.swap _ _ _))
    (.cons (bareItem_rearranged _ _ (.swap _ _ _)) .nil), rfl⟩

theorem shelf_keysDiffer : (shelfDocument shelfPaths).KeysDiffer where
  paths := by decide
  methods := by decide
  statuses := by
    intro path hpath item hitem
    refine statusesDiffer_of_plain ?_
    revert path item
    decide +kernel

theorem operations_canonical_shelf :
    (shelfDocument shelfPaths).KeysDiffer ∧
      ∃ ops, operations {} (shelfDocument shelfPaths) = .ok ops ∧
        operations {} (shelfDocument shelfPathsRearranged) = .ok ops ∧
        ops.Pairwise Operation.Before ∧ ops.map (·.id) = ["read", "look", "fill"] := by
  have hitems : items (shelfDocument shelfPaths) =
      shelfPaths.flatMap fun path => path.operations.map (path, ·) := by
    have hsorted : ∀ path ∈ shelfPaths, sortedOperations path = path.operations := by
      intro path hpath
      refine List.mergeSort_of_pairwise ?_
      revert path
      decide
    rw [items, sortedPaths, List.mergeSort_of_pairwise (by decide)]
    exact List.flatMap_congr fun path hpath => by rw [hsorted path hpath]
  have hids : (operations {} (shelfDocument shelfPaths)).toOption.map (·.map (·.id)) =
      some ["read", "look", "fill"] := by
    rw [operations_eq, hitems]
    decide +kernel
  obtain ⟨hordered, hsame⟩ := operations_canonical {} _ shelf_keysDiffer
  cases hops : operations {} (shelfDocument shelfPaths) with
  | error e => rw [hops] at hids; cases hids
  | ok ops =>
    rw [hops] at hids
    refine ⟨shelf_keysDiffer, ops, rfl, (hsame _ shelf_rearranged ops).mpr hops,
      (hordered ops hops).2, Option.some.inj hids⟩

end Walk

end ApiScaffold
