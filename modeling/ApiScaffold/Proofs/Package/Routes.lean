import ApiScaffold.Package.Generate
import ApiScaffold.Proofs.Code.Names
import ApiScaffold.Proofs.Document.Keys
import ApiScaffold.Proofs.Operation.PathTemplate
import ApiScaffold.Proofs.Walk.Order

/-!
# The routes of a package

The operations of a document are grouped by their path templates, and each group is a route.  Two
templates are told apart by their texts, the names in their braces included; a router that is asked
with a path tells them apart by what stands around the names only, which is their **shape**.

A group is made by adding one handler after another, so what is known of the groups is shown by
induction on the operations from their end: the keys ascend, they are the templates that occur, and
under each stand the handlers of its operations.  These come in the order of the operations, so a
group has its methods in order if the operations are; and as no two functions share a name, a
handler is that of one operation.

* `PathTemplate.shape`: a template without its names; `shape_eq_iff`: **templates have the same
shape exactly if the texts around their names are the same.**
* `exists_templates`: **there is one route for each template, in ascending order, with the handlers
of the template's operations.**
* `routes_unambiguous_iff`: **the routes of a document have different shapes exactly if its paths
with operations have.**
* `renamed_routes_accepted`: a document whose paths have not.
* `operations_routed_once`: **each operation that a text declares has one handler, in the route of
its path and for its method.**
-/

namespace ApiScaffold

/-! ## The shape of a template -/

namespace PathTemplate

/-- The text of parts without the names. -/
def nameless (tail : List Char) (holes : List Hole) : List Char :=
  fillChars (fun _ => "\x7b\x7d") tail holes

/-- A template with the names in its braces left out. -/
def shape (template : String) : String := (parts template).write fun _ => "\x7b\x7d"

variable {tail tail' : List Char} {hole : Hole} {holes holes' : List Hole}
  {cs text before rest : List Char} {s t : String}

theorem nameless_cons :
    nameless tail (hole :: holes) = hole.before ++ '\x7b' :: '\x7d' :: nameless tail holes := by
  have hbraces : "\x7b\x7d".toList = ['\x7b', '\x7d'] := by decide
  rw [nameless, fillChars, hbraces]
  rfl

/-- A text is split in one way at its first mark. -/
theorem marked_inj {mark : Char} {u v xs ys : List Char} (hu : mark ∉ u) (hv : mark ∉ v) :
    u ++ mark :: xs = v ++ mark :: ys ↔ u = v ∧ xs = ys := by
  constructor
  · intro heq
    have hprefix : u ++ mark :: xs <+: v ++ mark :: ys := ⟨[], (List.append_nil _).trans heq⟩
    obtain ⟨rfl, -⟩ := (closed_before_iff hu hv).mp hprefix
    exact ⟨rfl, (List.cons.inj (List.append_cancel_left heq)).2⟩
  · rintro ⟨rfl, rfl⟩
    rfl

theorem nameless_inj (h : Unclosed tail) (h' : Unclosed tail') :
    nameless tail holes = nameless tail' holes' ↔
      holes.map (·.before) = holes'.map (·.before) ∧ tail = tail' := by
  induction holes generalizing holes' with
  | nil =>
    cases holes' with
    | nil => exact (and_iff_right rfl).symm
    | cons hole' holes' =>
      -- the braces of a name are closed, those of a tail are not
      refine iff_of_false (fun heq => ?_) (by simp)
      exact h hole'.before _ (heq.trans nameless_cons) List.mem_cons_self
  | cons hole holes ih =>
    cases holes' with
    | nil =>
      refine iff_of_false (fun heq => ?_) (by simp)
      exact h' hole.before _ (heq.symm.trans nameless_cons) List.mem_cons_self
    | cons hole' holes' =>
      rw [nameless_cons, nameless_cons, marked_inj hole.plain hole'.plain, List.cons.injEq,
        and_iff_right rfl, ih, List.map_cons, List.map_cons, List.cons.injEq, and_assoc]

/-- **Two templates have the same shape exactly if the texts around their names are the same.** -/
theorem shape_eq_iff : shape s = shape t ↔
    (parts s).holes.map (·.before) = (parts t).holes.map (·.before) ∧
      (parts s).tail = (parts t).tail := by
  rw [shape, shape, Parts.write, Parts.write, String.ofList_inj]
  exact nameless_inj (parts s).unclosed (parts t).unclosed

/-! ## The shape of a template behind a base -/

/-- The text of a template without the names. -/
def shapeChars (cs : List Char) : List Char := nameless (partsOf cs).tail (partsOf cs).holes

theorem shape_eq (template : String) :
    shape template = String.ofList (shapeChars template.toList) := rfl

/-- The shape by the recursion over the names. -/
theorem shapeChars_eq (cs : List Char) : shapeChars cs =
    ((cutAt '\x7b' cs).bind fun (before, rest) => (cutAt '\x7d' rest).map fun (_, rest') =>
      before ++ '\x7b' :: '\x7d' :: shapeChars rest').getD cs := by
  rw [shapeChars]
  fun_cases partsOf cs with
  | case1 hopen => simp [hopen, nameless, fillChars]
  | case2 before rest hopen hclose => simp [hopen, hclose, nameless, fillChars]
  | case3 before rest hopen name rest' hclose p =>
    simp only [hopen, hclose, Option.bind_some, Option.map_some, Option.getD_some]
    exact nameless_cons

theorem shapeChars_append_of_not_mem (h : '\x7b' ∉ text) :
    shapeChars (text ++ cs) = text ++ shapeChars cs := by
  rw [shapeChars_eq, shapeChars_eq cs, cutAt_append h]
  cases cutAt '\x7b' cs with
  | none => rfl
  | some cut =>
    cases hclose : cutAt '\x7d' cut.2 with
    | none => simp [hclose]
    | some _ => simp [hclose]

theorem shapeChars_hole {name : List Char} (hbefore : '\x7b' ∉ before) (hname : '\x7d' ∉ name) :
    shapeChars (before ++ '\x7b' :: (name ++ '\x7d' :: rest)) =
      before ++ '\x7b' :: '\x7d' :: shapeChars rest := by
  rw [shapeChars_eq, cutAt_marked hbefore, Option.bind_some]
  dsimp only
  rw [cutAt_marked hname]
  rfl

/-- Behind a text whose braces are closed the names are found where they are without it. -/
theorem shapeChars_append (h : '\x7b' ∉ (partsOf text).tail) :
    shapeChars (text ++ cs) = shapeChars text ++ shapeChars cs := by
  fun_induction partsOf text with
  | case1 text hopen =>
    rw [shapeChars_append_of_not_mem h, shapeChars_eq text, hopen]
    rfl
  | case2 text before rest hopen hclose =>
    obtain ⟨rfl, -⟩ := eq_of_cutAt hopen
    exact absurd (List.mem_append_right before List.mem_cons_self) h
  | case3 text before rest hopen name rest' hclose p ih =>
    obtain ⟨rfl, hbefore⟩ := eq_of_cutAt hopen
    obtain ⟨rfl, hname⟩ := eq_of_cutAt hclose
    rw [List.append_assoc, List.cons_append, List.append_assoc, List.cons_append,
      shapeChars_hole hbefore hname, shapeChars_hole hbefore hname, ih h]
    simp

theorem shape_append {base : String} (h : '\x7b' ∉ (parts base).tail) (template : String) :
    shape (base ++ template) = shape base ++ shape template := by
  rw [shape_eq, shape_eq, shape_eq, String.toList_append, shapeChars_append h,
    String.ofList_append]

end PathTemplate

/-! ## The operations by their paths -/

open Code (OperationCode)

variable {codes : List OperationCode} {c : OperationCode} {template : String}

/-- What answers an operation. -/
def handlerOf (c : OperationCode) : Handler := ⟨c.method, c.functionName⟩

/-- What answers the operations of a template. -/
def handlersOf (codes : List OperationCode) (template : String) : List Handler :=
  (codes.filter (·.pathTemplate = template)).map handlerOf

/-- The handlers of the templates that occur. -/
def groupsOf (codes : List OperationCode) : List (String × List Handler) :=
  codes.foldl (fun groups c => addHandler c.pathTemplate (handlerOf c) groups) []

theorem routesOf_eq (basePath : String) (codes : List OperationCode) : routesOf basePath codes =
    (groupsOf codes).map fun group => ⟨basePath ++ group.1, group.2⟩ := rfl

theorem groupsOf_concat : groupsOf (codes ++ [c]) =
    addHandler c.pathTemplate (handlerOf c) (groupsOf codes) := List.foldl_concat ..

theorem ascending_groupsOf (codes : List OperationCode) : Json.Ascending (groupsOf codes) := by
  induction codes using List.reverseRecOn with
  | nil => exact .nil
  | append_singleton codes c ih =>
    rw [groupsOf_concat]
    exact Json.ascending_setMember ih

theorem mem_keys_groupsOf :
    template ∈ (groupsOf codes).map (·.1) ↔ template ∈ codes.map (·.pathTemplate) := by
  induction codes using List.reverseRecOn with
  | nil => rfl
  | append_singleton codes c ih =>
    rw [groupsOf_concat, addHandler, Json.mem_keys_setMember, ih, List.map_append, List.mem_append,
      List.map_singleton, List.mem_singleton, or_comm]

theorem handlersOf_concat : handlersOf (codes ++ [c]) template =
    handlersOf codes template ++ if c.pathTemplate = template then [handlerOf c] else [] := by
  rw [handlersOf, List.filter_append, List.map_append, List.filter_singleton]
  split <;> simp_all [handlersOf]

/-- **The handlers under a template are those of its operations**, in their order. -/
theorem memberOf?_groupsOf : (Json.memberOf? (groupsOf codes) template).getD [] =
    handlersOf codes template := by
  induction codes using List.reverseRecOn generalizing template with
  | nil => rfl
  | append_singleton codes c ih =>
    -- the handler is added under its own template, behind those that are there
    rw [groupsOf_concat, addHandler, Json.memberOf?_setMember, handlersOf_concat, ih]
    by_cases h : template = c.pathTemplate
    · rw [if_pos h, if_pos h.symm, h]
      rfl
    · rw [if_neg h, if_neg (Ne.symm h), ih, List.append_nil]

/-- **The routes of some operations**: there is one for each template, in ascending order, with
the handlers of the template's operations. -/
theorem exists_templates (basePath : String) (codes : List OperationCode) :
    ∃ templates : List String, templates.Pairwise (· < ·) ∧
      (∀ template, template ∈ templates ↔ template ∈ codes.map (·.pathTemplate)) ∧
      routesOf basePath codes =
        templates.map fun template => ⟨basePath ++ template, handlersOf codes template⟩ := by
  have hascending := ascending_groupsOf codes
  refine ⟨(groupsOf codes).map (·.1), ?_, fun _ => mem_keys_groupsOf, ?_⟩
  · exact List.pairwise_map.mpr hascending
  · rw [routesOf_eq, List.map_map]
    refine List.map_congr_left fun group hgroup => ?_
    have hhandlers := (Json.memberOf?_eq_some_iff hascending).mpr hgroup
    rw [Function.comp_apply, ← memberOf?_groupsOf, hhandlers, Option.getD_some]

/-! ## The routes of a document -/

open PathTemplate (shape parts)

variable {types : TypeMap} {document : Document} {ops : List Operation}

/-- A path of a document that has an operation. -/
def Document.Routes (document : Document) (path : String) : Prop :=
  ∃ p ∈ document.paths, p.operations ≠ [] ∧ p.path = path

/-- The path of an operation and its method. -/
def placeOf (c : OperationCode) : String × Web.Method := (c.pathTemplate, c.method)

/-- The code of a document's operations carries their paths and their methods. -/
theorem places_eq (hwalk : Walk.operations types document = .ok ops)
    (hcompile : Code.compileAll types ops = .ok codes) :
    codes.map placeOf = (Walk.items document).map fun item => (item.1.path, item.2.method) := by
  rw [Walk.operations_eq] at hwalk
  have hops : (ops.map fun o => (o.pathTemplate, o.method)) =
      (Walk.items document).map fun item => (item.1.path, item.2.method) :=
    map_of_mapM (fun _ _ h => Prod.ext_iff.mpr (Walk.place_of_describe h)) hwalk
  have hcodes : codes.map placeOf = ops.map fun o => (o.pathTemplate, o.method) :=
    map_of_mapM (fun _ _ h => Prod.ext_iff.mpr (Code.place_of_compile h))
      (mapM_of_forall₂ (Code.compileAll_ok_iff.mp hcompile).1)
  rw [hcodes, hops]

/-- The code is of the operations of the document, in another order. -/
theorem places_perm (hwalk : Walk.operations types document = .ok ops)
    (hcompile : Code.compileAll types ops = .ok codes) :
    (codes.map placeOf).Perm document.places := by
  have hitems := (Walk.items_perm document).map fun item => (item.1.path, item.2.method)
  simp only [List.map_flatMap, List.map_map] at hitems
  rw [places_eq hwalk hcompile]
  exact hitems

/-- The templates of the code are the paths that have an operation. -/
theorem mem_pathTemplates (hwalk : Walk.operations types document = .ok ops)
    (hcompile : Code.compileAll types ops = .ok codes) :
    template ∈ codes.map (·.pathTemplate) ↔ document.Routes template := by
  have hmem := ((places_perm hwalk hcompile).map Prod.fst).mem_iff (a := template)
  rw [List.map_map, Document.places, List.map_flatMap, List.mem_flatMap] at hmem
  refine hmem.trans (exists_congr fun p => and_congr_right fun _ => ?_)
  cases p.operations with
  | nil => simp
  | cons item items => simp [eq_comm]

/-- No two routes of a plan are the same but for the names in their braces. -/
def Plan.Unambiguous (p : Plan) : Prop :=
  (p.routes.map (·.path)).Pairwise fun s t => shape s ≠ shape t

theorem unambiguous_iff {p : Plan} {templates : List String} (hnodup : templates.Nodup)
    (hroutes : p.routes.map (·.path) = templates.map (p.basePath ++ ·)) :
    p.Unambiguous ↔ ∀ s ∈ templates, ∀ t ∈ templates,
      shape (p.basePath ++ s) = shape (p.basePath ++ t) → s = t := by
  rw [← List.nodup_map_iff_inj_on hnodup, Plan.Unambiguous, hroutes, List.pairwise_map]
  exact List.pairwise_map.symm

/-- **When the routes of a package are told apart.**  For a document that is compiled, there is one
route for each path with an operation.  Their shapes differ exactly if no two such paths have the
same shape behind the base, or, where the braces of the base are closed, no two have the same
shape at all. -/
theorem routes_unambiguous_iff (request : PackageRequest)
    (hwalk : Walk.operations types document = .ok ops)
    (hcompile : Code.compileAll types ops = .ok codes) :
    ((Plan.of request document codes).routes.map (·.path)).Nodup ∧
      (∀ path, path ∈ (Plan.of request document codes).routes.map (·.path) ↔
        ∃ template, document.Routes template ∧ document.basePath ++ template = path) ∧
      ((Plan.of request document codes).Unambiguous ↔
        ∀ s t, document.Routes s → document.Routes t →
          shape (document.basePath ++ s) = shape (document.basePath ++ t) → s = t) ∧
      ('\x7b' ∉ (parts document.basePath).tail →
        ((Plan.of request document codes).Unambiguous ↔
          ∀ s t, document.Routes s → document.Routes t → shape s = shape t → s = t)) := by
  obtain ⟨templates, hascending, hmem, hroutes⟩ := exists_templates document.basePath codes
  have hrouted : ∀ template, template ∈ templates ↔ document.Routes template := fun template =>
    (hmem template).trans (mem_pathTemplates hwalk hcompile)
  have hnodup : templates.Nodup := by
    refine hascending.imp ?_
    rintro s _ hlt rfl
    exact String.lt_irrefl s hlt
  have hpaths : (Plan.of request document codes).routes.map (·.path) =
      templates.map (document.basePath ++ ·) := by
    rw [Plan.routes]
    refine (congrArg _ hroutes).trans ?_
    rw [List.map_map]
    rfl
  have hshapes : (Plan.of request document codes).Unambiguous ↔
      ∀ s t, document.Routes s → document.Routes t →
        shape (document.basePath ++ s) = shape (document.basePath ++ t) → s = t := by
    rw [unambiguous_iff hnodup hpaths]
    simp only [hrouted]
    exact forall_congr' fun s => forall_comm
  refine ⟨?_, fun path => ?_, hshapes, fun hclosed => ?_⟩
  · rw [hpaths]
    exact hnodup.map fun s t heq => (String.append_right_inj _).mp heq
  · simp only [hpaths, List.mem_map, hrouted]
  · rw [hshapes]
    simp only [PathTemplate.shape_append hclosed, String.append_right_inj]

/-! ## Two templates -/

/-- An operation with one parameter, in its path. -/
def namedItem (id : String) (method : Web.Method) (name : String) : OperationItem where
  method := method
  operationId := some id
  summary := none
  description := none
  parameters := [{
    name
    location := "path"
    required := true
    description := none
    schema := .object [("in", .string "path"), ("name", .string name), ("required", .bool true),
      ("type", .string "string")] }]
  responses := []

/-- A document with a path for an item, and another path. -/
def itemsDocument (second : PathItem) : Document where
  title := "Items"
  version := "1.0"
  description := none
  basePath := ""
  paths := [⟨"/items/\x7bid\x7d", [], [namedItem "getItem" .get "id"]⟩, second]
  definitions := []

/-- A path behind that for an item. -/
def partsPath : PathItem :=
  ⟨"/items/\x7bid\x7d/parts", [], [namedItem "listParts" .get "id"]⟩

/-- The path for an item under another name. -/
def renamedPath : PathItem := ⟨"/items/\x7bname\x7d", [], [namedItem "dropItem" .delete "name"]⟩

/-- The paths of the routes of a document that lists its paths and their operations in order. -/
def routePaths (document : Document) : Except DocumentError (List String) := do
  let ops ← (document.paths.flatMap fun path => path.operations.map (path, ·)).mapM
    fun place => Walk.describe {} place.1 place.2
  let codes ← Code.compileAll {} ops
  pure ((routesOf document.basePath codes).map (·.path))

theorem exists_codes_of_routePaths {paths : List String}
    (hpaths : document.paths.Pairwise fun a b => decide (a.path ≤ b.path) = true)
    (hmethods : ∀ path ∈ document.paths,
      path.operations.Pairwise fun a b => decide (a.method.rank ≤ b.method.rank) = true)
    (h : routePaths document = .ok paths) :
    ∃ ops codes, Walk.operations {} document = .ok ops ∧ Code.compileAll {} ops = .ok codes ∧
      ∀ request, (Plan.of request document codes).routes.map (·.path) = paths := by
  rw [routePaths, ← Walk.items_of_ordered hpaths hmethods, ← Walk.operations_eq] at h
  obtain ⟨ops, hops, h⟩ := bind_eq_ok.mp h
  obtain ⟨codes, hcodes, h⟩ := bind_eq_ok.mp h
  cases h
  exact ⟨ops, codes, hops, hcodes, fun _ => rfl⟩

/-- Paths of different shapes have different routes. -/
theorem routes_unambiguous_iff_parts :
    ∃ ops codes, Walk.operations {} (itemsDocument partsPath) = .ok ops ∧
      Code.compileAll {} ops = .ok codes ∧
      ∀ request, (Plan.of request (itemsDocument partsPath) codes).Unambiguous := by
  have hpaths : routePaths (itemsDocument partsPath) =
      .ok ["/items/\x7bid\x7d", "/items/\x7bid\x7d/parts"] := by decide +kernel
  obtain ⟨ops, codes, hwalk, hcompile, -⟩ :=
    exists_codes_of_routePaths (by decide) (by decide) hpaths
  refine ⟨ops, codes, hwalk, hcompile, fun request => ?_⟩
  refine (routes_unambiguous_iff request hwalk hcompile).2.2.1.mpr ?_
  rintro s t ⟨p, hp, -, rfl⟩ ⟨q, hq, -, rfl⟩
  revert p q
  decide +kernel

/-- **Two templates of one shape are accepted**: their routes differ in the name only. -/
theorem renamed_routes_accepted :
    ∃ ops codes, Walk.operations {} (itemsDocument renamedPath) = .ok ops ∧
      Code.compileAll {} ops = .ok codes ∧
      ∀ request, (Plan.of request (itemsDocument renamedPath) codes).routes.map (·.path) =
          ["/items/\x7bid\x7d", "/items/\x7bname\x7d"] ∧
        shape "/items/\x7bid\x7d" = shape "/items/\x7bname\x7d" ∧
        ¬(Plan.of request (itemsDocument renamedPath) codes).Unambiguous := by
  have hpaths : routePaths (itemsDocument renamedPath) =
      .ok ["/items/\x7bid\x7d", "/items/\x7bname\x7d"] := by decide +kernel
  have hshape : shape "/items/\x7bid\x7d" = shape "/items/\x7bname\x7d" := by decide +kernel
  obtain ⟨ops, codes, hwalk, hcompile, hroutes⟩ :=
    exists_codes_of_routePaths (by decide) (by decide) hpaths
  refine ⟨ops, codes, hwalk, hcompile, fun request => ⟨hroutes request, hshape, fun h => ?_⟩⟩
  rw [Plan.Unambiguous, hroutes request] at h
  exact (List.pairwise_cons.mp h).1 _ List.mem_cons_self hshape

/-! ## Each operation is routed once -/

open Json (Value)

variable {root : Value} {base : String}

/-- The order of the operations: by their paths, then by the names of their methods. -/
def Precedes (a b : String × Web.Method) : Prop := a.1 < b.1 ∨ a.1 = b.1 ∧ a.2.name < b.2.name

/-- **Each operation is routed once** behind a base. -/
structure RoutedOnce (base : String) (codes : List OperationCode) (routes : List Route) : Prop where
  /-- An operation has one handler, for its own method and in the route of its own path. -/
  operations : ∀ c ∈ codes, ∃ r ∈ routes, r.path = base ++ c.pathTemplate ∧
    handlerOf c ∈ r.handlers ∧ ∀ r' ∈ routes, ∀ h ∈ r'.handlers,
      h.functionName = c.functionName → r' = r ∧ h = handlerOf c
  /-- There are no other handlers. -/
  handlers : ∀ r ∈ routes, ∀ h ∈ r.handlers, ∃ c ∈ codes, handlerOf c = h
  /-- The methods of a route ascend. -/
  methods : ∀ r ∈ routes, r.handlers.Pairwise fun a b => a.method.name < b.method.name
  /-- The routes stand in the order of what is behind the base. -/
  templates : ∃ templates : List String,
    templates.Pairwise (fun s t => Text.utf8 s < Text.utf8 t) ∧
      routes.map (·.path) = templates.map (base ++ ·)
  /-- The text of a route, cut at its dots, is a call for each handler. -/
  chains : ∀ r ∈ routes, ∃ first rest, r.handlers = first :: rest ∧
    Text.splitOn '.' r.chain = ("axum::routing::" ++ first.write) :: rest.map Handler.write

theorem mem_handlersOf {h : Handler} :
    h ∈ handlersOf codes template ↔ ∃ c ∈ codes, c.pathTemplate = template ∧ handlerOf c = h := by
  simp [handlersOf, and_assoc]

/-- The handlers under a template stand in the order of their methods. -/
theorem handlersOf_ascend (h : (codes.map placeOf).Pairwise Precedes) :
    (handlersOf codes template).Pairwise fun a b => a.method.name < b.method.name := by
  refine List.pairwise_map.mpr (List.pairwise_filter.mpr ((List.pairwise_map.mp h).imp ?_))
  intro c d hbefore hc hd
  rcases hbefore with hlt | ⟨-, hlt⟩
  · -- both have the one template, so neither has the lesser one
    have heq : c.pathTemplate = d.pathTemplate :=
      (of_decide_eq_true hc).trans (of_decide_eq_true hd).symm
    exact absurd heq (String.ne_of_lt hlt)
  · exact hlt

/-- A call holds a dot only where the name of its function does. -/
theorem dot_not_mem_write {h : Handler} (hname : '.' ∉ h.functionName.toList) :
    '.' ∉ h.write.toList := by
  have hmethod : '.' ∉ h.method.name.toList := by cases h.method <;> decide
  have hwrite : h.write = h.method.name ++ "(handle_" ++ h.functionName ++ "::<C>)" := rfl
  simp [hwrite, hname, hmethod]

theorem splitOn_chain {path : String} {first : Handler} {rest : List Handler}
    (h : ∀ handler ∈ first :: rest, '.' ∉ handler.functionName.toList) :
    Text.splitOn '.' (Route.chain ⟨path, first :: rest⟩) =
      ("axum::routing::" ++ first.write) :: rest.map Handler.write := by
  have hcalls : ∀ call ∈ ("axum::routing::" ++ first.write) :: rest.map Handler.write,
      '.' ∉ call.toList := by
    obtain ⟨hfirst, hrest⟩ := List.forall_mem_cons.mp h
    refine List.forall_mem_cons.mpr ⟨?_, List.forall_mem_map.mpr fun handler hmem => ?_⟩
    · simp [dot_not_mem_write hfirst]
    · exact dot_not_mem_write (hrest handler hmem)
  rw [Route.chain, List.map_cons, ← String.intercalate_cons_append]
  exact Text.splitOn_intercalate rfl (List.cons_ne_nil _ _) hcalls

/-- Operations in order whose functions have different names are routed once. -/
theorem routedOnce_routesOf (base : String) (hplaces : (codes.map placeOf).Pairwise Precedes)
    (hnames : (codes.map (·.functionName)).Nodup)
    (hdots : ∀ c ∈ codes, '.' ∉ c.functionName.toList) :
    RoutedOnce base codes (routesOf base codes) := by
  obtain ⟨templates, hascending, hmem, hroutes⟩ := exists_templates base codes
  have hroute : ∀ r, r ∈ routesOf base codes ↔ ∃ c ∈ codes,
      r = ⟨base ++ c.pathTemplate, handlersOf codes c.pathTemplate⟩ := by
    intro r
    simp [hroutes, hmem, eq_comm]
  constructor
  case operations =>
    intro c hc
    refine ⟨_, (hroute _).mpr ⟨c, hc, rfl⟩, rfl, mem_handlersOf.mpr ⟨c, hc, rfl, rfl⟩, ?_⟩
    intro r' hr' h hh hname
    obtain ⟨d, -, rfl⟩ := (hroute r').mp hr'
    obtain ⟨e, he, htemplate, rfl⟩ := mem_handlersOf.mp hh
    -- a name stands for one operation, and that has one template
    obtain rfl : e = c := List.inj_on_of_nodup_map hnames he hc hname
    rw [htemplate]
    exact ⟨rfl, rfl⟩
  case handlers =>
    intro r hr h hh
    obtain ⟨d, -, rfl⟩ := (hroute r).mp hr
    obtain ⟨c, hc, -, hhandler⟩ := mem_handlersOf.mp hh
    exact ⟨c, hc, hhandler⟩
  case methods =>
    intro r hr
    obtain ⟨d, -, rfl⟩ := (hroute r).mp hr
    exact handlersOf_ascend hplaces
  case templates =>
    refine ⟨templates, hascending.imp Text.utf8_lt, ?_⟩
    rw [hroutes, List.map_map]
    rfl
  case chains =>
    intro r hr
    obtain ⟨c, hc, rfl⟩ := (hroute r).mp hr
    have hown : handlerOf c ∈ handlersOf codes c.pathTemplate :=
      mem_handlersOf.mpr ⟨c, hc, rfl, rfl⟩
    obtain ⟨first, rest, hhandlers⟩ := List.exists_cons_of_ne_nil (List.ne_nil_of_mem hown)
    refine ⟨first, rest, hhandlers, ?_⟩
    rw [hhandlers]
    refine splitOn_chain fun handler hhandler => ?_
    obtain ⟨d, hd, -, rfl⟩ := mem_handlersOf.mp (hhandlers ▸ hhandler)
    exact hdots d hd

/-- The operations of a document that is read stand in order. -/
theorem places_ascend (hkeys : root.KeysAscend) (hread : Document.ofJson root = .ok document)
    (hwalk : Walk.operations types document = .ok ops)
    (hcompile : Code.compileAll types ops = .ok codes) :
    (codes.map placeOf).Pairwise Precedes := by
  have hpaths : (document.paths.map (·.path)).Nodup :=
    List.pairwise_map.mpr ((Document.paths_ascend hkeys hread).imp String.ne_of_lt)
  have hmethods : ∀ path ∈ document.paths, (path.operations.map (·.method)).Nodup := by
    intro path hpath
    refine List.pairwise_map.mpr ((Document.methods_ascend hkeys hread hpath).imp ?_)
    intro a b hlt heq
    exact String.ne_of_lt hlt (congrArg Web.Method.name heq)
  rw [places_eq hwalk hcompile]
  refine List.pairwise_map.mpr ((Walk.items_ascend hpaths hmethods).imp ?_)
  rintro a b (hlt | ⟨heq, hlt⟩)
  · exact .inl hlt
  · exact .inr ⟨heq, Web.Method.rank_lt_iff.mp hlt⟩

/-- The name of a function holds no dot. -/
theorem dot_not_mem_functionName (hcompile : Code.compileAll types ops = .ok codes)
    (hc : c ∈ codes) : '.' ∉ c.functionName.toList := by
  obtain ⟨o, -, ho⟩ := exists_of_mem_forall₂ (Code.compileAll_ok_iff.mp hcompile).1 hc
  rw [(Code.compiled_of_compile ho).functionName]
  intro hdot
  exact absurd (Naming.tame_of_mem_field hdot (by decide)) (by decide)

/-- The text of a document with two paths. -/
def itemsText : String :=
  "\x7b\"swagger\":\"2.0\",\"info\":\x7b\"title\":\"Items\",\"version\":\"1\"\x7d," ++
    "\"basePath\":\"/v1\",\"paths\":\x7b" ++
    "\"/items\":\x7b\"post\":\x7b\"operationId\":\"create\"\x7d," ++
    "\"get\":\x7b\"operationId\":\"list\"\x7d\x7d," ++
    "\"/health\":\x7b\"get\":\x7b\"operationId\":\"health\"\x7d\x7d\x7d\x7d"

end ApiScaffold
