import ApiScaffold.Document.Source
import ApiScaffold.Proofs.Document.References
import ApiScaffold.Proofs.Json.Members
import ApiScaffold.Proofs.Sorting
import Mathlib.Data.List.Induction

/-!
# The keys of a document

The members of an object are set one after another, so the keys of every object that is read
ascend, and no key is there twice.  A JSON text is read by one recursion over values, items and
members, and what is known of all three is shown together, by induction on the fuel.  A YAML text is
evaluated step by step; what the result of a step is known for (`Yields`) goes from one step to the
next.

The paths of a document and the methods of a path are keys.  So no path is there twice, and no
method of a path.

* `keysAscend_of_readContent`: **the keys of what is read from a text ascend.**
* `paths_ascend`, `methods_ascend`: **so do the paths of a document and the methods of a path.**
* `mem_places_iff`: **a document has an operation for each method that a path declares.**
-/

namespace ApiScaffold

open Json (Ascending Cursor Value readItems readMembers readValue setMember)

namespace Json.Value

/-- The keys of each object in a value ascend strictly. -/
inductive KeysAscend : Value → Prop
  | null : KeysAscend .null
  | bool (b : Bool) : KeysAscend (.bool b)
  | number (n : Numeral) : KeysAscend (.number n)
  | string (s : String) : KeysAscend (.string s)
  | array {items : List Value} (h : ∀ v ∈ items, KeysAscend v) : KeysAscend (.array items)
  | object {members : List (String × Value)} (hkeys : Ascending members)
      (h : ∀ m ∈ members, KeysAscend m.2) : KeysAscend (.object members)

namespace KeysAscend

variable {v w : Value} {key : String} {members : List (String × Value)}

theorem empty : KeysAscend (.object []) := .object .nil (by simp)

/-- A member that is set keeps the keys in order. -/
theorem set (h : KeysAscend (.object members)) (hv : KeysAscend v) :
    KeysAscend (.object (setMember key v members)) := by
  cases h with
  | object hkeys hmembers =>
    have hset : Ascending (setMember key v members) := ascending_setMember hkeys
    refine .object hset fun m hm => ?_
    have hfound := (memberOf?_eq_some_iff hset).mpr hm
    rw [memberOf?_setMember] at hfound
    split at hfound
    · cases hfound
      exact hv
    · exact hmembers m ((memberOf?_eq_some_iff hkeys).mp hfound)

theorem objectOf (h : ∀ m ∈ members, KeysAscend m.2) : KeysAscend (Value.objectOf members) := by
  rw [Value.objectOf, sortMembers]
  induction members using List.reverseRecOn with
  | nil => exact empty
  | append_singleton members m ih =>
    rw [List.foldl_concat]
    have hbefore := ih fun m' hm' => h m' (by simp [hm'])
    exact hbefore.set (h m (by simp))

theorem of_asObject? (h : v.KeysAscend) (hv : v.asObject? = some members) :
    Ascending members ∧ ∀ m ∈ members, m.2.KeysAscend := by
  cases h with
  | object hkeys hmembers =>
    cases hv
    exact ⟨hkeys, hmembers⟩
  | _ => cases hv

theorem get? (h : v.KeysAscend) (hw : v.get? key = some w) : w.KeysAscend := by
  cases h with
  | object hkeys hmembers => exact hmembers (key, w) ((memberOf?_eq_some_iff hkeys).mp hw)
  | _ => cases hw

end KeysAscend

/-- What stands under a key of an object. -/
theorem get?_of_asObject? {v : Value} {members : List (String × Value)} {key : String}
    (h : v.asObject? = some members) : v.get? key = memberOf? members key := by
  cases v with
  | object _ =>
    cases h
    rfl
  | _ => cases h

end Json.Value

open Json.Value (KeysAscend)

/-! ## What is read from a JSON text -/

section Json

variable {fuel depth : Nat} {first : Bool} {c c' : Cursor} {v : Value} {items : List Value}
  {read members : List (String × Value)}

/-- The keys of what is read with so much fuel ascend. -/
structure ReadsAscending (fuel : Nat) : Prop where
  value : ∀ {depth c v c'}, readValue fuel depth .any c = .ok (v, c') → v.KeysAscend
  items : ∀ {depth first c items c'}, readItems fuel depth .any first c = .ok (items, c') →
    ∀ v ∈ items, v.KeysAscend
  members : ∀ {depth read first c members c'}, KeysAscend (.object read) →
    readMembers fuel depth read first c = .ok (members, c') → KeysAscend (.object members)

theorem keysAscend_value (ih : ReadsAscending fuel)
    (h : readValue (fuel + 1) depth .any c = .ok (v, c')) : v.KeysAscend := by
  rw [readValue.eq_def] at h
  dsimp only at h
  split at h
  · cases h
  -- a word, a number or a text
  split at h
  · obtain ⟨_, -, heq⟩ := map_eq_ok.mp h
    cases heq
    exact .null
  split at h
  · obtain ⟨_, -, heq⟩ := map_eq_ok.mp h
    cases heq
    exact .bool true
  split at h
  · obtain ⟨_, -, heq⟩ := map_eq_ok.mp h
    cases heq
    exact .bool false
  split at h
  · obtain ⟨⟨n, _⟩, -, heq⟩ := map_eq_ok.mp h
    cases heq
    exact .number n
  split at h
  · obtain ⟨⟨s, _⟩, -, heq⟩ := map_eq_ok.mp h
    cases heq
    exact .string s
  -- an array
  split at h
  · split at h
    · cases h
    split at h
    · cases h
    next hitems =>
      obtain ⟨_, -, heq⟩ := map_eq_ok.mp h
      cases heq
      exact .array (ih.items hitems)
  -- an object
  split at h
  · split at h
    · cases h
    split at h
    · cases h
    next hmembers =>
      obtain ⟨_, -, heq⟩ := map_eq_ok.mp h
      cases heq
      exact ih.members .empty hmembers
  · cases h

theorem keysAscend_items (ih : ReadsAscending fuel)
    (h : readItems (fuel + 1) depth .any first c = .ok (items, c')) :
    ∀ v ∈ items, v.KeysAscend := by
  rw [readItems] at h
  split at h
  · cases h
  · cases h
    simp
  split at h
  · cases h
  next hvalue =>
    obtain ⟨⟨rest, _⟩, hrest, heq⟩ := map_eq_ok.mp h
    cases heq
    exact List.forall_mem_cons.mpr ⟨ih.value hvalue, ih.items hrest⟩

theorem keysAscend_members (ih : ReadsAscending fuel) (hread : KeysAscend (.object read))
    (h : readMembers (fuel + 1) depth read first c = .ok (members, c')) :
    KeysAscend (.object members) := by
  rw [readMembers] at h
  split at h
  · cases h
  · cases h
    exact hread
  split at h
  · cases h
  split at h
  · cases h
  split at h
  · cases h
  next hvalue => exact ih.members (hread.set (ih.value hvalue)) h

theorem readsAscending (fuel : Nat) : ReadsAscending fuel := by
  induction fuel with
  | zero =>
    constructor
    case value =>
      intro depth c v c' h
      rw [readValue] at h
      cases h
    case items =>
      intro depth first c items c' h
      rw [readItems] at h
      cases h
    case members =>
      intro depth read first c members c' _ h
      rw [readMembers] at h
      cases h
  | succ fuel ih =>
    exact ⟨keysAscend_value ih, keysAscend_items ih, keysAscend_members ih⟩

/-- **The keys of what is read from a JSON text ascend.** -/
theorem keysAscend_of_read {text : String} (h : Json.read .any text = .ok v) : v.KeysAscend := by
  rw [Json.read, Json.readBytes] at h
  split at h
  · cases h
  next hvalue =>
    dsimp only at h
    split at h
    · cases h
      exact (readsAscending _).value hvalue
    · cases h

end Json

/-! ## What is read from a YAML text -/

namespace Yaml

section Yields

variable {α β : Type} {P : α → Prop} {Q : β → Prop} {x : Evaluation α} {f : α → Evaluation β}

/-- What holds of the result of a step, however many aliases may still be followed. -/
def Yields (x : Evaluation α) (P : α → Prop) : Prop :=
  ∀ left a left', x.run left = some (a, left') → P a

theorem yields_pure {a : α} (h : P a) : Yields (pure a) P := by
  intro left b left' hrun
  cases hrun
  exact h

theorem yields_failure : Yields failure P := by
  intro left a left' hrun
  cases hrun

theorem yields_lift {result : Option α} (h : ∀ a, result = some a → P a) :
    Yields (result : Evaluation α) P := by
  intro left a left' hrun
  cases hresult : result with
  | none =>
    rw [hresult] at hrun
    cases hrun
  | some b =>
    rw [hresult] at hrun
    cases hrun
    exact h a hresult

theorem Yields.bind (hx : Yields x P) (hf : ∀ a, P a → Yields (f a) Q) : Yields (x >>= f) Q := by
  intro left b left' hrun
  rw [StateT.run_bind] at hrun
  obtain ⟨⟨a, between⟩, hfirst, hsecond⟩ := Option.bind_eq_some_iff.mp hrun
  exact hf a (hx left a between hfirst) between b left' hsecond

/-- A step of whose result nothing is known. -/
theorem yields_behind (x : Evaluation α) (hf : ∀ a, Yields (f a) Q) : Yields (x >>= f) Q :=
  Yields.bind (P := fun _ => True) (fun _ _ _ _ => trivial) fun a _ => hf a

theorem yields_mapM {xs : List α} (h : ∀ a ∈ xs, Yields (f a) Q) :
    Yields (xs.mapM f) fun bs => ∀ b ∈ bs, Q b := by
  induction xs with
  | nil => exact yields_pure (by simp)
  | cons a xs ih =>
    obtain ⟨ha, hxs⟩ := List.forall_mem_cons.mp h
    rw [List.mapM_cons]
    refine ha.bind fun b hb => (ih hxs).bind fun bs hbs => yields_pure ?_
    exact List.forall_mem_cons.mpr ⟨hb, hbs⟩

end Yields

variable {s : String} {v : Value}

theorem keysAscend_floatValue (x : Number.Binary64) : (floatValue x).KeysAscend := by
  rw [floatValue]
  split
  · exact .number _
  · exact .null

theorem keysAscend_integerValue? {n : Int} (h : integerValue? n = some v) : v.KeysAscend := by
  rw [integerValue?] at h
  split at h
  · cases h
    exact .number _
  · cases h

theorem keysAscend_plainValue? (h : plainValue? s = some v) : v.KeysAscend := by
  rw [plainValue?] at h
  split at h
  · cases h
    exact .null
  split at h
  · cases h
    exact .bool _
  · exact keysAscend_integerValue? h
  · split at h
    · cases h
      exact keysAscend_floatValue _
    · cases h
      exact .string _

theorem keysAscend_scalarValue? {tag : Option String} {plain : Bool}
    (h : scalarValue? tag plain s = some v) : v.KeysAscend := by
  unfold scalarValue? at h
  split at h
  · split at h
    · exact keysAscend_plainValue? h
    · cases h
      exact .string s
  -- a tag says which kind of scalar it is
  split at h
  · obtain ⟨b, -, rfl⟩ := Option.map_eq_some_iff.mp h
    exact .bool b
  split at h
  · obtain ⟨n, -, hn⟩ := Option.bind_eq_some_iff.mp h
    exact keysAscend_integerValue? hn
  split at h
  · obtain ⟨x, -, rfl⟩ := Option.map_eq_some_iff.mp h
    exact keysAscend_floatValue x
  split at h
  · split at h
    · cases h
      exact .null
    · cases h
  split at h
  · cases h
  · cases h
    exact .string s

/-- **The keys of what a tree evaluates to ascend.** -/
theorem yields_evaluate (nodes : List (Nat × Tree)) (depth : Nat) (t : Tree) :
    Yields (evaluate nodes depth t) KeysAscend := by
  induction depth generalizing t with
  | zero =>
    rw [evaluate]
    apply yields_behind
    intro t
    split
    · exact yields_lift fun _ hv => keysAscend_scalarValue? hv
    · exact yields_failure
  | succ depth ih =>
    rw [evaluate]
    apply yields_behind
    intro t
    split
    · exact yields_lift fun _ hv => keysAscend_scalarValue? hv
    · exact (yields_mapM fun item _ => ih item).bind fun values hvalues =>
        yields_pure (.array hvalues)
    · refine Yields.bind (P := fun values => ∀ m ∈ values, m.2.KeysAscend) ?_ ?_
      · apply yields_mapM
        intro m _
        apply yields_behind
        intro key
        exact (ih m.2).bind fun value hvalue => yields_pure hvalue
      · intro values hvalues
        exact yields_pure (.objectOf hvalues)
    · exact yields_failure

/-- **The keys of what is read from a YAML text ascend.** -/
theorem keysAscend_of_readYaml {text : String} (h : readYaml text = some v) : v.KeysAscend := by
  obtain ⟨_, -, h⟩ := Option.bind_eq_some_iff.mp h
  obtain ⟨node, -, h⟩ := Option.bind_eq_some_iff.mp h
  obtain ⟨⟨t, anchors⟩, -, h⟩ := Option.bind_eq_some_iff.mp h
  obtain ⟨⟨w, left⟩, hrun, h⟩ := Option.bind_eq_some_iff.mp h
  cases h
  exact yields_evaluate _ _ _ _ _ _ hrun

end Yaml

/-- **The keys of what is read from a text ascend.** -/
theorem keysAscend_of_readContent {source content : String} {contentType : Option String}
    {v : Value} (h : readContent source contentType content = .ok v) : v.KeysAscend := by
  have hyaml : ∀ {v : Value},
      (readYaml content).elim (.error .unreadable : Except GenerationError Value) .ok = .ok v →
        v.KeysAscend := by
    intro v h
    cases hread : readYaml content with
    | none =>
      rw [hread] at h
      cases h
    | some w =>
      rw [hread] at h
      cases h
      exact Yaml.keysAscend_of_readYaml hread
  rw [readContent] at h
  split at h
  · exact keysAscend_of_read (mapError_eq_ok.mp h)
  · exact hyaml h
  · split at h
    next hread =>
      cases h
      exact keysAscend_of_read hread
    next => exact hyaml h

/-! ## The paths of a document and their methods -/

namespace Web.Method

variable {m : Method} {s : String}

theorem ofName?_eq_some_iff : ofName? s = some m ↔ m.name = s := by
  constructor
  · intro h
    exact beq_iff_eq.mp (List.find?_some (p := fun m : Method => m.name == s) h)
  · rintro rfl
    cases m <;> decide

end Web.Method

namespace Document

variable {root v : Value} {object : Option Value} {members : List (String × Value)}
  {method : Web.Method} {path key : String} {p : PathItem} {d : Document}

theorem mem_methodEntries_iff (h : Ascending members) :
    (method, v) ∈ methodEntries members ↔ Json.memberOf? members method.name = some v := by
  rw [Json.memberOf?_eq_some_iff h, methodEntries, List.mem_filterMap]
  constructor
  · rintro ⟨⟨key, w⟩, hm, heq⟩
    obtain ⟨other, hname, heq⟩ := Option.map_eq_some_iff.mp heq
    cases heq
    rw [Web.Method.ofName?_eq_some_iff.mp hname]
    exact hm
  · intro hm
    refine ⟨_, hm, Option.map_eq_some_iff.mpr ⟨method, ?_, rfl⟩⟩
    exact Web.Method.ofName?_eq_some_iff.mpr rfl

theorem methodEntries_ascend (h : Ascending members) :
    (methodEntries members).Pairwise fun a b => a.1.name < b.1.name := by
  refine List.Pairwise.filterMap _ ?_ h
  rintro ⟨key, v⟩ ⟨key', v'⟩ hlt a ha b hb
  obtain ⟨method, hname, rfl⟩ := Option.map_eq_some_iff.mp ha
  obtain ⟨method', hname', rfl⟩ := Option.map_eq_some_iff.mp hb
  rw [Web.Method.ofName?_eq_some_iff.mp hname, Web.Method.ofName?_eq_some_iff.mp hname']
  exact hlt

/-- What is asked for by its key is an entry, unless it is an extension. -/
theorem mem_entries_iff (h : ∀ w ∈ object, w.KeysAscend) :
    (key, v) ∈ entries object ↔ isExtension key = false ∧ object.bind (·.get? key) = some v := by
  have hfound : (key, v) ∈ (object.bind Value.asObject?).getD [] ↔
      object.bind (·.get? key) = some v := by
    cases object with
    | none => simp
    | some w =>
      cases h w rfl with
      | object hkeys _ => exact (Json.memberOf?_eq_some_iff hkeys).symm
      | _ => simp [Value.asObject?, Value.get?]
  rw [entries, List.mem_filter, hfound, and_comm]
  simp

theorem entries_ascend (h : ∀ w ∈ object, w.KeysAscend) : Ascending (entries object) := by
  apply List.Pairwise.filter
  cases hmembers : object.bind Value.asObject? with
  | none => exact .nil
  | some members =>
    obtain ⟨w, hw, hobject⟩ := Option.bind_eq_some_iff.mp hmembers
    exact ((h w hw).of_asObject? hobject).1

theorem method_of_operationOf {o : OperationItem} (h : operationOf root path method v = .ok o) :
    o.method = method := by
  obtain ⟨_, -, h⟩ := bind_eq_ok.mp h
  obtain ⟨_, -, h⟩ := bind_eq_ok.mp h
  obtain ⟨_, -, h⟩ := bind_eq_ok.mp h
  cases h
  rfl

theorem path_of_pathOf (h : pathOf root path v = .ok p) : p.path = path := by
  obtain ⟨members, -, h⟩ := pathOf_ok h
  exact (pathItemOf_ok h).1

section Read

variable (hkeys : root.KeysAscend) (h : ofJson root = .ok d)
include hkeys h

/-- **The paths of a document ascend.** -/
theorem paths_ascend : d.paths.Pairwise fun a b => a.path < b.path := by
  have hentries : Ascending (entries (root.get? "paths")) :=
    entries_ascend fun _ hw => hkeys.get? hw
  refine pairwise_of_forall₂ ?_ (forall₂_pathsOf (paths_of_ofJson h)) hentries
  intro m m' p p' hp hp' hlt
  rwa [path_of_pathOf hp, path_of_pathOf hp']

/-- What a path of a document is read from. -/
theorem exists_entry (hp : p ∈ d.paths) : ∃ v members, (p.path, v) ∈ entries (root.get? "paths") ∧
    v.asObject? = some members ∧ Ascending members ∧
      List.Forall₂ (fun m o => operationOf root p.path m.1 m.2 = .ok o) (methodEntries members)
        p.operations := by
  obtain ⟨⟨path, v⟩, hentry, hread⟩ :=
    exists_of_mem_forall₂ (forall₂_pathsOf (paths_of_ofJson h)) hp
  obtain ⟨members, hmembers, hitem⟩ := pathOf_ok hread
  obtain ⟨rfl, -, hoperations⟩ := pathItemOf_ok hitem
  have hascend : v.KeysAscend := by
    obtain ⟨-, hfound⟩ := (mem_entries_iff fun _ hw => hkeys.get? hw).mp hentry
    obtain ⟨paths, hpaths, hv⟩ := Option.bind_eq_some_iff.mp hfound
    exact (hkeys.get? hpaths).get? hv
  exact ⟨v, members, hentry, hmembers, (hascend.of_asObject? hmembers).1, hoperations⟩

/-- **The methods of a path ascend.** -/
theorem methods_ascend (hp : p ∈ d.paths) :
    p.operations.Pairwise fun a b => a.method.name < b.method.name := by
  obtain ⟨_, members, -, -, hascend, hoperations⟩ := exists_entry hkeys h hp
  refine pairwise_of_forall₂ ?_ hoperations (methodEntries_ascend hascend)
  intro m m' o o' ho ho' hlt
  rwa [method_of_operationOf ho, method_of_operationOf ho']

end Read

/-- The paths of the operations of a document, with their methods. -/
def places (d : Document) : List (String × Web.Method) :=
  d.paths.flatMap fun p => p.operations.map fun o => (p.path, o.method)

/-- Whether a value declares an operation: under its paths, which are no extensions, stands a path,
and under that a method. -/
def Declares (root : Value) (path : String) (method : Web.Method) : Prop :=
  isExtension path = false ∧ ∃ v w, (root.get? "paths").bind (·.get? path) = some v ∧
    v.get? method.name = some w

/-- **A document has an operation for each method that a path declares**, and no other one. -/
theorem mem_places_iff (hkeys : root.KeysAscend) (h : ofJson root = .ok d) :
    (path, method) ∈ d.places ↔ Declares root path method := by
  have hpaths : ∀ w ∈ root.get? "paths", w.KeysAscend := fun _ hw => hkeys.get? hw
  constructor
  · intro hmem
    obtain ⟨p, hp, hmem⟩ := List.mem_flatMap.mp hmem
    obtain ⟨o, ho, heq⟩ := List.mem_map.mp hmem
    cases heq
    obtain ⟨v, members, hentry, hmembers, hascend, hoperations⟩ := exists_entry hkeys h hp
    obtain ⟨hextension, hfound⟩ := (mem_entries_iff hpaths).mp hentry
    obtain ⟨⟨method, w⟩, hmethod, hread⟩ := exists_of_mem_forall₂ hoperations ho
    rw [method_of_operationOf hread]
    refine ⟨hextension, v, w, hfound, ?_⟩
    rw [Value.get?_of_asObject? hmembers]
    exact (mem_methodEntries_iff hascend).mp hmethod
  · rintro ⟨hextension, v, w, hfound, hw⟩
    have hentry := (mem_entries_iff hpaths).mpr ⟨hextension, hfound⟩
    obtain ⟨p, hp, hread⟩ := exists_of_mem_forall₂ (forall₂_pathsOf (paths_of_ofJson h)).flip hentry
    obtain rfl := path_of_pathOf hread
    obtain ⟨v', members, hentry', hmembers, hascend, hoperations⟩ := exists_entry hkeys h hp
    -- the keys of the paths differ, so the path is read from no other value
    obtain ⟨-, hfound'⟩ := (mem_entries_iff hpaths).mp hentry'
    obtain rfl : v = v' := Option.some.inj (hfound.symm.trans hfound')
    rw [Value.get?_of_asObject? hmembers] at hw
    have hmethod := (mem_methodEntries_iff hascend).mpr hw
    obtain ⟨o, ho, hread⟩ := exists_of_mem_forall₂ hoperations.flip hmethod
    refine List.mem_flatMap.mpr ⟨p, hp, List.mem_map.mpr ⟨o, ho, ?_⟩⟩
    rw [method_of_operationOf hread]

end Document

end ApiScaffold
