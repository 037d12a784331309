import ApiScaffold.Proofs.Code.Compile
import ApiScaffold.Proofs.Naming
import ApiScaffold.Proofs.Sorting

/-!
# The names of the operations

The compilation of a document keeps one list of names, to which each operation adds that of its
function and that of its input.  The two kinds never meet there: the name of an input ends in a
word with a capital, which no name of a function holds (`functionName_ne_inputType`).  So a
document is refused for its names exactly if two operations share one of the same kind.  The
other names of an operation are made from these two, and differ where they do.

* `compileFrom_ok_iff`: **what is accepted behind some names**: operations that compile and whose
  names are new.
* `names_nodup_iff_apart`: the names of all operations differ if those of the functions and those
  of the inputs do.
* `types_nodup`: the types of inputs, outputs and errors differ if those of the inputs do.
* `compileAll_apart`: **a document compiles exactly if its operations do and no two of them share a
  name.**
-/

namespace ApiScaffold.Code

variable {types : TypeMap} {o : Operation} {ops : List Operation} {c d : OperationCode}
  {codes : List OperationCode} {taken : List String}

/-! ## One operation -/

/-- **The name of a function is none of an input**: of ASCII it holds no capital. -/
theorem functionName_ne_inputType (h : compile types o = .ok c) :
    c.functionName ≠ d.inputType := by
  intro heq
  have hcapital : 'I' ∈ c.functionName.toList := by
    rw [heq, OperationCode.inputType, String.toList_append]
    exact List.mem_append_right _ (by decide)
  rw [(compiled_of_compile h).functionName] at hcapital
  exact absurd (Naming.tame_of_mem_field hcapital (by decide)) (by decide)

/-! ## The list of names -/

/-- The names that an operation adds to the list. -/
def OperationCode.added (c : OperationCode) : List String := [c.functionName, c.inputType]

theorem mem_added {name : String} :
    name ∈ c.added ↔ name = c.functionName ∨ name = c.inputType := by
  rw [OperationCode.added, List.mem_cons, List.mem_singleton]

theorem added_nodup_iff : c.added.Nodup ↔ c.functionName ≠ c.inputType := by
  simp [OperationCode.added]

/-- The names of an operation are refused unless they differ and are new. -/
theorem not_repeated_iff :
    ¬(taken.contains c.functionName || (c.functionName :: taken).contains c.inputType) = true ↔
      c.added.Nodup ∧ c.added.Disjoint taken := by
  rw [Bool.or_eq_true, not_or, List.contains_iff_mem, List.contains_iff_mem, List.mem_cons, not_or,
    added_nodup_iff]
  constructor
  · rintro ⟨hfunction, hdiffer, hinput⟩
    refine ⟨fun heq => hdiffer heq.symm, fun name hname htaken => ?_⟩
    rcases mem_added.mp hname with rfl | rfl
    · exact hfunction htaken
    · exact hinput htaken
  · rintro ⟨hdiffer, hnew⟩
    exact ⟨fun h => hnew (mem_added.mpr (.inl rfl)) h, fun heq => hdiffer heq.symm,
      fun h => hnew (mem_added.mpr (.inr rfl)) h⟩

/-- The first operation compiles and has new names, and the others compile behind these. -/
theorem compileFrom_cons_iff : compileFrom types taken (o :: ops) = .ok codes ↔
    ∃ c rest, codes = c :: rest ∧ compile types o = .ok c ∧
      (c.added.Nodup ∧ c.added.Disjoint taken) ∧
      compileFrom types (c.inputType :: c.functionName :: taken) ops = .ok rest := by
  constructor
  · intro h
    obtain ⟨c, hcompile, h⟩ := bind_eq_ok.mp h
    split at h
    · cases h
    next hnew =>
    obtain ⟨rest, hrest, h⟩ := bind_eq_ok.mp h
    cases h
    exact ⟨c, rest, rfl, hcompile, not_repeated_iff.mp hnew, hrest⟩
  · rintro ⟨c, rest, rfl, hcompile, hnew, hrest⟩
    refine bind_eq_ok.mpr ⟨c, hcompile, ?_⟩
    rw [if_neg (not_repeated_iff.mpr hnew)]
    exact bind_eq_ok.mpr ⟨rest, hrest, rfl⟩

/-- Names are new behind an operation if they are none of its own and were new before. -/
theorem disjoint_behind {names : List String} :
    names.Disjoint (c.inputType :: c.functionName :: taken) ↔
      c.added.Disjoint names ∧ names.Disjoint taken := by
  constructor
  · intro h
    refine ⟨fun name hown hname => h hname ?_, fun name hname htaken => h hname ?_⟩
    · rcases mem_added.mp hown with rfl | rfl <;> simp
    · exact List.mem_cons_of_mem _ (List.mem_cons_of_mem _ htaken)
  · rintro ⟨hown, htaken⟩ name hname hmem
    rcases List.mem_cons.mp hmem with rfl | hmem
    · exact hown (mem_added.mpr (.inr rfl)) hname
    rcases List.mem_cons.mp hmem with rfl | hmem
    · exact hown (mem_added.mpr (.inl rfl)) hname
    exact htaken hname hmem

/-- **What is accepted behind some names**: operations that compile and whose names are new. -/
theorem compileFrom_ok_iff : compileFrom types taken ops = .ok codes ↔
    List.Forall₂ (fun o c => compile types o = .ok c) ops codes ∧
      (codes.flatMap OperationCode.added).Nodup ∧
      (codes.flatMap OperationCode.added).Disjoint taken := by
  induction ops generalizing taken codes with
  | nil =>
    rw [compileFrom, List.forall₂_nil_left_iff]
    constructor
    · intro h
      cases h
      exact ⟨rfl, .nil, List.disjoint_nil_left _⟩
    · rintro ⟨rfl, -⟩
      rfl
  | cons o ops ih =>
    rw [compileFrom_cons_iff, List.forall₂_cons_left_iff]
    constructor
    · rintro ⟨c, rest, rfl, hcompile, ⟨hown, hnew⟩, hrest⟩
      obtain ⟨hcompiled, hnodup, hbehind⟩ := ih.mp hrest
      obtain ⟨hother, hlater⟩ := disjoint_behind.mp hbehind
      rw [List.flatMap_cons, List.nodup_append', List.disjoint_append_left]
      exact ⟨⟨c, rest, hcompile, hcompiled, rfl⟩, ⟨hown, hnodup, hother⟩, hnew, hlater⟩
    · rintro ⟨⟨c, rest, hcompile, hcompiled, rfl⟩, hnodup, hnew⟩
      rw [List.flatMap_cons, List.nodup_append'] at hnodup
      rw [List.flatMap_cons, List.disjoint_append_left] at hnew
      obtain ⟨hown, hnodup, hother⟩ := hnodup
      refine ⟨c, rest, rfl, hcompile, ⟨hown, hnew.1⟩, ih.mpr ⟨hcompiled, hnodup, ?_⟩⟩
      exact disjoint_behind.mpr ⟨hother, hnew.2⟩

/-! ## All names -/

/-- **The names of all operations differ if those of the functions and those of the inputs do.** -/
theorem names_nodup_iff_apart (h : List.Forall₂ (fun o c => compile types o = .ok c) ops codes) :
    (codes.flatMap OperationCode.added).Nodup ↔
      (codes.map (·.functionName)).Nodup ∧ (codes.map (·.inputType)).Nodup := by
  have hperm : (codes.flatMap OperationCode.added).Perm
      (codes.map (·.functionName) ++ codes.map (·.inputType)) := by
    rw [List.map_eq_flatMap (f := OperationCode.inputType)]
    exact (List.map_append_flatMap_perm codes (·.functionName) fun c => [c.inputType]).symm
  have hapart : (codes.map (·.functionName)).Disjoint (codes.map (·.inputType)) := by
    intro name hfunction hinput
    obtain ⟨c, hc, rfl⟩ := List.mem_map.mp hfunction
    obtain ⟨d, -, heq⟩ := List.mem_map.mp hinput
    obtain ⟨o, -, hcompile⟩ := exists_of_mem_forall₂ h hc
    exact functionName_ne_inputType hcompile heq.symm
  rw [hperm.nodup_iff, List.nodup_append']
  exact ⟨fun h => ⟨h.1, h.2.1⟩, fun h => ⟨h.1, h.2, hapart⟩⟩

/-- Texts that end differently differ. -/
theorem append_ne_append {s t a b : String} {n : Nat}
    (h : a.toList.reverse.take n ≠ b.toList.reverse.take n) (ha : n ≤ a.toList.reverse.length)
    (hb : n ≤ b.toList.reverse.length) : s ++ a ≠ t ++ b := by
  intro heq
  have hchars := congrArg (fun s => s.toList.reverse.take n) heq
  simp only [String.toList_append, List.reverse_append] at hchars
  rw [List.take_append_of_le_length ha, List.take_append_of_le_length hb] at hchars
  exact h hchars

theorem inputType_ne_outputType (c d : OperationCode) : c.inputType ≠ d.outputType :=
  append_ne_append (n := 5) (by decide) (by decide) (by decide)

theorem inputType_ne_errorType (c d : OperationCode) : c.inputType ≠ d.errorType :=
  append_ne_append (n := 1) (by decide) (by decide) (by decide)

theorem outputType_ne_errorType (c d : OperationCode) : c.outputType ≠ d.errorType :=
  append_ne_append (n := 1) (by decide) (by decide) (by decide)

/-- Names with a word behind them differ if the names do. -/
theorem nodup_map_append {name : OperationCode → String} (word : String)
    (h : (codes.map name).Nodup) : (codes.map fun c => name c ++ word).Nodup := by
  have hmap : (codes.map fun c => name c ++ word) = (codes.map name).map (· ++ word) := by
    rw [List.map_map]
    rfl
  rw [hmap]
  exact h.map fun s t heq => (String.append_left_inj word).mp heq

/-- Names with a word before them differ if the names do. -/
theorem nodup_append_map {name : OperationCode → String} (word : String)
    (h : (codes.map name).Nodup) : (codes.map fun c => word ++ name c).Nodup := by
  have hmap : (codes.map fun c => word ++ name c) = (codes.map name).map (word ++ ·) := by
    rw [List.map_map]
    rfl
  rw [hmap]
  exact h.map fun s t heq => (String.append_right_inj word).mp heq

theorem typeNames_nodup (h : (codes.map (·.inputType)).Nodup) :
    (codes.map (·.typeName)).Nodup := by
  have hmap : codes.map (·.inputType) = (codes.map (·.typeName)).map (· ++ "Input") := by
    rw [List.map_map]
    rfl
  rw [hmap] at h
  exact h.of_map _

/-- **The types of inputs, outputs and errors differ if those of the inputs do.** -/
theorem types_nodup (h : (codes.map (·.inputType)).Nodup) :
    (codes.map (·.inputType) ++ codes.map (·.outputType) ++ codes.map (·.errorType)).Nodup := by
  have htypes := typeNames_nodup h
  have houtputs : (codes.map (·.outputType)).Nodup := nodup_map_append "Output" htypes
  have herrors : (codes.map (·.errorType)).Nodup := nodup_map_append "Error" htypes
  refine List.nodup_append'.mpr ⟨List.nodup_append'.mpr ⟨h, houtputs, ?_⟩, herrors, ?_⟩
  · intro name hinput houtput
    obtain ⟨c, -, rfl⟩ := List.mem_map.mp hinput
    obtain ⟨d, -, heq⟩ := List.mem_map.mp houtput
    exact inputType_ne_outputType c d heq.symm
  · intro name hbefore herror
    obtain ⟨d, -, rfl⟩ := List.mem_map.mp herror
    rcases List.mem_append.mp hbefore with hinput | houtput
    · obtain ⟨c, -, heq⟩ := List.mem_map.mp hinput
      exact inputType_ne_errorType c d heq
    · obtain ⟨c, -, heq⟩ := List.mem_map.mp houtput
      exact outputType_ne_errorType c d heq

/-! ## All operations -/

/-- Two operations whose code has no name in common. -/
def Apart (types : TypeMap) (a b : Operation) : Prop :=
  ∀ c d, compile types a = .ok c → compile types b = .ok d →
    c.functionName ≠ d.functionName ∧ c.inputType ≠ d.inputType

theorem compileAll_ok_iff : compileAll types ops = .ok codes ↔
    List.Forall₂ (fun o c => compile types o = .ok c) ops codes ∧
      (codes.map (·.functionName)).Nodup ∧ (codes.map (·.inputType)).Nodup := by
  rw [compileAll, compileFrom_ok_iff]
  constructor
  · rintro ⟨hcompiled, hnodup, -⟩
    exact ⟨hcompiled, (names_nodup_iff_apart hcompiled).mp hnodup⟩
  · rintro ⟨hcompiled, hnodup⟩
    exact ⟨hcompiled, (names_nodup_iff_apart hcompiled).mpr hnodup, List.disjoint_nil_right _⟩

/-- The functions of the operations are named after their texts. -/
theorem map_functionName_eq (h : List.Forall₂ (fun o c => compile types o = .ok c) ops codes) :
    codes.map (·.functionName) = ops.map fun o => Naming.field o.id := by
  induction h with
  | nil => rfl
  | cons hcompile _ ih =>
    rw [List.map_cons, List.map_cons, ih, (compiled_of_compile hcompile).functionName]

/-- The types of the operations are named after their words. -/
theorem map_typeName_eq (h : List.Forall₂ (fun o c => compile types o = .ok c) ops codes) :
    codes.map (·.typeName) = ops.map fun o => Naming.proper o.id := by
  induction h with
  | nil => rfl
  | cons hcompile _ ih =>
    rw [List.map_cons, List.map_cons, ih, (compiled_of_compile hcompile).typeName]

/-- Operations have no name in common exactly if their code has none. -/
theorem pairwise_apart_iff (h : List.Forall₂ (fun o c => compile types o = .ok c) ops codes) :
    ops.Pairwise (Apart types) ↔
      (codes.map (·.functionName)).Nodup ∧ (codes.map (·.inputType)).Nodup := by
  simp only [List.Nodup, List.pairwise_map, ← List.pairwise_and_iff]
  constructor
  · intro hapart
    refine pairwise_of_forall₂ ?_ h hapart
    exact fun a b c d ha hb hab => hab c d ha hb
  · intro hnodup
    refine pairwise_of_forall₂ (R := fun c o => compile types o = .ok c) ?_ h.flip hnodup
    intro c d a b ha hb hcd c' d' ha' hb'
    rw [ha] at ha'
    rw [hb] at hb'
    cases ha'
    cases hb'
    exact hcd

/-- Operations that compile have a list of codes. -/
theorem exists_codes_iff :
    (∃ codes, List.Forall₂ (fun o c => compile types o = .ok c) ops codes) ↔
      ∀ o ∈ ops, ∃ c, compile types o = .ok c := by
  induction ops with
  | nil => exact ⟨fun _ => List.forall_mem_nil _, fun _ => ⟨[], .nil⟩⟩
  | cons o ops ih =>
    rw [List.forall_mem_cons, ← ih]
    constructor
    · rintro ⟨codes, h⟩
      obtain ⟨c, rest, hcompile, hcompiled, rfl⟩ := List.forall₂_cons_left_iff.mp h
      exact ⟨⟨c, hcompile⟩, rest, hcompiled⟩
    · rintro ⟨⟨c, hcompile⟩, rest, hcompiled⟩
      exact ⟨c :: rest, .cons hcompile hcompiled⟩

/-- **A document compiles exactly if each of its operations does and no two of them share the name
of a function or of an input.**  Then the codes are those of the operations, in their order, and no
name of a function, of a dispatcher, of a decoder and of a type occurs twice. -/
theorem compileAll_apart (types : TypeMap) (operations : List Operation) :
    ((∃ codes, compileAll types operations = .ok codes) ↔
      (∀ o ∈ operations, ∃ c, compile types o = .ok c) ∧ operations.Pairwise (Apart types)) ∧
      ∀ codes, compileAll types operations = .ok codes →
        List.Forall₂ (fun o c => compile types o = .ok c) operations codes ∧
        (codes.map (·.functionName)).Nodup ∧
        (codes.map (·.dispatcher)).Nodup ∧
        (codes.map (·.decoder)).Nodup ∧
        (codes.map (·.inputType) ++ codes.map (·.outputType) ++ codes.map (·.errorType)).Nodup := by
  refine ⟨⟨?_, ?_⟩, ?_⟩
  · rintro ⟨codes, h⟩
    obtain ⟨hcompiled, hnodup⟩ := compileAll_ok_iff.mp h
    exact ⟨exists_codes_iff.mp ⟨codes, hcompiled⟩, (pairwise_apart_iff hcompiled).mpr hnodup⟩
  · rintro ⟨hcompile, hapart⟩
    obtain ⟨codes, hcompiled⟩ := exists_codes_iff.mpr hcompile
    exact ⟨codes, compileAll_ok_iff.mpr ⟨hcompiled, (pairwise_apart_iff hcompiled).mp hapart⟩⟩
  · intro codes h
    obtain ⟨hcompiled, hfunctions, hinputs⟩ := compileAll_ok_iff.mp h
    exact ⟨hcompiled, hfunctions, nodup_append_map "dispatch_" hfunctions,
      nodup_append_map "decode_" hfunctions, types_nodup hinputs⟩

/-- An operation with nothing but a name. -/
def bareOperation (id : String) : Operation where
  id := id
  method := .get
  pathTemplate := "/"
  summary := none
  description := none
  parameters := []
  responses := []

theorem compileAll_apart_items :
    ∃ codes, compileAll {} [bareOperation "listItems", bareOperation "list-item"] = .ok codes ∧
      codes.map (·.functionName) = ["list_items", "list_item"] ∧
      (codes.map (·.dispatcher)).Nodup ∧ (codes.map (·.decoder)).Nodup ∧
      (codes.map (·.inputType) ++ codes.map (·.outputType) ++ codes.map (·.errorType)).Nodup := by
  have hok : (compileAll {} [bareOperation "listItems", bareOperation "list-item"]).isOk = true := by
    decide +kernel
  have hitems : Naming.field "listItems" = "list_items" := by decide +kernel
  have hitem : Naming.field "list-item" = "list_item" := by decide +kernel
  cases hcompile : compileAll {} [bareOperation "listItems", bareOperation "list-item"] with
  | error e => rw [hcompile] at hok; cases hok
  | ok codes =>
    obtain ⟨hcompiled, -, hdispatchers, hdecoders, htypes⟩ := (compileAll_apart {} _).2 codes hcompile
    obtain ⟨c, rest, hc, hrest, rfl⟩ := List.forall₂_cons_left_iff.mp hcompiled
    obtain ⟨d, rest, hd, hnil, rfl⟩ := List.forall₂_cons_left_iff.mp hrest
    cases hnil
    refine ⟨_, rfl, ?_, hdispatchers, hdecoders, htypes⟩
    rw [List.map_cons, List.map_singleton, (compiled_of_compile hc).functionName,
      (compiled_of_compile hd).functionName]
    exact congrArg₂ (fun s t => [s, t]) hitems hitem

/-! ## Operations with nothing but a name -/

theorem compile_bare (types : TypeMap) (id : String) (hid : Naming.proper id ≠ "") :
    ∃ c, compile types (bareOperation id) = .ok c :=
  exists_compile hid rfl rfl

/-- Operations with nothing but a name compile if these are usable and yield different names. -/
theorem compileAll_bare (types : TypeMap) (ids : List String)
    (hids : ∀ id ∈ ids, Naming.proper id ≠ "") (hfields : (ids.map Naming.field).Nodup)
    (hpropers : (ids.map Naming.proper).Nodup) :
    ∃ codes, compileAll types (ids.map bareOperation) = .ok codes ∧
      codes.map (·.functionName) = ids.map Naming.field ∧
      codes.map (·.typeName) = ids.map Naming.proper := by
  obtain ⟨codes, hcompiled⟩ : ∃ codes,
      List.Forall₂ (fun o c => compile types o = .ok c) (ids.map bareOperation) codes :=
    exists_codes_iff.mpr (List.forall_mem_map.mpr fun id hid => compile_bare types id (hids id hid))
  have hfunctions : codes.map (·.functionName) = ids.map Naming.field := by
    rw [map_functionName_eq hcompiled, List.map_map]
    rfl
  have htypes : codes.map (·.typeName) = ids.map Naming.proper := by
    rw [map_typeName_eq hcompiled, List.map_map]
    rfl
  refine ⟨codes, compileAll_ok_iff.mpr ⟨hcompiled, ?_, ?_⟩, hfunctions, htypes⟩
  · rw [hfunctions]
    exact hfields
  · exact nodup_map_append "Input" (htypes ▸ hpropers)

end ApiScaffold.Code
