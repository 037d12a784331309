import ApiScaffold.Package.Lines
import ApiScaffold.Proofs.Code.Compile

/-!
# No line of generated code is empty

Every statement, every expression and every arm begins with a word of its own, so the lines of the
code of an operation have characters, whatever its names are.  So have the lines of descriptions, of
which the empty ones are left out, and the types of bodies.

* `Lines.Filled`: lines each of which has characters.
* `filled_checkLines`, `filled_pathLines`, `filled_requestLines`, `filled_sourceLines`,
  `filled_armLines`: **the lines of the code of an operation have characters.**
* `Written`: code whose descriptions and types of bodies have characters; `written_of_compile`: the
  code of an operation that compiles is such.
-/

namespace ApiScaffold

variable {types : TypeMap}

@[simp]
theorem toString_text (s : String) : toString s = s := rfl

/-- Lines each of which has characters. -/
def Lines.Filled (lines : Lines) : Prop := ∀ line ∈ lines, line ≠ ""

namespace Lines

variable {lines more : Lines} {line : String}

theorem filled_nil : Filled [] := List.forall_mem_nil _

theorem filled_cons (h : line ≠ "") (hlines : lines.Filled) : Filled (line :: lines) :=
  List.forall_mem_cons.mpr ⟨h, hlines⟩

theorem filled_append (h : lines.Filled) (h' : more.Filled) : Filled (lines ++ more) :=
  List.forall_mem_append.mpr ⟨h, h'⟩

theorem filled_map {α : Type} {xs : List α} {f : α → String} (h : ∀ x ∈ xs, f x ≠ "") :
    Filled (xs.map f) :=
  List.forall_mem_map.mpr h

end Lines

open Lines (filled_nil filled_cons filled_append filled_map)

/-- A description has no empty lines. -/
theorem DocText.filled_docLines (s : String) : Lines.Filled (DocText.docLines s) := by
  refine filled_map fun line hline hempty => ?_
  obtain ⟨-, hfilled⟩ := List.mem_filter.mp hline
  rw [String.ofList_eq_empty_iff] at hempty
  rw [hempty] at hfilled
  cases hfilled

theorem Text.Quoted.encode_ne (s : String) : Text.Quoted.encode s ≠ "" := by
  rw [Text.Quoted.encode, ne_eq, String.ofList_eq_empty_iff]
  nofun

/-- A type has a name. -/
theorem TypeMap.sourceType_ne (type : ValueType) : types.sourceType type ≠ "" := by
  unfold TypeMap.sourceType
  split
  · next p => cases p <;> decide
  · simp
  · simp

namespace Code

variable {o : Operation} {c : OperationCode}

/-! ## Statements and expressions -/

theorem Check.write_ne (wire text number : String) (check : Check) :
    check.write wire text number ≠ "" := by
  unfold Check.write
  cases check <;> simp

theorem filled_checkLines (c : OperationCode) : Lines.Filled c.checkLines := by
  refine List.forall_mem_flatMap.mpr fun checks _ => ?_
  rw [FieldCheck.write]
  split
  · refine filled_append (filled_cons (by simp) ?_) ?_
    · exact filled_map fun check _ => by simp
    · exact filled_cons (by decide) filled_nil
  · exact filled_map fun check _ => Check.write_ne _ _ _ check

theorem QueryPush.write_ne (q : QueryPush) : q.write ≠ "" := by
  unfold QueryPush.write
  dsimp only
  split <;> simp

theorem filled_pathLines (c : OperationCode) : Lines.Filled c.pathLines := by
  unfold OperationCode.pathLines PathCode.write
  dsimp only
  refine filled_append (filled_append (filled_cons ?_ ?_) (filled_cons ?_ ?_)) ?_
  · simp
  · exact filled_map fun substitution _ => by simp
  · simp
  · exact filled_map fun push _ => QueryPush.write_ne push
  · exact filled_cons (by decide) filled_nil

theorem filled_requestLines (c : OperationCode) : Lines.Filled c.requestLines := by
  refine filled_map fun step _ => ?_
  unfold RequestStep.write
  split <;> simp

theorem filled_sourceLines (c : OperationCode) : Lines.Filled c.sourceLines :=
  filled_map fun source _ => by simp

theorem filled_armLines (c : OperationCode) : Lines.Filled c.armLines := by
  refine filled_map fun arm _ => ?_
  unfold DispatchArm.write
  simp

/-- An attribute has characters. -/
theorem attribute_ne {f : FieldCode} {text : String} (h : f.attribute = some text) :
    text ≠ "" := by
  unfold FieldCode.attribute at h
  dsimp only at h
  obtain ⟨-, htext⟩ := Option.ite_none_left_eq_some.mp h
  cases htext
  simp

/-! ## Operations that compile -/

/-- Code whose descriptions have no empty lines and whose types of bodies have names. -/
structure Written (c : OperationCode) : Prop where
  docs : ∀ f ∈ c.fields, Lines.Filled f.doc
  payloads : ∀ v ∈ c.successes ++ c.failures, v.payload ≠ some ""

/-- **The code of an operation that compiles is written.** -/
theorem written_of_compile (h : compile types o = .ok c) : Written c := by
  have compiled := compiled_of_compile h
  constructor
  · rw [compiled.fields]
    refine List.forall_mem_map.mpr fun p _ => ?_
    rw [fieldCode]
    cases p.description with
    | none => exact filled_nil
    | some text => exact DocText.filled_docLines text
  · intro v hv
    have hown := (parts_of_variantsOf compiled.variants).perm.mem_iff.mp hv
    obtain ⟨r, -, n, -, rfl⟩ := mem_ownVariants.mp hown
    rw [Variant.ofResponse]
    cases r.schema with
    | none => nofun
    | some type => exact fun heq => TypeMap.sourceType_ne type (Option.some.inj heq)

end Code

end ApiScaffold
