import ApiScaffold.Proofs.Code.Compile
import ApiScaffold.Proofs.Code.Statement
import ApiScaffold.Proofs.Walk.WellFormed
import ApiScaffold.Sample.Items

/-!
# The code that checks an input means what is declared

The lines of all fields are read one field after another, and what they stand for reports the first
violation of what is declared.  The texts of limits are read back as long as the limits are finite
numbers, as all numbers of a document are.

* `Constraints.HasFiniteLimits`: limits that are finite numbers; `hasFiniteLimits_of_operations`:
  those of a document are.
* `mapM_read?_fields`: the lines of all fields are read as what they stand for.
* `validate_eq`: **the code reports the first violation.**
* `validate_eq_firstViolation`: it does so for every operation that compiles, in blocks that are
  closed.
* `validate_sample`: the sample checks its input as the code of its operation does.
-/

namespace ApiScaffold

open Json (Numeral Value)
open Number (Binary64 IsValue)

/-! ## Limits -/

/-- Limits that are finite numbers. -/
structure Constraints.HasFiniteLimits (c : Constraints) : Prop where
  maximum : ∀ x, c.maximum = some x → IsValue x
  minimum : ∀ x, c.minimum = some x → IsValue x
  multipleOf : ∀ x, c.multipleOf = some x → IsValue x

/-- An integer of 64 bits, or a finite floating number. -/
def Json.Numeral.IsHeld : Numeral → Prop
  | .integer n => n.natAbs < 2 ^ 64
  | .float x => IsValue x

theorem isValue_of_asFloat? {v : Value} {x : Binary64} (hv : ∀ n, v = .number n → n.IsHeld)
    (h : v.asFloat? = some x) : IsValue x := by
  cases v with
  | number n =>
    have hn := hv n rfl
    cases n with
    | integer n =>
      cases h
      exact Number.isValue_ofInt hn
    | float y =>
      cases h
      exact hn
  | _ => cases h

/-- A value whose members are held if they are numbers. -/
def Json.Value.HoldsNumbers (v : Value) : Prop :=
  ∀ key n, v.get? key = some (.number n) → n.IsHeld

theorem hasFiniteLimits_ofJson {v : Value} (h : v.HoldsNumbers) :
    (Constraints.ofJson v).HasFiniteLimits := by
  have hlimit : ∀ key x, (v.get? key).bind Value.asFloat? = some x → IsValue x := by
    intro key x hx
    obtain ⟨limit, hget, hlimit⟩ := Option.bind_eq_some_iff.mp hx
    exact isValue_of_asFloat? (fun n hn => h key n (hn ▸ hget)) hlimit
  exact ⟨hlimit "maximum", hlimit "minimum", hlimit "multipleOf"⟩

/-- **The limits of the operations of a document are finite** as its numbers are. -/
theorem hasFiniteLimits_of_operations {types : TypeMap} {document : Document}
    {ops : List Operation} (walked : Walk.operations types document = .ok ops)
    (hnumbers : ∀ path ∈ document.paths, (∀ item ∈ path.parameters, item.schema.HoldsNumbers) ∧
      ∀ operation ∈ path.operations, ∀ item ∈ operation.parameters, item.schema.HoldsNumbers) :
    ∀ o ∈ ops, ∀ p ∈ o.parameters, p.constraints.HasFiniteLimits := by
  intro o ho p hp
  obtain ⟨path, hpath, operation, hoperation, hdescribe⟩ := Walk.exists_of_mem_operations walked ho
  obtain ⟨item, hitem, hdescribes⟩ :=
    exists_of_mem_forall₂ (Walk.describes_of_describe hdescribe) hp
  have hheld : item.schema.HoldsNumbers := by
    rcases List.mem_append.mp hitem with hshared | hown
    · exact (hnumbers path hpath).1 item (List.mem_of_mem_filter hshared)
    · exact (hnumbers path hpath).2 operation hoperation item hown
  rw [hdescribes.constraints]
  split
  · exact ⟨nofun, nofun, nofun⟩
  · exact hasFiniteLimits_ofJson hheld

namespace Code

variable {types : TypeMap} {o : Operation} {c : OperationCode} {p : Parameter}
  {parameters : List Parameter} {input : Input} {check : Check}

/-- A keyword with a finite limit. -/
theorem isRegular_of_declared {t : Primitive} {k : Keyword} {limits : Constraints}
    (h : limits.HasFiniteLimits) (hdeclared : declared? t limits k = some check) :
    check.IsRegular := by
  cases k with
  | maximum =>
    obtain ⟨x, hx, rfl⟩ := Option.map_eq_some_iff.mp hdeclared
    exact h.maximum x hx
  | minimum =>
    obtain ⟨x, hx, rfl⟩ := Option.map_eq_some_iff.mp hdeclared
    exact h.minimum x hx
  | multipleOf =>
    obtain ⟨x, hx, rfl⟩ := Option.map_eq_some_iff.mp hdeclared
    exact h.multipleOf x hx
  | enum =>
    rw [declared?] at hdeclared
    split at hdeclared
    · cases hdeclared
    · cases hdeclared
      split <;> trivial
  | _ =>
    obtain ⟨x, -, rfl⟩ := Option.map_eq_some_iff.mp hdeclared
    trivial

/-- The checks of a parameter with finite limits. -/
theorem isRegular_of_mem_checksOf (h : p.constraints.HasFiniteLimits) (hcheck : check ∈ checksOf p) :
    check.IsRegular := by
  unfold checksOf at hcheck
  split at hcheck
  · cases hcheck
  split at hcheck
  · rw [primitiveChecks_eq] at hcheck
    obtain ⟨k, -, hdeclared⟩ := List.mem_filterMap.mp hcheck
    exact isRegular_of_declared h hdeclared
  · cases hcheck

/-! ## All fields -/

/-- Fields are checked that stand for parameters of plain types outside the body. -/
theorem exists_of_mem_fieldChecks {checks : FieldCheck}
    (h : checks ∈ fieldChecks (fieldsOf parameters)) :
    ∃ p ∈ parameters, checks = fieldCheck p ∧ p.location ≠ .body ∧ p.type.isPrimitive = true := by
  obtain ⟨⟨p, field⟩, hmem, hchecks⟩ := List.mem_filterMap.mp h
  obtain ⟨p, hp, heq⟩ := List.mem_map.mp hmem
  cases heq
  dsimp only at hchecks
  split at hchecks
  · cases hchecks
  next hsome =>
  cases hchecks
  refine ⟨p, hp, rfl, ?_⟩
  by_contra hplain
  refine hsome (isEmpty_checksOf fun t hbody htype => hplain ⟨hbody, ?_⟩)
  rw [htype]
  rfl

/-- **The lines of all fields are read as what they stand for.** -/
theorem mapM_read?_fields (h : ∀ p ∈ parameters, p.constraints.HasFiniteLimits) :
    ((fieldChecks (fieldsOf parameters)).flatMap FieldCheck.write).mapM Line.read?
      = some (linesOf parameters) := by
  refine mapM_flatMap_eq_some fun checks hchecks => ?_
  obtain ⟨p, hp, rfl, -⟩ := exists_of_mem_fieldChecks hchecks
  exact mapM_read?_write (advance_field p.name) fun check hcheck =>
    isRegular_of_mem_checksOf (h p hp) hcheck

/-- What the code that checks an input does, if its limits are finite. -/
theorem validate_eq (input : Input) (hcompile : compile types o = .ok c)
    (hlimits : ∀ p ∈ o.parameters, p.constraints.HasFiniteLimits) :
    c.checkLines.mapM Line.read? = some (linesOf o.parameters) ∧
      c.validate input = runLines c.fields input .outside (linesOf o.parameters) := by
  have hread : c.checkLines.mapM Line.read? = some (linesOf o.parameters) := by
    rw [OperationCode.checkLines, (compiled_of_compile hcompile).checks]
    exact mapM_read?_fields hlimits
  refine ⟨hread, ?_⟩
  rw [OperationCode.validate, hread]
  rfl

/-- A parameter has its field. -/
theorem hasField_of_mem (hcompile : compile types o = .ok c) (hp : p ∈ o.parameters) :
    hasField c.fields (Naming.field p.name) p.isOptional = true := by
  rw [hasField, (compiled_of_compile hcompile).fields, List.any_map, List.any_eq_true]
  exact ⟨p, hp, by simp [fieldCode]⟩

/-- **The code that checks an input means what is declared.**  For every operation that compiles,
and every assignment of values to its fields, it reports the first violation of what is declared,
parameter by parameter and keyword by keyword, or nothing if nothing is violated.  Every block in it
is closed, and no check in it is one of a body or an array. -/
theorem validate_eq_firstViolation (hcompile : compile types o = .ok c)
    (hlimits : ∀ p ∈ o.parameters, p.constraints.HasFiniteLimits)
    (hinput : ∀ p ∈ o.parameters, p.location ≠ .body → p.type.isPrimitive = true →
      fits p (input (Naming.field p.name)) = true) :
    c.validate input = some (outcome (firstViolation? input o.parameters)) ∧
      (∃ lines, c.checkLines.mapM Line.read? = some lines ∧ closesBlocks false lines = true) ∧
      ∀ checks ∈ c.checks, ∃ p ∈ o.parameters,
        checks = fieldCheck p ∧ p.location ≠ .body ∧ p.type.isPrimitive = true := by
  obtain ⟨hread, hvalidate⟩ := validate_eq input hcompile hlimits
  have hrun : runLines c.fields input .outside (linesOf o.parameters)
      = some (outcome (firstViolation? input o.parameters)) := by
    refine runLines_fields fun p hp => ⟨hasField_of_mem hcompile hp, hinput p hp, ?_⟩
    have hpatterns := (compiled_of_compile hcompile).patterns
    exact (checkPatterns_ok_iff o.id o.parameters).mp hpatterns p hp
  refine ⟨hvalidate.trans hrun, ⟨_, hread, closesBlocks_of_runLines hrun⟩, fun checks hchecks => ?_⟩
  rw [(compiled_of_compile hcompile).checks] at hchecks
  exact exists_of_mem_fieldChecks hchecks

/-! ## The sample -/

/-- The operation of the sample, with the limits on its parameters. -/
def sampleOperation : Operation where
  id := "getItem"
  method := .get
  pathTemplate := "/items/\x7bid\x7d"
  summary := none
  description := none
  parameters := [
    { sampleParameter "id" .path .string with
      constraints := { maxLength := some 8, pattern := some "^[a-z0-9-]+$" } },
    sampleParameter "verbose" .query .boolean,
    { sampleParameter "limit" .query .int64 with constraints := { maximum := some (.ofInt 50) } }]
  responses := []

theorem hasFiniteLimits_sample :
    ∀ p ∈ sampleOperation.parameters, p.constraints.HasFiniteLimits := by
  have hlimit : ∀ x, some (Number.Binary.ofInt 50 : Binary64) = some x → IsValue x := by
    intro x hx
    cases hx
    exact Number.isValue_ofInt (by decide)
  refine List.forall_mem_cons.mpr ⟨⟨nofun, nofun, nofun⟩, ?_⟩
  refine List.forall_mem_cons.mpr ⟨⟨nofun, nofun, nofun⟩, ?_⟩
  exact List.forall_mem_singleton.mpr ⟨hlimit, nofun, nofun⟩

theorem andThen_ok (first : Except Violation Unit) : andThen first (.ok ()) = first := by
  cases first <;> rfl

theorem andThen_andThen (first second later : Except Violation Unit) :
    andThen first (andThen second later) = (do first; second; later) := by
  cases first <;> cases second <;> rfl

/-- **The sample checks its input as the code of its operation does.** -/
theorem validate_sample (hcompile : compile types sampleOperation = .ok c)
    (i : Sample.GetItemInput) : c.validate (sampleInput i) = some i.validate := by
  have hid : Naming.field "id" = "id" := by decide +kernel
  have hverbose : Naming.field "verbose" = "verbose" := by decide +kernel
  have hlimit : Naming.field "limit" = "limit" := by decide +kernel
  have hlines : linesOf sampleOperation.parameters
      = [.check "id" (.field "id") (.maxLength 8),
        .check "id" (.field "id") (.pattern "^[a-z0-9-]+$"),
        .opening "limit", .check "limit" .bound (.maximum (.ofInt 50) false), .closing] := by
    simp only [linesOf, fieldsOf, sampleOperation, sampleParameter, List.map_cons, List.map_nil,
      hid, hverbose, hlimit]
    rfl
  have hfields : hasField c.fields "id" false = true ∧ hasField c.fields "limit" true = true := by
    rw [(compiled_of_compile hcompile).fields]
    simp only [sampleOperation, sampleParameter, List.map_cons, List.map_nil, hid, hverbose, hlimit]
    exact ⟨rfl, rfl⟩
  have hplace : (Place.field "id").value? c.fields (sampleInput i) .outside
      = some (.string i.id) := by
    simp only [Place.value?, hfields.1, sampleInput]
  -- the block of the limit, which is passed over where the limit is left out
  have hblock : runLines c.fields (sampleInput i) .outside
      [.opening "limit", .check "limit" .bound (.maximum (.ofInt 50) false), .closing]
      = some (i.limit.elim (.ok ()) fun n =>
        Validation.maximum "limit" (.ofInt n) (.ofInt 50) false) := by
    have hopen : openBlock c.fields (sampleInput i) "limit"
        = some (i.limit.elim .passedOver fun n => .inside (.integer n)) := by
      cases hvalue : i.limit <;> simp [openBlock, hfields.2, sampleInput, hvalue]
    rw [runLines, hopen, Option.bind_eq_bind, Option.bind_some]
    cases i.limit with
    | none => rfl
    | some n => exact congrArg some (andThen_ok _)
  have hscope : Scope.outside ≠ .passedOver := by simp
  rw [(validate_eq _ hcompile hasFiniteLimits_sample).2, hlines, runLines_check hplace rfl hscope,
    runLines_check hplace rfl hscope, hblock]
  refine congrArg some ((andThen_andThen _ _ _).trans ?_)
  rw [Sample.GetItemInput.validate]
  cases i.limit <;> rfl

/-- A limit above the greatest one is reported, the only violation of that input. -/
theorem validate_eq_firstViolation_sample :
    ∃ c, compile {} sampleOperation = .ok c ∧
      c.validate (sampleInput ⟨"a-1", none, some 51⟩)
        = some (.error (.maximum "limit" (.ofInt 50) false (.ofInt 51))) ∧
      ∃ lines, c.checkLines.mapM Line.read? = some lines ∧ closesBlocks false lines = true := by
  have hok : (compile {} sampleOperation).isOk = true := by decide +kernel
  have hfits : ∀ p ∈ sampleOperation.parameters, p.location ≠ .body → p.type.isPrimitive = true →
      fits p (sampleInput ⟨"a-1", none, some 51⟩ (Naming.field p.name)) = true := by decide +kernel
  have hviolation : firstViolation? (sampleInput ⟨"a-1", none, some 51⟩) sampleOperation.parameters
      = some (.maximum "limit" (.ofInt 50) false (.ofInt 51)) := by decide +kernel
  cases hcompile : compile {} sampleOperation with
  | error e => rw [hcompile] at hok; cases hok
  | ok c =>
    obtain ⟨hrun, hclosed, -⟩ := validate_eq_firstViolation hcompile hasFiniteLimits_sample hfits
    rw [hviolation] at hrun
    exact ⟨c, rfl, hrun, hclosed⟩

end Code

end ApiScaffold
