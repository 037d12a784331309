import ApiScaffold.Code.Statement
import ApiScaffold.Proofs.Code.Input

/-!
# The checks of an input find the first violation

What a parameter declares is a list of keywords, and each keyword is violated or not by itself.
The code that checks an input stops at the first violation, and it finds it although each line
says no more than its own check: a line in front of others adds its violation, if there is one, in
front of theirs.  So the lines of one parameter add the first violation of its keywords
(`runLines_parameter`), and the lines of all parameters add up to the first violation of all
(`runLines_fields`).

* `Keyword.ofType`: the keywords that are checked on the values of a type, in their order.
* `violation?`: how a value violates a keyword.
* `firstViolation?`: **the first violation of an input**: parameter by parameter, keyword by
  keyword.
* `primitiveChecks_eq`: the checks of a type are those of its keywords.
* `runLines_fields`: **the lines report the first violation.**
* `closesBlocks_of_runLines`: lines that run close every block that they open.
-/

namespace ApiScaffold.Code

open Number (Binary64)

/-! ## What is declared -/

/-- The keywords that limit values. -/
inductive Keyword
  | maxLength | minLength | pattern | enum | maximum | minimum | multipleOf
  deriving DecidableEq

/-- The keywords that are checked on the values of a type, in their order. -/
def Keyword.ofType : Primitive → List Keyword
  | .string => [.maxLength, .minLength, .pattern, .enum]
  | .boolean => [.enum]
  | _ => [.enum, .maximum, .minimum, .multipleOf]

/-- Whether a number is above a limit, or is the limit where that is excluded. -/
def isAbove (x : Binary64) (exclusive : Bool) (limit : Binary64) : Bool :=
  limit.lt x || exclusive && limit.same x

/-- Whether a number is below a limit, or is the limit where that is excluded. -/
def isBelow (x : Binary64) (exclusive : Bool) (limit : Binary64) : Bool :=
  x.lt limit || exclusive && x.same limit

/-- Whether the quotient by a factor is further from all integers than is tolerated; it never is
if the factor is zero. -/
def isFractional (x factor : Binary64) : Bool :=
  !factor.isZero &&
    Validation.tolerance.lt ((x.div factor).sub (x.div factor).roundToInteger).abs

/-- How a value violates what a keyword declares, if it does. -/
def violation? (c : Constraints) (wire : String) (v : ParamValue) : Keyword → Option Violation
  | .maxLength =>
    (c.maxLength.filter fun max => max < v.text.length).map fun max =>
      .maxLength wire max v.text.length
  | .minLength =>
    (c.minLength.filter fun min => v.text.length < min).map fun min =>
      .minLength wire min v.text.length
  | .pattern =>
    (c.pattern.filter fun p => !(Pattern.ofString? p).any (·.occursIn v.text)).map fun p =>
      .pattern wire p
  | .enum =>
    if c.enumValues = [] ∨ v.text ∈ c.enumValues then none
    else some (.notListed wire c.enumValues v.text)
  | .maximum =>
    (asDouble? v).bind fun x => (c.maximum.filter (isAbove x c.exclusiveMaximum)).map fun limit =>
      .maximum wire limit c.exclusiveMaximum x
  | .minimum =>
    (asDouble? v).bind fun x => (c.minimum.filter (isBelow x c.exclusiveMinimum)).map fun limit =>
      .minimum wire limit c.exclusiveMinimum x
  | .multipleOf =>
    (asDouble? v).bind fun x => (c.multipleOf.filter (isFractional x)).map fun factor =>
      .multipleOf wire factor x

/-- The value of a parameter that is checked, with its type: one of a plain type, outside the
body, that has not been left out. -/
def checkedValue? (input : Input) (p : Parameter) : Option (Primitive × ParamValue) :=
  match p.location, p.type, input (Naming.field p.name) with
  | .body, _, _ => none
  | _, .primitive t, some (.one v) => some (t, v)
  | _, _, _ => none

/-- The first violation of a parameter, in the order of its keywords. -/
def parameterViolation? (input : Input) (p : Parameter) : Option Violation :=
  (checkedValue? input p).bind fun (t, v) =>
    (Keyword.ofType t).findSome? (violation? p.constraints p.name v)

/-- **The first violation of an input**, in the order of the parameters. -/
def firstViolation? (input : Input) (parameters : List Parameter) : Option Violation :=
  parameters.findSome? (parameterViolation? input)

/-- The result of a search for violations. -/
def outcome (violation : Option Violation) : Except Violation Unit :=
  violation.elim (.ok ()) .error

/-! ## One check -/

variable {input : Input} {fields : List FieldCode} {scope : Scope} {place : Place}
  {rest : List Line} {c : Constraints} {p : Parameter} {t : Primitive} {v : ParamValue}
  {wire : String} {k : Keyword} {later : Except Violation Unit}

theorem andThen_outcome (x y : Option Violation) :
    andThen (outcome x) (outcome y) = outcome (x.or y) := by
  cases x <;> rfl

/-- The check that a keyword stands for, if it is declared. -/
def declared? (t : Primitive) (c : Constraints) : Keyword → Option Check
  | .maxLength => c.maxLength.map .maxLength
  | .minLength => c.minLength.map .minLength
  | .pattern => c.pattern.map .pattern
  | .enum =>
    if c.enumValues.isEmpty then none
    else some (if t = .string then .oneOf c.enumValues else .textOneOf c.enumValues)
  | .maximum => c.maximum.map (.maximum · c.exclusiveMaximum)
  | .minimum => c.minimum.map (.minimum · c.exclusiveMinimum)
  | .multipleOf => c.multipleOf.map .multipleOf

theorem enumCheck_eq (check : List String → Check) (allowed : List String) :
    enumCheck check allowed = (if allowed.isEmpty then none else some (check allowed)).toList := by
  rw [enumCheck]
  split <;> rfl

/-- **The checks of a type are those of its keywords, in their order.** -/
theorem primitiveChecks_eq (t : Primitive) (c : Constraints) :
    primitiveChecks t c = (Keyword.ofType t).filterMap (declared? t c) := by
  rw [List.filterMap_eq_flatMap_toList]
  cases t <;>
    simp [primitiveChecks, Keyword.ofType, declared?, enumCheck_eq, Primitive.isNumeric]

/-- A declared limit that is tested: its violation, if it is violated. -/
theorem outcome_filter {α : Type} {violated : α → Bool} {report : α → Violation} (limit : α) :
    outcome (((some limit).filter violated).map report)
      = if violated limit then .error (report limit) else .ok () := by
  cases h : violated limit <;> simp [Option.filter, h, outcome]

theorem asString?_of_hasType (h : v.hasType .string = true) : asString? v = some v.text := by
  cases v with
  | string s => rfl
  | _ => cases h

theorem asDouble?_of_hasType (h : v.hasType t = true) (hnumeric : t.isNumeric = true) :
    ∃ x, asDouble? v = some x := by
  cases v with
  | string s => cases t <;> first
    | exact absurd hnumeric Bool.false_ne_true
    | exact absurd h Bool.false_ne_true
  | bool b => cases t <;> first
    | exact absurd hnumeric Bool.false_ne_true
    | exact absurd h Bool.false_ne_true
  | _ => exact ⟨_, rfl⟩

theorem eq_string_of_mem (h : k ∈ Keyword.ofType t)
    (hk : k = .maxLength ∨ k = .minLength ∨ k = .pattern) : t = .string := by
  rcases hk with rfl | rfl | rfl <;> revert h <;> cases t <;> decide

theorem isNumeric_of_mem (h : k ∈ Keyword.ofType t)
    (hk : k = .maximum ∨ k = .minimum ∨ k = .multipleOf) : t.isNumeric = true := by
  rcases hk with rfl | rfl | rfl <;> revert h <;> cases t <;> decide

theorem maximum_eq (x limit : Binary64) (exclusive : Bool) :
    Validation.maximum wire x limit exclusive
      = if isAbove x exclusive limit then .error (.maximum wire limit exclusive x) else .ok () := by
  cases exclusive <;> simp [Validation.maximum, isAbove, Number.Binary.le, Number.Binary.lt,
    Number.Binary.same]

theorem minimum_eq (x limit : Binary64) (exclusive : Bool) :
    Validation.minimum wire x limit exclusive
      = if isBelow x exclusive limit then .error (.minimum wire limit exclusive x) else .ok () := by
  cases exclusive <;> simp [Validation.minimum, isBelow, Number.Binary.le, Number.Binary.lt,
    Number.Binary.same]

theorem multipleOf_eq (x factor : Binary64) :
    Validation.multipleOf wire x factor
      = if isFractional x factor then .error (.multipleOf wire factor x) else .ok () := by
  cases h : factor.isZero <;> simp [Validation.multipleOf, isFractional, h]

/-- A pattern that can be read occurs in a text or is violated. -/
theorem pattern_eq {s text : String} (h : (Pattern.ofString? text).isSome = true) :
    Validation.pattern wire s text
      = if !(Pattern.ofString? text).any (·.occursIn s) then .error (.pattern wire text)
        else .ok () := by
  obtain ⟨p, hp⟩ := Option.isSome_iff_exists.mp h
  rw [Validation.pattern, hp]
  cases hoccurs : p.occursIn s <;> simp [hoccurs]

theorem oneOf_eq (s : String) (hallowed : c.enumValues.isEmpty = false) :
    Validation.oneOf wire s c.enumValues
      = outcome (if c.enumValues = [] ∨ s ∈ c.enumValues then none
          else some (.notListed wire c.enumValues s)) := by
  have hdeclared : c.enumValues ≠ [] := List.isEmpty_eq_false_iff.mp hallowed
  by_cases hmem : s ∈ c.enumValues <;> simp [Validation.oneOf, hmem, hdeclared, outcome]

/-- **A check finds the violation of its keyword**, on a value of the type. -/
theorem run_declared {check : Check} (typed : v.hasType t = true)
    (patterns : ∀ text, c.pattern = some text → (Pattern.ofString? text).isSome = true)
    (hk : k ∈ Keyword.ofType t) (h : declared? t c k = some check) :
    check.run wire v = some (outcome (violation? c wire v k)) := by
  cases k with
  | maxLength =>
    obtain rfl := eq_string_of_mem hk (.inl rfl)
    obtain ⟨max, hmax, rfl⟩ := Option.map_eq_some_iff.mp h
    rw [Check.run, asString?_of_hasType typed, violation?, hmax, outcome_filter]
    simp only [Option.map_some, Validation.maxLength, decide_eq_true_eq]
  | minLength =>
    obtain rfl := eq_string_of_mem hk (.inr (.inl rfl))
    obtain ⟨min, hmin, rfl⟩ := Option.map_eq_some_iff.mp h
    rw [Check.run, asString?_of_hasType typed, violation?, hmin, outcome_filter]
    simp only [Option.map_some, Validation.minLength, decide_eq_true_eq]
  | pattern =>
    obtain rfl := eq_string_of_mem hk (.inr (.inr rfl))
    obtain ⟨text, htext, rfl⟩ := Option.map_eq_some_iff.mp h
    rw [Check.run, asString?_of_hasType typed, violation?, htext, outcome_filter, Option.map_some,
      pattern_eq (patterns text htext)]
  | enum =>
    rw [declared?] at h
    split at h
    · cases h
    next hallowed =>
    rw [Bool.not_eq_true] at hallowed
    rw [violation?, ← oneOf_eq v.text hallowed]
    split at h
    · next hstring =>
      subst hstring
      cases h
      rw [Check.run, asString?_of_hasType typed]
      rfl
    · cases h
      rfl
  | maximum =>
    obtain ⟨x, hx⟩ := asDouble?_of_hasType typed (isNumeric_of_mem hk (.inl rfl))
    obtain ⟨limit, hlimit, rfl⟩ := Option.map_eq_some_iff.mp h
    rw [Check.run, hx, violation?, hx, hlimit, Option.bind_some, outcome_filter, Option.map_some,
      maximum_eq]
  | minimum =>
    obtain ⟨x, hx⟩ := asDouble?_of_hasType typed (isNumeric_of_mem hk (.inr (.inl rfl)))
    obtain ⟨limit, hlimit, rfl⟩ := Option.map_eq_some_iff.mp h
    rw [Check.run, hx, violation?, hx, hlimit, Option.bind_some, outcome_filter, Option.map_some,
      minimum_eq]
  | multipleOf =>
    obtain ⟨x, hx⟩ := asDouble?_of_hasType typed (isNumeric_of_mem hk (.inr (.inr rfl)))
    obtain ⟨factor, hfactor, rfl⟩ := Option.map_eq_some_iff.mp h
    rw [Check.run, hx, violation?, hx, hfactor, Option.bind_some, outcome_filter, Option.map_some,
      multipleOf_eq]

/-- What is not declared is not violated. -/
theorem violation?_of_undeclared (h : declared? t c k = none) : violation? c wire v k = none := by
  cases k with
  | enum =>
    rw [declared?] at h
    split at h
    · next hnone => exact if_pos (.inl (List.isEmpty_iff.mp hnone))
    · cases h
  | _ =>
    rw [declared?, Option.map_eq_none_iff] at h
    simp [violation?, h]

/-! ## The lines of a parameter -/

/-- A check in front of other lines. -/
theorem runLines_check {check : Check} {first : Except Violation Unit}
    (hplace : place.value? fields input scope = some v) (hrun : check.run wire v = some first)
    (hscope : scope ≠ .passedOver) :
    runLines fields input scope (.check wire place check :: rest)
      = (runLines fields input scope rest).map (andThen first) := by
  have hrest : ∀ later : Option (Except Violation Unit),
      (later.bind fun r => some (andThen first r)) = later.map (andThen first) := by
    intro later
    cases later <;> rfl
  rw [← hrest, runLines, hplace, Option.bind_eq_bind, Option.bind_some, hrun]
  · rfl
  · exact hscope

theorem map_andThen (x y : Option Violation) (later : Option (Except Violation Unit)) :
    (later.map (andThen (outcome y))).map (andThen (outcome x))
      = later.map (andThen (outcome (x.or y))) := by
  rw [Option.map_map]
  congr 1
  funext r
  cases x <;> rfl

theorem findSome?_cons_eq_or {α β : Type} (f : α → Option β) (x : α) (xs : List α) :
    (x :: xs).findSome? f = (f x).or (xs.findSome? f) := by
  rw [List.findSome?_cons]
  cases f x <;> rfl

/-- **The lines for some keywords** of a parameter add the first violation of these. -/
theorem runLines_keywords (typed : v.hasType t = true)
    (patterns : ∀ text, c.pattern = some text → (Pattern.ofString? text).isSome = true)
    (hplace : place.value? fields input scope = some v) (hscope : scope ≠ .passedOver)
    {ks : List Keyword} (hks : ∀ k ∈ ks, k ∈ Keyword.ofType t) :
    runLines fields input scope ((ks.filterMap (declared? t c)).map (.check wire place) ++ rest)
      = (runLines fields input scope rest).map
          (andThen (outcome (ks.findSome? (violation? c wire v)))) := by
  induction ks with
  | nil => exact Option.map_id'.symm
  | cons k ks ih =>
    obtain ⟨hk, hks⟩ := List.forall_mem_cons.mp hks
    rw [findSome?_cons_eq_or]
    cases hdeclared : declared? t c k with
    | none =>
      rw [List.filterMap_cons_none hdeclared, ih hks, violation?_of_undeclared hdeclared,
        Option.none_or]
    | some check =>
      rw [List.filterMap_cons_some hdeclared, List.map_cons, List.cons_append,
        runLines_check hplace (run_declared typed patterns hk hdeclared) hscope, ih hks,
        map_andThen]

/-- The lines of a field. -/
def FieldCheck.lines (f : FieldCheck) : List Line :=
  if f.optional then
    .opening f.field :: (f.checks.map (.check f.wire .bound) ++ [.closing])
  else f.checks.map (.check f.wire (.field f.field))

/-- The lines of some parameters. -/
def linesOf (parameters : List Parameter) : List Line :=
  (fieldChecks (fieldsOf parameters)).flatMap FieldCheck.lines

/-- The checks of the field of a parameter. -/
def fieldCheck (p : Parameter) : FieldCheck where
  field := Naming.field p.name
  wire := p.name
  optional := p.isOptional
  checks := checksOf p

theorem linesOf_cons (p : Parameter) (parameters : List Parameter) :
    linesOf (p :: parameters)
      = (if (checksOf p).isEmpty then [] else (fieldCheck p).lines) ++ linesOf parameters := by
  rw [linesOf, fieldsOf, List.map_cons, fieldChecks, List.filterMap_cons]
  dsimp only
  cases (checksOf p).isEmpty with
  | true => rfl
  | false => exact List.flatMap_cons

/-- Lines in a block that is passed over do nothing. -/
theorem runLines_passedOver (checks : List Check) :
    runLines fields input .passedOver (checks.map (.check wire place) ++ .closing :: rest)
      = runLines fields input .outside rest := by
  induction checks with
  | nil => rfl
  | cons check checks ih => exact ih

theorem checkedValue?_eq_some : checkedValue? input p = some (t, v) ↔
    p.location ≠ .body ∧ p.type = .primitive t ∧
      input (Naming.field p.name) = some (.one v) := by
  unfold checkedValue?
  split
  · next hbody => simp [hbody]
  · next htype hvalue hbody => simp [htype, hvalue, show p.location ≠ .body from hbody]
  · next hbody hother =>
    constructor
    · intro h
      cases h
    · rintro ⟨-, htype, hvalue⟩
      exact (hother _ _ htype hvalue).elim

theorem checksOf_eq (hbody : p.location ≠ .body) (htype : p.type = .primitive t) :
    checksOf p = (Keyword.ofType t).filterMap (declared? t p.constraints) := by
  rw [checksOf, if_neg hbody, htype]
  exact primitiveChecks_eq t p.constraints

theorem isEmpty_checksOf (h : ∀ t, p.location ≠ .body → p.type ≠ .primitive t) :
    (checksOf p).isEmpty = true := by
  unfold checksOf
  split
  · rfl
  next hbody =>
  split
  · next t htype => exact absurd htype (h t hbody)
  · rfl

/-- Where nothing is declared, nothing is violated. -/
theorem findSome?_of_isEmpty {ks : List Keyword}
    (h : (ks.filterMap (declared? t c)).isEmpty = true) :
    ks.findSome? (violation? c wire v) = none := by
  rw [List.isEmpty_iff, List.filterMap_eq_nil_iff] at h
  exact List.findSome?_eq_none_iff.mpr fun k hk => violation?_of_undeclared (h k hk)

/-- The value that fits a parameter of a plain type. -/
theorem value_of_fits {value : Option FieldValue} (htype : p.type = .primitive t)
    (h : fits p value = true) :
    value = none ∧ p.isOptional = true ∨ ∃ v, value = some (.one v) ∧ v.hasType t = true := by
  rcases value with _ | (v | values | b)
  · exact .inl ⟨rfl, h⟩
  · simp only [fits, htype] at h
    exact .inr ⟨v, rfl, h⟩
  · simp [fits, htype] at h
  · cases h

theorem parameterViolation?_eq (hbody : p.location ≠ .body) (htype : p.type = .primitive t)
    (hvalue : input (Naming.field p.name) = some (.one v)) :
    parameterViolation? input p
      = (Keyword.ofType t).findSome? (violation? p.constraints p.name v) := by
  rw [parameterViolation?, checkedValue?_eq_some.mpr ⟨hbody, htype, hvalue⟩, Option.bind_some]

theorem parameterViolation?_of_absent (hvalue : input (Naming.field p.name) = none) :
    parameterViolation? input p = none := by
  have hnone : checkedValue? input p = none := by
    rw [Option.eq_none_iff_forall_ne_some]
    rintro ⟨t, v⟩ h
    rw [(checkedValue?_eq_some.mp h).2.2] at hvalue
    cases hvalue
  rw [parameterViolation?, hnone, Option.bind_none]

/-- A parameter without checks has no violation. -/
theorem parameterViolation?_of_isEmpty (h : (checksOf p).isEmpty = true) :
    parameterViolation? input p = none := by
  cases hvalue : checkedValue? input p with
  | none => rw [parameterViolation?, hvalue, Option.bind_none]
  | some checked =>
    obtain ⟨hbody, htype, hinput⟩ := checkedValue?_eq_some.mp hvalue
    rw [checksOf_eq hbody htype] at h
    rw [parameterViolation?_eq hbody htype hinput, findSome?_of_isEmpty h]

/-- The field of a parameter is there, and a value of a plain type that is checked fits it. -/
structure Fielded (fields : List FieldCode) (input : Input) (p : Parameter) : Prop where
  field : hasField fields (Naming.field p.name) p.isOptional = true
  value : p.location ≠ .body → p.type.isPrimitive = true →
    fits p (input (Naming.field p.name)) = true
  pattern : ∀ text, p.constraints.pattern = some text → (Pattern.ofString? text).isSome = true

/-- **The lines of one parameter** add its first violation. -/
theorem runLines_parameter (h : Fielded fields input p) :
    runLines fields input .outside
        ((if (checksOf p).isEmpty then [] else (fieldCheck p).lines) ++ rest)
      = (runLines fields input .outside rest).map
          (andThen (outcome (parameterViolation? input p))) := by
  split
  · next hempty =>
    rw [parameterViolation?_of_isEmpty hempty]
    exact Option.map_id'.symm
  next hchecks =>
  -- only a parameter of a plain type outside the body has checks
  obtain ⟨t, hbody, htype⟩ : ∃ t, p.location ≠ .body ∧ p.type = .primitive t := by
    by_contra hnone
    exact hchecks (isEmpty_checksOf fun t hbody htype => hnone ⟨t, hbody, htype⟩)
  have hvalue := value_of_fits htype (h.value hbody (by rw [htype]; rfl))
  have hfield := h.field
  cases hoptional : p.isOptional with
  | false =>
    obtain ⟨-, hcontra⟩ | ⟨v, hinput, typed⟩ := hvalue
    · rw [hoptional] at hcontra
      cases hcontra
    rw [hoptional] at hfield
    have hplace : (Place.field (Naming.field p.name)).value? fields input .outside = some v := by
      simp only [Place.value?, hfield, hinput]
    rw [FieldCheck.lines, fieldCheck, if_neg (by simp [hoptional]), checksOf_eq hbody htype,
      runLines_keywords typed h.pattern hplace (by simp) fun _ hk => hk,
      parameterViolation?_eq hbody htype hinput]
  | true =>
    rw [hoptional] at hfield
    rw [FieldCheck.lines, fieldCheck, if_pos hoptional, List.cons_append, List.append_assoc,
      List.singleton_append]
    obtain ⟨hinput, -⟩ | ⟨v, hinput, typed⟩ := hvalue
    · have hopen : openBlock fields input (Naming.field p.name) = some .passedOver := by
        simp only [openBlock, hfield, hinput]
      rw [runLines, hopen, Option.bind_eq_bind, Option.bind_some, runLines_passedOver,
        parameterViolation?_of_absent hinput]
      exact Option.map_id'.symm
    · have hopen : openBlock fields input (Naming.field p.name) = some (.inside v) := by
        simp only [openBlock, hfield, hinput]
      rw [runLines, hopen, Option.bind_eq_bind, Option.bind_some, checksOf_eq hbody htype,
        runLines_keywords typed h.pattern rfl (by simp) fun _ hk => hk, runLines,
        parameterViolation?_eq hbody htype hinput]

/-- **The lines report the first violation of an input.** -/
theorem runLines_fields {parameters : List Parameter}
    (h : ∀ p ∈ parameters, Fielded fields input p) :
    runLines fields input .outside (linesOf parameters)
      = some (outcome (firstViolation? input parameters)) := by
  induction parameters with
  | nil => rfl
  | cons p parameters ih =>
    obtain ⟨hp, hrest⟩ := List.forall_mem_cons.mp h
    rw [linesOf_cons, runLines_parameter hp, ih hrest, Option.map_some, andThen_outcome]
    exact congrArg (fun x => some (outcome x)) (findSome?_cons_eq_or _ p parameters).symm

/-! ## Blocks -/

/-- Whether every block is closed, before another one is opened and before the lines end; `inside`
tells whether the lines begin in a block. -/
def closesBlocks : Bool → List Line → Bool
  | inside, [] => !inside
  | false, .opening _ :: rest => closesBlocks true rest
  | true, .closing :: rest => closesBlocks false rest
  | inside, .check _ _ _ :: rest => closesBlocks inside rest
  | _, _ => false

/-- Whether a scope is that of a block. -/
def Scope.isBlock : Scope → Bool
  | .outside => false
  | .inside _ => true
  | .passedOver => true

theorem isBlock_of_openBlock {name : String} {next : Scope}
    (h : openBlock fields input name = some next) : next.isBlock = true := by
  unfold openBlock at h
  split at h <;> cases h <;> rfl

/-- A check that runs, runs in front of others that do so in the same scope. -/
theorem runLines_behind_check {check : Check} {result : Except Violation Unit}
    (h : runLines fields input scope (.check wire place check :: rest) = some result) :
    ∃ later, runLines fields input scope rest = some later := by
  cases scope with
  | passedOver => exact ⟨result, h⟩
  | _ =>
    obtain ⟨_, -, h⟩ := Option.bind_eq_some_iff.mp h
    obtain ⟨_, -, h⟩ := Option.bind_eq_some_iff.mp h
    obtain ⟨later, hlater, -⟩ := Option.bind_eq_some_iff.mp h
    exact ⟨later, hlater⟩

/-- **Lines that run close every block that they open.** -/
theorem closesBlocks_of_runLines {lines : List Line} {result : Except Violation Unit}
    (h : runLines fields input scope lines = some result) :
    closesBlocks scope.isBlock lines = true := by
  induction lines generalizing scope result with
  | nil =>
    cases scope with
    | outside => rfl
    | _ => cases h
  | cons line lines ih =>
    cases line with
    | opening field =>
      cases scope with
      | outside =>
        obtain ⟨next, hopen, hrest⟩ := Option.bind_eq_some_iff.mp h
        have hnext := ih hrest
        rwa [isBlock_of_openBlock hopen] at hnext
      | _ => cases h
    | closing =>
      cases scope with
      | outside => cases h
      | inside v => exact ih h
      | passedOver => exact ih h
    | check wire place check =>
      obtain ⟨later, hlater⟩ := runLines_behind_check h
      have hrest := ih hlater
      cases scope <;> exact hrest

end ApiScaffold.Code
