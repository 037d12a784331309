import ApiScaffold.Code.Operation
import ApiScaffold.Proofs.Traversal

/-!
# What the compilation of an operation accepts

An operation compiles unless its name is unusable, a pattern cannot be read, or a response
declares a body of its own for a code that all operations share.  The last of these is decided
by the responses alone, one at a time: `variantOf` refuses a response or gives its variant.

* `variantOf_eq`: what becomes of one response.
* `variantsOf_eq`: **the first response that redefines a shared one is reported**; without one,
  the variants are those of the responses, parted by `isError`.
* `compiled_of_compile`: **what is known of an operation that compiles.**
* `compile_error_iff`: **an operation with a usable name and readable patterns compiles as far as
  its responses do.**
-/

namespace ApiScaffold.Code

variable {types : TypeMap} {o : Operation} {c : OperationCode} {r : Response} {n : Nat}
  {shared : String}

/-! ## One response -/

/-- The type of the shared response of a code. -/
def sharedType? : Nat → Option String
  | 400 => some badRequest
  | 500 => some internalError
  | _ => none

/-- The code for which a response has a variant of its own. -/
def ownCode? (r : Response) : Option Nat := r.status.code?.filter fun n => n ≠ 400 ∧ n ≠ 500

/-- The variant that a response has under a code. -/
def Variant.ofResponse (types : TypeMap) (r : Response) (n : Nat) : Variant where
  name := Web.Status.variantName n
  status := n
  payload := r.schema.map types.sourceType

/-- The variant that is a response's own. -/
def ownVariant? (types : TypeMap) (r : Response) : Option Variant :=
  (ownCode? r).map (Variant.ofResponse types r)

/-- The shared response, if any, for whose code a response declares another body. -/
def redefined? (r : Response) : Option (Nat × String) :=
  r.status.code?.bind fun n => (sharedType? n).bind fun shared =>
    if r.schema.any (· ≠ .model shared) then some (n, shared) else none

/-- The error that reports a response that redefines a shared one. -/
def reserved (operation : String) (redefinition : Nat × String) : DocumentError :=
  .reservedStatus operation redefinition.1 redefinition.2

theorem sharedType?_of_own (h400 : n ≠ 400) (h500 : n ≠ 500) : sharedType? n = none := by
  unfold sharedType?
  split
  · exact absurd rfl h400
  · exact absurd rfl h500
  · rfl

theorem code?_eq_some {status : StatusKey} : status.code? = some n ↔ status = .code n := by
  cases status <;> simp [StatusKey.code?]

theorem ownCode?_eq_some : ownCode? r = some n ↔ r.status = .code n ∧ n ≠ 400 ∧ n ≠ 500 := by
  unfold ownCode?
  cases r.status with
  | default => simp [StatusKey.code?]
  | code m =>
    simp only [StatusKey.code?, Option.filter_eq_some_iff, Option.some.injEq, StatusKey.code.injEq,
      decide_eq_true_eq]

theorem ownCode?_of_shared (h : r.status = .code n) (hn : sharedType? n = some shared) :
    ownCode? r = none := by
  rw [Option.eq_none_iff_forall_ne_some]
  intro m hm
  obtain ⟨hm, h400, h500⟩ := ownCode?_eq_some.mp hm
  rw [h] at hm
  cases hm
  rw [sharedType?_of_own h400 h500] at hn
  cases hn

theorem redefined?_of_own (h : ownCode? r = some n) : redefined? r = none := by
  obtain ⟨hcode, h400, h500⟩ := ownCode?_eq_some.mp h
  simp only [redefined?, hcode, StatusKey.code?, Option.bind_some, sharedType?_of_own h400 h500,
    Option.bind_none]

theorem redefined?_of_code (h : r.status = .code n) (hn : sharedType? n = some shared) :
    redefined? r = if r.schema.any (· ≠ .model shared) then some (n, shared) else none := by
  simp only [redefined?, h, StatusKey.code?, Option.bind_some, hn]

theorem redefined?_eq_some :
    redefined? r = some (n, shared) ↔
      r.status = .code n ∧ sharedType? n = some shared ∧
        ∃ schema, r.schema = some schema ∧ schema ≠ .model shared := by
  constructor
  · intro h
    obtain ⟨m, hm, h⟩ := Option.bind_eq_some_iff.mp h
    obtain ⟨name, hname, h⟩ := Option.bind_eq_some_iff.mp h
    obtain ⟨hany, h⟩ := Option.ite_none_right_eq_some.mp h
    cases h
    obtain ⟨schema, hschema, hne⟩ := (Option.any_eq_true _ _).mp hany
    exact ⟨code?_eq_some.mp hm, hname, schema, hschema, of_decide_eq_true hne⟩
  · rintro ⟨hcode, hname, schema, hschema, hne⟩
    rw [redefined?_of_code hcode hname, hschema]
    exact if_pos (decide_eq_true hne)

/-- The response of a shared code is refused, or it has no variant of its own. -/
theorem checkShared_eq (operation : String) (h : r.status = .code n)
    (hn : sharedType? n = some shared) :
    (checkShared operation r n shared).map (fun _ => none) =
      (redefined? r).elim (.ok ((ownVariant? types r).map (r.isError, ·)))
        fun redefinition => .error (reserved operation redefinition) := by
  rw [ownVariant?, ownCode?_of_shared h hn, redefined?_of_code h hn]
  unfold checkShared
  cases r.schema with
  | none => rfl
  | some schema =>
    by_cases hschema : schema = .model shared
    · simp [hschema, Except.map]
    · simp [hschema, Except.map, reserved]

/-- **What becomes of one response**: it is refused, or it has a variant of its own, or none. -/
theorem variantOf_eq (types : TypeMap) (operation : String) (r : Response) :
    variantOf types operation r =
      (redefined? r).elim (.ok ((ownVariant? types r).map (r.isError, ·)))
        fun redefinition => .error (reserved operation redefinition) := by
  unfold variantOf
  split
  · next h => simp [redefined?, ownVariant?, ownCode?, h, StatusKey.code?]
  · next h => exact checkShared_eq operation h rfl
  · next h => exact checkShared_eq operation h rfl
  · next n h400 h500 h =>
    have hcode : ownCode? r = some n := ownCode?_eq_some.mpr ⟨h, h400, h500⟩
    rw [redefined?_of_own hcode, ownVariant?, hcode]
    rfl

/-! ## All responses -/

/-- The variants that are the responses' own, in the order of the responses. -/
def ownVariants (types : TypeMap) (o : Operation) : List Variant :=
  o.responses.filterMap (ownVariant? types)

/-- The declared variants of an operation, each with whether it tells of a failure. -/
def declaredVariants (types : TypeMap) (o : Operation) : List (Bool × Variant) :=
  o.responses.filterMap fun r => (ownVariant? types r).map (r.isError, ·)

/-- **The first response that redefines a shared one is reported**; without one, the variants are
those of the responses, parted by whether they tell of a failure. -/
theorem variantsOf_eq (types : TypeMap) (o : Operation) :
    variantsOf types o =
      (o.responses.findSome? redefined?).elim
        (.ok (((declaredVariants types o).filter (!·.1)).map (·.2),
          ((declaredVariants types o).filter (·.1)).map (·.2)))
        fun redefinition => .error (reserved o.id redefinition) := by
  unfold variantsOf
  rw [mapM_of_refusals (variantOf_eq types o.id)]
  cases o.responses.findSome? redefined? with
  | some redefinition => rfl
  | none =>
    have hdeclared :
        (o.responses.map fun r => (ownVariant? types r).map (r.isError, ·)).filterMap id
          = declaredVariants types o := by
      rw [List.filterMap_map]
      rfl
    show Except.ok _ = Except.ok _
    rw [hdeclared]

/-- The codes that an operation declares, in the order of its responses. -/
def declaredCodes (o : Operation) : List Nat := o.responses.filterMap (·.status.code?)

theorem mem_ownVariants {v : Variant} :
    v ∈ ownVariants types o ↔
      ∃ r ∈ o.responses, ∃ n, (r.status = .code n ∧ n ≠ 400 ∧ n ≠ 500) ∧
        Variant.ofResponse types r n = v := by
  simp only [ownVariants, List.mem_filterMap, ownVariant?, Option.map_eq_some_iff, ownCode?_eq_some]

theorem ownVariants_status (types : TypeMap) (o : Operation) :
    (ownVariants types o).map (·.status) =
      (declaredCodes o).filter fun n => n ≠ 400 ∧ n ≠ 500 := by
  rw [ownVariants, declaredCodes, List.map_filterMap, List.filter_filterMap]
  congr 1
  funext r
  unfold ownVariant?
  rw [Option.map_map]
  exact Option.map_id_fun' ▸ rfl

/-- The own variants of an operation, parted into its successes and its failures. -/
structure Parts (types : TypeMap) (o : Operation) (successes failures : List Variant) : Prop where
  perm : (successes ++ failures).Perm (ownVariants types o)
  success : ∀ v ∈ successes, v.status < 400
  failure : ∀ v ∈ failures, 400 ≤ v.status

theorem declaredVariants_map (types : TypeMap) (o : Operation) :
    (declaredVariants types o).map (·.2) = ownVariants types o := by
  rw [declaredVariants, ownVariants, List.map_filterMap]
  congr 1
  funext r
  cases ownVariant? types r <;> rfl

theorem fst_of_mem_declaredVariants {b : Bool} {v : Variant}
    (h : (b, v) ∈ declaredVariants types o) : b = decide (400 ≤ v.status) := by
  obtain ⟨r, -, hr⟩ := List.mem_filterMap.mp h
  obtain ⟨own, hown, heq⟩ := Option.map_eq_some_iff.mp hr
  cases heq
  obtain ⟨n, hn, rfl⟩ := Option.map_eq_some_iff.mp hown
  rw [Response.isError, (ownCode?_eq_some.mp hn).1]
  rfl

/-- The declared variants are parted at code 400. -/
theorem of_mem_parted {p : Bool → Bool} {v : Variant}
    (h : v ∈ ((declaredVariants types o).filter (p ·.1)).map (·.2)) :
    p (decide (400 ≤ v.status)) = true := by
  obtain ⟨⟨b, v⟩, hmem, rfl⟩ := List.mem_map.mp h
  obtain ⟨hmem, hp⟩ := List.mem_filter.mp hmem
  rw [← fst_of_mem_declaredVariants hmem]
  exact hp

theorem parts_of_variantsOf {successes failures : List Variant}
    (h : variantsOf types o = .ok (successes, failures)) : Parts types o successes failures := by
  rw [variantsOf_eq] at h
  cases hredefined : o.responses.findSome? redefined? with
  | some redefinition => rw [hredefined] at h; cases h
  | none =>
    rw [hredefined] at h
    cases h
    refine ⟨?_, fun v hv => ?_, fun v hv => ?_⟩
    · rw [← List.map_append, ← declaredVariants_map]
      refine List.Perm.map _ (List.perm_append_comm.trans ?_)
      exact List.filter_append_perm _ _
    · simpa using of_mem_parted (p := not) hv
    · simpa using of_mem_parted (p := id) hv

/-! ## The operation -/

theorem checkPatterns_ok_iff (operation : String) (ps : List Parameter) :
    checkPatterns operation ps = .ok () ↔
      ∀ p ∈ ps, ∀ text, p.constraints.pattern = some text →
        (Pattern.ofString? text).isSome = true := by
  induction ps with
  | nil => simp [checkPatterns]
  | cons p ps ih =>
    rw [checkPatterns, List.forall_mem_cons, ← ih]
    cases hpattern : p.constraints.pattern with
    | none => simp
    | some text =>
      cases hread : (Pattern.ofString? text).isSome with
      | true => simp [hread]
      | false => simp [hread]

/-- The code of an operation, with its variants. -/
structure Compiled (types : TypeMap) (o : Operation) (c : OperationCode) : Prop where
  patterns : checkPatterns o.id o.parameters = .ok ()
  variants : variantsOf types o = .ok (c.successes, c.failures)
  functionName : c.functionName = Naming.field o.id
  typeName : c.typeName = Naming.proper o.id
  fields : c.fields = o.parameters.map fun p => fieldCode types p (Naming.field p.name)
  checks : c.checks = fieldChecks (o.parameters.map fun p => (p, Naming.field p.name))
  path : c.path = pathCode o.pathTemplate (o.parameters.map fun p => (p, Naming.field p.name))
  sources : c.sources = (o.parameters.map fun p => (p, Naming.field p.name)).map
    fun (p, field) => (field, fieldSource p)
  arms : c.arms = dispatchArms c.successes c.failures

/-- **What is known of an operation that compiles**: all parts of its code are made from it. -/
theorem compiled_of_compile (h : compile types o = .ok c) : Compiled types o c := by
  unfold compile at h
  dsimp only at h
  split at h
  · cases h
  · obtain ⟨_, hpatterns, h⟩ := bind_eq_ok.mp h
    obtain ⟨variants, hvariants, h⟩ := bind_eq_ok.mp h
    cases h
    exact ⟨hpatterns, hvariants, rfl, rfl, List.map_map, rfl, rfl, rfl, rfl⟩

/-- The code of an operation carries its path and its method. -/
theorem place_of_compile (h : compile types o = .ok c) :
    c.pathTemplate = o.pathTemplate ∧ c.method = o.method := by
  unfold compile at h
  dsimp only at h
  split at h
  · cases h
  · obtain ⟨_, -, h⟩ := bind_eq_ok.mp h
    obtain ⟨_, -, h⟩ := bind_eq_ok.mp h
    cases h
    exact ⟨rfl, rfl⟩

/-- **An operation with a usable name and readable patterns compiles as far as its responses
do.** -/
theorem compile_error_iff (hid : Naming.proper o.id ≠ "")
    (hpatterns : checkPatterns o.id o.parameters = .ok ()) (e : DocumentError) :
    compile types o = .error e ↔ variantsOf types o = .error e := by
  unfold compile
  simp only [bind, Except.bind]
  rw [if_neg hid, hpatterns]
  cases variantsOf types o with
  | error first => simp only [Except.error.injEq]
  | ok variants =>
    constructor
    · intro h
      cases h
    · intro h
      cases h

/-- An operation with a usable name and readable patterns compiles if its responses have
variants. -/
theorem exists_compile {variants : List Variant × List Variant}
    (hid : Naming.proper o.id ≠ "") (hpatterns : checkPatterns o.id o.parameters = .ok ())
    (hvariants : variantsOf types o = .ok variants) : ∃ c, compile types o = .ok c := by
  cases hcompile : compile types o with
  | ok c => exact ⟨c, rfl⟩
  | error e =>
    rw [(compile_error_iff hid hpatterns e).mp hcompile] at hvariants
    cases hvariants

theorem isSome_redefined?_iff :
    (redefined? r).isSome ↔
      (r.status = .code 400 ∧ ∃ schema, r.schema = some schema ∧ schema ≠ .model badRequest) ∨
      (r.status = .code 500 ∧ ∃ schema, r.schema = some schema ∧
        schema ≠ .model internalError) := by
  rw [Option.isSome_iff_exists]
  constructor
  · rintro ⟨⟨n, shared⟩, h⟩
    obtain ⟨hcode, hshared, hschema⟩ := redefined?_eq_some.mp h
    unfold sharedType? at hshared
    split at hshared
    · cases hshared
      exact .inl ⟨hcode, hschema⟩
    · cases hshared
      exact .inr ⟨hcode, hschema⟩
    · cases hshared
  · rintro (⟨hcode, hschema⟩ | ⟨hcode, hschema⟩)
    · exact ⟨(400, badRequest), redefined?_eq_some.mpr ⟨hcode, rfl, hschema⟩⟩
    · exact ⟨(500, internalError), redefined?_eq_some.mpr ⟨hcode, rfl, hschema⟩⟩

/-- **A usable operation is refused for a shared response exactly when a response redefines it.** -/
theorem compile_reserved_iff (hid : Naming.proper o.id ≠ "")
    (hpatterns : checkPatterns o.id o.parameters = .ok ()) :
    (∃ operation n shared, compile types o = .error (.reservedStatus operation n shared)) ↔
      ∃ r ∈ o.responses, (redefined? r).isSome := by
  simp only [compile_error_iff hid hpatterns, variantsOf_eq]
  cases hfound : o.responses.findSome? redefined? with
  | none =>
    rw [List.findSome?_eq_none_iff] at hfound
    constructor
    · rintro ⟨operation, n, shared, h⟩
      cases h
    · rintro ⟨r, hr, hsome⟩
      rw [hfound r hr] at hsome
      cases hsome
  | some redefinition =>
    obtain ⟨r, hr, hredefined⟩ := List.exists_of_findSome?_eq_some hfound
    constructor
    · intro _
      exact ⟨r, hr, Option.isSome_iff_exists.mpr ⟨_, hredefined⟩⟩
    · intro _
      exact ⟨o.id, redefinition.1, redefinition.2, rfl⟩

end ApiScaffold.Code
