import ApiScaffold.Proofs.Code.Validator
import ApiScaffold.Proofs.Number.Layout
import ApiScaffold.Proofs.Number.Value

/-!
# Enumerations of numbers

A check of an enumeration compares the text of a value, which is written in full, with the JSON
texts of the numbers that are listed.  Numbers that are equal may have different texts: a JSON text
keeps the point of an integer that was written with one and gives a power of ten to small and large
numbers, an integer is written with all its digits but a floating number with the fewest that tell
it from its neighbours, and a zero may have a sign.  So a value that is listed is accepted only if
some number of the list is spelled like it, which is decided by the decimals that both are written
with.

* `ParamValue.Equals`: a value is exactly a number.
* `ParamValue.Spells`: the text of a value is the JSON text of a number; `text_eq_print_iff`.
* `spells_of_keeps`: an integer that the type of a value keeps apart from its neighbours is spelled
  like the value.
* `listed_accepted_iff`: **when an enumeration accepts a value that it lists.**
-/

namespace ApiScaffold

open Json (Numeral Value)
open Number

variable {f g : Format} {m n : Nat} {e k : Int} {s t : Bool} {x : Binary f} {y : Binary g}
  {v : ParamValue} {number : Numeral}

/-! ## Exact values -/

/-- The number that a value is. -/
def ParamValue.rational? : ParamValue → Option ℚ
  | .integer n => some n
  | .single x => x.rational?
  | .double x => x.rational?
  | _ => none

/-- The number that a numeral of a JSON text stands for. -/
def Json.Numeral.rational? : Numeral → Option ℚ
  | .integer n => some n
  | .float x => x.rational?

/-- Whether a value is exactly the number of a numeral. -/
def ParamValue.Equals (v : ParamValue) (number : Numeral) : Prop :=
  ∃ q, v.rational? = some q ∧ number.rational? = some q

/-- An integer, or a finite number of its format. -/
def ParamValue.IsHeld : ParamValue → Prop
  | .integer _ => True
  | .single x => IsValue x
  | .double x => IsValue x
  | _ => False

/-! ## Values with the text of a number -/

/-- Whether the decimal of a floating number is an integer, with its sign. -/
def Number.Binary.SpellsInteger (x : Binary f) (i : Int) : Prop :=
  ∃ d, x.written? = some (decide (i < 0), d) ∧ d.value = i.natAbs

/-- Whether two floating numbers have one sign and one decimal, a fraction that has no power of
ten. -/
def Number.Binary.SpellsFraction (x : Binary f) (y : Binary g) : Prop :=
  ∃ s d, x.written? = some (s, d) ∧ y.written? = some (s, d) ∧ d.exponent < 0 ∧ d.IsModerate

/-- Whether the text of a value is the JSON text of a number: both are the same integer, or the
decimals that they are written with are the same integer or the same fraction. -/
def ParamValue.Spells : ParamValue → Numeral → Prop
  | .integer n, .integer i => n = i
  | .single x, .integer i => x.SpellsInteger i
  | .single x, .float y => x.SpellsFraction y
  | .double x, .integer i => x.SpellsInteger i
  | .double x, .float y => x.SpellsFraction y
  | _, _ => False

theorem write_full_eq_toString_iff (hf : IsSmall f) (hx : IsValue x) (i : Int) :
    FloatLayout.full.write x = toString i ↔ x.SpellsInteger i := by
  cases x with
  | finite s m e =>
    rw [write_full_eq_integer_iff hf hx]
    constructor
    · rintro ⟨rfl, hvalue⟩
      exact ⟨_, rfl, hvalue⟩
    · rintro ⟨d, hwritten, hvalue⟩
      cases hwritten
      exact ⟨rfl, hvalue⟩
  | _ => exact hx.elim

theorem write_full_eq_write_json_iff (hf : IsSmall f) (hg : IsSmall g) (hx : IsValue x)
    (hy : IsValue y) :
    FloatLayout.full.write x = FloatLayout.json.write y ↔ x.SpellsFraction y := by
  cases x with
  | finite s m e =>
    cases y with
    | finite t n k =>
      rw [write_full_eq_json_iff hf hg hx hy]
      constructor
      · rintro ⟨⟨rfl, hdecimal⟩, hfraction⟩
        exact ⟨s, _, rfl, congrArg (fun d => some (s, d)) hdecimal.symm, hfraction⟩
      · rintro ⟨s', d, hwritten, hwritten', hfraction⟩
        obtain ⟨rfl, rfl⟩ := Prod.mk.inj (Option.some.inj hwritten)
        obtain ⟨rfl, hdecimal⟩ := Prod.mk.inj (Option.some.inj hwritten')
        exact ⟨⟨rfl, hdecimal.symm⟩, hfraction⟩
    | _ => exact hy.elim
  | _ => exact hx.elim

/-- A floating number has a point or a power of ten in a JSON text. -/
theorem mark_mem_write_json (hg : IsSmall g) (hy : IsValue y) :
    '.' ∈ (FloatLayout.json.write y).toList ∨ 'e' ∈ (FloatLayout.json.write y).toList := by
  cases y with
  | finite t n k =>
    have hd := isReduced_decimalOf hg hy
    rw [toList_write_json, List.mem_append, List.mem_append]
    by_cases hmoderate : (decimalOf g n k).IsModerate
    · refine .inl (.inr ?_)
      rw [layOut_json_of_moderate hd hmoderate, List.mem_append, point_mem_layOut_full_iff hd]
      by_cases hinteger : 0 ≤ (decimalOf g n k).exponent
      · rw [if_pos hinteger]
        exact .inr List.mem_cons_self
      · exact .inl (Int.not_le.mp hinteger)
    · exact .inr (.inr (mem_layOut_json_of_not_moderate hmoderate))
  | _ => exact hy.elim

theorem toString_ne_write_json (hg : IsSmall g) (hy : IsValue y) (i : Int) :
    toString i ≠ FloatLayout.json.write y := by
  intro heq
  have hmark := mark_mem_write_json hg hy
  have hchars : ∀ c ∈ (toString i).toList, c = '-' ∨ Text.isAsciiDigit c = true := by
    rw [toList_toString_signChars, signChars]
    intro c hc
    rcases List.mem_append.mp hc with hsign | hdigit
    · split at hsign
      · exact .inl (List.mem_singleton.mp hsign)
      · cases hsign
    · exact .inr (isDigits_toDigits _ c hdigit)
  rw [← heq] at hmark
  rcases hmark with hpoint | hpower
  · exact absurd (hchars _ hpoint) (by decide)
  · exact absurd (hchars _ hpower) (by decide)

/-- **When the text of a value is the JSON text of a number.** -/
theorem text_eq_print_iff (hv : v.IsHeld) (hnumber : number.IsHeld) :
    v.text = number.print ↔ v.Spells number := by
  have hprint : ∀ y : Binary64, IsValue y → (Numeral.float y).print = FloatLayout.json.write y := by
    intro y hy
    cases y with
    | finite t n k => rfl
    | _ => exact hy.elim
  cases v with
  | integer n =>
    cases number with
    | integer i => exact toString_int_injective.eq_iff
    | float y =>
      rw [hprint y hnumber]
      exact iff_of_false (toString_ne_write_json isSmall_double hnumber n) id
  | single x =>
    cases number with
    | integer i => exact write_full_eq_toString_iff isSmall_single hv i
    | float y =>
      rw [hprint y hnumber]
      exact write_full_eq_write_json_iff isSmall_single isSmall_double hv hnumber
  | double x =>
    cases number with
    | integer i => exact write_full_eq_toString_iff isSmall_double hv i
    | float y =>
      rw [hprint y hnumber]
      exact write_full_eq_write_json_iff isSmall_double isSmall_double hv hnumber
  | _ => exact hv.elim

/-! ## Integers -/

/-- Whether a format tells an integer from its neighbours; the zero with a minus sign is not told
from the other one. -/
def Number.Binary.Keeps (x : Binary f) (i : Int) : Prop :=
  i.natAbs < 2 ^ f.precision ∧ (i = 0 → x.isNegative = false)

/-- Whether the type of a value tells an integer from its neighbours. -/
def ParamValue.Keeps : ParamValue → Int → Prop
  | .integer _, _ => True
  | .single x, i => x.Keeps i
  | .double x, i => x.Keeps i
  | _, _ => False

/-- The magnitude of a floating number that is an integer, and its sign. -/
theorem natAbs_of_rational? {i : Int}
    (hexact : (.finite s m e : Binary f).rational? = some (i : ℚ)) :
    (m : ℚ) * 2 ^ e = i.natAbs ∧ (i ≠ 0 → s = decide (i < 0)) := by
  have hnonneg : (0 : ℚ) ≤ m * 2 ^ e := by positivity
  have hexact := Option.some.inj hexact
  rw [Nat.cast_natAbs, Int.cast_abs, ← hexact]
  cases s with
  | false =>
    rw [if_neg Bool.false_ne_true] at hexact ⊢
    refine ⟨(abs_of_nonneg hnonneg).symm, fun _ => ?_⟩
    have hi : 0 ≤ i := by exact_mod_cast hexact ▸ hnonneg
    rw [decide_eq_false (by omega)]
  | true =>
    rw [if_pos rfl] at hexact ⊢
    refine ⟨by rw [abs_neg, abs_of_nonneg hnonneg], fun hzero => ?_⟩
    have hi : i ≤ 0 := by exact_mod_cast hexact ▸ neg_nonpos.mpr hnonneg
    rw [decide_eq_true (by omega)]

theorem spellsInteger_of_keeps (hf : IsSmall f) (hx : IsValue x) {i : Int}
    (hexact : x.rational? = some (i : ℚ)) (hkeeps : x.Keeps i) : x.SpellsInteger i := by
  cases x with
  | finite s m e =>
    obtain ⟨hmagnitude, hsign⟩ := natAbs_of_rational? hexact
    have hs : s = decide (i < 0) := by
      by_cases hi : i = 0
      · have hplus : s = false := hkeeps.2 hi
        rw [hplus, hi]
        rfl
      · exact hsign hi
    refine ⟨decimalOf f m e, by rw [Binary.written?, hs], ?_⟩
    rw [decimalOf]
    obtain ⟨rfl, -⟩ | hproper := hx
    · rw [if_pos rfl, ← hmagnitude, Decimal.value, Nat.cast_zero, zero_mul, zero_mul]
    · rw [if_neg (Nat.ne_of_gt hproper.pos)]
      exact shortest_value_of_integer hf hproper hmagnitude hkeeps.1
  | _ => exact hx.elim

/-- **An integer that the type of a value keeps is spelled like the value.** -/
theorem spells_of_keeps {i : Int} (hv : v.IsHeld) (hequals : v.Equals (.integer i))
    (hkeeps : v.Keeps i) : v.Spells (.integer i) := by
  obtain ⟨q, hexact, hq⟩ := hequals
  cases hq
  cases v with
  | integer n => exact Int.cast_injective (Option.some.inj hexact)
  | single x => exact spellsInteger_of_keeps isSmall_single hv hexact hkeeps
  | double x => exact spellsInteger_of_keeps isSmall_double hv hexact hkeeps
  | _ => exact hv.elim

/-! ## The check of an enumeration -/

namespace Code

variable {types : TypeMap} {operation : String} {item : ParameterItem} {p : Parameter}
  {primitive : Primitive} {numbers : List Numeral}

/-- A parameter of a type of numbers, whose item lists the numbers that are allowed. -/
structure Enumerates (types : TypeMap) (operation : String) (item : ParameterItem) (p : Parameter)
    (primitive : Primitive) (numbers : List Numeral) : Prop where
  describes : p.Describes types operation item
  outside : p.location ≠ .body
  type : p.type = .primitive primitive
  isNumeric : primitive.isNumeric = true
  listed : item.schema.get? "enum" = some (.array (numbers.map .number))
  held : ∀ number ∈ numbers, number.IsHeld

/-- The texts of the numbers of an enumeration. -/
theorem Enumerates.enumValues (h : Enumerates types operation item p primitive numbers) :
    p.constraints.enumValues = numbers.map Numeral.print := by
  rw [h.describes.constraints, if_neg h.outside]
  simp only [Constraints.ofJson, h.listed, Option.bind_some, Value.asArray?, Option.getD_some,
    List.map_map]
  refine List.map_congr_left fun number _ => ?_
  simp [Constraints.enumText, Value.print]

/-- The check of an enumeration comes first. -/
theorem Enumerates.head?_checksOf (h : Enumerates types operation item p primitive numbers)
    (hnumbers : numbers ≠ []) :
    (checksOf p).head? = some (.textOneOf (numbers.map Numeral.print)) := by
  have hnumeric := h.isNumeric
  have hstring : primitive ≠ .string := by
    rintro rfl
    cases hnumeric
  have hsome : (numbers.map Numeral.print).isEmpty = false := by simpa using hnumbers
  have hchecks : checksOf p = primitiveChecks primitive p.constraints := by
    rw [checksOf, if_neg h.outside, h.type]
  rw [hchecks, primitiveChecks, if_neg hstring, if_pos hnumeric, h.enumValues, enumCheck, hsome]
  rfl

/-- A text is accepted that is one of those listed. -/
theorem oneOf_eq_ok_iff (wire text : String) (allowed : List String) :
    Validation.oneOf wire text allowed = .ok () ↔ text ∈ allowed := by
  rw [Validation.oneOf, ← List.contains_iff_mem]
  split <;> simp_all

/-- **When an enumeration accepts a value that it lists.**  For every parameter of a type of numbers
whose item lists numbers, and every value that is exactly one of them, the check of the enumeration
comes first, and it accepts the value if and only if some number of the list is spelled like it: as
the integer that its decimal is, or as the fraction that its decimal is, if that has no power of
ten.  So it does where the number is listed as an integer that the type of the value keeps. -/
theorem listed_accepted_iff (h : Enumerates types operation item p primitive numbers)
    (hv : v.IsHeld) (hnumber : number ∈ numbers) (hequals : v.Equals number) :
    (checksOf p).head? = some (.textOneOf (numbers.map Numeral.print)) ∧
      (∀ wire, Check.run wire v (.textOneOf (numbers.map Numeral.print)) = some (.ok ()) ↔
        ∃ listed ∈ numbers, v.Spells listed) ∧
      ∀ i, number = .integer i → v.Keeps i → v.Spells number := by
  refine ⟨h.head?_checksOf (List.ne_nil_of_mem hnumber), fun wire => ?_, ?_⟩
  · rw [Check.run, Option.some_inj, oneOf_eq_ok_iff, List.mem_map]
    constructor
    · rintro ⟨listed, hlisted, htext⟩
      exact ⟨listed, hlisted, (text_eq_print_iff hv (h.held listed hlisted)).mp htext.symm⟩
    · rintro ⟨listed, hlisted, hspells⟩
      exact ⟨listed, hlisted, ((text_eq_print_iff hv (h.held listed hlisted)).mpr hspells).symm⟩
  · rintro i rfl hkeeps
    exact spells_of_keeps hv hequals hkeeps

/-- A parameter of the query whose item lists numbers. -/
def scaleItem (listed : List Numeral) : ParameterItem :=
  Walk.declared "scale" "query"
    [("enum", .array (listed.map .number)), ("type", .string "number")]

/-- The parameter of that item. -/
def scaleParameter (listed : List Numeral) : Parameter where
  name := "scale"
  location := .query
  type := .primitive .double
  required := false
  constraints := .ofJson (scaleItem listed).schema
  description := none

theorem parametersFrom_scale (listed : List Numeral) :
    Walk.parametersFrom {} "zoom" {} [scaleItem listed] = .ok [scaleParameter listed] := by
  rfl

theorem enumerates_scale (listed : List Numeral) (hheld : ∀ number ∈ listed, number.IsHeld) :
    Enumerates {} "zoom" (scaleItem listed) (scaleParameter listed) .double listed := by
  obtain ⟨hdescribes, -⟩ := List.forall₂_cons.mp
    (Walk.describes_of_parametersFrom (parametersFrom_scale listed))
  exact ⟨hdescribes, nofun, rfl, rfl, rfl, hheld⟩

/-- One half. -/
def half : Binary64 := .finite false (2 ^ 52) (-53)

theorem isValue_half : IsValue half :=
  .inr ⟨by decide, by decide, by decide, by decide, .inr (by decide)⟩

/-- One half is written with one digit, in a list as in full. -/
theorem listed_accepted_iff_half :
    (checksOf (scaleParameter [.integer 2, .float half])).head? = some (.textOneOf ["2", "0.5"]) ∧
      Check.run "scale" (.double half) (.textOneOf ["2", "0.5"]) = some (.ok ()) := by
  have hheld : ∀ number ∈ [Numeral.integer 2, .float half], number.IsHeld := by
    refine List.forall_mem_cons.mpr ⟨?_, List.forall_mem_singleton.mpr isValue_half⟩
    show Int.natAbs 2 < 2 ^ 64
    decide
  have htexts : [Numeral.integer 2, .float half].map Numeral.print = ["2", "0.5"] := by
    decide +kernel
  have hwritten : half.written? = some (false, ⟨5, -1⟩) := by decide +kernel
  have hspells : (ParamValue.double half).Spells (.float half) := by
    refine ⟨false, ⟨5, -1⟩, hwritten, hwritten, by decide, .inr ?_⟩
    norm_num [Decimal.value]
  have hmem : Numeral.float half ∈ [Numeral.integer 2, .float half] :=
    List.mem_cons_of_mem _ List.mem_cons_self
  obtain ⟨hfirst, haccepted, -⟩ := listed_accepted_iff (v := .double half)
    (enumerates_scale _ hheld) isValue_half hmem ⟨_, rfl, rfl⟩
  rw [htexts] at hfirst haccepted
  exact ⟨hfirst, (haccepted "scale").mpr ⟨_, hmem, hspells⟩⟩

/-- A list of one number, which was written with a point, refuses that number. -/
theorem listed_one_refused :
    Enumerates {} "zoom" (scaleItem [.float (.ofInt 1)]) (scaleParameter [.float (.ofInt 1)])
        .double [.float (.ofInt 1)] ∧
      (ParamValue.double (.ofInt 1)).hasType .double = true ∧
      (ParamValue.double (.ofInt 1)).IsHeld ∧
      (ParamValue.double (.ofInt 1)).Equals (.float (.ofInt 1)) ∧
      checksOf (scaleParameter [.float (.ofInt 1)]) = [.textOneOf ["1.0"]] ∧
      Check.run "scale" (.double (.ofInt 1)) (.textOneOf ["1.0"])
        = some (.error (.notListed "scale" ["1.0"] "1")) := by
  have hone : IsValue (.ofInt 1 : Binary64) := isValue_ofInt (by decide)
  refine ⟨enumerates_scale _ (List.forall_mem_singleton.mpr hone), rfl, hone, ⟨_, rfl, rfl⟩, ?_, ?_⟩
  · decide +kernel
  · decide +kernel

end Code

end ApiScaffold
