import ApiScaffold.Code.Input
import ApiScaffold.Operation.PathTemplate
import ApiScaffold.Proofs.Traversal
import Mathlib.Data.List.Basic

/-!
# The parts of a path template

A template is read in two ways.  The walk finds its names by their braces, from left to right and
all at once.  A request fills them in one after another, in the order of the parameters, each at
the first place where the name stands in braces in a path that is already partly filled.  The
**parts** of a template join the two: texts without an opening brace, each before a name, and a
tail in which no brace is closed.

What carries the induction over the parameters is that a partly filled path is written from the
parts of its template, with values for some names and braces for the others.  An opening brace of
such a path stands before a name that is still to be filled or in the tail, so that a name in
braces is found where the walk found it and nowhere else.

* `parts`: the parts of a template; `write_braced`, `parts_names`: they write the template, and
  their names are its placeholders.
* `checkPlaceholders_ok`: in an accepted template every name occurs once, and the names are those
  of the path parameters.
* `substitute_write`: **one step**; a substitution fills one more name, wherever it stands.
* `fill_write`: a run of them, in any order.
* `path_filled`: **the path of a request is its template with every name replaced by its value at
  once**, for every order of the parameters, and no name in braces is left.
-/

namespace ApiScaffold

/-! ## Replacing the first occurrence -/

namespace Web

variable {mark : Char} {part replacement rest : List Char}

theorem replaceFirst_skip {c : Char} {cs : List Char} (h : ¬ part <+: c :: cs) :
    replaceFirst part replacement (c :: cs) = c :: replaceFirst part replacement cs := by
  have here : ¬ part.isPrefixOf (c :: cs) = true := fun found =>
    h (List.isPrefixOf_iff_prefix.mp found)
  rw [replaceFirst, if_neg here]

/-- A text without the first character of a part is passed over. -/
theorem replaceFirst_append : ∀ {text : List Char}, mark ∉ text →
    replaceFirst (mark :: part) replacement (text ++ rest)
      = text ++ replaceFirst (mark :: part) replacement rest
  | [], _ => rfl
  | c :: text, h => by
    have differs : mark ≠ c := fun e => h (e ▸ List.mem_cons_self)
    have later : mark ∉ text := fun m => h (List.mem_cons_of_mem _ m)
    have here : ¬ mark :: part <+: c :: (text ++ rest) := fun found =>
      differs (List.cons_prefix_cons.mp found).1
    rw [List.cons_append, replaceFirst_skip here, replaceFirst_append later,
      List.cons_append]

theorem replaceFirst_self (h : part ≠ []) :
    replaceFirst part replacement (part ++ rest) = replacement ++ rest := by
  obtain ⟨c, cs, rfl⟩ := List.exists_cons_of_ne_nil h
  have found : (c :: cs).isPrefixOf (c :: (cs ++ rest)) = true :=
    List.isPrefixOf_iff_prefix.mpr (List.prefix_append (c :: cs) rest)
  rw [List.cons_append, replaceFirst, if_pos found, ← List.cons_append, List.drop_left]

theorem replaceFirst_absent : ∀ {cs : List Char}, ¬ part <:+: cs →
    replaceFirst part replacement cs = cs
  | [], _ => rfl
  | c :: cs, h => by
    have here : ¬ part <+: c :: cs := fun found => h found.isInfix
    have later : ¬ part <:+: cs := fun found => h (found.trans (List.suffix_cons c cs).isInfix)
    rw [replaceFirst_skip here, replaceFirst_absent later]

end Web

namespace PathTemplate

/-! ## The parts of a template -/

theorem not_mem_of_cutAt {mark : Char} : ∀ {cs : List Char}, cutAt mark cs = none → mark ∉ cs
  | [], _ => List.not_mem_nil
  | c :: cs, h => by
    rw [cutAt] at h
    by_cases hc : c = mark
    · simp [hc] at h
    · rw [if_neg hc, Option.map_eq_none_iff] at h
      rintro (_ | ⟨_, hm⟩)
      · exact hc rfl
      · exact not_mem_of_cutAt h hm

theorem eq_of_cutAt {mark : Char} : ∀ {cs before after : List Char},
    cutAt mark cs = some (before, after) → cs = before ++ mark :: after ∧ mark ∉ before
  | c :: cs, before, after, h => by
    rw [cutAt] at h
    by_cases hc : c = mark
    · rw [if_pos hc] at h
      cases h
      exact ⟨by rw [hc, List.nil_append], List.not_mem_nil⟩
    · rw [if_neg hc, Option.map_eq_some_iff] at h
      obtain ⟨⟨b, a⟩, hcut, heq⟩ := h
      cases heq
      obtain ⟨rfl, hb⟩ := eq_of_cutAt hcut
      refine ⟨rfl, ?_⟩
      rintro (_ | ⟨_, hm⟩)
      · exact hc rfl
      · exact hb hm

theorem cutAt_append {mark : Char} {text cs : List Char} (h : mark ∉ text) :
    cutAt mark (text ++ cs) = (cutAt mark cs).map fun (b, a) => (text ++ b, a) := by
  induction text with
  | nil => cases h : cutAt mark cs <;> simp [h]
  | cons c text ih =>
    rw [List.mem_cons, not_or] at h
    rw [List.cons_append, cutAt, if_neg (Ne.symm h.1), ih h.2, Option.map_map]
    rfl

theorem cutAt_marked {mark : Char} {before rest : List Char} (h : mark ∉ before) :
    cutAt mark (before ++ mark :: rest) = some (before, rest) := by
  rw [cutAt_append h, cutAt, if_pos rfl]
  simp

/-- No brace that is opened is closed. -/
def Unclosed (cs : List Char) : Prop :=
  ∀ before after, cs = before ++ '\x7b' :: after → '\x7d' ∉ after

/-- A name, with the text between the name before it and its own opening brace. -/
structure Hole where
  before : List Char
  name : String
  plain : '\x7b' ∉ before
  closed : '\x7d' ∉ name.toList

/-- The parts of a template. -/
structure Parts where
  holes : List Hole
  tail : List Char
  unclosed : Unclosed tail

/-- The text of parts with something in the place of every name. -/
def fillChars (filling : String → String) (tail : List Char) : List Hole → List Char
  | [] => tail
  | hole :: holes => hole.before ++ ((filling hole.name).toList ++ fillChars filling tail holes)

namespace Parts

def names (p : Parts) : List String := p.holes.map (·.name)

/-- The text with something in the place of every name. -/
def write (p : Parts) (filling : String → String) : String :=
  String.ofList (fillChars filling p.tail p.holes)

end Parts

theorem unclosed_of_not_mem {cs : List Char} (h : '\x7b' ∉ cs) : Unclosed cs := by
  rintro before after rfl
  exact absurd (List.mem_append_right before List.mem_cons_self) h

theorem unclosed_of_not_closed {cs : List Char} (h : '\x7d' ∉ cs) : Unclosed ('\x7b' :: cs) := by
  intro before after heq closed
  cases before with
  | nil =>
    cases heq
    exact h closed
  | cons c before =>
    cases heq
    exact h (List.mem_append_right before (List.mem_cons_of_mem _ closed))

theorem unclosed_append {text cs : List Char} (plain : '\x7b' ∉ text) (h : Unclosed cs) :
    Unclosed (text ++ cs) := by
  intro before after heq
  rcases List.append_eq_append_iff.mp heq with ⟨l, rfl, hl⟩ | ⟨l, rfl, hl⟩
  · exact h l after hl
  · cases l with
    | nil => exact h [] after hl.symm
    | cons c l =>
      cases hl
      exact absurd (List.mem_append_right before List.mem_cons_self) plain

/-- The parts of a text; an opening brace without a closing one ends it. -/
def partsOf (cs : List Char) : Parts :=
  match h : cutAt '\x7b' cs with
  | none => ⟨[], cs, unclosed_of_not_mem (not_mem_of_cutAt h)⟩
  | some (before, rest) =>
    match h' : cutAt '\x7d' rest with
    | none => ⟨[], cs, by
        obtain ⟨rfl, plain⟩ := eq_of_cutAt h
        exact unclosed_append plain (unclosed_of_not_closed (not_mem_of_cutAt h'))⟩
    | some (name, rest') =>
      let p := partsOf rest'
      { p with
        holes := {
          before
          name := String.ofList name
          plain := (eq_of_cutAt h).2
          closed := by rw [String.toList_ofList]; exact (eq_of_cutAt h').2 } :: p.holes }
termination_by cs.length
decreasing_by
  exact Nat.lt_trans (cutAt_length h') (cutAt_length h)

/-- The parts of a template. -/
def parts (template : String) : Parts := partsOf template.toList

/-- A name in braces. -/
def bracedChars (name : String) : List Char := '\x7b' :: name.toList ++ ['\x7d']

def braced (name : String) : String := String.ofList (bracedChars name)

theorem placeholderChars_of_none {cs : List Char} (hopen : cutAt '\x7b' cs = none) :
    placeholderChars cs = [] := by
  rw [placeholderChars]
  split
  · rfl
  · next h => rw [hopen] at h; cases h

theorem placeholderChars_of_some {cs before rest : List Char}
    (hopen : cutAt '\x7b' cs = some (before, rest)) :
    placeholderChars cs = ((cutAt '\x7d' rest).map fun (name, rest') =>
      name :: placeholderChars rest').getD [] := by
  rw [placeholderChars]
  split
  · next h => rw [hopen] at h; cases h
  · next h =>
    rw [hopen] at h
    cases h
    split
    · next h' => rw [h']; rfl
    · next h' => rw [h']; rfl

theorem partsOf_names (cs : List Char) :
    (partsOf cs).names = (placeholderChars cs).map String.ofList := by
  fun_induction partsOf cs with
  | case1 cs hopen => rw [placeholderChars_of_none hopen]; rfl
  | case2 cs before rest hopen hclose =>
    rw [placeholderChars_of_some hopen, hclose]
    rfl
  | case3 cs before rest hopen name rest' hclose p ih =>
    rw [placeholderChars_of_some hopen, hclose]
    exact congrArg (String.ofList name :: ·) ih

theorem fillChars_braced (cs : List Char) :
    fillChars braced (partsOf cs).tail (partsOf cs).holes = cs := by
  fun_induction partsOf cs with
  | case1 cs hopen => rfl
  | case2 cs before rest hopen hclose => rfl
  | case3 cs before rest hopen name rest' hclose p ih =>
    obtain ⟨rfl, _⟩ := eq_of_cutAt hopen
    obtain ⟨rfl, _⟩ := eq_of_cutAt hclose
    change before ++ ((braced (String.ofList name)).toList ++ fillChars braced p.tail p.holes) = _
    rw [ih]
    simp [braced, bracedChars]

/-- The parts of a template with every name in its braces are the template. -/
theorem write_braced (template : String) : (parts template).write braced = template := by
  rw [Parts.write, parts, fillChars_braced, String.ofList_toList]

theorem parts_names (template : String) : (parts template).names = placeholders template :=
  partsOf_names template.toList

/-! ## What an accepted template holds -/

theorem checkNames_ok {operation : String} {parameters : List Parameter} :
    ∀ {names seen : List String}, checkNames operation parameters seen names = .ok () →
      names.Nodup ∧ (∀ name ∈ names, name ∉ seen) ∧
        ∀ name ∈ names, declares parameters name = true
  | [], _, _ => ⟨List.nodup_nil, by simp, by simp⟩
  | name :: rest, seen, h => by
    rw [checkNames] at h
    by_cases hs : seen.contains name = true
    · rw [if_pos hs] at h
      cases h
    rw [if_neg hs] at h
    by_cases hd : (!declares parameters name) = true
    · rw [if_pos hd] at h
      cases h
    · rw [if_neg hd] at h
      have hd : declares parameters name = true := by simpa using hd
      obtain ⟨nodup, apart, declared⟩ := checkNames_ok h
      have new : name ∉ seen := fun m => hs (List.contains_iff_mem.mpr m)
      have once : name ∉ rest := fun m => apart name m List.mem_cons_self
      refine ⟨List.nodup_cons.mpr ⟨once, nodup⟩, ?_, ?_⟩
      · rintro n (_ | ⟨_, hn⟩)
        · exact new
        · exact fun m => apart n hn (List.mem_cons_of_mem _ m)
      · rintro n (_ | ⟨_, hn⟩)
        · exact hd
        · exact declared n hn

/-- The names of an accepted template occur once and are those of the path parameters. -/
theorem checkPlaceholders_ok {operation template : String} {parameters : List Parameter}
    (h : checkPlaceholders operation template parameters = .ok ()) :
    (placeholders template).Nodup ∧
      ∀ name, name ∈ placeholders template ↔
        ∃ p ∈ parameters, p.location = .path ∧ p.name = name := by
  obtain ⟨⟨⟩, hnames, h⟩ := bind_eq_ok.mp h
  obtain ⟨nodup, _, declared⟩ := checkNames_ok hnames
  have used : parameters.find? (fun p => p.location == .path
      && !(placeholders template).contains p.name) = none := by
    split at h
    · cases h
    · next hfind => exact hfind
  rw [List.find?_eq_none] at used
  refine ⟨nodup, fun name => ⟨fun m => ?_, ?_⟩⟩
  · have hany := declared name m
    simp only [declares, List.any_eq_true, Bool.and_eq_true, beq_iff_eq] at hany
    exact hany
  · rintro ⟨p, hp, hpath, rfl⟩
    have := used p hp
    simpa [hpath] using this

/-! ## One substitution -/

/-- Some names filled, and the others still in their braces. -/
def partly (value : String → String) (done : List String) (name : String) : String :=
  if name ∈ done then value name else braced name

variable {value : String → String} {done : List String} {tail : List Char} {name : String}

theorem partly_cons_of_ne {other : String} (h : other ≠ name) :
    partly value (name :: done) other = partly value done other := by
  simp [partly, h]

theorem fillChars_congr {f g : String → String} : ∀ {holes : List Hole},
    (∀ hole ∈ holes, f hole.name = g hole.name) → fillChars f tail holes = fillChars g tail holes
  | [], _ => rfl
  | hole :: holes, h => by
    rw [fillChars, fillChars, h hole List.mem_cons_self,
      fillChars_congr fun other m => h other (List.mem_cons_of_mem _ m)]

/-- Up to its first closing brace a text is read in one way only. -/
theorem closed_before_iff {mark : Char} {xs ys : List Char} :
    ∀ {u v : List Char}, mark ∉ u → mark ∉ v →
      (u ++ mark :: xs <+: v ++ mark :: ys ↔ u = v ∧ xs <+: ys)
  | [], [], _, _ => by simp
  | [], c :: v, _, hv => by
    have differs : mark ≠ c := fun e => hv (e ▸ List.mem_cons_self)
    simp [List.cons_prefix_cons, differs]
  | c :: u, [], hu, _ => by
    have differs : c ≠ mark := fun e => hu (e ▸ List.mem_cons_self)
    simp [List.cons_prefix_cons, differs]
  | c :: u, d :: v, hu, hv => by
    have ih : u ++ mark :: xs <+: v ++ mark :: ys ↔ u = v ∧ xs <+: ys := closed_before_iff
      (fun m => hu (List.mem_cons_of_mem c m)) (fun m => hv (List.mem_cons_of_mem d m))
    rw [List.cons_append, List.cons_append, List.cons_prefix_cons, ih, List.cons.injEq, and_assoc]

/-- A name in braces does not begin as another one does. -/
theorem bracedChars_apart {other : String} {rest : List Char} (closed : '\x7d' ∉ name.toList)
    (closed' : '\x7d' ∉ other.toList) (differs : other ≠ name) :
    ¬ bracedChars name <+: bracedChars other ++ rest := by
  intro h
  have h' : name.toList ++ '\x7d' :: [] <+: other.toList ++ '\x7d' :: rest := by
    simpa [bracedChars, List.cons_prefix_cons] using h
  have same := ((closed_before_iff closed closed').mp h').1
  exact differs (String.toList_inj.mp same).symm

theorem bracedChars_absent (unclosed : Unclosed tail) : ¬ bracedChars name <:+: tail := by
  rintro ⟨before, after, rfl⟩
  refine unclosed before (name.toList ++ '\x7d' :: after) (by simp [bracedChars]) ?_
  simp

/-- A substitution passes over another name in braces. -/
theorem replaceFirst_braced {other : String} {replacement rest : List Char}
    (closed : '\x7d' ∉ name.toList) (closed' : '\x7d' ∉ other.toList)
    (plain : '\x7b' ∉ other.toList) (differs : other ≠ name) :
    Web.replaceFirst (bracedChars name) replacement (bracedChars other ++ rest)
      = bracedChars other ++ Web.replaceFirst (bracedChars name) replacement rest := by
  have here : ¬ bracedChars name <+: bracedChars other ++ rest :=
    bracedChars_apart closed closed' differs
  have plain' : '\x7b' ∉ other.toList ++ ['\x7d'] := by simp [plain]
  calc
    _ = '\x7b' :: Web.replaceFirst (bracedChars name) replacement
          (other.toList ++ ['\x7d'] ++ rest) := Web.replaceFirst_skip here
    _ = _ := congrArg _ (Web.replaceFirst_append plain')

/-- **A substitution fills the name wherever it stands**: the values that were filled in before
have no opening brace, and no other name in braces begins as this one does. -/
theorem replaceFirst_fillChars {holes : List Hole} (unclosed : Unclosed tail)
    (closed : '\x7d' ∉ name.toList) (nodup : (holes.map (·.name)).Nodup)
    (plain : ∀ hole ∈ holes, '\x7b' ∉ hole.name.toList ∧ '\x7b' ∉ (value hole.name).toList) :
    Web.replaceFirst (bracedChars name) (value name).toList
        (fillChars (partly value done) tail holes)
      = fillChars (partly value (name :: done)) tail holes := by
  induction holes with
  | nil => exact Web.replaceFirst_absent (bracedChars_absent unclosed)
  | cons hole holes ih =>
    obtain ⟨hname, hvalue⟩ := plain hole List.mem_cons_self
    rw [List.map_cons, List.nodup_cons] at nodup
    have later := ih nodup.2 fun other m => plain other (List.mem_cons_of_mem _ m)
    refine Eq.trans (Web.replaceFirst_append hole.plain) (congrArg (hole.before ++ ·) ?_)
    change Web.replaceFirst (bracedChars name) _ _ = _
    by_cases hdone : hole.name ∈ done
    · -- the value that stands here has no opening brace
      have old : partly value done hole.name = value hole.name := if_pos hdone
      have new : partly value (name :: done) hole.name = value hole.name :=
        if_pos (List.mem_cons_of_mem _ hdone)
      rw [old, new, ← later]
      exact Web.replaceFirst_append hvalue
    have old : (partly value done hole.name).toList = bracedChars hole.name := by
      rw [partly, if_neg hdone, braced, String.toList_ofList]
    rw [old]
    by_cases here : hole.name = name
    · -- the name stands here, and nowhere behind it
      subst here
      have new : partly value (hole.name :: done) hole.name = value hole.name :=
        if_pos List.mem_cons_self
      have rest : fillChars (partly value (hole.name :: done)) tail holes
          = fillChars (partly value done) tail holes :=
        fillChars_congr fun other m => partly_cons_of_ne fun same =>
          nodup.1 (same ▸ List.mem_map_of_mem m)
      rw [new, rest]
      exact Web.replaceFirst_self (List.cons_ne_nil _ _)
    · -- another name stands here, still in its braces
      rw [partly_cons_of_ne here, old, ← later]
      exact replaceFirst_braced closed hole.closed hname here

/-- What is asked of names and values so that the parts can be filled name by name: no opening
brace stands in them, and no name occurs twice. -/
structure Parts.Fills (p : Parts) (value : String → String) : Prop where
  nodup : p.names.Nodup
  name_plain : ∀ name ∈ p.names, '\x7b' ∉ name.toList
  value_plain : ∀ name ∈ p.names, '\x7b' ∉ (value name).toList

variable {p : Parts}

theorem closed_of_mem_names (h : name ∈ p.names) : '\x7d' ∉ name.toList := by
  obtain ⟨hole, _, rfl⟩ := List.mem_map.mp h
  exact hole.closed

/-- **One step**: a substitution fills one more name. -/
theorem substitute_write (h : p.Fills value) (m : name ∈ p.names) :
    Web.substitute (p.write (partly value done)) name (value name)
      = p.write (partly value (name :: done)) := by
  have plain : ∀ hole ∈ p.holes, '\x7b' ∉ hole.name.toList ∧ '\x7b' ∉ (value hole.name).toList := by
    intro hole hm
    have hname : hole.name ∈ p.names := List.mem_map_of_mem hm
    exact ⟨h.name_plain _ hname, h.value_plain _ hname⟩
  rw [Web.substitute, Parts.write, String.toList_ofList]
  exact congrArg String.ofList
    (replaceFirst_fillChars p.unclosed (closed_of_mem_names m) h.nodup plain)

/-! ## The path of a request -/

/-- A request substitutes the path parameters, each with its field. -/
theorem mem_substitutions {template : String} {fields : List (Parameter × String)}
    {s : String × String} :
    s ∈ (Code.pathCode template fields).substitutions ↔
      ∃ pf ∈ fields, pf.1.location = .path ∧ (pf.1.name, pf.2) = s := by
  rw [Code.pathCode, List.mem_map]
  constructor
  · rintro ⟨pf, hpf, rfl⟩
    obtain ⟨hpf, hpath⟩ := List.mem_filter.mp hpf
    exact ⟨pf, hpf, eq_of_beq hpath, rfl⟩
  · rintro ⟨pf, hpf, hpath, rfl⟩
    exact ⟨pf, List.mem_filter.mpr ⟨hpf, beq_iff_eq.mpr hpath⟩, rfl⟩

theorem fill_cons {input : Code.Input} {template wire field : String}
    {rest : List (String × String)} {pushes : List Code.QueryPush} {v : ParamValue}
    (h : input field = some (.one v)) :
    (Code.PathCode.mk template ((wire, field) :: rest) pushes).fill input
      = (Code.PathCode.mk (Web.substitute template wire v.text) rest pushes).fill input := by
  simp only [Code.PathCode.fill, List.foldlM_cons, h]
  rfl

/-- **A run**: the substitutions of a request fill their names, one after another. -/
theorem fill_write {input : Code.Input} {substitutions : List (String × String)}
    {pushes : List Code.QueryPush} (h : p.Fills value)
    (assigned : ∀ s ∈ substitutions,
      s.1 ∈ p.names ∧ ∃ v, input s.2 = some (.one v) ∧ v.text = value s.1) :
    (Code.PathCode.mk (p.write (partly value done)) substitutions pushes).fill input
      = some (p.write (partly value ((substitutions.map Prod.fst).reverse ++ done))) := by
  induction substitutions generalizing done with
  | nil => rfl
  | cons s rest ih =>
    obtain ⟨wire, field⟩ := s
    obtain ⟨⟨hwire, v, hv, htext⟩, later⟩ := List.forall_mem_cons.mp assigned
    dsimp only at hwire hv htext
    rw [fill_cons hv, htext, substitute_write h hwire, ih later, List.map_cons, List.reverse_cons,
      List.append_assoc]
    rfl

theorem write_partly (h : ∀ name ∈ p.names, name ∈ done) :
    p.write (partly value done) = p.write value := by
  refine congrArg String.ofList (fillChars_congr fun hole m => if_pos ?_)
  exact h hole.name (List.mem_map_of_mem m)

theorem unclosed_fillChars (unclosed : Unclosed tail) : ∀ {holes : List Hole},
    (∀ hole ∈ holes, '\x7b' ∉ (value hole.name).toList) → Unclosed (fillChars value tail holes)
  | [], _ => unclosed
  | hole :: holes, plain => by
    have later := unclosed_fillChars unclosed fun other m => plain other (List.mem_cons_of_mem _ m)
    exact unclosed_append hole.plain (unclosed_append (plain hole List.mem_cons_self) later)

theorem placeholderChars_of_unclosed {cs : List Char} (h : Unclosed cs) :
    placeholderChars cs = [] := by
  cases hopen : cutAt '\x7b' cs with
  | none => exact placeholderChars_of_none hopen
  | some cut =>
    obtain ⟨before, rest⟩ := cut
    rw [placeholderChars_of_some hopen]
    cases hclose : cutAt '\x7d' rest with
    | none => rfl
    | some cut' =>
      obtain ⟨rfl, _⟩ := eq_of_cutAt hopen
      obtain ⟨rfl, _⟩ := eq_of_cutAt hclose
      exact absurd (List.mem_append_right _ List.mem_cons_self) (h before _ rfl)

theorem placeholders_write (h : p.Fills value) : placeholders (p.write value) = [] := by
  have unclosed : Unclosed (fillChars value p.tail p.holes) :=
    unclosed_fillChars p.unclosed fun hole m => h.value_plain _ (List.mem_map_of_mem m)
  rw [placeholders, Parts.write, String.toList_ofList, placeholderChars_of_unclosed unclosed]
  rfl

/-- **The path of a request is its template with every name replaced by its value**, each once and
all at once: the texts between the names stay, the order of the parameters does not matter, and no
name in braces is left. -/
theorem path_filled {operation template : String} {parameters : List Parameter}
    (accepted : checkPlaceholders operation template parameters = .ok ())
    (names : ∀ name ∈ placeholders template, '\x7b' ∉ name.toList) :
    (parts template).write braced = template ∧ (parts template).names = placeholders template ∧
    (placeholders template).Nodup ∧
    ∀ value : String → String, (∀ name ∈ placeholders template, '\x7b' ∉ (value name).toList) →
      ∀ fields : List (Parameter × String), (fields.map Prod.fst).Perm parameters →
      ∀ input : Code.Input,
        (∀ pf ∈ fields, pf.1.location = .path →
          ∃ v, input pf.2 = some (.one v) ∧ v.text = value pf.1.name) →
        (Code.pathCode template fields).fill input = some ((parts template).write value) ∧
        placeholders ((parts template).write value) = [] := by
  obtain ⟨nodup, declared⟩ := checkPlaceholders_ok accepted
  refine ⟨write_braced template, parts_names template, nodup, ?_⟩
  intro value values fields order input assigned
  rw [← parts_names template] at nodup declared names values
  have fills : (parts template).Fills value := ⟨nodup, names, values⟩
  refine ⟨?_, placeholders_write fills⟩
  have assigned' : ∀ s ∈ (Code.pathCode template fields).substitutions,
      s.1 ∈ (parts template).names ∧ ∃ v, input s.2 = some (.one v) ∧ v.text = value s.1 := by
    intro s hs
    obtain ⟨pf, hpf, hpath, rfl⟩ := mem_substitutions.mp hs
    have hp : pf.1 ∈ parameters := order.mem_iff.mp (List.mem_map_of_mem hpf)
    exact ⟨(declared _).mpr ⟨pf.1, hp, hpath, rfl⟩, assigned pf hpf hpath⟩
  have covered : ∀ name ∈ (parts template).names,
      name ∈ ((Code.pathCode template fields).substitutions.map Prod.fst).reverse ++ [] := by
    intro name hname
    obtain ⟨q, hq, hpath, rfl⟩ := (declared _).mp hname
    obtain ⟨pf, hpf, rfl⟩ := List.mem_map.mp (order.mem_iff.mpr hq)
    rw [List.append_nil, List.mem_reverse]
    exact List.mem_map_of_mem (mem_substitutions.mpr ⟨pf, hpf, hpath, rfl⟩)
  have start : (parts template).write (partly value []) = template := write_braced template
  calc
    _ = (Code.PathCode.mk ((parts template).write (partly value []))
          (Code.pathCode template fields).substitutions
          (Code.pathCode template fields).pushes).fill input := by rw [start]; rfl
    _ = some ((parts template).write value) := by
      rw [fill_write fills assigned', write_partly covered]

/-- A template with an open brace behind its names. -/
def openTemplate : String := "/a/\x7bid\x7d/b/\x7bx y\x7d?\x7bopen"

/-- Its parameters in the other order, each with its field. -/
def openFields : List (Parameter × String) :=
  [("x y", "x_y"), ("id", "id")].map fun (name, field) =>
    ({ name, location := .path, type := .primitive .string, required := true, constraints := {},
       description := none }, field)

/-- A value that would close a brace behind the name of the other parameter. -/
def crossingValue (name : String) : String := if name = "id" then "\x7d/x y\x7d" else "-7"

/-- The values in the fields. -/
def crossingInput : Code.Input
  | "x_y" => some (.one (.integer (-7)))
  | "id" => some (.one (.string "\x7d/x y\x7d"))
  | _ => none

theorem path_filled_crossing :
    checkPlaceholders "read" openTemplate (openFields.map Prod.fst) = .ok () ∧
    placeholders openTemplate = ["id", "x y"] ∧
    (Code.pathCode openTemplate openFields).fill crossingInput
      = some "/a/\x7d/x y\x7d/b/-7?\x7bopen" := by
  have accepted : checkPlaceholders "read" openTemplate (openFields.map Prod.fst) = .ok () := by
    cbv
  have names : placeholders openTemplate = ["id", "x y"] := by cbv
  have plain : ∀ name ∈ placeholders openTemplate, '\x7b' ∉ name.toList := by
    rw [names]
    decide
  have values : ∀ name ∈ placeholders openTemplate, '\x7b' ∉ (crossingValue name).toList := by
    rw [names]
    decide
  have assigned : ∀ pf ∈ openFields, pf.1.location = .path →
      ∃ v, crossingInput pf.2 = some (.one v) ∧ v.text = crossingValue pf.1.name := by
    rintro pf (_ | ⟨_, _ | ⟨_, _ | _⟩⟩) _
    · exact ⟨.integer (-7), rfl, by decide⟩
    · exact ⟨.string "\x7d/x y\x7d", rfl, by decide⟩
  obtain ⟨_, _, _, h⟩ := path_filled accepted plain
  obtain ⟨filled, -⟩ := h crossingValue values openFields (.refl _) crossingInput assigned
  refine ⟨accepted, names, filled.trans ?_⟩
  cbv

end PathTemplate

end ApiScaffold
