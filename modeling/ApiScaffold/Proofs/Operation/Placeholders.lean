import ApiScaffold.Proofs.Operation.PathTemplate
import ApiScaffold.Proofs.Walk.Parameters
import Mathlib.Logic.Relation

/-!
# Placeholders and path parameters

The walk finds the names of a template in rounds.  A round looks for an opening brace and for the
first closing one behind it, takes what stands between them, and goes on behind; it is the last one
if a brace is missing.  Every round that is not the last takes two braces at least, so the rounds
come to an end (`Scan.runs`), and what a round takes from a text that is written with names in
braces is the first of them (`placeholderChars_hole`).

Two checks look at the names.  One of them walks over the names and asks of each whether it came
before and whether a parameter has it; the other one asks of each path parameter whether it was
found.  Together they say that the names and the path parameters are the same
(`checkPlaceholders_eq_ok_iff`).  Since the walk accepts no name of a parameter twice, each name is
that of one parameter, and both lists are the same up to their order.

* `placeholders_spelled`: **the names of a template are those that stand in its braces.**
* `placeholders_match`: **a template is accepted exactly if its names are the path parameters.**
-/

namespace ApiScaffold.PathTemplate

/-! ## The rounds of the scan -/

/-- The first name in braces, and what stands behind it. -/
def firstName (cs : List Char) : Option (List Char × List Char) :=
  (cutAt '\x7b' cs).bind fun (_, rest) => cutAt '\x7d' rest

theorem placeholderChars_eq (cs : List Char) : placeholderChars cs =
    ((firstName cs).map fun (name, rest) => name :: placeholderChars rest).getD [] := by
  rw [firstName]
  cases hopen : cutAt '\x7b' cs with
  | none => exact placeholderChars_of_none hopen
  | some cut => exact placeholderChars_of_some hopen

theorem firstName_length {cs name rest : List Char} (h : firstName cs = some (name, rest)) :
    rest.length + 2 ≤ cs.length := by
  obtain ⟨⟨before, behind⟩, hopen, hclose⟩ := Option.bind_eq_some_iff.mp h
  have h1 := cutAt_length hopen
  have h2 := cutAt_length hclose
  omega

/-- A scan under way: the names that were found, and what has not been looked at. -/
structure Scan where
  names : List (List Char)
  rest : List Char

namespace Scan

/-- The scan after one more round, unless a brace is missing. -/
def next (s : Scan) : Option Scan :=
  (firstName s.rest).map fun (name, rest) => ⟨s.names ++ [name], rest⟩

/-- One round that finds a name. -/
def Round (s t : Scan) : Prop := s.next = some t

/-- **The rounds come to an end**: they find the names one after another, and take two characters
for each. -/
theorem runs (found : List (List Char)) (cs : List Char) :
    ∃ last : Scan, Relation.ReflTransGen Round ⟨found, cs⟩ last ∧ last.next = none ∧
      last.names = found ++ placeholderChars cs ∧
      last.rest.length + 2 * (placeholderChars cs).length ≤ cs.length := by
  induction hn : cs.length using Nat.strongRecOn generalizing found cs with
  | ind n ih =>
    subst hn
    rw [placeholderChars_eq]
    cases hfirst : firstName cs with
    | none =>
      refine ⟨⟨found, cs⟩, .refl, ?_, by simp, by simp⟩
      rw [next, hfirst, Option.map_none]
    | some cut =>
      obtain ⟨name, rest⟩ := cut
      have hshorter := firstName_length hfirst
      have hround : Round ⟨found, cs⟩ ⟨found ++ [name], rest⟩ := by
        rw [Round, next, hfirst]
        rfl
      obtain ⟨last, hsteps, hlast, hnames, hlength⟩ :=
        ih rest.length (by omega) (found ++ [name]) rest rfl
      refine ⟨last, .head hround hsteps, hlast, by simp [hnames], ?_⟩
      simp only [Option.map_some, Option.getD_some, List.length_cons]
      omega

end Scan

/-! ## Templates that are written with names -/

/-- A literal, and names in braces with a literal behind each. -/
def spelledChars (first : String) (rest : List (String × String)) : List Char :=
  first.toList ++ rest.flatMap fun (name, literal) => bracedChars name ++ literal.toList

/-- The template of a literal, and of names in braces with a literal behind each. -/
def spelled (first : String) (rest : List (String × String)) : String :=
  String.ofList (spelledChars first rest)

theorem placeholderChars_hole {before name rest : List Char} (hbefore : '\x7b' ∉ before)
    (hname : '\x7d' ∉ name) :
    placeholderChars (before ++ '\x7b' :: (name ++ '\x7d' :: rest)) =
      name :: placeholderChars rest := by
  have hfirst : firstName (before ++ '\x7b' :: (name ++ '\x7d' :: rest)) = some (name, rest) := by
    rw [firstName, cutAt_marked hbefore, Option.bind_some]
    exact cutAt_marked hname
  rw [placeholderChars_eq, hfirst]
  rfl

theorem placeholderChars_spelled {first : String} {rest : List (String × String)}
    (hfirst : '\x7b' ∉ first.toList)
    (hrest : ∀ piece ∈ rest, '\x7d' ∉ piece.1.toList ∧ '\x7b' ∉ piece.2.toList) :
    placeholderChars (spelledChars first rest) = rest.map fun piece => piece.1.toList := by
  induction rest generalizing first with
  | nil =>
    rw [spelledChars, List.flatMap_nil, List.append_nil]
    exact placeholderChars_of_unclosed (unclosed_of_not_mem hfirst)
  | cons piece rest ih =>
    obtain ⟨name, literal⟩ := piece
    obtain ⟨⟨hname, hliteral⟩, hlater⟩ := List.forall_mem_cons.mp hrest
    have hspelled : spelledChars first ((name, literal) :: rest) =
        first.toList ++ '\x7b' :: (name.toList ++ '\x7d' :: spelledChars literal rest) := by
      simp [spelledChars, bracedChars]
    rw [hspelled, placeholderChars_hole hfirst hname, ih hliteral hlater, List.map_cons]

/-- **The names of a template are those that stand in its braces**, in their order: a literal has no
opening brace, and a name no closing one. -/
theorem placeholders_spelled {first : String} {rest : List (String × String)}
    (hfirst : '\x7b' ∉ first.toList)
    (hrest : ∀ piece ∈ rest, '\x7d' ∉ piece.1.toList ∧ '\x7b' ∉ piece.2.toList) :
    placeholders (spelled first rest) = rest.map Prod.fst := by
  rw [placeholders, spelled, String.toList_ofList, placeholderChars_spelled hfirst hrest,
    List.map_map]
  exact List.map_congr_left fun piece _ => String.ofList_toList

/-! ## The two checks -/

variable {operation template : String} {parameters : List Parameter}

theorem declares_iff {name : String} : declares parameters name = true ↔
    ∃ p ∈ parameters, p.location = .path ∧ p.name = name := by
  simp [declares]

/-- The names are accepted exactly if they are new, each once, and names of path parameters. -/
theorem checkNames_eq_ok_iff {names seen : List String} :
    checkNames operation parameters seen names = .ok () ↔
      names.Nodup ∧ (∀ name ∈ names, name ∉ seen) ∧
        ∀ name ∈ names, declares parameters name = true := by
  refine ⟨checkNames_ok, ?_⟩
  induction names generalizing seen with
  | nil => exact fun _ => rfl
  | cons name rest ih =>
    rintro ⟨hnodup, hnew, hdeclared⟩
    obtain ⟨honce, hnodup⟩ := List.nodup_cons.mp hnodup
    obtain ⟨hfresh, hnew⟩ := List.forall_mem_cons.mp hnew
    obtain ⟨hname, hdeclared⟩ := List.forall_mem_cons.mp hdeclared
    have hseen : ¬ seen.contains name = true := fun h => hfresh (List.contains_iff_mem.mp h)
    rw [checkNames, if_neg hseen, hname, Bool.not_true, if_neg Bool.false_ne_true]
    refine ih ⟨hnodup, fun other hother => ?_, hdeclared⟩
    rw [List.mem_cons, not_or]
    exact ⟨fun heq => honce (heq ▸ hother), hnew other hother⟩

/-- A template is accepted exactly if its names occur once and are those of the path parameters. -/
theorem checkPlaceholders_eq_ok_iff :
    checkPlaceholders operation template parameters = .ok () ↔
      (placeholders template).Nodup ∧ ∀ name, name ∈ placeholders template ↔
        ∃ p ∈ parameters, p.location = .path ∧ p.name = name := by
  refine ⟨checkPlaceholders_ok, fun ⟨hnodup, hnames⟩ => ?_⟩
  have hchecked : checkNames operation parameters [] (placeholders template) = .ok () :=
    checkNames_eq_ok_iff.mpr ⟨hnodup, fun _ _ => List.not_mem_nil, fun name hname =>
      declares_iff.mpr ((hnames name).mp hname)⟩
  have hused : parameters.find? (fun p => p.location == .path
      && !(placeholders template).contains p.name) = none := by
    rw [List.find?_eq_none]
    intro p hp
    by_cases hpath : p.location = .path
    · have hfound : p.name ∈ placeholders template := (hnames p.name).mpr ⟨p, hp, hpath, rfl⟩
      simp [hfound]
    · simp [hpath]
  refine bind_eq_ok.mpr ⟨(), hchecked, ?_⟩
  rw [hused]

/-- The names of the path parameters. -/
def pathNames (parameters : List Parameter) : List String :=
  (parameters.filter (·.location == .path)).map (·.name)

theorem mem_pathNames {name : String} : name ∈ pathNames parameters ↔
    ∃ p ∈ parameters, p.location = .path ∧ p.name = name := by
  simp [pathNames, and_assoc]

theorem pathNames_nodup (h : (parameters.map (·.name)).Nodup) : (pathNames parameters).Nodup :=
  h.sublist (List.filter_sublist.map _)

/-! ## The names are the path parameters -/

/-- **A template is accepted exactly if its names are the path parameters.**  Let the walk accept
the parameters that an operation shares with its path and those of its own.  A template is accepted
exactly if its names are told apart and are the names of the path parameters; each is then the name
of one of them, so the names are the path parameters in some order.  The names are what a finite
number of rounds finds, at most one for every two characters; and in a template that is written with
names in braces, without closing braces in the names and without opening ones between them, they are
just these, in their order. -/
theorem placeholders_match {types : TypeMap} {shared own : List ParameterItem}
    (accepted : Walk.parametersFrom types operation {} (Walk.mergedParameters shared own)
      = .ok parameters) (template : String) :
    (checkPlaceholders operation template parameters = .ok () ↔
      (placeholders template).Nodup ∧ ∀ name, name ∈ placeholders template ↔
        ∃ p ∈ parameters, p.location = .path ∧ p.name = name) ∧
    (checkPlaceholders operation template parameters = .ok () ↔
      (placeholders template).Perm (pathNames parameters)) ∧
    (∃ last : Scan, Relation.ReflTransGen Scan.Round ⟨[], template.toList⟩ last ∧
      last.next = none ∧ last.names.map String.ofList = placeholders template ∧
      2 * (placeholders template).length ≤ template.length) ∧
    ∀ first rest, template = spelled first rest → '\x7b' ∉ first.toList →
      (∀ piece ∈ rest, '\x7d' ∉ piece.1.toList ∧ '\x7b' ∉ piece.2.toList) →
      placeholders template = rest.map Prod.fst := by
  have hpath : (pathNames parameters).Nodup :=
    pathNames_nodup (Walk.told_of_parametersFrom accepted).names
  refine ⟨checkPlaceholders_eq_ok_iff, ?_, ?_, ?_⟩
  · rw [checkPlaceholders_eq_ok_iff]
    constructor
    · rintro ⟨hnodup, hnames⟩
      rw [List.perm_ext_iff_of_nodup hnodup hpath]
      exact fun name => (hnames name).trans mem_pathNames.symm
    · intro hperm
      exact ⟨hperm.nodup_iff.mpr hpath, fun name => hperm.mem_iff.trans mem_pathNames⟩
  · obtain ⟨last, hsteps, hlast, hnames, hlength⟩ := Scan.runs [] template.toList
    refine ⟨last, hsteps, hlast, by rw [hnames, List.nil_append, placeholders], ?_⟩
    rw [placeholders, List.length_map, ← String.length_toList]
    omega
  · rintro first rest rfl hfirst hrest
    exact placeholders_spelled hfirst hrest

/-- Items that are shared with a path, and those of an operation. -/
def shelfItems : List ParameterItem × List ParameterItem :=
  ([⟨"id", "path", true, none, .object [("type", .string "string")]⟩],
    [⟨"page", "query", false, none, .object [("type", .string "integer")]⟩,
      ⟨"shelf", "path", true, none, .object [("type", .string "string")]⟩])

/-- Two names in another order than the parameters, behind a brace that closes nothing. -/
theorem placeholders_match_shelf :
    ∃ parameters, Walk.parametersFrom {} "read" {}
        (Walk.mergedParameters shelfItems.1 shelfItems.2) = .ok parameters ∧
      placeholders "/\x7d\x7bshelf\x7d/\x7bid\x7d" = ["shelf", "id"] ∧
      checkPlaceholders "read" "/\x7d\x7bshelf\x7d/\x7bid\x7d" parameters = .ok () := by
  have haccepted : Walk.parametersFrom {} "read" {}
      (Walk.mergedParameters shelfItems.1 shelfItems.2) = .ok _ := rfl
  obtain ⟨-, hperm, -, hspelled⟩ :=
    placeholders_match haccepted "/\x7d\x7bshelf\x7d/\x7bid\x7d"
  have hnames := hspelled "/\x7d" [("shelf", "/"), ("id", "")] (by decide) (by decide) (by decide)
  refine ⟨_, haccepted, hnames, hperm.mpr ?_⟩
  rw [hnames]
  decide

end ApiScaffold.PathTemplate
