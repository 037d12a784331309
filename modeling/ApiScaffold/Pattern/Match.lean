import ApiScaffold.Pattern.Basic

/-!
# Matching

Whether a pattern occurs in a text is found in one pass over the text, with the set of the
patterns that what follows may still match.

* `matchesEmpty`: whether a pattern matches at a place without going on.
* `residuals`: what is left of a pattern behind one character.
* `occursIn`: whether a pattern occurs in a text.
-/

namespace ApiScaffold.Pattern

/-- Whether a pattern matches the empty text between two characters. -/
def matchesEmpty (before after : Option Char) : Pattern → Bool
  | nothing => true
  | chars _ => false
  | look condition => condition.holds before after
  | seq p q => p.matchesEmpty before after && q.matchesEmpty before after
  | alt p q => p.matchesEmpty before after || q.matchesEmpty before after
  | rep p least _ => least == 0 || p.matchesEmpty before after

/-- A sequence, without an empty first part. -/
def seqOf : Pattern → Pattern → Pattern
  | nothing, q => q
  | p, q => seq p q

/-- Two lists of patterns as one without repetitions. -/
def merge (ps qs : List Pattern) : List Pattern :=
  ps.foldl (fun acc p => if acc.contains p then acc else p :: acc) qs

/-- What is left of a pattern behind the character `c`, which stands behind `before`. -/
def residuals (before : Option Char) (c : Char) : Pattern → List Pattern
  | nothing => []
  | chars set => if set.mem c then [nothing] else []
  | look _ => []
  | seq p q =>
    let first := (p.residuals before c).map (seqOf · q)
    if p.matchesEmpty before (some c) then merge first (q.residuals before c) else first
  | alt p q => merge (p.residuals before c) (q.residuals before c)
  | rep p least most =>
    if most = some 0 then []
    else
      -- what may also be empty here can be taken as often as needed before `c` is
      let least := if p.matchesEmpty before (some c) then 0 else least - 1
      (p.residuals before c).map (seqOf · (rep p least (most.map (· - 1))))

/-- Whether `root` occurs in what is left of a text, or one of `open_` matches from here. -/
def occursFrom (root : Pattern) (before : Option Char) (open_ : List Pattern) :
    List Char → Bool
  | [] => (merge [root] open_).any (·.matchesEmpty before none)
  | c :: cs =>
    let open_ := merge [root] open_
    open_.any (·.matchesEmpty before (some c))
      || occursFrom root (some c)
        (open_.foldl (fun acc p => merge (p.residuals before c) acc) []) cs

/-- Whether a pattern occurs in a text. -/
def occursIn (p : Pattern) (s : String) : Bool := occursFrom p none [] s.toList

/-- How much room a pattern takes when its repetitions are written out. -/
def weight : Pattern → Nat
  | nothing => 1
  | chars set => 32 + 24 * (set.rangeCount - 1)
  | look _ => 32
  | seq p q => p.weight + q.weight
  | alt p q => 32 + p.weight + q.weight
  | rep p least none => 32 + (max least 1) * p.weight
  | rep p least (some most) => p.weight * most + 32 * (most - least)

/-- The greatest weight of a pattern that is accepted. -/
def maxWeight : Nat := 10485760

end ApiScaffold.Pattern
