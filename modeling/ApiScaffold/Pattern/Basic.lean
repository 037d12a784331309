import ApiScaffold.Text.Letter
import ApiScaffold.Text.Blank
import ApiScaffold.Pattern.FoldTable

/-!
# Patterns

A pattern describes texts: characters of a set, conditions on the place, sequences,
alternatives and repetitions.

* `CharSet`: a set of characters, closed under the operations of sets and under case.
* `Look`: a condition on the characters on both sides of a place.
* `Pattern`: patterns.
-/

namespace ApiScaffold

open Text

namespace Pattern

/-- The folded form of a character. -/
def foldChar (c : Char) : Char :=
  match shiftBy foldRuns c.toNat with
  | some code => Char.ofNat code
  | none => c

/-- The characters that have the same folded form as a character. -/
def caseVariants (c : Char) : List Char :=
  let folded := foldChar c
  folded :: foldRuns.filterMap fun (low, high, step, shift) =>
    let code := (folded.toNat : Int) - shift
    if (low : Int) ≤ code && code ≤ high && (code.toNat - low) % step == 0 then
      some (Char.ofNat code.toNat)
    else none

/-- The characters that words consist of. -/
def isWordChar (c : Char) : Bool :=
  if isAscii c then isAsciiAlphanumeric c || c == '_'
  else isAlphabetic c || Category.anyContains Category.marks c
    || Category.decimalNumber.contains c || Category.connectorPunctuation.contains c
    || c == '\u200C' || c == '\u200D'

/-- A set of characters. -/
inductive CharSet
  | empty
  | range (low high : Nat)
  | ranges (members : List (Nat × Nat))
  | categories (members : List Category)
  | word
  | blank
  | alphabetic
  | lower
  | upper
  | union (s t : CharSet)
  | inter (s t : CharSet)
  | compl (s : CharSet)
  | anyCase (s : CharSet)
  deriving DecidableEq, Repr

namespace CharSet

/-- Whether a character is a member of a set. -/
def mem : CharSet → Char → Bool
  | empty, _ => false
  | range low high, c => low ≤ c.toNat && c.toNat ≤ high
  | ranges members, c => inRanges members c
  | categories members, c => Category.anyContains members c
  | word, c => isWordChar c
  | blank, c => isBlank c
  | alphabetic, c => isAlphabetic c
  | lower, c => isLower c
  | upper, c => isUpper c
  | union s t, c => s.mem c || t.mem c
  | inter s t, c => s.mem c && t.mem c
  | compl s, c => !s.mem c
  | anyCase s, c => s.mem c || (caseVariants c).any s.mem

/-- The set of one character. -/
def single (c : Char) : CharSet := range c.toNat c.toNat

/-- All characters. -/
def full : CharSet := range 0 0x10FFFF

/-- The members of the first set that are not members of the second. -/
def diff (s t : CharSet) : CharSet := inter s (compl t)

/-- The members of exactly one of two sets. -/
def symmDiff (s t : CharSet) : CharSet := union (diff s t) (diff t s)

/-- How many ranges a set is made of, roughly, without regard to case. -/
def partCount : CharSet → Nat
  | empty => 0
  | range .. => 1
  | ranges members => members.length
  | categories members => (members.map fun k => k.ranges.length).foldl (· + ·) 0
  | word => 760
  | blank => 10
  | alphabetic => 730
  | lower => 670
  | upper => 650
  | union s t => s.partCount + t.partCount
  | inter s t => max s.partCount t.partCount
  | compl s => s.partCount + 1
  | anyCase s => s.partCount

/-- Whether case is ignored in some part of a set. -/
def ignoresCase : CharSet → Bool
  | union s t => s.ignoresCase || t.ignoresCase
  | inter s t => s.ignoresCase || t.ignoresCase
  | compl s => s.ignoresCase
  | anyCase _ => true
  | _ => false

/-- How many ranges a set is made of, roughly; those of both cases double it. -/
def rangeCount (s : CharSet) : Nat := if s.ignoresCase then 2 * s.partCount else s.partCount

end CharSet

/-- A condition on a place in a text. -/
inductive Look
  | startText
  | endText
  | startLine
  | endLine
  | startLineReturn
  | endLineReturn
  | wordBoundary (unicode : Bool)
  | notWordBoundary (unicode : Bool)
  | wordStart (unicode : Bool)
  | wordEnd (unicode : Bool)
  | wordStartHalf (unicode : Bool)
  | wordEndHalf (unicode : Bool)
  deriving DecidableEq, Repr

/-- Whether a character before or behind a place belongs to a word. -/
def inWord (unicode : Bool) : Option Char → Bool
  | none => false
  | some c => if unicode then isWordChar c else isAscii c && isWordChar c

/-- Whether a condition holds between two characters; none stands for an end of the text. -/
def Look.holds (before after : Option Char) : Look → Bool
  | startText => before.isNone
  | endText => after.isNone
  | startLine => before.isNone || before == some '\n'
  | endLine => after.isNone || after == some '\n'
  | startLineReturn =>
    before.isNone || before == some '\n' || (before == some '\r' && after != some '\n')
  | endLineReturn =>
    after.isNone || after == some '\r' || (after == some '\n' && before != some '\r')
  | wordBoundary u => inWord u before != inWord u after
  | notWordBoundary u => inWord u before == inWord u after
  | wordStart u => !inWord u before && inWord u after
  | wordEnd u => inWord u before && !inWord u after
  | wordStartHalf u => !inWord u before
  | wordEndHalf u => !inWord u after

end Pattern

/-- A pattern. -/
inductive Pattern
  | nothing
  | chars (set : Pattern.CharSet)
  | look (condition : Pattern.Look)
  | seq (first second : Pattern)
  | alt (left right : Pattern)
  /-- At least `least` times, and at most `most` times if that is given. -/
  | rep (p : Pattern) (least : Nat) (most : Option Nat)
  deriving DecidableEq, Repr

namespace Pattern

/-- A sequence of patterns. -/
def seqAll : List Pattern → Pattern
  | [] => nothing
  | [p] => p
  | p :: ps => seq p (seqAll ps)

/-- Alternative patterns. -/
def altAll : List Pattern → Pattern
  | [] => nothing
  | [p] => p
  | p :: ps => alt p (altAll ps)

end Pattern

end ApiScaffold
