import ApiScaffold.Text.Letter
import ApiScaffold.Web.Percent

/-!
# Scalars of YAML texts

A scalar is written plain, in single or double quotes, or as an indented block of lines.

* `readQuoted`, `readPlain`, `readBlock`: the text of a scalar, and where it ends.
* `Gap.text`: what stands for the blanks and line breaks between two words.

Lines are read with every carriage return, line feed, pair of both, and next-line character as
one line feed.
-/

namespace ApiScaffold.Yaml

open Text

/-- Every end of a line as one line feed. -/
def normalBreaks : List Char → List Char
  | '\r' :: '\n' :: cs => '\n' :: normalBreaks cs
  | c :: cs => (if c == '\r' || c == '\u0085' then '\n' else c) :: normalBreaks cs
  | [] => []

/-- Whether a character ends a line. -/
def isBreak (c : Char) : Bool := c == '\n' || c == '\u2028' || c == '\u2029'

def isBlank (c : Char) : Bool := c == ' ' || c == '\t'

/-- Whether a text is at its end or goes on with a blank or a new line. -/
def atBlank : List Char → Bool
  | [] => true
  | c :: _ => isBlank c || isBreak c

/-- Whether a text goes on with the mark for the start or the end of a document. -/
def atMarker : List Char → Bool
  | '-' :: '-' :: '-' :: cs => atBlank cs
  | '.' :: '.' :: '.' :: cs => atBlank cs
  | _ => false

/-- A place in a text. -/
structure Place where
  line : Nat := 0
  column : Nat := 0
  index : Nat := 0

/-- The place behind a character. -/
def Place.next (p : Place) (c : Char) : Place :=
  if isBreak c then ⟨p.line + 1, 0, p.index + 1⟩ else ⟨p.line, p.column + 1, p.index + 1⟩

/-- The place behind some characters. -/
def Place.skip (p : Place) (cs : List Char) : Place := cs.foldl Place.next p

/-- What is left to be read. -/
structure Cursor where
  rest : List Char
  place : Place := {}

/-- The cursor behind some characters. -/
def Cursor.skip (c : Cursor) (n : Nat) : Cursor := ⟨c.rest.drop n, c.place.skip (c.rest.take n)⟩

/-- The cursor behind the characters that satisfy a test. -/
def Cursor.skipWhile (c : Cursor) (p : Char → Bool) : Cursor :=
  c.skip (c.rest.takeWhile p).length

/-- What has been read between two words, in reverse. -/
inductive Gap
  | blanks (read : List Char)
  /-- The first break, none if it was escaped, and the others. -/
  | breaks (first : Option Char) (more : List Char)

namespace Gap

def empty : Gap := blanks []

def isEmpty : Gap → Bool
  | blanks [] => true
  | _ => false

def hasBreak : Gap → Bool
  | blanks _ => false
  | breaks _ _ => true

def addBlank (c : Char) : Gap → Gap
  | blanks read => blanks (c :: read)
  | gap => gap

def addBreak (c : Char) : Gap → Gap
  | blanks _ => breaks (some c) []
  | breaks first more => breaks first (c :: more)

/-- What stands for a gap: blanks for themselves, a single line break for a blank, and several
line breaks for all but the first. -/
def text : Gap → List Char
  | blanks read => read.reverse
  | breaks (some '\n') [] => [' ']
  | breaks (some '\n') more => more.reverse
  | breaks first more => first.toList ++ more.reverse

end Gap

/-! ## Quoted scalars -/

/-- The character of so many hexadecimal digits, and what follows. -/
def hexEscape (digits : Nat) (cs : List Char) : Option (Char × List Char) := do
  let values ← (cs.take digits).mapM fun c =>
    if isAscii c then Web.hexDigitValue? c.toNat.toUInt8 else none
  let code := values.foldl (fun n d => n * 16 + d) 0
  if values.length = digits && code ≤ 0x10FFFF && !(0xD800 ≤ code && code ≤ 0xDFFF) then
    some (Char.ofNat code, cs.drop digits)
  else none

/-- The characters that stand behind a backslash for another one. -/
def simpleEscapes : List (Char × Char) :=
  [('0', '\x00'), ('a', '\x07'), ('b', '\x08'), ('t', '\t'), ('\t', '\t'), ('n', '\n'),
    ('v', '\x0b'), ('f', '\x0c'), ('r', '\r'), ('e', '\x1b'), (' ', ' '), ('"', '"'), ('/', '/'),
    ('\\', '\\'), ('N', '\u0085'), ('_', '\u00a0'), ('L', '\u2028'), ('P', '\u2029')]

/-- The character of an escape, and what follows. -/
def readEscape : List Char → Option (Char × List Char)
  | 'x' :: cs => hexEscape 2 cs
  | 'u' :: cs => hexEscape 4 cs
  | 'U' :: cs => hexEscape 8 cs
  | c :: cs => (simpleEscapes.lookup c).map (·, cs)
  | [] => none

/-- Reads a quoted scalar behind its opening quote; `read` holds the text in reverse. -/
def readQuotedFrom (double : Bool) : Nat → List Char → Gap → Cursor → Option (String × Cursor)
  | 0, _, _, _ => none
  | fuel + 1, read, gap, cursor =>
    match cursor.rest with
    | [] => none
    | c :: cs =>
      let next : Cursor := ⟨cs, cursor.place.next c⟩
      if isBreak c then readQuotedFrom double fuel read (gap.addBreak c) next
      else if isBlank c then readQuotedFrom double fuel read (gap.addBlank c) next
      else if cursor.place.column = 0 && atMarker cursor.rest then none
      else
        let read := gap.text.reverse ++ read
        if double && c == '\\' then
          match cs with
          | d :: ds =>
            if isBreak d then
              readQuotedFrom double fuel read (.breaks none []) ⟨ds, next.place.next d⟩
            else
              match readEscape cs with
              | none => none
              | some (e, rest) =>
                let place := next.place.skip (cs.take (cs.length - rest.length))
                readQuotedFrom double fuel (e :: read) .empty ⟨rest, place⟩
          | [] => none
        else if !double && c == '\'' then
          match cs with
          | '\'' :: _ => readQuotedFrom double fuel ('\'' :: read) .empty (cursor.skip 2)
          | _ => some (String.ofList read.reverse, next)
        else if double && c == '"' then some (String.ofList read.reverse, next)
        else readQuotedFrom double fuel (c :: read) .empty next

/-- Reads a quoted scalar from its opening quote on. -/
def readQuoted (double : Bool) (cursor : Cursor) : Option (String × Cursor) :=
  readQuotedFrom double (cursor.rest.length + 1) [] .empty (cursor.skip 1)

/-! ## Plain scalars -/

/-- A character that separates items between brackets. -/
def isFlowMark (c : Char) : Bool := ",[]\x7b\x7d".toList.contains c

/-- Whether a colon between brackets stands in front of a separator, where it is not understood. -/
def isStrayColon (flow : Bool) : List Char → Bool
  | ':' :: c :: _ => flow && (isFlowMark c || c == '?')
  | _ => false

/-- Whether a plain scalar ends in front of a text. -/
def endsPlain (flow : Bool) : List Char → Bool
  | [] => true
  | c :: cs => (c == ':' && atBlank cs) || (flow && isFlowMark c)

/-- Reads a plain scalar; `read` holds the text in reverse.  Also says whether it ended on a later
line than its last word. -/
def readPlainFrom (flow : Bool) (indent : Nat) :
    List Char → Gap → Place → List Char → Option (String × Bool × Cursor)
  | read, gap, place, [] => some (String.ofList read.reverse, gap.hasBreak, ⟨[], place⟩)
  | read, gap, place, c :: cs =>
    if isBreak c then readPlainFrom flow indent read (gap.addBreak c) (place.next c) cs
    else if isBlank c then
      if c == '\t' && gap.hasBreak && place.column < indent then none
      else readPlainFrom flow indent read (gap.addBlank c) (place.next c) cs
    else
      let separated :=
        !gap.isEmpty && (c == '#' || (!flow && place.column < indent)
          || (place.column = 0 && atMarker (c :: cs)))
      if !separated && isStrayColon flow (c :: cs) then none
      else if separated || endsPlain flow (c :: cs) then
        some (String.ofList read.reverse, gap.hasBreak, ⟨c :: cs, place⟩)
      else readPlainFrom flow indent (c :: gap.text.reverse ++ read) .empty (place.next c) cs

/-- Reads a plain scalar whose further lines are indented by so much. -/
def readPlain (flow : Bool) (indent : Nat) (cursor : Cursor) : Option (String × Bool × Cursor) :=
  readPlainFrom flow indent [] .empty cursor.place cursor.rest

/-! ## Block scalars -/

/-- What happens to the line breaks at the end of a block. -/
inductive Chomping
  | strip
  | clip
  | keep
  deriving DecidableEq

def chompingOf? : Char → Option Chomping
  | '+' => some .keep
  | '-' => some .strip
  | _ => none

/-- The number of an indentation, which is one digit. -/
def indentOf? (c : Char) : Option Nat := if isAsciiDigit c then some (c.toNat - 48) else none

/-- The chomping and the indentation, in any order, and what follows. -/
def readHeader : List Char → Chomping × Option Nat × List Char
  | a :: b :: cs =>
    match chompingOf? a, indentOf? a, chompingOf? b, indentOf? b with
    | some chomping, _, _, some n => (chomping, some n, cs)
    | some chomping, _, _, none => (chomping, none, b :: cs)
    | none, some n, some chomping, _ => (chomping, some n, cs)
    | none, some n, none, _ => (.clip, some n, b :: cs)
    | none, none, _, _ => (.clip, none, a :: b :: cs)
  | [a] =>
    match chompingOf? a, indentOf? a with
    | some chomping, _ => (chomping, none, [])
    | none, some n => (.clip, some n, [])
    | none, none => (.clip, none, [a])
  | [] => (.clip, none, [])

/-- Skips indentation and empty lines; gives the breaks in order, the greatest indentation, and
where a line starts that is not empty.  Without an indentation all blanks count as such. -/
def readBreaks (indent : Option Nat) :
    List Char → Nat → Place → List Char → Option (List Char × Nat × Cursor)
  | read, deepest, place, [] => some (read.reverse, max deepest place.column, ⟨[], place⟩)
  | read, deepest, place, c :: cs =>
    let within := indent.all (place.column < ·)
    if c == ' ' && within then readBreaks indent read deepest (place.next c) cs
    else if c == '\t' && within then none
    else if isBreak c then
      readBreaks indent (c :: read) (max deepest place.column) (place.next c) cs
    else some (read.reverse, max deepest place.column, ⟨c :: cs, place⟩)

/-- What has been read of a block: the text, the last line break, and the breaks behind it. -/
structure BlockText where
  /-- The pieces of the text, in reverse. -/
  read : List (List Char) := []
  last : List Char := []
  breaks : List Char := []
  /-- Whether the last line starts with a blank. -/
  blank : Bool := false

/-- The text between the last line and the next one: two plain lines are folded into one. -/
def BlockText.joint (b : BlockText) (literal blank : Bool) : List Char :=
  if !literal && b.last == ['\n'] && !b.blank && !blank then
    if b.breaks.isEmpty then [' '] else b.breaks
  else b.last ++ b.breaks

/-- Reads the lines of a block that are indented by so much. -/
def readLines (literal : Bool) (indent : Nat) : Nat → BlockText → Cursor →
    Option (BlockText × Cursor)
  | 0, b, cursor => some (b, cursor)
  | fuel + 1, b, cursor =>
    if cursor.place.column ≠ indent || cursor.rest.isEmpty then some (b, cursor)
    else
      let blank := cursor.rest.head?.any isBlank
      let line := cursor.rest.takeWhile (!isBreak ·)
      let behind := cursor.skip line.length
      let last := behind.rest.take 1
      let next := behind.skip 1
      match readBreaks (some indent) [] 0 next.place next.rest with
      | none => none
      | some (breaks, _, cursor) =>
        readLines literal indent fuel
          { read := line :: b.joint literal blank :: b.read, last, breaks, blank } cursor

/-- Reads a block from its mark on, in a block that is indented by so much. -/
def readBlock (literal : Bool) (parent : Int) (cursor : Cursor) : Option (String × Cursor) :=
  let (chomping, increment, rest) := readHeader (cursor.rest.drop 1)
  let header := (cursor.skip (cursor.rest.length - rest.length)).skipWhile isBlank
  let header := if header.rest.head? == some '#' then header.skipWhile (!isBreak ·) else header
  if increment == some 0 || !(header.rest.head?.all isBreak) then none
  else
    let start := header.skip 1
    let declared := increment.map fun n => (max parent 0).toNat + n
    match readBreaks declared [] 0 start.place start.rest with
    | none => none
    | some (breaks, deepest, cursor) =>
      let indent := declared.getD (max (max deepest (parent + 1).toNat) 1)
      match readLines literal indent (cursor.rest.length + 1) { breaks } cursor with
      | none => none
      | some (b, cursor) =>
        let tail :=
          match chomping with
          | .strip => []
          | .clip => b.last
          | .keep => b.last ++ b.breaks
        some (String.ofList (b.read.reverse.flatten ++ tail), cursor)

end ApiScaffold.Yaml
