import ApiScaffold.Yaml.Scalar

/-!
# Tokens of YAML texts

A text is cut into tokens.  Blocks are told by indentation, so their start and their end become
tokens as well; a key is only known as one when the colon behind it is found, and its token is
then put in front of it.

* `Token`: the tokens.
* `tokens?`: the tokens of a text.
-/

namespace ApiScaffold.Yaml

open Text

/-- The tokens of a text. -/
inductive Token
  | documentStart
  | documentEnd
  | version (major minor : Nat)
  | tagHandle (handle stem : String)
  | sequenceStart
  | mappingStart
  | blockEnd
  | bracketStart
  | bracketEnd
  | braceStart
  | braceEnd
  | entry
  | comma
  | key
  | value
  | alias (name : String)
  | anchor (name : String)
  | tag (handle suffix : String)
  | scalar (plain : Bool) (text : String)
  deriving DecidableEq, Repr

/-- A place where a key may start whose colon has not been found yet. -/
structure KeyStart where
  /-- Whether the text is not understood unless a key starts here. -/
  required : Bool
  /-- How many tokens stand in front. -/
  number : Nat
  place : Place

/-- How far a text has been cut. -/
structure Cutter where
  cursor : Cursor
  /-- The tokens so far, last first. -/
  tokens : List Token := []
  count : Nat := 0
  /-- The indentation of the innermost block, and those of the blocks around it. -/
  indent : Int := -1
  indents : List Int := []
  /-- Whether a key may start here. -/
  keyAllowed : Bool := true
  /-- Where a key may have started: between the innermost brackets, and around them. -/
  keys : List (Option KeyStart) := [none]

namespace Cutter

/-- Whether the text is between brackets. -/
def isFlow (s : Cutter) : Bool := 1 < s.keys.length

def column (s : Cutter) : Nat := s.cursor.place.column

/-- Adds a token. -/
def push (t : Token) (s : Cutter) : Cutter :=
  { s with tokens := t :: s.tokens, count := s.count + 1 }

/-- Adds a token behind the first so many. -/
def pushAt (number : Nat) (t : Token) (s : Cutter) : Cutter :=
  let later := s.count - number
  { s with tokens := s.tokens.take later ++ t :: s.tokens.drop later, count := s.count + 1 }

/-- Moves on. -/
def skip (n : Nat) (s : Cutter) : Cutter := { s with cursor := s.cursor.skip n }

def allowKey (allowed : Bool) (s : Cutter) : Cutter := { s with keyAllowed := allowed }

/-- Opens a block if the text is indented more than the innermost one. -/
def openBlock (column : Nat) (number : Nat) (t : Token) (s : Cutter) : Cutter :=
  if !s.isFlow && s.indent < column then
    pushAt number t { s with indents := s.indent :: s.indents, indent := column }
  else s

/-- Closes the blocks that are indented more than so much. -/
def closeBlocks (column : Int) (s : Cutter) : Cutter :=
  if s.isFlow then s else closeFrom s.indents s
where
  closeFrom : List Int → Cutter → Cutter
    | [], s => s
    | outer :: rest, s =>
      if column < s.indent then
        closeFrom rest (push .blockEnd { s with indent := outer, indents := rest })
      else s

/-- Forgets where a key may have started, unless one must have. -/
def forgetKey (s : Cutter) : Option Cutter :=
  match s.keys with
  | some k :: rest => if k.required then none else some { s with keys := none :: rest }
  | _ => some s

/-- Notes that a key may start here. -/
def noteKey (s : Cutter) : Option Cutter :=
  if s.keyAllowed then do
    let required := !s.isFlow && s.indent == s.column
    let s ← s.forgetKey
    some { s with keys := some ⟨required, s.count, s.cursor.place⟩ :: s.keys.drop 1 }
  else some s

/-- The longest key. -/
def longestKey : Nat := 1024

/-- Forgets all places on earlier lines or too far away, unless a key must start there. -/
def forgetStale (s : Cutter) : Option Cutter := do
  let here := s.cursor.place
  let keys ← s.keys.mapM fun key =>
    match key with
    | some k =>
      if k.place.line < here.line || k.place.index + longestKey < here.index then
        if k.required then none else some none
      else some (some k)
    | none => some none
  some { s with keys }

/-- Skips blanks, comments and line breaks in front of a token. -/
def skipBlanks (flow : Bool) : Bool → Bool → Place → List Char → Bool × Cursor
  | allowed, _, place, [] => (allowed, ⟨[], place⟩)
  | allowed, comment, place, c :: cs =>
    if isBreak c then skipBlanks flow (allowed || !flow) false (place.next c) cs
    else if comment || c == '#' then skipBlanks flow allowed true (place.next c) cs
    else if c == ' ' || (c == '\t' && (flow || !allowed)) then
      skipBlanks flow allowed false (place.next c) cs
    else (allowed, ⟨c :: cs, place⟩)

/-- Moves to the next token. -/
def toToken (s : Cutter) : Cutter :=
  let (keyAllowed, cursor) :=
    skipBlanks s.isFlow s.keyAllowed false s.cursor.place s.cursor.rest
  { s with keyAllowed, cursor }

/-! ## The tokens -/

/-- A character of names. -/
def isNameChar (c : Char) : Bool := isAsciiAlphanumeric c || c == '_' || c == '-'

/-- The characters of tags; some only between angle brackets. -/
def isTagChar (bracketed : Bool) (c : Char) : Bool :=
  isNameChar c || ";/?:@&=+$.!~*'()%".toList.contains c
    || (bracketed && ",[]".toList.contains c)

/-- The text of a tag, with its escapes resolved; none if they are not understood. -/
def tagText? (cs : List Char) : Option String :=
  let rec escapesValid : List Char → Bool
    | '%' :: a :: b :: rest =>
      isAscii a && isAscii b && (Web.hexByte? a.toNat.toUInt8 b.toNat.toUInt8).isSome
        && escapesValid rest
    | '%' :: _ => false
    | _ :: rest => escapesValid rest
    | [] => true
  if escapesValid cs then decode? (Web.percentDecode (utf8 (String.ofList cs))) else none

/-- Reads a mark of a document. -/
def documentMark (t : Token) (s : Cutter) : Option Cutter := do
  let s ← (s.closeBlocks (-1)).forgetKey
  some (((s.allowKey false).skip 3).push t)

/-- Reads a number of a version. -/
def versionNumber? (cs : List Char) : Option (Nat × List Char) :=
  let digits := cs.takeWhile isAsciiDigit
  if digits.isEmpty || 9 < digits.length then none
  else some (digits.foldl (fun n c => n * 10 + (c.toNat - 48)) 0, cs.drop digits.length)

/-- A handle of tags: nothing but marks, or a name between two of them. -/
def handle? (cs : List Char) : Option (String × List Char) :=
  match cs with
  | '!' :: rest =>
    let name := rest.takeWhile isNameChar
    match rest.drop name.length with
    | '!' :: rest => some (String.ofList ('!' :: name ++ ['!']), rest)
    | rest => if name.isEmpty then some ("!", rest) else none
  | _ => none

/-- The token of a directive, from its name on. -/
def directive? (name : String) (cs : List Char) : Option (Token × List Char) :=
  let cs := cs.dropWhile isBlank
  match name with
  | "YAML" => do
    let (major, rest) ← versionNumber? cs
    match rest with
    | '.' :: rest => do
      let (minor, rest) ← versionNumber? rest
      some (.version major minor, rest)
    | _ => none
  | "TAG" => do
    let (handle, rest) ← handle? cs
    let stem := (rest.dropWhile isBlank).takeWhile (isTagChar true)
    let rest' := (rest.dropWhile isBlank).drop stem.length
    if !rest.head?.any isBlank || stem.isEmpty || !atBlank rest' then none
    else do
      let stem ← tagText? stem
      some (.tagHandle handle stem, rest')
  | _ => none

/-- Reads a directive, which takes up its line. -/
def directive (s : Cutter) : Option Cutter := do
  let s ← (s.closeBlocks (-1)).forgetKey
  let line := s.cursor.rest.takeWhile (!isBreak ·)
  let name := (line.drop 1).takeWhile isNameChar
  let behind := (line.drop 1).drop name.length
  if name.isEmpty || !atBlank behind then none
  else do
    let (t, rest) ← directive? (String.ofList name) behind
    let rest := rest.dropWhile isBlank
    if rest.isEmpty || rest.head? == some '#' then
      some (((s.allowKey false).skip line.length).push t)
    else none

/-- Reads an opening bracket or brace. -/
def openFlow (t : Token) (s : Cutter) : Option Cutter := do
  let s ← s.noteKey
  some (push t (skip 1 { s with keys := none :: s.keys, keyAllowed := true }))

/-- Reads a closing bracket or brace. -/
def closeFlow (t : Token) (s : Cutter) : Option Cutter := do
  let s ← s.forgetKey
  let keys := if s.isFlow then s.keys.drop 1 else s.keys
  some (push t (skip 1 { s with keys, keyAllowed := false }))

/-- Reads a comma. -/
def comma (s : Cutter) : Option Cutter := do
  let s ← s.forgetKey
  some (((s.allowKey true).skip 1).push .comma)

/-- Reads the mark of an item. -/
def entry (s : Cutter) : Option Cutter :=
  if !s.isFlow && !s.keyAllowed then none
  else do
    let s ← (s.openBlock s.column s.count .sequenceStart).forgetKey
    some (((s.allowKey true).skip 1).push .entry)

/-- Reads the mark of a key. -/
def key (s : Cutter) : Option Cutter :=
  if !s.isFlow && !s.keyAllowed then none
  else do
    let s ← (s.openBlock s.column s.count .mappingStart).forgetKey
    some (((s.allowKey !s.isFlow).skip 1).push .key)

/-- Reads the mark of a value, behind a key whose start was noted or behind a marked one. -/
def value (s : Cutter) : Option Cutter :=
  match s.keys with
  | some k :: rest =>
    let s := s.pushAt k.number .key
    let s := s.openBlock k.place.column k.number .mappingStart
    some (push .value (skip 1 { s with keys := none :: rest, keyAllowed := false }))
  | _ =>
    if !s.isFlow && !s.keyAllowed then none
    else
      let s := s.openBlock s.column s.count .mappingStart
      some (((s.allowKey !s.isFlow).skip 1).push .value)

/-- Reads the name of an anchor or an alias behind its mark. -/
def name (token : String → Token) (s : Cutter) : Option Cutter := do
  let s ← s.noteKey
  let name := (s.cursor.rest.drop 1).takeWhile isNameChar
  let rest := s.cursor.rest.drop (1 + name.length)
  if name.isEmpty || !(atBlank rest || rest.head?.any ("?:,]\x7d%@`".toList.contains ·)) then none
  else some (((s.allowKey false).skip (1 + name.length)).push (token (String.ofList name)))

/-- The tag at the front of a text, and what follows. -/
def tag? (cs : List Char) : Option (Token × List Char) :=
  match cs with
  | '!' :: '<' :: rest => do
    let uri := rest.takeWhile (isTagChar true)
    let suffix ← tagText? uri
    match rest.drop uri.length with
    | '>' :: rest => if uri.isEmpty then none else some (.tag "" suffix, rest)
    | _ => none
  | '!' :: rest =>
    let name := rest.takeWhile isNameChar
    match rest.drop name.length with
    | '!' :: behind => do
      let uri := behind.takeWhile (isTagChar false)
      let suffix ← tagText? uri
      if uri.isEmpty then none
      else some (.tag (String.ofList ('!' :: name ++ ['!'])) suffix, behind.drop uri.length)
    | _ => do
      let uri := rest.takeWhile (isTagChar false)
      let suffix ← tagText? uri
      let t := if uri.isEmpty then Token.tag "" "!" else .tag "!" suffix
      some (t, rest.drop uri.length)
  | _ => none

/-- Reads a tag. -/
def tag (s : Cutter) : Option Cutter := do
  let s ← s.noteKey
  let (t, rest) ← tag? s.cursor.rest
  if atBlank rest || (s.isFlow && rest.head? == some ',') then
    some (((s.allowKey false).skip (s.cursor.rest.length - rest.length)).push t)
  else none

/-- Reads a block. -/
def block (literal : Bool) (s : Cutter) : Option Cutter := do
  let s ← s.forgetKey
  let (text, cursor) ← readBlock literal s.indent s.cursor
  some (push (.scalar false text) { s with cursor, keyAllowed := true })

/-- Reads a quoted scalar. -/
def quoted (double : Bool) (s : Cutter) : Option Cutter := do
  let s ← s.noteKey
  let (text, cursor) ← readQuoted double s.cursor
  some (push (.scalar false text) { s with cursor, keyAllowed := false })

/-- Reads a plain scalar. -/
def plain (s : Cutter) : Option Cutter := do
  let s ← s.noteKey
  let (text, later, cursor) ← readPlain s.isFlow (s.indent + 1).toNat s.cursor
  some (push (.scalar true text) { s with cursor, keyAllowed := later })

/-- Whether a plain scalar can start in front of a text. -/
def startsPlain (flow : Bool) : List Char → Bool
  | [] => false
  | c :: cs =>
    !"-?:,[]\x7b\x7d#&*!|>'\"%@`".toList.contains c
      || (c == '-' && !cs.head?.any isBlank)
      || (!flow && (c == '?' || c == ':') && !atBlank cs)

/-- Reads the token at the front of a nonempty text. -/
def next (s : Cutter) : Option Cutter :=
  let rest := s.cursor.rest
  let marked := s.isFlow || atBlank (rest.drop 1)
  match rest with
  | [] => some s
  | c :: cs =>
    if s.column = 0 && c == '%' then s.directive
    else if s.column = 0 && atMarker rest then
      s.documentMark (if c == '-' then .documentStart else .documentEnd)
    else if c == '[' then s.openFlow .bracketStart
    else if c == '\x7b' then s.openFlow .braceStart
    else if c == ']' then s.closeFlow .bracketEnd
    else if c == '\x7d' then s.closeFlow .braceEnd
    else if c == ',' then s.comma
    else if c == '-' && atBlank cs then s.entry
    else if c == '?' && marked then s.key
    else if c == ':' && marked then s.value
    else if c == '*' then s.name .alias
    else if c == '&' then s.name .anchor
    else if c == '!' then s.tag
    else if c == '|' && !s.isFlow then s.block true
    else if c == '>' && !s.isFlow then s.block false
    else if c == '\'' then s.quoted false
    else if c == '"' then s.quoted true
    else if startsPlain s.isFlow rest then s.plain
    else none

/-- Cuts the rest of a text. -/
def run : Nat → Cutter → Option Cutter
  | 0, s => some s
  | fuel + 1, s => do
    let s ← s.toToken.forgetStale
    let s := s.closeBlocks s.column
    if s.cursor.rest.isEmpty then (s.closeBlocks (-1)).forgetKey
    else do
      let s ← s.next
      run fuel s

end Cutter

/-- Whether a character may stand in a text. -/
def isAllowed (c : Char) : Bool :=
  let n := c.toNat
  n == 9 || n == 10 || n == 13 || (0x20 ≤ n && n ≤ 0x7E) || n == 0x85
    || (0xA0 ≤ n && n ≤ 0xFFFD) || 0x10000 ≤ n

/-- The tokens of a text, if it can be cut. -/
def tokens? (text : String) : Option (List Token) :=
  let cs := text.toList
  if !cs.all isAllowed then none
  else
    let cursor : Cursor :=
      match normalBreaks cs with
      | '\uFEFF' :: rest => ⟨rest, ⟨0, 1, 1⟩⟩
      | rest => ⟨rest, {}⟩
    (Cutter.run (cs.length + 2) { cursor }).map (·.tokens.reverse)

end ApiScaffold.Yaml
