import ApiScaffold.Pattern.Match
import ApiScaffold.Pattern.Property
import ApiScaffold.Number.Reader

/-!
# Reading patterns

Patterns are written with groups, alternatives, repetitions, sets in brackets, escapes and
flags.

* `Pattern.ofString?`: the pattern of a text; none if the text is no pattern, or if the
  pattern is too large when its repetitions are written out.
-/

namespace ApiScaffold.Pattern

open Text (isBlank isAsciiDigit)

/-- What is in force at a place of a pattern. -/
structure Flags where
  ignoreCase : Bool := false
  multiLine : Bool := false
  dotAll : Bool := false
  swapGreed : Bool := false
  unicode : Bool := true
  ignoreSpace : Bool := false
  returns : Bool := false

/-- Drops blanks and comments where the flags say so. -/
def skipRemarks (flags : Flags) (inRemark : Bool) : List Char → List Char
  | [] => []
  | c :: cs =>
    if !flags.ignoreSpace then c :: cs
    else if inRemark then skipRemarks flags (c != '\n') cs
    else if isBlank c then skipRemarks flags false cs
    else if c == '#' then skipRemarks flags true cs
    else c :: cs

/-- What comes next, behind blanks and comments. -/
def skip (flags : Flags) (cs : List Char) : List Char := skipRemarks flags false cs

/-! ## Escapes -/

/-- What an escape stands for. -/
inductive Escape
  | literal (c : Char)
  | byte (n : Nat)
  | set (s : CharSet)
  | look (condition : Look)

/-- The characters that have a meaning in patterns. -/
def isMeta (c : Char) : Bool := "\\.+*?()|[]\x7b\x7d^$#&-~".toList.contains c

/-- The characters that may stand behind a backslash for themselves. -/
def isEscapable (c : Char) : Bool :=
  isMeta c || (Text.isAscii c && !Text.isAsciiAlphanumeric c && c != '<' && c != '>')

def hexDigit? (c : Char) : Option Nat :=
  if isAsciiDigit c then some (c.toNat - 48)
  else if 'a' ≤ c && c ≤ 'f' then some (c.toNat - 87)
  else if 'A' ≤ c && c ≤ 'F' then some (c.toNat - 55)
  else none

/-- The number of hexadecimal digits. -/
def hexNumber? (cs : List Char) : Option Nat :=
  if cs.isEmpty then none
  else (cs.mapM hexDigit?).map fun ds => ds.foldl (fun n d => n * 16 + d) 0

/-- The character of a code point. -/
def charOf? (n : Nat) : Option Char := if n.isValidChar then some (Char.ofNat n) else none

/-- Reads the digits of a code point behind its letter. -/
def readHexCode (flags : Flags) (count : Nat) (cs : List Char) : Option (Nat × Bool × List Char) :=
  match skip flags cs with
  | '\x7b' :: rest =>
    match rest.dropWhile (· != '\x7d') with
    | [] => none
    | _ :: after =>
      let digits := (rest.takeWhile (· != '\x7d')).filter fun c => !(flags.ignoreSpace && isBlank c)
      if digits.length ≤ 8 then (hexNumber? digits).map fun n => (n, true, after) else none
  | rest =>
    if rest.length < count then none
    else (hexNumber? (rest.take count)).map fun n => (n, false, rest.drop count)

/-- The set of a property name in braces. -/
def bracedProperty? (name : List Char) : Option CharSet :=
  let text := String.ofList name
  let cut (i : Nat) (width : Nat) : Option CharSet :=
    propertyValue? (String.ofList (name.take i)) (String.ofList (name.drop (i + width)))
  let place (mark : List Char) : Option Nat :=
    (List.range name.length).find? fun i => mark.isPrefixOf (name.drop i)
  match place ['!', '='] with
  | some i => (cut i 2).map .compl
  | none =>
    match place [':'] with
    | some i => cut i 1
    | none =>
      match place ['='] with
      | some i => cut i 1
      | none => property? text

/-- Reads the name of a property behind its letter. -/
def readProperty (flags : Flags) (negated : Bool) (cs : List Char) :
    Option (CharSet × List Char) :=
  let finish (s : CharSet) : CharSet :=
    let s := if flags.ignoreCase then .anyCase s else s
    if negated then .compl s else s
  if !flags.unicode then none
  else
    match skip flags cs with
    | [] => none
    | '\x7b' :: rest =>
      match rest.dropWhile (· != '\x7d') with
      | [] => none
      | _ :: after =>
        (bracedProperty? (rest.takeWhile (· != '\x7d'))).map fun s => (finish s, after)
    | '\\' :: _ => none
    | c :: after =>
      match categorySet? (normalName (String.singleton c)) with
      | some s => some (finish s, after)
      | none => none

/-- The set of a class letter such as `d`. -/
def letterSet (flags : Flags) (unicodeSet asciiSet : CharSet) (negated : Bool) :
    Option CharSet :=
  let s := if flags.unicode then unicodeSet else asciiSet
  if !negated then some s else if flags.unicode then some (.compl s) else none

/-- Reads the name of a word boundary in braces, if one follows. -/
def readBoundary (flags : Flags) (cs : List Char) : Option (Escape × List Char) :=
  let plain : Option (Escape × List Char) := some (.look (.wordBoundary flags.unicode), cs)
  match cs with
  | '\x7b' :: rest =>
    let isNameChar (c : Char) : Bool := Text.isAsciiLetter c || c == '-'
    match skip flags rest with
    | [] => none
    | c :: more =>
      if !isNameChar c then plain
      else
        let name := (c :: more).takeWhile isNameChar
        match (c :: more).dropWhile isNameChar with
        | '\x7d' :: after =>
          match String.ofList name with
          | "start" => some (.look (.wordStart flags.unicode), after)
          | "end" => some (.look (.wordEnd flags.unicode), after)
          | "start-half" => some (.look (.wordStartHalf flags.unicode), after)
          | "end-half" => some (.look (.wordEndHalf flags.unicode), after)
          | _ => none
        | _ => none
  | _ => plain

/-- Reads an escape behind its backslash. -/
def readEscape (flags : Flags) : List Char → Option (Escape × List Char)
  | [] => none
  | c :: cs =>
    let hex (count : Nat) : Option (Escape × List Char) := do
      let (n, braced, rest) ← readHexCode flags count cs
      if !flags.unicode && !braced && count == 2 && 0x7F < n then none
      else (charOf? n).map fun ch => (.literal ch, rest)
    let letter (u a : CharSet) (negated : Bool) : Option (Escape × List Char) :=
      (letterSet flags u a negated).map fun s => (.set s, cs)
    let literal (ch : Char) : Option (Escape × List Char) := some (.literal ch, cs)
    match c with
    | 'x' => hex 2
    | 'u' => hex 4
    | 'U' => hex 8
    | 'p' => (readProperty flags false cs).map fun (s, rest) => (.set s, rest)
    | 'P' => (readProperty flags true cs).map fun (s, rest) => (.set s, rest)
    | 'd' => letter (.categories [.decimalNumber]) .asciiDigit false
    | 'D' => letter (.categories [.decimalNumber]) .asciiDigit true
    | 's' => letter .blank .asciiBlank false
    | 'S' => letter .blank .asciiBlank true
    | 'w' => letter .word .asciiWord false
    | 'W' => letter .word .asciiWord true
    | 'a' => literal '\x07'
    | 'f' => literal '\x0c'
    | 't' => literal '\t'
    | 'n' => literal '\n'
    | 'r' => literal '\r'
    | 'v' => literal '\x0b'
    | 'A' => some (.look .startText, cs)
    | 'z' => some (.look .endText, cs)
    | 'b' => readBoundary flags cs
    | 'B' => some (.look (.notWordBoundary flags.unicode), cs)
    | '<' => some (.look (.wordStart flags.unicode), cs)
    | '>' => some (.look (.wordEnd flags.unicode), cs)
    | c => if isEscapable c then literal c else none

/-! ## Sets in brackets -/

/-- The operations between sets in brackets. -/
inductive SetOp
  | inter
  | diff
  | symmDiff

/-- What has been read of a set in brackets: an operation that waits for its second set, and
the union that is being read. -/
structure OpenSet where
  pending : Option (SetOp × CharSet) := none
  union : CharSet := .empty

namespace OpenSet

def add (o : OpenSet) (s : CharSet) : OpenSet :=
  { o with union := if o.union = .empty then s else .union o.union s }

/-- The set that has been read. -/
def close (flags : Flags) (o : OpenSet) : CharSet :=
  let fold (s : CharSet) : CharSet := if flags.ignoreCase then .anyCase s else s
  match o.pending with
  | none => o.union
  | some (.inter, s) => .inter (fold s) (fold o.union)
  | some (.diff, s) => .diff (fold s) (fold o.union)
  | some (.symmDiff, s) => .symmDiff (fold s) (fold o.union)

/-- An operation behind what has been read. -/
def operate (flags : Flags) (op : SetOp) (o : OpenSet) : OpenSet :=
  { pending := some (op, o.close flags), union := .empty }

end OpenSet

/-- Reads a named set between colons. -/
def readAsciiClass (flags : Flags) : List Char → Option (CharSet × List Char)
  | ':' :: cs =>
    let (negated, cs) :=
      match cs with
      | '^' :: rest => (true, rest)
      | _ => (false, cs)
    match cs.dropWhile (· != ':') with
    | ':' :: ']' :: after =>
      match asciiClass? (String.ofList (cs.takeWhile (· != ':'))) with
      | some s =>
        if !negated then some (s, after)
        else if flags.unicode then some (.compl s, after)
        else some (.diff (.range 0 0x7F) s, after)
      | none => none
    | _ => none
  | _ => none

/-- Whether a set can hold what has been read: sets of bytes hold ASCII characters alone. -/
def Escape.fitsSet (flags : Flags) : Escape → Bool
  | .literal c => flags.unicode || Text.isAscii c
  | _ => true

/-- Reads one item of a set: a character or an escape. -/
def readSetItem (flags : Flags) (cs : List Char) : Option (Escape × List Char) :=
  let item : Option (Escape × List Char) :=
    match cs with
    | [] => none
    | '\\' :: cs => readEscape flags cs
    | c :: cs => some (.literal c, cs)
  item.filter fun item => item.1.fitsSet flags

/-- Reads a character, a range or an escape of a set. -/
def readSetRange (flags : Flags) (cs : List Char) : Option (CharSet × List Char) := do
  let (first, rest) ← readSetItem flags cs
  let rest := skip flags rest
  let alone : Option (CharSet × List Char) :=
    match first with
    | .literal c => some (.single c, rest)
    | .set s => some (s, rest)
    | _ => none
  match rest with
  | [] => none
  | '-' :: more =>
    match skip flags more with
    | [] => none
    | ']' :: _ => alone
    | '-' :: _ => alone
    | more =>
      let (second, rest) ← readSetItem flags more
      match first, second with
      | .literal a, .literal b => if a ≤ b then some (.between a b, rest) else none
      | _, _ => none
  | _ => alone

/-- Reads the hyphens at the beginning of a set, and a closing bracket that comes first. -/
def readSetStart (flags : Flags) (any : Bool) : Nat → List Char → OpenSet → OpenSet × List Char
  | 0, cs, o => (o, cs)
  | fuel + 1, cs, o =>
    match cs with
    | '-' :: rest => readSetStart flags true fuel (skip flags rest) (o.add (.single '-'))
    | ']' :: rest => if any then (o, cs) else (o.add (.single ']'), skip flags rest)
    | _ => (o, cs)

mutual

/-- Reads a set behind its opening bracket. -/
def readSet (flags : Flags) : Nat → List Char → Option (CharSet × List Char)
  | 0, _ => none
  | fuel + 1, cs =>
    let cs := skip flags cs
    let (negated, cs) :=
      match cs with
      | '^' :: rest => (true, skip flags rest)
      | _ => (false, cs)
    let (start, cs) := readSetStart flags false (cs.length + 1) cs {}
    match readSetItems flags fuel start cs with
    | none => none
    | some (s, rest) =>
      let s := if flags.ignoreCase then .anyCase s else s
      if !negated then some (s, rest)
      else if flags.unicode then some (.compl s, rest)
      else none

/-- Reads the items of a set up to its closing bracket. -/
def readSetItems (flags : Flags) : Nat → OpenSet → List Char → Option (CharSet × List Char)
  | 0, _, _ => none
  | fuel + 1, o, cs =>
    match skip flags cs with
    | [] => none
    | '[' :: rest =>
      match readAsciiClass flags rest with
      | some (s, rest) => readSetItems flags fuel (o.add s) rest
      | none =>
        match readSet flags fuel rest with
        | some (s, rest) => readSetItems flags fuel (o.add s) rest
        | none => none
    | ']' :: rest => some (o.close flags, rest)
    | '&' :: '&' :: rest => readSetItems flags fuel (o.operate flags .inter) rest
    | '-' :: '-' :: rest => readSetItems flags fuel (o.operate flags .diff) rest
    | '~' :: '~' :: rest => readSetItems flags fuel (o.operate flags .symmDiff) rest
    | cs =>
      match readSetRange flags cs with
      | some (s, rest) => readSetItems flags fuel (o.add s) rest
      | none => none

end

/-! ## Repetitions, groups and flags -/

/-- Reads a decimal number with blanks around it. -/
def readCount (cs : List Char) : Option (Nat × List Char) :=
  let cs := cs.dropWhile isBlank
  let digits := cs.takeWhile isAsciiDigit
  let n := Number.natOfDigits digits
  if digits.isEmpty || 4294967295 < n then none
  else some (n, (cs.dropWhile isAsciiDigit).dropWhile isBlank)

/-- Reads the bounds of a repetition behind the opening brace. -/
def readBounds (flags : Flags) (cs : List Char) : Option (Nat × Option Nat × List Char) := do
  let (least, rest) ← readCount (skip flags cs)
  match rest with
  | '\x7d' :: after => some (least, some least, after)
  | ',' :: more =>
    match skip flags more with
    | '\x7d' :: after => some (least, none, after)
    | more =>
      let (most, rest) ← readCount more
      match rest with
      | '\x7d' :: after => if least ≤ most then some (least, some most, after) else none
      | _ => none
  | _ => none

/-- Drops a mark that makes a repetition reluctant, which says nothing about whether a pattern
occurs. -/
def dropReluctant (flags : Flags) (cs : List Char) : List Char :=
  match skip flags cs with
  | '?' :: rest => rest
  | _ => cs

/-- Reads the repetitions behind a pattern. -/
def readRepetitions (flags : Flags) : Nat → Pattern → List Char → Option (Pattern × List Char)
  | 0, p, cs => some (p, cs)
  | fuel + 1, p, cs =>
    match skip flags cs with
    | '*' :: rest => readRepetitions flags fuel (rep p 0 none) (dropReluctant flags rest)
    | '+' :: rest => readRepetitions flags fuel (rep p 1 none) (dropReluctant flags rest)
    | '?' :: rest => readRepetitions flags fuel (rep p 0 (some 1)) (dropReluctant flags rest)
    | '\x7b' :: rest =>
      match readBounds flags rest with
      | some (least, most, rest) =>
        readRepetitions flags fuel (rep p least most) (dropReluctant flags rest)
      | none => none
    | cs => some (p, cs)

/-- Sets one flag. -/
def Flags.set (flags : Flags) (value : Bool) : Char → Option Flags
  | 'i' => some { flags with ignoreCase := value }
  | 'm' => some { flags with multiLine := value }
  | 's' => some { flags with dotAll := value }
  | 'U' => some { flags with swapGreed := value }
  | 'u' => some { flags with unicode := value }
  | 'x' => some { flags with ignoreSpace := value }
  | 'R' => some { flags with returns := value }
  | _ => none

/-- Reads flags up to a colon or a closing parenthesis: the flags, that mark, and what follows.
A flag occurs once, and so does the hyphen, which is not the last item. -/
def readFlags (flags : Flags) (value : Bool) (seen : List Char) :
    List Char → Option (Flags × Char × Bool × List Char)
  | [] => none
  | ':' :: rest => if seen.head? = some '-' then none else some (flags, ':', seen.isEmpty, rest)
  | ')' :: rest => if seen.head? = some '-' then none else some (flags, ')', seen.isEmpty, rest)
  | '-' :: rest => if value then readFlags flags false ('-' :: seen) rest else none
  | c :: rest =>
    if seen.contains c then none
    else
      match flags.set value c with
      | some flags => readFlags flags value (c :: seen) rest
      | none => none

/-- Whether a character can stand in the name of a group. -/
def isGroupNameChar (first : Bool) (c : Char) : Bool :=
  c == '_' || (if first then Text.isAlphabetic c else
    c == '.' || c == '[' || c == ']' || Text.isAlphanumeric c)

/-- Reads the name of a group up to its closing angle bracket. -/
def readGroupName (cs : List Char) : Option (String × List Char) :=
  match cs.takeWhile (· != '>'), cs.dropWhile (· != '>') with
  | c :: name, _ :: after =>
    if isGroupNameChar true c && name.all (isGroupNameChar false) then
      some (String.ofList (c :: name), after)
    else none
  | _, _ => none

/-- Any character that a dot stands for. -/
def dotSet (flags : Flags) : Option CharSet :=
  if !flags.unicode then none
  else if flags.dotAll then some .full
  else if flags.returns then some (.compl (.union (.single '\n') (.single '\r')))
  else some (.compl (.single '\n'))

/-- The pattern of a single character. -/
def literalPattern (flags : Flags) (c : Char) : Pattern :=
  chars (if flags.ignoreCase then .anyCase (.single c) else .single c)

/-- The names of the groups so far, the pattern, the flags behind it, and what follows. -/
abbrev Parsed := Pattern × Flags × List String × List Char

/-- How deep groups may be nested. -/
def maxDepth : Nat := 250

mutual

/-- Reads alternatives up to a closing parenthesis or the end. -/
def readAlternatives : Nat → Nat → Flags → List String → List Char → Option Parsed
  | 0, _, _, _, _ => none
  | fuel + 1, depth, flags, names, cs =>
    match readBranch fuel depth flags names [] cs with
    | none => none
    | some (p, flags, names, '|' :: rest) =>
      match readAlternatives fuel depth flags names rest with
      | none => none
      | some (q, flags, names, rest) => some (alt p q, flags, names, rest)
    | some parsed => some parsed

/-- Reads a sequence up to a bar, a closing parenthesis or the end; `read` holds its parts in
reverse. -/
def readBranch : Nat → Nat → Flags → List String → List Pattern → List Char → Option Parsed
  | 0, _, _, _, _, _ => none
  | fuel + 1, depth, flags, names, read, cs =>
    let continueWith (p : Pattern) (names : List String) (rest : List Char) : Option Parsed :=
      match readRepetitions flags (rest.length + 1) p rest with
      | some (p, rest) => readBranch fuel depth flags names (p :: read) rest
      | none => none
    let finish (rest : List Char) : Option Parsed :=
      some (seqAll read.reverse, flags, names, rest)
    match skip flags cs with
    | [] => finish []
    | '|' :: rest => finish ('|' :: rest)
    | ')' :: rest => finish (')' :: rest)
    | '(' :: rest =>
      if depth = 0 then none
      else
        let group (inner : Flags) (names : List String) (cs : List Char) : Option Parsed :=
          match readAlternatives fuel (depth - 1) inner names cs with
          | some (p, _, names, ')' :: rest) => continueWith p names rest
          | _ => none
        match skip flags rest with
        | '?' :: 'P' :: '<' :: more =>
          match readGroupName more with
          | some (name, after) =>
            if names.contains name then none else group flags (name :: names) after
          | none => none
        | '?' :: '<' :: more =>
          match readGroupName more with
          | some (name, after) =>
            if names.contains name then none else group flags (name :: names) after
          | none => none
        | '?' :: more =>
          match readFlags flags true [] more with
          | some (inner, ':', _, after) => group inner names after
          | some (inner, _, isEmpty, after) =>
            if isEmpty then none
            else
              match skip inner after with
              | '*' :: _ => none
              | '+' :: _ => none
              | '?' :: _ => none
              | '\x7b' :: _ => none
              | after => readBranch fuel depth inner names read after
          | none => none
        | rest => group flags names rest
    | '[' :: rest =>
      match readSet flags fuel rest with
      | some (s, rest) => continueWith (chars s) names rest
      | none => none
    | '*' :: _ => none
    | '+' :: _ => none
    | '?' :: _ => none
    | '\x7b' :: _ => none
    | '.' :: rest =>
      match dotSet flags with
      | some s => continueWith (chars s) names rest
      | none => none
    | '^' :: rest =>
      let condition : Look :=
        if !flags.multiLine then .startText
        else if flags.returns then .startLineReturn else .startLine
      continueWith (look condition) names rest
    | '$' :: rest =>
      let condition : Look :=
        if !flags.multiLine then .endText
        else if flags.returns then .endLineReturn else .endLine
      continueWith (look condition) names rest
    | '\\' :: rest =>
      match readEscape flags rest with
      | some (.literal c, rest) => continueWith (literalPattern flags c) names rest
      | some (.set s, rest) => continueWith (chars s) names rest
      | some (.look condition, rest) => continueWith (look condition) names rest
      | _ => none
    | c :: rest => continueWith (literalPattern flags c) names rest

end

/-- The pattern of a text. -/
def ofString? (s : String) : Option Pattern :=
  let cs := s.toList
  match readAlternatives (2 * cs.length + 4) maxDepth {} [] cs with
  | some (p, _, _, []) => if p.weight ≤ maxWeight then some p else none
  | _ => none

end ApiScaffold.Pattern
