import ApiScaffold.Toml.Scalar

/-!
# Reading TOML texts

A text is a sequence of lines: headers, which open tables, and keys with values, which belong to
the table that was opened last.

* `readToml`: the members of the table that a text builds.
-/

namespace ApiScaffold.Toml

open Text (isAsciiAlphanumeric)

/-- What follows the blanks in front. -/
def skipBlanks (cs : List Char) : List Char := cs.dropWhile isBlank

/-- What follows the blanks, line ends and comments in front. -/
def skipGap (inComment : Bool) : List Char → Option (List Char)
  | [] => some []
  | c :: cs =>
    if inComment then
      if c == '\n' then skipGap false cs else if isPlain c then skipGap true cs else none
    else if isBlank c || c == '\n' then skipGap false cs
    else if c == '#' then skipGap true cs
    else some (c :: cs)

/-- What follows the end of a line in which only blanks and a comment are left. -/
def skipLine (inComment : Bool) : List Char → Option (List Char)
  | [] => some []
  | c :: cs =>
    if c == '\n' then some cs
    else if inComment then if isPlain c then skipLine true cs else none
    else if isBlank c then skipLine false cs
    else if c == '#' then skipLine true cs
    else none

/-- The characters of a key without quotes. -/
def isKeyChar (c : Char) : Bool := isAsciiAlphanumeric c || c == '-' || c == '_'

/-- One part of a key. -/
def readKeyPart (cs : List Char) : Option (String × List Char) :=
  match cs.takeWhile isKeyChar with
  | [] => readLineString cs
  | part => some (String.ofList part, cs.dropWhile isKeyChar)

/-- A key: parts with dots between them, blanks around each. -/
def readKey (cs : List Char) : Option (List String × List Char) := do
  let (part, rest) ← readKeyPart (skipBlanks cs)
  match skipBlanks rest with
  | '.' :: more =>
    if more.length < cs.length then
      let (parts, rest) ← readKey more
      return (part :: parts, rest)
    else none
  | rest => return ([part], rest)
termination_by cs.length

/-- The items of an array, behind the opening bracket. -/
def readItems (value : List Char → Option (Value × List Char)) (cs : List Char) :
    Option (List Value × List Char) := do
  match ← skipGap false cs with
  | ']' :: rest => return ([], rest)
  | start =>
    let (v, rest) ← value start
    match ← skipGap false rest with
    | ']' :: rest => return ([v], rest)
    | ',' :: more =>
      if more.length < cs.length then
        let (vs, rest) ← readItems value more
        return (v :: vs, rest)
      else none
    | _ => none
termination_by cs.length

/-- A key, the sign behind it, and its value: the tables on the way, the last part of the key,
the value, and what follows. -/
def readMember (value : List Char → Option (Value × List Char)) (cs : List Char) :
    Option (List String × String × Value × List Char) := do
  let (parts, rest) ← readKey cs
  let (v, rest) ← value (skipBlanks (← behind? '=' rest))
  return (parts.dropLast, ← parts.getLast?, v, rest)

/-- The members of a table between braces, of which there is at least one more. -/
def readMembers (value : List Char → Option (Value × List Char)) (members : Members)
    (cs : List Char) : Option (Members × List Char) := do
  let (path, key, v, rest) ← readMember value cs
  let members ← putDotted path key v members
  match skipBlanks rest with
  | '\x7d' :: rest => return (members, rest)
  | ',' :: more => if more.length < cs.length then readMembers value members more else none
  | _ => none
termination_by cs.length

/-- A value in which collections are nested at most so deep. -/
def readValue (depth : Nat) (cs : List Char) : Option (Value × List Char) :=
  match depth, cs with
  | _, '"' :: _ => (readString cs).map fun (text, rest) => (.string text, rest)
  | _, '\'' :: _ => (readString cs).map fun (text, rest) => (.string text, rest)
  | 0, '[' :: _ => none
  | n + 1, '[' :: rest =>
    (readItems (readValue n) rest).map fun (items, rest) => (.array items, rest)
  | 0, '\x7b' :: _ => none
  | n + 1, '\x7b' :: rest =>
    match skipBlanks rest with
    | '\x7d' :: rest => some (.table .braces [], rest)
    | rest =>
      (readMembers (readValue n) [] rest).map fun (members, rest) => (.table .braces members, rest)
  | _, _ => readScalar cs

/-- How deep collections may be nested. -/
def deepest : Nat := 79

/-- The table that a text has built so far, and the path of the table that was opened last. -/
structure Building where
  root : Members := []
  path : List String := []

/-- A header: what it does to its table, the name of the table, and what follows. -/
def readHeader (cs : List Char) :
    Option ((String → Members → Option Members) × List String × List Char) := do
  match cs with
  | '[' :: '[' :: rest =>
    let (parts, rest) ← readKey rest
    return (openListed, parts, ← behind? ']' (← behind? ']' rest))
  | '[' :: rest =>
    let (parts, rest) ← readKey rest
    return (openTable, parts, ← behind? ']' rest)
  | _ => none

/-- A line that is not empty, and what follows it. -/
def Building.readEntry (b : Building) (cs : List Char) : Option (Building × List Char) := do
  if cs.head? == some '[' then
    let (opening, path, rest) ← readHeader cs
    return ({ root := ← changeAt path.dropLast (opening (← path.getLast?)) b.root, path }, rest)
  else
    let (path, key, v, rest) ← readMember (readValue deepest) cs
    return ({ b with root := ← changeAt b.path (putDotted path key v) b.root }, rest)

/-- Reads the lines of a text. -/
def Building.readLines (b : Building) (cs : List Char) : Option Members := do
  let start := skipBlanks cs
  match start with
  | [] => return b.root
  | c :: _ =>
    let (b, rest) ← if c == '\n' || c == '#' then some (b, start) else b.readEntry start
    let next ← skipLine false rest
    if next.length < cs.length then b.readLines next else none
termination_by cs.length

/-- A text with single line feeds at the ends of its lines. -/
def normalLineEnds : List Char → List Char
  | '\r' :: '\n' :: rest => '\n' :: normalLineEnds rest
  | c :: rest => c :: normalLineEnds rest
  | [] => []

/-- The members of the table that a text builds; a mark of its encoding may stand in front. -/
def readToml (text : String) : Option Members :=
  let cs := normalLineEnds text.toList
  ({} : Building).readLines (if cs.head? == some '\uFEFF' then cs.drop 1 else cs)

end ApiScaffold.Toml
