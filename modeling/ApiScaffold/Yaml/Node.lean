import ApiScaffold.Yaml.Token

/-!
# Nodes of YAML texts

The tokens of a text form documents, and each document is a tree of scalars, sequences,
mappings, and aliases for nodes that bear an anchor.

* `Node`: the trees.
* `documents?`: the documents of a list of tokens.
-/

namespace ApiScaffold.Yaml

/-- What may stand in front of a node. -/
structure Marks where
  anchor : Option String := none
  tag : Option String := none
  deriving DecidableEq, Repr

/-- A node of a document. -/
inductive Node
  | alias (name : String)
  | scalar (marks : Marks) (plain : Bool) (text : String)
  | sequence (marks : Marks) (items : List Node)
  | mapping (marks : Marks) (members : List (Node × Node))
  deriving Repr

/-- The node that stands where nothing is written. -/
def Node.empty : Node := .scalar {} true ""

/-- What the handles of tags stand for. -/
abbrev TagHandles := List (String × String)

/-- The handles that need not be declared. -/
def defaultHandles : TagHandles := [("!", "!"), ("!!", "tag:yaml.org,2002:")]

/-- The tag that a handle and a suffix make up. -/
def resolveTag (handles : TagHandles) (handle suffix : String) : Option String :=
  if handle = "" then some suffix else (handles.lookup handle).map (· ++ suffix)

/-- Reads the marks in front of a node: an anchor and a tag, in any order. -/
def readMarks (handles : TagHandles) : List Token → Option (Marks × List Token)
  | .anchor a :: .tag h s :: ts => (resolveTag handles h s).map fun t => (⟨some a, some t⟩, ts)
  | .tag h s :: .anchor a :: ts => (resolveTag handles h s).map fun t => (⟨some a, some t⟩, ts)
  | .anchor a :: ts => some (⟨some a, none⟩, ts)
  | .tag h s :: ts => (resolveTag handles h s).map fun t => (⟨none, some t⟩, ts)
  | ts => some ({}, ts)

/-- Where a node stands: in a block, where a sequence may also be indented no more than its key,
or between brackets. -/
inductive Setting
  | block
  | keyed
  | flow
  deriving DecidableEq

/-- Whether a value or a key between brackets is left out in front of a token. -/
def endsPair : List Token → Bool
  | .value :: _ => true
  | .comma :: _ => true
  | .bracketEnd :: _ => true
  | .braceEnd :: _ => true
  | _ => false

/-- Whether a value in a block mapping is left out in front of a token. -/
def endsMember : List Token → Bool
  | .key :: _ => true
  | .value :: _ => true
  | .blockEnd :: _ => true
  | _ => false

/-- Whether an item in a block sequence is left out in front of a token. -/
def endsItem : List Token → Bool
  | .entry :: _ => true
  | .blockEnd :: _ => true
  | _ => false

mutual

/-- Reads a node. -/
def readNode (handles : TagHandles) : Nat → Setting → List Token → Option (Node × List Token)
  | 0, _, _ => none
  | fuel + 1, setting, tokens =>
    match tokens with
    | .alias name :: ts => some (.alias name, ts)
    | _ => do
      let (marks, ts) ← readMarks handles tokens
      match ts with
      | .scalar plain text :: ts =>
        let plain := if marks.tag = some "!" then true else plain
        let marks := if marks.tag = some "!" then { marks with tag := none } else marks
        some (.scalar marks plain text, ts)
      | .bracketStart :: ts => do
        let (items, ts) ← readFlowItems handles fuel true ts
        some (.sequence marks items, ts)
      | .braceStart :: ts => do
        let (members, ts) ← readFlowMembers handles fuel true ts
        some (.mapping marks members, ts)
      | .entry :: _ =>
        if setting = .keyed then do
          let (items, ts) ← readItems handles fuel false ts
          some (.sequence marks items, ts)
        else if marks ≠ {} then some (.scalar marks true "", ts) else none
      | .sequenceStart :: rest =>
        if setting ≠ .flow then do
          let (items, ts) ← readItems handles fuel true rest
          some (.sequence marks items, ts)
        else if marks ≠ {} then some (.scalar marks true "", ts) else none
      | .mappingStart :: rest =>
        if setting ≠ .flow then do
          let (members, ts) ← readMembers handles fuel rest
          some (.mapping marks members, ts)
        else if marks ≠ {} then some (.scalar marks true "", ts) else none
      | ts => if marks ≠ {} then some (.scalar marks true "", ts) else none

/-- Reads the items of a block sequence; one that is indented like its key has no end. -/
def readItems (handles : TagHandles) : Nat → Bool → List Token → Option (List Node × List Token)
  | 0, _, _ => none
  | fuel + 1, indented, tokens =>
    match tokens with
    | .entry :: ts => do
      let absent := if indented then endsItem ts else endsItem ts || endsMember ts
      let (item, ts) ← if absent then some (.empty, ts) else readNode handles fuel .block ts
      let (items, ts) ← readItems handles fuel indented ts
      some (item :: items, ts)
    | .blockEnd :: ts => some ([], if indented then ts else .blockEnd :: ts)
    | ts => if indented then none else some ([], ts)

/-- Reads the members of a block mapping. -/
def readMembers (handles : TagHandles) : Nat → List Token → Option (List (Node × Node) × List Token)
  | 0, _ => none
  | fuel + 1, tokens =>
    match tokens with
    | .key :: ts => do
      let (key, ts) ← if endsMember ts then some (.empty, ts) else readNode handles fuel .keyed ts
      let (value, ts) ←
        match ts with
        | .value :: ts =>
          if endsMember ts then some (.empty, ts) else readNode handles fuel .keyed ts
        | ts => some (Node.empty, ts)
      let (members, ts) ← readMembers handles fuel ts
      some ((key, value) :: members, ts)
    | .blockEnd :: ts => some ([], ts)
    | _ => none

/-- Reads the items between brackets; a pair is a mapping of its own. -/
def readFlowItems (handles : TagHandles) : Nat → Bool → List Token → Option (List Node × List Token)
  | 0, _, _ => none
  | fuel + 1, first, tokens =>
    let tokens? : Option (List Token) :=
      match tokens with
      | .comma :: ts => if first then some tokens else some ts
      | .bracketEnd :: _ => some tokens
      | _ => if first then some tokens else none
    match tokens? with
    | none => none
    | some (.bracketEnd :: ts) => some ([], ts)
    | some (.key :: ts) => do
      let (pair, ts) ← readFlowPair handles fuel ts
      let (items, ts) ← readFlowItems handles fuel false ts
      some (.mapping {} [pair] :: items, ts)
    | some ts => do
      let (item, ts) ← readNode handles fuel .flow ts
      let (items, ts) ← readFlowItems handles fuel false ts
      some (item :: items, ts)

/-- Reads a pair between brackets behind the mark of its key.  Where the key is left out, so is
the token that follows it. -/
def readFlowPair (handles : TagHandles) : Nat → List Token → Option ((Node × Node) × List Token)
  | 0, _ => none
  | fuel + 1, tokens => do
    let (key, ts) ←
      if endsPair tokens && tokens.head? ≠ some .braceEnd then some (Node.empty, tokens.drop 1)
      else readNode handles fuel .flow tokens
    match ts with
    | .value :: ts =>
      if ts.head? = some .comma || ts.head? = some .bracketEnd then some ((key, .empty), ts)
      else do
        let (value, ts) ← readNode handles fuel .flow ts
        some ((key, value), ts)
    | ts => some ((key, .empty), ts)

/-- Reads the members between braces. -/
def readFlowMembers (handles : TagHandles) : Nat → Bool → List Token →
    Option (List (Node × Node) × List Token)
  | 0, _, _ => none
  | fuel + 1, first, tokens =>
    let tokens? : Option (List Token) :=
      match tokens with
      | .comma :: ts => if first then some tokens else some ts
      | .braceEnd :: _ => some tokens
      | _ => if first then some tokens else none
    match tokens? with
    | none => none
    | some (.braceEnd :: ts) => some ([], ts)
    | some (.key :: ts) => do
      let (key, ts) ←
        if endsPair ts && ts.head? ≠ some .bracketEnd then some (Node.empty, ts)
        else readNode handles fuel .flow ts
      let (value, ts) ←
        match ts with
        | .value :: ts =>
          if ts.head? = some .comma || ts.head? = some .braceEnd then some (Node.empty, ts)
          else readNode handles fuel .flow ts
        | ts => some (Node.empty, ts)
      let (members, ts) ← readFlowMembers handles fuel false ts
      some ((key, value) :: members, ts)
    | some ts => do
      let (key, ts) ← readNode handles fuel .flow ts
      let (members, ts) ← readFlowMembers handles fuel false ts
      some ((key, .empty) :: members, ts)

end

/-! ## Documents -/

/-- Declares a handle; only those that need no declaration can be declared over. -/
def declareHandle (handles : TagHandles) (handle stem : String) : TagHandles :=
  (handle, stem) :: handles

/-- Reads the directives in front of a document: at most one version, and each handle once. -/
def readDirectives : List String → Bool → TagHandles → List Token → Option (TagHandles × List Token)
  | declared, versioned, handles, .version major minor :: ts =>
    if versioned || major ≠ 1 || !(minor = 1 || minor = 2) then none
    else readDirectives declared true handles ts
  | declared, versioned, handles, .tagHandle handle stem :: ts =>
    if declared.contains handle then none
    else readDirectives (handle :: declared) versioned (declareHandle handles handle stem) ts
  | _, _, handles, ts => some (handles, ts)

/-- How many steps a reading of tokens can take. -/
def readingFuel (tokens : List Token) : Nat := 4 * tokens.length + 8

/-- Reads the content of a document behind its start. -/
def readContentNode (handles : TagHandles) (tokens : List Token) : Option (Node × List Token) :=
  match tokens with
  | [] => some (.empty, [])
  | .version _ _ :: _ => some (.empty, tokens)
  | .tagHandle _ _ :: _ => some (.empty, tokens)
  | .documentStart :: _ => some (.empty, tokens)
  | .documentEnd :: _ => some (.empty, tokens)
  | _ => readNode handles (readingFuel tokens) .block tokens

/-- Reads the first document, whose start may be left out. -/
def readFirst (tokens : List Token) : Option (Node × List Token) :=
  match tokens with
  | .version _ _ :: _ => explicit tokens
  | .tagHandle _ _ :: _ => explicit tokens
  | .documentStart :: _ => explicit tokens
  | _ => readNode defaultHandles (readingFuel tokens) .block tokens
where
  explicit (tokens : List Token) : Option (Node × List Token) := do
    let (handles, ts) ← readDirectives [] false defaultHandles tokens
    match ts with
    | .documentStart :: ts => readContentNode handles ts
    | _ => none

/-- The only document of a list of tokens; none of its own where nothing is written. -/
def onlyDocument? (tokens : List Token) : Option Node :=
  if tokens.isEmpty then some .empty
  else do
    let (node, ts) ← readFirst tokens
    if ts.all (· == .documentEnd) then some node else none

end ApiScaffold.Yaml
