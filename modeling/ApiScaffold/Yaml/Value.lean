import ApiScaffold.Json.Value
import ApiScaffold.Number.Reader
import ApiScaffold.Yaml.Node

/-!
# Values of YAML texts

A document stands for a JSON value: plain scalars are read as null, truth values and numbers
where they look like such, keys are texts, and the last member of a key counts.

* `scalarValue?`: the value of a scalar.
* `resolve`: the nodes that aliases stand for.
* `readYaml`: the value of a text.
-/

namespace ApiScaffold

namespace Yaml

open Json (Value Numeral)
open Number (Binary64)
open Text

/-! ## Scalars -/

def isNullWord (s : String) : Bool := ["null", "Null", "NULL", "~"].contains s

def truthWord? (s : String) : Option Bool :=
  if ["true", "True", "TRUE"].contains s then some true
  else if ["false", "False", "FALSE"].contains s then some false
  else none

/-- The number of some digits of a base. -/
def digits? (base : Nat) (cs : List Char) : Option Nat :=
  let values := cs.mapM fun c =>
    if isAscii c then (Web.hexDigitValue? c.toNat.toUInt8).filter (· < base) else none
  if cs.isEmpty then none else values.map (·.foldl (fun n d => n * base + d) 0)

/-- Whether a text is a zero with more digits behind, which is no number. -/
def isPaddedNumber (cs : List Char) : Bool :=
  let cs := if cs.head? == some '-' || cs.head? == some '+' then cs.drop 1 else cs
  1 < cs.length && cs.head? == some '0' && cs.all isAsciiDigit

/-- The magnitude of an integer in one of four bases. -/
def magnitude? (padded : Bool) (cs : List Char) : Option Nat :=
  let marked :=
    match cs with
    | '0' :: 'x' :: ds => digits? 16 ds
    | '0' :: 'o' :: ds => digits? 8 ds
    | '0' :: 'b' :: ds => digits? 2 ds
    | _ => none
  marked.orElse fun _ => if padded then none else digits? 10 cs

/-- The integer that a text looks like. -/
def integer? (cs : List Char) : Option Int :=
  let padded := isPaddedNumber cs
  match cs with
  | '+' :: rest => (magnitude? padded rest).map Int.ofNat
  | '-' :: rest => (magnitude? padded rest).map fun n => -(n : Int)
  | _ => (magnitude? padded cs).map Int.ofNat

/-- The integers that are recognised as such. -/
def isRecognised (n : Int) : Bool :=
  -0x80000000000000000000000000000000 ≤ n && n < 0x100000000000000000000000000000000

/-- The integers that a value can hold. -/
def isHeld (n : Int) : Bool := -0x8000000000000000 ≤ n && n < 0x10000000000000000

/-- The floating number that a text looks like. -/
def float? (s : String) : Option Binary64 :=
  let unsigned := if s.toList.head? == some '+' then String.ofList (s.toList.drop 1) else s
  let sign := unsigned.toList.head?
  if s ≠ unsigned && (sign == some '+' || sign == some '-') then none
  else if [".inf", ".Inf", ".INF"].contains unsigned then some (.infinite false)
  else if ["-.inf", "-.Inf", "-.INF"].contains s then some (.infinite true)
  else if [".nan", ".NaN", ".NAN"].contains s then some .nan
  else ((Number.readBinary unsigned).toOption).filter (·.isFinite)

/-- A floating number as a value; what is no finite number is null. -/
def floatValue (x : Binary64) : Value := if x.isFinite then .number (.float x) else .null

/-- The value of an integer, none if it has no place in a value. -/
def integerValue? (n : Int) : Option Value :=
  if isHeld n then some (.number (.integer n)) else none

/-- The value that a plain scalar looks like. -/
def plainValue? (s : String) : Option Value :=
  let cs := s.toList
  if cs.isEmpty || isNullWord s then some .null
  else
    match truthWord? s, (integer? cs).filter isRecognised with
    | some b, _ => some (.bool b)
    | none, some n => integerValue? n
    | none, none =>
      match (if isPaddedNumber cs then none else float? s) with
      | some x => some (floatValue x)
      | none => some (.string s)

/-- The stem of the tags that name kinds of scalars. -/
def kindStem : String := "tag:yaml.org,2002:"

/-- The value of a scalar. -/
def scalarValue? (tag : Option String) (plain : Bool) (s : String) : Option Value :=
  match tag with
  | none => if plain then plainValue? s else some (.string s)
  | some tag =>
    if tag = kindStem ++ "bool" then (truthWord? s).map .bool
    else if tag = kindStem ++ "int" then
      ((integer? s.toList).filter isRecognised).bind integerValue?
    else if tag = kindStem ++ "float" then (float? s).map floatValue
    else if tag = kindStem ++ "null" then if isNullWord s then some .null else none
    else if tag.toList.head? == some '!' then none
    else some (.string s)

/-! ## Aliases -/

/-- A node whose aliases are numbers of nodes. -/
inductive Tree
  | reference (number : Nat)
  | scalar (tag : Option String) (plain : Bool) (text : String)
  | sequence (items : List Tree)
  | mapping (members : List (Tree × Tree))

/-- The nodes that bear anchors: the number of the last one of each name, and the nodes. -/
structure Anchors where
  numbers : List (String × Nat) := []
  count : Nat := 0
  nodes : List (Nat × Tree) := []

/-- Gives a node its number, if it bears an anchor. -/
def Anchors.announce (a : Anchors) (anchor : Option String) : Option Nat × Anchors :=
  match anchor with
  | none => (none, a)
  | some name =>
    (some a.count, { a with numbers := (name, a.count) :: a.numbers, count := a.count + 1 })

/-- Notes the node of a number. -/
def Anchors.note (a : Anchors) (number : Option Nat) (t : Tree) : Anchors :=
  match number with
  | none => a
  | some n => { a with nodes := (n, t) :: a.nodes }

/-- A collection must not have a tag of its own kind. -/
def allowsCollection (tag : Option String) : Bool := !tag.any (·.toList.head? == some '!')

mutual

/-- Replaces the names of aliases by the numbers of the nodes that they stand for. -/
def resolve : Node → Anchors → Option (Tree × Anchors)
  | .alias name, a => (a.numbers.lookup name).map fun n => (.reference n, a)
  | .scalar marks plain text, a =>
    let (number, a) := a.announce marks.anchor
    let t := Tree.scalar marks.tag plain text
    some (t, a.note number t)
  | .sequence marks items, a =>
    if !allowsCollection marks.tag then none
    else
      let (number, a) := a.announce marks.anchor
      match resolveItems items a with
      | none => none
      | some (items, a) => some (.sequence items, a.note number (.sequence items))
  | .mapping marks members, a =>
    if !allowsCollection marks.tag then none
    else
      let (number, a) := a.announce marks.anchor
      match resolveMembers members a with
      | none => none
      | some (members, a) => some (.mapping members, a.note number (.mapping members))

/-- The same for the items of a sequence. -/
def resolveItems : List Node → Anchors → Option (List Tree × Anchors)
  | [], a => some ([], a)
  | node :: rest, a =>
    match resolve node a with
    | none => none
    | some (t, a) =>
      match resolveItems rest a with
      | none => none
      | some (ts, a) => some (t :: ts, a)

/-- The same for the members of a mapping. -/
def resolveMembers : List (Node × Node) → Anchors → Option (List (Tree × Tree) × Anchors)
  | [], a => some ([], a)
  | (key, value) :: rest, a =>
    match resolve key a with
    | none => none
    | some (k, a) =>
      match resolve value a with
      | none => none
      | some (v, a) =>
        match resolveMembers rest a with
        | none => none
        | some (ts, a) => some ((k, v) :: ts, a)

end

mutual

/-- How many nodes, starts and ends a tree has. -/
def Tree.size : Tree → Nat
  | .reference _ => 1
  | .scalar _ _ _ => 1
  | .sequence items => sizeOfItems items + 2
  | .mapping members => sizeOfMembers members + 2

def sizeOfItems : List Tree → Nat
  | [] => 0
  | t :: rest => t.size + sizeOfItems rest

def sizeOfMembers : List (Tree × Tree) → Nat
  | [] => 0
  | (k, v) :: rest => k.size + v.size + sizeOfMembers rest

end

/-! ## The whole -/

/-- A step of the evaluation, which counts how many aliases may still be followed. -/
abbrev Evaluation := StateT Nat Option

/-- Follows an alias. -/
def follow (nodes : List (Nat × Tree)) (n : Nat) : Evaluation Tree := fun left =>
  match left, nodes.lookup n with
  | left + 1, some t => some (t, left)
  | _, _ => none

/-- A tree, or the one that an alias stands for. -/
def target (nodes : List (Nat × Tree)) : Tree → Evaluation Tree
  | .reference n => follow nodes n
  | t => pure t

/-- The text of a key. -/
def keyText (nodes : List (Nat × Tree)) (key : Tree) : Evaluation String := do
  match ← target nodes key with
  | .scalar _ _ text => pure text
  | _ => failure

/-- The value of a tree; so many collections may be nested. -/
def evaluate (nodes : List (Nat × Tree)) : Nat → Tree → Evaluation Value
  | 0, t => do
    match ← target nodes t with
    | .scalar tag plain text => (scalarValue? tag plain text : Option Value)
    | _ => failure
  | depth + 1, t => do
    match ← target nodes t with
    | .scalar tag plain text => (scalarValue? tag plain text : Option Value)
    | .sequence items =>
      let values ← items.mapM (evaluate nodes depth)
      pure (.array values)
    | .mapping members =>
      let values ← members.mapM fun (k, v) => do
        let key ← keyText nodes k
        let value ← evaluate nodes depth v
        pure (key, value)
      pure (Value.objectOf values)
    | .reference _ => failure

/-- How deep collections may be nested. -/
def deepest : Nat := 128

/-- How many aliases may be followed for each node of a document. -/
def aliasFactor : Nat := 100

/-- The value of a document. -/
def valueOf? (node : Node) : Option Value := do
  let (t, anchors) ← resolve node {}
  let (v, _) ← (evaluate anchors.nodes deepest t).run (aliasFactor * t.size)
  some v

end Yaml

/-- The value of a YAML text that holds a single document. -/
def readYaml (text : String) : Option Json.Value := do
  let tokens ← Yaml.tokens? text
  let node ← Yaml.onlyDocument? tokens
  Yaml.valueOf? node

end ApiScaffold
