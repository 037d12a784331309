import ApiScaffold.Number.Binary

/-!
# JSON values

The numbers are integers of at most 64 bits and floating numbers.  The members of an object
are kept in ascending order of their keys, and a key occurs once.

* `Value.get?`: the member of a key.
* `setMember`: adds or replaces a member; `objectOf` builds an object from members in any
  order, the last one of a key winning.
-/

namespace ApiScaffold.Json

open Number (Binary64)

/-- A number of a JSON text. -/
inductive Numeral
  | integer (value : Int)
  | float (value : Binary64)
  deriving DecidableEq, Repr

/-- A JSON value. -/
inductive Value
  | null
  | bool (value : Bool)
  | number (value : Numeral)
  | string (value : String)
  | array (items : List Value)
  | object (members : List (String × Value))
  deriving Repr

instance : Inhabited Value := ⟨.null⟩

/-- The member of a key in a list of members. -/
def memberOf? {α : Type} (members : List (String × α)) (key : String) : Option α :=
  members.lookup key

/-- Adds a member in the place of its key, or replaces the member of that key. -/
def setMember {α : Type} (key : String) (value : α) : List (String × α) → List (String × α)
  | [] => [(key, value)]
  | (k, v) :: rest =>
    if key = k then (key, value) :: rest
    else if key < k then (key, value) :: (k, v) :: rest
    else (k, v) :: setMember key value rest

/-- Members in ascending order of their keys; the last value of a key counts. -/
def sortMembers {α : Type} (members : List (String × α)) : List (String × α) :=
  members.foldl (fun sorted m => setMember m.1 m.2 sorted) []

namespace Value

/-- The object of some members. -/
def objectOf (members : List (String × Value)) : Value := .object (sortMembers members)

def natural (n : Nat) : Value := .number (.integer n)

/-- The string of a text, or null. -/
def text? (s : Option String) : Value := s.elim .null .string

/-- The member of a key, if the value is an object that has it. -/
def get? (key : String) : Value → Option Value
  | .object members => memberOf? members key
  | _ => none

def asString? : Value → Option String
  | .string s => some s
  | _ => none

def asBool? : Value → Option Bool
  | .bool b => some b
  | _ => none

def asArray? : Value → Option (List Value)
  | .array items => some items
  | _ => none

def asObject? : Value → Option (List (String × Value))
  | .object members => some members
  | _ => none

/-- The natural number that a value is. -/
def asNat? : Value → Option Nat
  | .number (.integer n) => if 0 ≤ n then some n.toNat else none
  | _ => none

/-- The number that a value is, as a floating number. -/
def asFloat? : Value → Option Binary64
  | .number (.integer n) => some (.ofInt n)
  | .number (.float x) => some x
  | _ => none

/-- The string under a key. -/
def stringAt? (key : String) (v : Value) : Option String := (v.get? key).bind asString?

end Value

end ApiScaffold.Json
