import ApiScaffold.Text.Letter

/-!
# Methods of operations

The methods that a path of a document can offer, in the order of their names.
-/

namespace ApiScaffold.Web

/-- A method of an operation. -/
inductive Method
  | delete | get | head | options | patch | post | put
  deriving DecidableEq, Repr

namespace Method

/-- The methods in the order of their names. -/
def all : List Method := [delete, get, head, options, patch, post, put]

/-- The name of a method in lower case. -/
def name : Method → String
  | delete => "delete"
  | get => "get"
  | head => "head"
  | options => "options"
  | patch => "patch"
  | post => "post"
  | put => "put"

/-- The name of a method in upper case. -/
def upperName (m : Method) : String := Text.upperAscii m.name

/-- The place of a method in the order of names. -/
def rank : Method → Nat
  | delete => 0
  | get => 1
  | head => 2
  | options => 3
  | patch => 4
  | post => 5
  | put => 6

/-- The method of a lower case name. -/
def ofName? (s : String) : Option Method := all.find? (·.name == s)

end Method

end ApiScaffold.Web
