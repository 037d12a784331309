import ApiScaffold.Text.Letter
import ApiScaffold.Text.Utf8

/-!
# Headers

Names of headers are tokens, compared without case; values are texts without control
characters.

* `headerName?`, `isHeaderValue`: which names and values are accepted.
* `Headers.insert`, `Headers.append`: a value in the place of all others of its name, or
  behind them.
* `Headers.get?`: the first value of a name.
* `readableValue?`: a value that consists of ASCII characters only.
-/

namespace ApiScaffold.Web

open Text

/-- The characters that names of headers consist of. -/
def isTokenChar (c : Char) : Bool := isAsciiAlphanumeric c || "!#$%&'*+-.^_`|~".toList.contains c

/-- The greatest length of a name. -/
def maxHeaderName : Nat := 65535

/-- A name in lower case, if it is one. -/
def headerName? (name : String) : Option String :=
  if name ≠ "" && name.toList.all isTokenChar && name.length ≤ maxHeaderName then
    some (lowerAscii name)
  else none

/-- Whether a text can be the value of a header. -/
def isHeaderValue (value : String) : Bool :=
  value.toList.all fun c => c == '\t' || (' ' ≤ c && c != '\x7f')

/-- The words for a name that is refused. -/
def headerNameFault : String := "invalid HTTP header name"

/-- The words for a value that is refused. -/
def headerValueFault : String := "failed to parse header value"

/-- The words for a value that holds characters beyond ASCII. -/
def unreadableFault : String := "failed to convert header to a str"

/-- The value, if it consists of ASCII characters only. -/
def readableValue? (value : String) : Option String :=
  if value.toList.all isAscii then some value else none

/-- Headers: lower case names with values, in the order they were added. -/
abbrev Headers := List (String × String)

namespace Headers

/-- The first value of a name in lower case. -/
def get? (headers : Headers) (name : String) : Option String := headers.lookup name

/-- Puts a value in the place of all values of a name. -/
def insert (name value : String) : Headers → Headers
  | [] => [(name, value)]
  | (n, v) :: rest =>
    if n = name then (name, value) :: rest.filter (·.1 ≠ name) else (n, v) :: insert name value rest

/-- Adds a value behind the others. -/
def append (name value : String) (headers : Headers) : Headers := headers ++ [(name, value)]

/-- The headers of some names and values, without those that are none. -/
def ofPairs (pairs : List (String × String)) : Headers :=
  pairs.filterMap fun (name, value) =>
    if isHeaderValue value then (headerName? name).map (·, value) else none

theorem get?_insert (name value : String) (headers : Headers) :
    (insert name value headers).get? name = some value := by
  induction headers with
  | nil => simp [insert, get?]
  | cons h rest ih =>
    obtain ⟨n, v⟩ := h
    unfold insert
    split
    · simp [get?]
    · rename_i different
      have unequal : (name == n) = false := by simpa using fun e => different e.symm
      simpa [get?, List.lookup_cons, unequal] using ih

/-- The headers in the order of their names. -/
def sorted (headers : Headers) : Headers := headers.mergeSort fun a b => decide (a.1 ≤ b.1)

end Headers

end ApiScaffold.Web
