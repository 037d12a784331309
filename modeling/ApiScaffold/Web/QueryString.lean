import ApiScaffold.Web.Form

/-!
# Query strings

A query string collects values under names.  The names are kept in ascending order, and the
values of a name in the order they were added.

* `QueryString.push`, `pushAll`: adds values.
* `QueryString.pairs`: the names with their values, in order.
* `QueryString.encode`, `finish`: the text, alone and behind a path.
* `substitute`: fills a name of a path template.
-/

namespace ApiScaffold.Web

/-- Values under names, in ascending order of the names. -/
structure QueryString where
  entries : List (String × List String) := []
  deriving DecidableEq

namespace QueryString

/-- Adds a value behind those of its name. -/
def insertValue (name value : String) : List (String × List String) → List (String × List String)
  | [] => [(name, [value])]
  | (n, values) :: rest =>
    if name = n then (n, values ++ [value]) :: rest
    else if name < n then (name, [value]) :: (n, values) :: rest
    else (n, values) :: insertValue name value rest

def push (name value : String) (q : QueryString) : QueryString :=
  ⟨insertValue name value q.entries⟩

/-- Adds several values under one name. -/
def pushAll (name : String) (values : List String) (q : QueryString) : QueryString :=
  values.foldl (fun q v => q.push name v) q

def isEmpty (q : QueryString) : Bool := q.entries.isEmpty

/-- The names with their values, in order. -/
def pairs (q : QueryString) : List (String × String) :=
  q.entries.flatMap fun (name, values) => values.map (name, ·)

/-- The text of a query string. -/
def encode (q : QueryString) : String := Form.encode q.pairs

/-- The path, a question mark, and the query string. -/
def finish (path : String) (q : QueryString) : String := path ++ "?" ++ q.encode

end QueryString

/-- A list with the first occurrence of a nonempty part replaced. -/
def replaceFirst (part replacement : List Char) : List Char → List Char
  | [] => []
  | c :: cs =>
    if part.isPrefixOf (c :: cs) then replacement ++ (c :: cs).drop part.length
    else c :: replaceFirst part replacement cs

/-- A path with the first occurrence of a name in braces replaced by a value. -/
def substitute (path name value : String) : String :=
  String.ofList (replaceFirst ('\x7b' :: name.toList ++ ['\x7d']) value.toList path.toList)

end ApiScaffold.Web
