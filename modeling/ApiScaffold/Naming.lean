import ApiScaffold.Text.Letter
import ApiScaffold.Text.Blank

/-!
# Names

Identifiers are derived from the free-form names of a document.

* `snake`: lower case words joined by underscores.  A word begins behind a separator and at an
  upper case character that follows a lower case one; other punctuation is dropped.
* `proper`, `camel`: words joined by their capitals, the first one upper or lower case.
* `field`: a snake name that can stand as a field or a function.
* `isPackageName`: the names a package can have.
-/

namespace ApiScaffold.Naming

open Text

/-- The characters that separate words. -/
def isSeparator (c : Char) : Bool := c == '-' || c == '_' || c == ' ' || c == '.' || c == '/'

/-- The words of a name, behind the character `last` that was written before, with an underscore
pending if `afterLower` and an upper case character comes. -/
def snakeFrom (last : Option Char) (afterLower : Bool) : List Char → List Char
  | [] => []
  | c :: cs =>
    if isUpper c then
      let form := lowerForm c
      let written := if afterLower then '_' :: form else form
      written ++ snakeFrom (written.getLast?.or last) false cs
    else if isAlphanumeric c then
      c :: snakeFrom (some c) (isLower c || isAsciiDigit c) cs
    else if isSeparator c then
      if last.isSome && last != some '_' then '_' :: snakeFrom (some '_') false cs
      else snakeFrom last false cs
    else snakeFrom last afterLower cs

/-- The characters of a name in lower case words joined by underscores. -/
def snakeChars (cs : List Char) : List Char :=
  trimWhile (· == '_') (snakeFrom none false cs)

/-- A name in lower case words joined by underscores. -/
def snake (s : String) : String := String.ofList (snakeChars s.toList)

/-- A word with its first character in upper case. -/
def capitalize : List Char → List Char
  | [] => []
  | c :: cs => upperForm c ++ cs

/-- The characters of a name in words joined by their capitals. -/
def properChars (cs : List Char) : List Char :=
  (splitWhere (· == '_') (snakeChars cs)).flatMap capitalize

/-- A name in words joined by their capitals, the first one included. -/
def proper (s : String) : String := String.ofList (properChars s.toList)

/-- A name in words joined by their capitals, the first one in lower case. -/
def camel (s : String) : String :=
  match properChars s.toList with
  | [] => ""
  | c :: cs => String.ofList (lowerForm c ++ cs)

/-- The words that no field or function can be named. -/
def keywords : List String :=
  ["as", "break", "const", "continue", "crate", "else", "enum", "extern", "false", "fn", "for",
    "if", "impl", "in", "let", "loop", "match", "mod", "move", "mut", "pub", "ref", "return",
    "self", "static", "struct", "super", "trait", "true", "type", "unsafe", "use", "where",
    "while", "async", "await", "dyn", "abstract", "become", "box", "do", "final", "macro",
    "override", "priv", "typeof", "unsized", "virtual", "yield", "try", "gen"]

/-- A name that can stand as a field or a function: a snake name, with a prefix if it would be
empty or begin with a digit, and an underscore behind a keyword. -/
def field (s : String) : String :=
  match snakeChars s.toList with
  | [] => "param"
  | c :: cs =>
    if isAsciiDigit c then String.ofList ('p' :: '_' :: c :: cs)
    else
      let name := String.ofList (c :: cs)
      if keywords.contains name then name ++ "_" else name

/-- Whether a package can have a name: an ASCII letter, then ASCII letters, digits, hyphens and
underscores. -/
def isPackageName (s : String) : Bool :=
  match s.toList with
  | [] => false
  | c :: cs => isAsciiLetter c && cs.all fun c => isAsciiAlphanumeric c || c == '-' || c == '_'

end ApiScaffold.Naming
