import ApiScaffold.Text.Blank

/-!
# TOML strings

Four forms: between double quotes, where escapes are read, or between single quotes, where
nothing is; in one line, or between three quotes over several lines.  Line ends are single line
feeds here.

* `readString`: a string in any form.
* `readLineString`: a string in one line, which a key may be as well.

The readers give the text and what follows it.
-/

namespace ApiScaffold.Toml

/-- A blank within a line. -/
def isBlank (c : Char) : Bool := c == ' ' || c == '\t'

/-- Whether a character may stand in a comment or, quotes and backslashes apart, in a string. -/
def isPlain (c : Char) : Bool := c == '\t' || (' ' ≤ c && c.toNat != 0x7F)

/-- The character of an escape of one letter. -/
def escaped? : Char → Option Char
  | 'b' => some '\x08'
  | 't' => some '\t'
  | 'n' => some '\n'
  | 'f' => some '\x0c'
  | 'r' => some '\r'
  | '"' => some '"'
  | '\\' => some '\\'
  | _ => none

/-- The value of a hexadecimal digit. -/
def hexValue? (c : Char) : Option Nat :=
  if '0' ≤ c && c ≤ '9' then some (c.toNat - 48)
  else if 'a' ≤ c && c ≤ 'f' then some (c.toNat - 87)
  else if 'A' ≤ c && c ≤ 'F' then some (c.toNat - 55)
  else none

/-- The character of a code point in hexadecimal digits. -/
def codePoint? (digits : List Char) : Option Char := do
  let n := (← digits.mapM hexValue?).foldl (fun n d => n * 16 + d) 0
  if n.isValidChar then some (Char.ofNat n) else none

/-- Puts a character in front of what was read. -/
def prepend (c : Char) : List Char × List Char → List Char × List Char
  | (text, rest) => (c :: text, rest)

/-- A string in one line, behind its opening double quote. -/
def readBasic : List Char → Option (List Char × List Char)
  | [] => none
  | '"' :: rest => some ([], rest)
  | '\\' :: 'u' :: a :: b :: c :: d :: rest => do
    return prepend (← codePoint? [a, b, c, d]) (← readBasic rest)
  | '\\' :: 'U' :: a :: b :: c :: d :: e :: f :: g :: h :: rest => do
    return prepend (← codePoint? [a, b, c, d, e, f, g, h]) (← readBasic rest)
  | '\\' :: c :: rest => do return prepend (← escaped? c) (← readBasic rest)
  | c :: rest => if isPlain c && c != '\\' then (readBasic rest).map (prepend c) else none

/-- A string in one line, behind its opening single quote. -/
def readLiteral : List Char → Option (List Char × List Char)
  | [] => none
  | '\'' :: rest => some ([], rest)
  | c :: rest => if isPlain c then (readLiteral rest).map (prepend c) else none

/-- Whether only blanks stand before the end of the line. -/
def endsLine (cs : List Char) : Bool := (cs.dropWhile isBlank).head? == some '\n'

/-- A string over several lines, behind its opening quotes.  A backslash at the end of a line
takes the blanks and line ends that follow with it; while `trimming` they are skipped. -/
def readBasicLines (trimming : Bool) : List Char → Option (List Char × List Char)
  | [] => none
  | '"' :: '"' :: '"' :: '"' :: '"' :: rest => some (['"', '"'], rest)
  | '"' :: '"' :: '"' :: '"' :: rest => some (['"'], rest)
  | '"' :: '"' :: '"' :: rest => some ([], rest)
  | '\\' :: 'u' :: a :: b :: c :: d :: rest => do
    return prepend (← codePoint? [a, b, c, d]) (← readBasicLines false rest)
  | '\\' :: 'U' :: a :: b :: c :: d :: e :: f :: g :: h :: rest => do
    return prepend (← codePoint? [a, b, c, d, e, f, g, h]) (← readBasicLines false rest)
  | '\\' :: c :: rest =>
    match escaped? c with
    | some e => (readBasicLines false rest).map (prepend e)
    | none => if endsLine (c :: rest) then readBasicLines true rest else none
  | c :: rest =>
    if trimming && (isBlank c || c == '\n') then readBasicLines true rest
    else if (isPlain c && c != '\\') || c == '\n' then
      (readBasicLines false rest).map (prepend c)
    else none

/-- A string over several lines between single quotes, behind the opening ones. -/
def readLiteralLines : List Char → Option (List Char × List Char)
  | [] => none
  | '\'' :: '\'' :: '\'' :: '\'' :: '\'' :: rest => some (['\'', '\''], rest)
  | '\'' :: '\'' :: '\'' :: '\'' :: rest => some (['\''], rest)
  | '\'' :: '\'' :: '\'' :: rest => some ([], rest)
  | c :: rest =>
    if isPlain c || c == '\n' then (readLiteralLines rest).map (prepend c) else none

/-- What was read, with its text as a string. -/
def asText : List Char × List Char → String × List Char
  | (text, rest) => (String.ofList text, rest)

/-- A string in one line. -/
def readLineString : List Char → Option (String × List Char)
  | '"' :: rest => (readBasic rest).map asText
  | '\'' :: rest => (readLiteral rest).map asText
  | _ => none

/-- What follows a line end that stands in front. -/
def dropLineEnd : List Char → List Char
  | '\n' :: rest => rest
  | cs => cs

/-- A string in any form. -/
def readString : List Char → Option (String × List Char)
  | '"' :: '"' :: '"' :: rest => (readBasicLines false (dropLineEnd rest)).map asText
  | '\'' :: '\'' :: '\'' :: rest => (readLiteralLines (dropLineEnd rest)).map asText
  | cs => readLineString cs

end ApiScaffold.Toml
