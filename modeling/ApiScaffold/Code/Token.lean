import ApiScaffold.Pattern.Reader

/-!
# Tokens of generated code

A line of code is read one character after another.  Beside what has been read stands what the
last characters have begun and not yet ended: a word, a number, or a text between quotes with its
escapes.

* `Token`: a word, a number, the text of a string literal, or a mark.
* `Begun.step`: what one character does: it ends tokens, and goes on with one or begins another.
* `advance`, `tokens`: what some characters do, and the tokens of a line.
-/

namespace ApiScaffold.Code

open Text (isAscii isAsciiAlphanumeric isAsciiDigit)

/-- A token of a line of code. -/
inductive Token
  | word (s : String)
  | number (s : String)
  /-- A string literal, by the text that it denotes. -/
  | literal (s : String)
  | mark (c : Char)
  deriving DecidableEq

/-- What has been begun, with the characters that belong to it so far. -/
inductive Begun
  | nothing
  | word (cs : List Char)
  | number (cs : List Char)
  | literal (cs : List Char)
  /-- A literal, behind a backslash. -/
  | escape (cs : List Char)
  /-- A literal, behind the letter that announces a code point. -/
  | code (cs : List Char)
  /-- A literal, behind so many hexadecimal digits of a code point. -/
  | digits (cs : List Char) (count n : Nat)
  deriving DecidableEq

/-- Whether a character belongs to words: all beyond ASCII do. -/
def isWordChar (c : Char) : Bool := !isAscii c || isAsciiAlphanumeric c || c == '_'

/-- Whether a character goes on with a number; a sign does behind the letter of the exponent. -/
def continuesNumber (cs : List Char) (c : Char) : Bool :=
  isAsciiDigit c || c == '.' || c == 'e' || ((c == '-' || c == '+') && cs.getLast? == some 'e')

/-- The character that a letter behind a backslash stands for. -/
def escaped? : Char → Option Char
  | '0' => some '\x00'
  | 't' => some '\t'
  | 'r' => some '\r'
  | 'n' => some '\n'
  | '\\' => some '\\'
  | '"' => some '"'
  | '\x27' => some '\x27'
  | _ => none

/-- What a character does where nothing has been begun. -/
def begin (c : Char) : List Token × Begun :=
  if c = ' ' then ([], .nothing)
  else if c = '"' then ([], .literal [])
  else if isAsciiDigit c then ([], .number [c])
  else if isWordChar c then ([], .word [c])
  else ([.mark c], .nothing)

/-- What a character does behind a token. -/
def beginBehind (t : Token) (c : Char) : List Token × Begun := (t :: (begin c).1, (begin c).2)

/-- What a character does: the tokens that end, and what has been begun then. -/
def Begun.step (c : Char) : Begun → Option (List Token × Begun)
  | nothing => some (begin c)
  | word cs =>
    if isWordChar c then some ([], word (cs ++ [c]))
    else some (beginBehind (.word (String.ofList cs)) c)
  | number cs =>
    if continuesNumber cs c then some ([], number (cs ++ [c]))
    else some (beginBehind (.number (String.ofList cs)) c)
  | literal cs =>
    if c = '"' then some ([.literal (String.ofList cs)], nothing)
    else if c = '\\' then some ([], escape cs)
    else if c = '\r' then none
    else some ([], literal (cs ++ [c]))
  | escape cs =>
    if c = 'u' then some ([], code cs) else (escaped? c).map fun d => ([], literal (cs ++ [d]))
  | code cs => if c = '\x7b' then some ([], digits cs 0 0) else none
  | digits cs count n =>
    if c = '\x7d' then
      if 1 ≤ count && count ≤ 6 then (Pattern.charOf? n).map fun d => ([], literal (cs ++ [d]))
      else none
    else (Pattern.hexDigit? c).map fun d => ([], digits cs (count + 1) (n * 16 + d))

/-- What some characters do, one after another. -/
def advance : Begun → List Char → Option (List Token × Begun)
  | begun, [] => some ([], begun)
  | begun, c :: cs => do
    let (first, begun) ← begun.step c
    let (rest, begun) ← advance begun cs
    return (first ++ rest, begun)

/-- The token that ends with the line; a literal does not. -/
def Begun.close : Begun → Option (List Token)
  | nothing => some []
  | word cs => some [.word (String.ofList cs)]
  | number cs => some [.number (String.ofList cs)]
  | _ => none

/-- The tokens of a line. -/
def tokens (line : String) : Option (List Token) := do
  let (read, begun) ← advance .nothing line.toList
  return read ++ (← begun.close)

end ApiScaffold.Code
