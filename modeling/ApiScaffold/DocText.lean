import ApiScaffold.Text.Blank

/-!
# Documentation text

Summaries and descriptions become the lines of documentation comments: every line is trimmed,
its blanks are single spaces, typographic quotes and dashes are plain ones, and no line is
empty.

* `docLines`: the lines of a text.
* `inline`: the same text in one line.
* `operationDoc`: the summary, then the description behind an empty line.
-/

namespace ApiScaffold.DocText

open Text

/-- Typographic quotes and dashes as plain ones, all else as it is. -/
def plainPunctuation (c : Char) : Char :=
  if c == '\u2018' || c == '\u2019' then '\''
  else if c == '\u201C' || c == '\u201D' then '"'
  else if c == '\u2013' || c == '\u2014' then '-'
  else c

/-- A text with every run of blanks as one space; a run at the beginning is left out if
`afterBlank`. -/
def collapseBlanks (afterBlank : Bool) : List Char → List Char
  | [] => []
  | c :: cs =>
    if isBlank c then if afterBlank then collapseBlanks true cs else ' ' :: collapseBlanks true cs
    else c :: collapseBlanks false cs

/-- A line in normal form. -/
def normalLine (line : List Char) : List Char :=
  collapseBlanks false (trimChars (line.map plainPunctuation))

/-- The lines of a text in normal form, without the empty ones. -/
def docLineChars (cs : List Char) : List (List Char) :=
  ((lineChars cs).map normalLine).filter fun line => !line.isEmpty

/-- The lines of a text in normal form, without the empty ones. -/
def docLines (s : String) : List String := (docLineChars s.toList).map String.ofList

/-- The lines of a text joined into one. -/
def inline (s : String) : String := " ".intercalate (docLines s)

/-- The lines for a summary and a description; a description that says the same as the summary
is left out. -/
def operationDoc (summary description : Option String) : List String :=
  let head := (summary.map docLines).getD []
  let body := (description.map docLines).getD []
  if body.isEmpty || body = head then head
  else if head.isEmpty then body
  else head ++ "" :: body

end ApiScaffold.DocText
