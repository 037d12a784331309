/-!
# Blanks, trimming and lines

* `isBlank`: white space in the sense of the character standard.
* `trim`: a text without the blanks at its two ends.
* `lines`: the lines of a text.  A line ends at a line feed, and a carriage return just
  before the line feed belongs to the line's end; an empty last line is none.
* `splitOn`: the pieces between the occurrences of a separator, at least one.
-/

namespace ApiScaffold.Text

/-- White space: the ASCII blanks, the no-break space, the spaces of fixed width and the
separators of lines and paragraphs. -/
def isBlank (c : Char) : Bool :=
  let n := c.toNat
  (0x9 ≤ n && n ≤ 0xD) || n == 0x20 || n == 0x85 || n == 0xA0 || n == 0x1680
    || (0x2000 ≤ n && n ≤ 0x200A) || n == 0x2028 || n == 0x2029 || n == 0x202F || n == 0x205F
    || n == 0x3000

/-- A list without the elements at its end that satisfy a test. -/
def dropEndWhile {α : Type} (p : α → Bool) (xs : List α) : List α :=
  (xs.reverse.dropWhile p).reverse

/-- A list without the elements at its two ends that satisfy a test. -/
def trimWhile {α : Type} (p : α → Bool) (xs : List α) : List α :=
  dropEndWhile p (xs.dropWhile p)

/-- The characters of a text without the blanks at the two ends. -/
def trimChars (cs : List Char) : List Char := trimWhile isBlank cs

/-- A text without the blanks at its two ends. -/
def trim (s : String) : String := String.ofList (trimChars s.toList)

/-- The pieces of a list between the elements that satisfy a test. -/
def splitWhere {α : Type} (p : α → Bool) : List α → List (List α)
  | [] => [[]]
  | x :: xs =>
    if p x then [] :: splitWhere p xs
    else
      match splitWhere p xs with
      | piece :: rest => (x :: piece) :: rest
      | [] => [[x]]

theorem splitWhere_ne_nil {α : Type} (p : α → Bool) (xs : List α) : splitWhere p xs ≠ [] := by
  cases xs with
  | nil => simp [splitWhere]
  | cons x xs =>
    unfold splitWhere
    split
    · simp
    · split <;> simp

/-- The pieces of a text between the occurrences of a character. -/
def splitOn (separator : Char) (s : String) : List String :=
  (splitWhere (· == separator) s.toList).map String.ofList

/-- A line without the carriage return at its end. -/
def dropReturn (line : List Char) : List Char :=
  match line.getLast? with
  | some '\r' => line.dropLast
  | _ => line

/-- The lines of a text. -/
def lineChars (cs : List Char) : List (List Char) :=
  let pieces := splitWhere (· == '\n') cs
  match pieces.getLast? with
  | some [] => pieces.dropLast.map dropReturn
  | some last => pieces.dropLast.map dropReturn ++ [last]
  | none => []

/-- The lines of a text. -/
def lines (s : String) : List String := (lineChars s.toList).map String.ofList

/-- Whether one list occurs in another as a run of neighbours. -/
def occursIn {α : Type} [BEq α] (part : List α) : List α → Bool
  | [] => part.isEmpty
  | x :: xs => part.isPrefixOf (x :: xs) || occursIn part xs

/-- Whether a text holds another. -/
def contains (s part : String) : Bool := occursIn part.toList s.toList

end ApiScaffold.Text
