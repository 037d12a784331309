import ApiScaffold.Proofs.Naming.Ascii

/-!
# Identifiers of generated source

Generated source is read with the identifiers of the character standard: one begins with a letter
or an underscore and goes on with letters, digits, marks and underscores.  A word of the language
and a lone underscore are no identifiers, though they are written with the same characters.

* `opensName`, `continuesName`: what an identifier begins and goes on with, the underscore at the
  beginning apart.
* `isIdentifier`: the texts that can name a type.
* `opensName_ascii`, `continuesName_ascii`: on ASCII these are the letters, and the letters, the
  digits and the underscore.
* `isIdentifier_append_iff`: **a text of ASCII letters and digits with a word behind it, in which no
  reserved word ends, is an identifier exactly if it begins with a letter.**
-/

namespace ApiScaffold.Naming

open Text

/-! ## The characters of identifiers -/

/-- What opens an identifier without being a letter or a letter number. -/
def otherOpening : List (Nat × Nat) := [(0x1885, 0x1886), (0x2118, 0x2118), (0x212E, 0x212E)]

/-- What goes on with an identifier without being a letter, a digit, a mark or a connector. -/
def otherContinuing : List (Nat × Nat) := [
  (0xB7, 0xB7), (0x387, 0x387), (0x1369, 0x1371), (0x19DA, 0x19DA), (0x30FB, 0x30FB),
  (0xFF65, 0xFF65)]

/-- Letters whose compatibility form is no identifier, and the one that is a mark of syntax. -/
def unstable : List (Nat × Nat) := [
  (0x37A, 0x37A), (0x2E2F, 0x2E2F), (0xFC5E, 0xFC63), (0xFDFA, 0xFDFB), (0xFE70, 0xFE70),
  (0xFE72, 0xFE72), (0xFE74, 0xFE74), (0xFE76, 0xFE76), (0xFE78, 0xFE78), (0xFE7A, 0xFE7A),
  (0xFE7C, 0xFE7C), (0xFE7E, 0xFE7E)]

/-- Letters whose compatibility form begins with a mark. -/
def unstableOpening : List (Nat × Nat) := [
  (0xE33, 0xE33), (0xEB3, 0xEB3), (0xFF9E, 0xFF9F)]

/-- The characters that open an identifier, the underscore apart. -/
def opensName (c : Char) : Bool :=
  if isAscii c then isAsciiLetter c
  else (Category.anyContains (.letterNumber :: Category.letters) c || inRanges otherOpening c)
    && !inRanges unstable c && !inRanges unstableOpening c

/-- The characters that an identifier goes on with. -/
def continuesName (c : Char) : Bool :=
  if isAscii c then isAsciiAlphanumeric c || c == '_'
  else (Category.anyContains ([.letterNumber, .nonspacingMark, .spacingMark, .decimalNumber,
      .connectorPunctuation] ++ Category.letters) c
      || inRanges otherOpening c || inRanges otherContinuing c)
    && !inRanges unstable c

/-- The characters of a word: one that opens it or an underscore, then those that go on. -/
def isWord : List Char → Bool
  | [] => false
  | c :: cs => (opensName c || c == '_') && cs.all continuesName

/-- The words that name no type. -/
def reserved : List String := "_" :: "Self" :: keywords

/-- The texts that can name a type. -/
def isIdentifier (s : String) : Bool := isWord s.toList && !reserved.contains s

/-! ## ASCII identifiers -/

variable {c : Char} {cs : List Char} {word : String}

theorem opensName_ascii (h : isAscii c = true) : opensName c = isAsciiLetter c := if_pos h

theorem continuesName_ascii (h : isAscii c = true) :
    continuesName c = (isAsciiAlphanumeric c || c == '_') := if_pos h

theorem isAscii_of_isAsciiAlphanumeric (h : isAsciiAlphanumeric c = true) : isAscii c = true := by
  simp only [isAsciiAlphanumeric, isAsciiLetter, isAsciiUpper, isAsciiLower, isAsciiDigit,
    Bool.or_eq_true, Bool.and_eq_true, decide_eq_true_eq] at h
  rcases h with (⟨-, h⟩ | ⟨-, h⟩) | ⟨-, h⟩ <;>
    exact decide_eq_true (Nat.lt_of_le_of_lt h (by decide))

/-- ASCII letters and digits make a word exactly if the first of them is a letter. -/
theorem isWord_iff (hc : isAsciiAlphanumeric c = true)
    (hcs : ∀ d ∈ cs, isAsciiAlphanumeric d = true) :
    isWord (c :: cs) = true ↔ isAsciiLetter c = true := by
  have hbehind : cs.all continuesName = true := by
    rw [List.all_eq_true]
    intro d hd
    rw [continuesName_ascii (isAscii_of_isAsciiAlphanumeric (hcs d hd)), hcs d hd, Bool.true_or]
  have hmark : (c == '_') = false := by
    have hcode := of_ascii (p := fun c => !isAsciiAlphanumeric c || !(c == '_')) (by decide +kernel)
      (isAscii_of_isAsciiAlphanumeric hc)
    simpa [hc] using hcode
  rw [isWord, hbehind, Bool.and_true, hmark, Bool.or_false,
    opensName_ascii (isAscii_of_isAsciiAlphanumeric hc)]

/-- What ends in a word that no reserved one ends in is not reserved. -/
theorem append_not_reserved {s : String}
    (hword : ∀ r ∈ reserved, ¬word.toList <:+ r.toList) :
    reserved.contains (s ++ word) = false := by
  rw [← Bool.not_eq_true, List.contains_iff_mem]
  intro hmem
  refine hword _ hmem ?_
  rw [String.toList_append]
  exact List.suffix_append _ _

/-- **A text of ASCII letters and digits with a word behind it is an identifier exactly if it
begins with a letter**, where no reserved word ends so. -/
theorem isIdentifier_append_iff {s : String} (hs : s.toList = c :: cs)
    (hchars : ∀ d ∈ c :: cs, isAsciiAlphanumeric d = true)
    (hword : ∀ d ∈ word.toList, isAsciiAlphanumeric d = true)
    (hreserved : ∀ r ∈ reserved, ¬word.toList <:+ r.toList) :
    isIdentifier (s ++ word) = true ↔ isAsciiLetter c = true := by
  have hbehind : ∀ d ∈ cs ++ word.toList, isAsciiAlphanumeric d = true := by
    intro d hd
    rcases List.mem_append.mp hd with hd | hd
    · exact hchars d (List.mem_cons_of_mem _ hd)
    · exact hword d hd
  rw [isIdentifier, append_not_reserved hreserved, Bool.not_false, Bool.and_true,
    String.toList_append, hs, List.cons_append, isWord_iff (hchars c List.mem_cons_self) hbehind]

end ApiScaffold.Naming
