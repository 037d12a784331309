import ApiScaffold.Proofs.Naming
import ApiScaffold.Proofs.Text.Split
import Mathlib.Data.List.Chain

/-!
# Names of ASCII texts

In an ASCII text the letters and the digits are the characters that a name is made of; the others
mark its words or are dropped.  So the lower case words hold nothing but lower case letters, digits
and the marks between them, and the words joined by their capitals hold nothing but letters and
digits.  What a name begins with is decided by the first letter or digit of the text, whatever
stands before it.

* `isAscii_of_written`, `isNameChar_of_mem_snakeChars`: the characters of lower case words.
* `head?_snakeChars`: **lower case words begin with the first letter or digit**, in lower case.
* `isSnake_snakeChars`, `snakeChars_of_isSnake`: **there is one mark between two of the words, and
such words stay as they are.**
* `isAsciiAlphanumeric_of_mem_properChars`: the characters of words joined by their capitals.
* `head?_properChars`: **joined words begin with the first letter or digit**, in upper case.
* `field_of_ascii`: **the name of a field is one of lower case words, and no word of the language.**
-/

namespace ApiScaffold.Naming

open Text

variable {c d : Char} {cs : List Char}

/-! ## ASCII characters -/

theorem isUpper_ascii (h : isAscii c = true) : isUpper c = isAsciiUpper c := if_pos h

theorem isAlphanumeric_ascii (h : isAscii c = true) : isAlphanumeric c = isAsciiAlphanumeric c := by
  rw [isAlphanumeric, isAlphabetic, isNumeric, if_pos h, if_pos h, isAsciiAlphanumeric]

theorem lowerForm_eq (h : isAscii c = true) : lowerForm c = [asciiLower c] := lowerForm_ascii h

theorem upperForm_eq (h : isAscii c = true) : upperForm c = [asciiUpper c] := upperForm_ascii h

theorem isAscii_asciiLower (h : isAscii c = true) : isAscii (asciiLower c) = true :=
  of_ascii (p := fun c => isAscii (asciiLower c)) (by decide +kernel) h

theorem isAscii_of_isNameChar (h : isNameChar c = true) : isAscii c = true := by
  simp only [isNameChar, isAsciiLower, isAsciiDigit, Bool.or_eq_true, Bool.and_eq_true,
    decide_eq_true_eq, beq_iff_eq] at h
  rcases h with (⟨-, h⟩ | ⟨-, h⟩) | rfl
  · exact decide_eq_true (Nat.lt_of_le_of_lt h (by decide))
  · exact decide_eq_true (Nat.lt_of_le_of_lt h (by decide))
  · decide

theorem asciiUpper_asciiLower (h : isAscii c = true) :
    asciiUpper (asciiLower c) = asciiUpper c := by
  have hcode := of_ascii (p := fun c => asciiUpper (asciiLower c) == asciiUpper c)
    (by decide +kernel) h
  exact eq_of_beq hcode

/-- A letter or a digit in lower case is no mark. -/
theorem asciiLower_ne_mark (h : isAscii c = true) (hc : isAsciiAlphanumeric c = true) :
    ¬(asciiLower c == '_') = true := by
  have hcode := of_ascii (p := fun c => !isAsciiAlphanumeric c || !(asciiLower c == '_'))
    (by decide +kernel) h
  simpa [hc] using hcode

/-! ## Lower case words -/

theorem isAscii_of_written (hascii : ∀ d ∈ cs, isAscii d = true) (h : Written cs c) :
    isAscii c = true := by
  cases h with
  | mark => decide
  | @lowered _ d hd _ hform =>
    rw [lowerForm_eq (hascii d hd), List.mem_singleton] at hform
    exact hform ▸ isAscii_asciiLower (hascii d hd)
  | kept hc => exact hascii c hc

/-- The lower case words of an ASCII text hold lower case letters, digits and marks only. -/
theorem isNameChar_of_mem_snakeChars (hascii : ∀ d ∈ cs, isAscii d = true)
    (h : c ∈ snakeChars cs) : isNameChar c = true :=
  tame_of_mem_snakeChars h (isAscii_of_written hascii (written_of_mem_snakeChars h))

/-- Before the first letter or digit nothing is written. -/
theorem head?_snakeFrom (hascii : ∀ d ∈ cs, isAscii d = true) :
    (snakeFrom none false cs).head? = (cs.find? isAsciiAlphanumeric).map asciiLower := by
  induction cs with
  | nil => rfl
  | cons x xs ih =>
    have hx := hascii x List.mem_cons_self
    have hrest := ih fun d hd => hascii d (List.mem_cons_of_mem _ hd)
    rw [snakeFrom, isUpper_ascii hx, isAlphanumeric_ascii hx, lowerForm_eq hx]
    split
    · next hupper =>
      have hletter : isAsciiAlphanumeric x = true := by
        rw [isAsciiAlphanumeric, isAsciiLetter, hupper]
        rfl
      rw [List.find?_cons_of_pos hletter]
      rfl
    · next hupper =>
      split
      · next hletter =>
        rw [List.find?_cons_of_pos hletter, Option.map_some, List.head?_cons, asciiLower,
          if_neg hupper]
      · next hletter =>
        rw [List.find?_cons_of_neg hletter]
        split
        · exact hrest
        · exact hrest

/-- **Lower case words begin with the first letter or digit of the text**, in lower case. -/
theorem head?_snakeChars (hascii : ∀ d ∈ cs, isAscii d = true) :
    (snakeChars cs).head? = (cs.find? isAsciiAlphanumeric).map asciiLower := by
  rw [snakeChars, head?_trimWhile, ← head?_snakeFrom hascii]
  cases hchars : snakeFrom none false cs with
  | nil => rfl
  | cons x xs =>
    have hhead := head?_snakeFrom hascii
    rw [hchars] at hhead
    obtain ⟨d, hd, rfl⟩ := Option.map_eq_some_iff.mp hhead.symm
    have hmark := asciiLower_ne_mark (hascii d (List.mem_of_find?_eq_some hd)) (List.find?_some hd)
    rw [List.dropWhile_cons_of_neg (p := (· == '_')) hmark]

/-! ## One mark between two words -/

/-- Two characters of which one is no mark. -/
def NotMarks (c d : Char) : Prop := ¬(c = '_' ∧ d = '_')

instance : DecidableRel NotMarks := fun c d => inferInstanceAs (Decidable ¬(c = '_' ∧ d = '_'))

/-- Lower case words with one mark between two of them and none at the ends. -/
structure IsSnake (cs : List Char) : Prop where
  chars : ∀ c ∈ cs, isNameChar c = true
  first : cs.head? ≠ some '_'
  last : cs.getLast? ≠ some '_'
  single : cs.IsChain NotMarks

section Marks

variable {last : Option Char} {afterLower : Bool}

theorem isChain_behind (last : Option Char) (hc : c ≠ '_') (h : (c :: cs).IsChain NotMarks) :
    (last.toList ++ c :: cs).IsChain NotMarks := by
  cases last with
  | none => exact h
  | some d =>
    apply List.IsChain.cons_cons _ h
    intro hmarks
    exact hc hmarks.2

/-- **No two marks are written one behind the other.**  A capital has a mark before it only behind
a lower case letter or a digit, so the character that was written last goes through the
induction. -/
theorem isChain_snakeFrom (last : Option Char) (afterLower : Bool)
    (hascii : ∀ d ∈ cs, isAscii d = true)
    (hlast : afterLower = true → ∃ c, last = some c ∧ c ≠ '_') :
    (last.toList ++ snakeFrom last afterLower cs).IsChain NotMarks := by
  induction cs generalizing last afterLower with
  | nil => cases last <;> simp [snakeFrom]
  | cons x xs ih =>
    obtain ⟨hx, hxs⟩ := List.forall_mem_cons.mp hascii
    rw [snakeFrom, isUpper_ascii hx, isAlphanumeric_ascii hx, lowerForm_eq hx]
    by_cases hletter : isAsciiAlphanumeric x = true
    · have hlower : asciiLower x ≠ '_' := by simpa using asciiLower_ne_mark hx hletter
      by_cases hupper : isAsciiUpper x = true
      · have hrest : (asciiLower x :: snakeFrom (some (asciiLower x)) false xs).IsChain NotMarks :=
          ih (some (asciiLower x)) false hxs (by simp)
        cases afterLower with
        | false => simpa [hupper] using isChain_behind last hlower hrest
        | true =>
          obtain ⟨d, rfl, hd⟩ := hlast rfl
          have hbehind := isChain_behind (some '_') hlower hrest
          have hchain := hbehind.cons_cons (R := NotMarks) fun hmarks : d = '_' ∧ _ => hd hmarks.1
          simpa [hupper] using hchain
      · have hsame : asciiLower x = x := by rw [asciiLower, if_neg hupper]
        rw [hsame] at hlower
        have hrest : (x :: snakeFrom (some x) (isLower x || isAsciiDigit x) xs).IsChain NotMarks :=
          ih (some x) _ hxs fun _ => ⟨x, rfl, hlower⟩
        simpa [hupper, hletter] using isChain_behind last hlower hrest
    · have hupper : ¬isAsciiUpper x = true := by
        intro hupper
        apply hletter
        simp [isAsciiAlphanumeric, isAsciiLetter, hupper]
      rw [if_neg hupper, if_neg hletter]
      by_cases hseparator : isSeparator x = true
      · rw [if_pos hseparator]
        by_cases hwritten : (last.isSome && last != some '_') = true
        · rw [if_pos hwritten]
          have hrest : ('_' :: snakeFrom (some '_') false xs).IsChain NotMarks :=
            ih (some '_') false hxs (by simp)
          cases last with
          | none => simp at hwritten
          | some d =>
            have hd : d ≠ '_' := by simpa using hwritten
            exact .cons_cons (fun hmarks => hd hmarks.1) hrest
        · rw [if_neg hwritten]
          exact ih last false hxs (by simp)
      · rw [if_neg hseparator]
        exact ih last afterLower hxs hlast

/-- **The words of an ASCII text have one mark between two of them.** -/
theorem isSnake_snakeChars (hascii : ∀ d ∈ cs, isAscii d = true) : IsSnake (snakeChars cs) where
  chars _ hc := isNameChar_of_mem_snakeChars hascii hc
  first hfirst := by simpa using (trimWhile_ends _ _).1 '_' hfirst
  last hlast := by simpa using (trimWhile_ends _ _).2 '_' hlast
  single := by
    have hchain : (snakeFrom none false cs).IsChain NotMarks :=
      isChain_snakeFrom none false hascii (by simp)
    exact hchain.infix (isInfix_trimWhile _ _)

/-- A character of names that is no mark is a letter in lower case or a digit. -/
theorem letter_of_isNameChar (h : isNameChar c = true) (hc : c ≠ '_') :
    isUpper c = false ∧ isAlphanumeric c = true := by
  have hcode := of_ascii
    (p := fun c => !isNameChar c || c == '_' || !isUpper c && isAlphanumeric c) (by decide +kernel)
    (isAscii_of_isNameChar h)
  simpa [h, hc] using hcode

theorem snakeFrom_of_isChain (hchars : ∀ c ∈ cs, isNameChar c = true)
    (hsingle : (last.toList ++ cs).IsChain NotMarks)
    (hfirst : last = none → cs.head? ≠ some '_') : snakeFrom last afterLower cs = cs := by
  induction cs generalizing last afterLower with
  | nil => rfl
  | cons x xs ih =>
    obtain ⟨hx, hxs⟩ := List.forall_mem_cons.mp hchars
    have hbehind : (x :: xs).IsChain NotMarks := hsingle.suffix (List.suffix_append _ _)
    have hrest : ∀ b, snakeFrom (some x) b xs = xs := by
      intro b
      exact ih hxs hbehind (by simp)
    by_cases hmark : x = '_'
    · -- the mark is written, for there is something before it that is none
      have hwritten : (last.isSome && last != some '_') = true := by
        cases last with
        | none => simp [hmark] at hfirst
        | some d =>
          have hmarks : NotMarks d x := (List.isChain_cons_cons.mp hsingle).1
          simpa [NotMarks, hmark] using hmarks
      have hkind : isUpper '_' = false ∧ isAlphanumeric '_' = false ∧ isSeparator '_' = true := by
        decide
      rw [hmark] at hrest
      rw [hmark, snakeFrom]
      simp [hkind, hwritten, hrest]
    · obtain ⟨hupper, hletter⟩ := letter_of_isNameChar hx hmark
      rw [snakeFrom]
      simp [hupper, hletter, hrest]

/-- **Words with one mark between two of them stay as they are.** -/
theorem snakeChars_of_isSnake (h : IsSnake cs) : snakeChars cs = cs := by
  have hwords : snakeFrom none false cs = cs :=
    snakeFrom_of_isChain h.chars h.single fun _ => h.first
  rw [snakeChars, hwords]
  apply trimWhile_of_ends
  · intro c hc
    have hne : c ≠ '_' := fun heq => h.first (heq ▸ hc)
    simpa using hne
  · intro c hc
    have hne : c ≠ '_' := fun heq => h.last (heq ▸ hc)
    simpa using hne

end Marks

/-! ## Words joined by their capitals -/

/-- The joined words of an ASCII text hold letters and digits only. -/
theorem isAsciiAlphanumeric_of_mem_properChars (hascii : ∀ d ∈ cs, isAscii d = true)
    (h : c ∈ properChars cs) : isAsciiAlphanumeric c = true := by
  obtain ⟨word, hword, hc⟩ := List.mem_flatMap.mp h
  have hchar : ∀ d ∈ word, isAscii d = true ∧ isNameChar d = true ∧ (d == '_') = false := by
    intro d hd
    obtain ⟨hmem, hmark⟩ := mem_of_mem_splitWhere hword hd
    have hname := isNameChar_of_mem_snakeChars hascii hmem
    exact ⟨isAscii_of_isNameChar hname, hname, hmark⟩
  cases word with
  | nil => cases hc
  | cons x xs =>
    rcases List.mem_append.mp hc with hfirst | hrest
    · obtain ⟨hx, hname, hmark⟩ := hchar x List.mem_cons_self
      rw [upperForm_eq hx, List.mem_singleton] at hfirst
      have hcode := of_ascii
        (p := fun c => !isNameChar c || c == '_' || isAsciiAlphanumeric (asciiUpper c))
        (by decide +kernel) hx
      simpa [hname, hmark, ← hfirst] using hcode
    · obtain ⟨-, hname, hmark⟩ := hchar c (List.mem_cons_of_mem _ hrest)
      rw [isNameChar, hmark, Bool.or_false] at hname
      rw [isAsciiAlphanumeric, isAsciiLetter]
      rw [Bool.or_eq_true] at hname ⊢
      exact hname.imp_left fun hlower => by rw [hlower, Bool.or_true]

/-- **Joined words begin with the first letter or digit of the text**, in upper case. -/
theorem head?_properChars (hascii : ∀ d ∈ cs, isAscii d = true) :
    (properChars cs).head? = (cs.find? isAsciiAlphanumeric).map asciiUpper := by
  have hhead := head?_snakeChars hascii
  cases hchars : snakeChars cs with
  | nil =>
    rw [hchars] at hhead
    rw [properChars, hchars, Option.map_eq_none_iff.mp hhead.symm]
    rfl
  | cons x xs =>
    rw [hchars] at hhead
    obtain ⟨d, hd, rfl⟩ := Option.map_eq_some_iff.mp hhead.symm
    have hdascii := hascii d (List.mem_of_find?_eq_some hd)
    have hmark := asciiLower_ne_mark hdascii (List.find?_some hd)
    rw [properChars, hchars, splitWhere, if_neg hmark, hd]
    have hupper : upperForm (asciiLower d) = [asciiUpper d] := by
      rw [upperForm_eq (isAscii_asciiLower hdascii), asciiUpper_asciiLower hdascii]
    split <;> simp [capitalize, hupper]

/-! ## Names of fields -/

/-- The words that the language uses. -/
def usedWords : List String :=
  ["as", "async", "await", "break", "const", "continue", "crate", "dyn", "else", "enum", "extern",
    "false", "fn", "for", "if", "impl", "in", "let", "loop", "match", "mod", "move", "mut", "pub",
    "ref", "return", "self", "Self", "static", "struct", "super", "trait", "true", "type", "unsafe",
    "use", "where", "while"]

/-- The words that the language keeps for later use. -/
def keptWords : List String :=
  ["abstract", "become", "box", "do", "final", "gen", "macro", "override", "priv", "try", "typeof",
    "unsized", "virtual", "yield"]

section Field

variable {s word : String} {name : List Char}

/-- What the words of the language have in common: each is kept from fields or begins with a
capital, and none has a mark at its second place or at its end. -/
theorem of_mem_words (h : word ∈ usedWords ++ keptWords) :
    (word ∈ keywords ∨ ∃ c ∈ word.toList.head?, isAsciiUpper c = true) ∧
      word.toList[1]? ≠ some '_' ∧ word.toList.getLast? ≠ some '_' ∧ word ≠ "param" := by
  have hwords : (usedWords ++ keptWords).all (fun word =>
      (keywords.contains word || word.toList.head?.any isAsciiUpper) &&
        (word.toList[1]? != some '_' && (word.toList.getLast? != some '_' && word != "param"))) =
      true := by decide
  have hword := List.all_eq_true.mp hwords word h
  rw [Bool.and_eq_true, Bool.or_eq_true, List.contains_iff_mem, Option.any_eq_true] at hword
  obtain ⟨hkept, hends⟩ := hword
  refine ⟨hkept, ?_⟩
  simpa using hends

/-- What begins with a lower case letter and goes on with letters, digits and single marks. -/
structure IsFieldName (cs : List Char) : Prop where
  first : ∃ c ∈ cs.head?, isAsciiLower c = true
  chars : ∀ c ∈ cs, isNameChar c = true
  single : cs.IsChain NotMarks

theorem IsSnake.first_lower {rest : List Char} (h : IsSnake cs) (hcs : cs = c :: rest)
    (hdigit : isAsciiDigit c = false) : isAsciiLower c = true := by
  have hname : isNameChar c = true := h.chars c (by simp [hcs])
  have hmark : c ≠ '_' := by
    intro heq
    apply h.first
    simp [hcs, heq]
  simpa [isNameChar, hdigit, hmark] using hname

theorem isFieldName_of_form (h : IsSnake cs) (hform : FieldForm cs name) : IsFieldName name := by
  cases hform with
  | empty => exact ⟨⟨'p', by decide, by decide⟩, List.all_eq_true.mp (by decide), by decide⟩
  | @digit c rest hcs hc =>
    refine ⟨⟨'p', rfl, by decide⟩, ?_, ?_⟩
    · intro d hd
      rcases List.mem_cons.mp hd with rfl | hd
      · decide
      · rcases List.mem_cons.mp hd with rfl | hd
        · decide
        · exact h.chars d hd
    · have hmark : c ≠ '_' := by
        rintro rfl
        exact absurd hc (by decide)
      have hsingle := h.single
      rw [hcs] at hsingle ⊢
      exact .cons_cons (by decide) (isChain_behind (some '_') hmark hsingle)
  | keyword hcs hc =>
    refine ⟨⟨_, by rw [hcs]; rfl, h.first_lower hcs hc⟩, ?_, ?_⟩
    · intro d hd
      rcases List.mem_append.mp hd with hd | hd
      · exact h.chars d hd
      · rw [List.mem_singleton.mp hd]
        decide
    · refine List.isChain_append.mpr ⟨h.single, .singleton _, ?_⟩
      intro d hd e _ hmarks
      exact h.last (hmarks.1 ▸ hd)
  | word hcs hc => exact ⟨⟨_, by rw [hcs]; rfl, h.first_lower hcs hc⟩, h.chars, h.single⟩

theorem not_mem_words_of_form (h : IsSnake cs) (hform : FieldForm cs name) :
    String.ofList name ∉ usedWords ++ keptWords := by
  intro hmem
  obtain ⟨hkept, hsecond, hlast, hparam⟩ := of_mem_words hmem
  rw [String.toList_ofList] at hkept hsecond hlast
  cases hform with
  | empty => exact hparam rfl
  | digit => exact hsecond rfl
  | keyword => exact hlast (by simp)
  | word hcs hc hword =>
    rcases hkept with hkept | ⟨d, hd, hupper⟩
    · exact hword hkept
    · -- a capital is no letter in lower case
      rw [hcs] at hd
      cases hd
      have hname := h.chars _ (by rw [hcs]; exact List.mem_cons_self)
      have hcode := of_ascii (p := fun c => !isNameChar c || !isAsciiUpper c) (by decide +kernel)
        (isAscii_of_isNameChar hname)
      simp [hname, hupper] at hcode

/-- **The name of a field for an ASCII text** begins with a lower case letter, goes on with lower
case letters, digits and single marks, and is no word of the language.  The lower case words of
the text are the lower case words of themselves. -/
theorem field_of_ascii (hascii : ∀ c ∈ s.toList, isAscii c = true) :
    ((∃ c ∈ (field s).toList.head?, isAsciiLower c = true) ∧
        (∀ c ∈ (field s).toList, isAsciiLower c ∨ isAsciiDigit c ∨ c = '_') ∧
        (∀ before after, (field s).toList ≠ before ++ '_' :: '_' :: after) ∧
        field s ∉ usedWords ++ keptWords) ∧
      snake (snake s) = snake s := by
  have hsnake : IsSnake (snakeChars s.toList) := isSnake_snakeChars hascii
  have hname : IsFieldName (field s).toList := isFieldName_of_form hsnake (fieldForm s)
  refine ⟨⟨hname.first, ?_, ?_, ?_⟩, ?_⟩
  · intro c hc
    simpa [isNameChar, or_assoc] using hname.chars c hc
  · intro before after heq
    have hmarks := List.isChain_iff_forall_rel_of_append_cons_cons.mp hname.single heq
    exact hmarks ⟨rfl, rfl⟩
  · have hwords := not_mem_words_of_form hsnake (fieldForm s)
    rwa [String.ofList_toList] at hwords
  · rw [snake, snake, String.toList_ofList, snakeChars_of_isSnake hsnake]

/-- A keyword with a capital, behind separators and before a mark that is dropped. -/
theorem field_of_ascii_keyword :
    (∀ c ∈ "--Type!".toList, isAscii c = true) ∧ field "--Type!" = "type_" ∧
      field "--Type!" ∉ usedWords ++ keptWords ∧ snake (snake "--Type!") = snake "--Type!" := by
  have hascii : ∀ c ∈ "--Type!".toList, isAscii c = true := List.all_eq_true.mp (by decide)
  obtain ⟨⟨-, -, -, hword⟩, hsame⟩ := field_of_ascii hascii
  exact ⟨hascii, by decide +kernel, hword, hsame⟩

end Field

end ApiScaffold.Naming
