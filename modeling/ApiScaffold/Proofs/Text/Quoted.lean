import ApiScaffold.Proofs.Code.Token

/-!
# Every text has a string literal

A string literal is read from its opening quote up to the first quote that no backslash escapes.
In between, every character stands for itself but for the backslash, which begins an escape, and a
carriage return, which may not stand there; an escape is one letter, a byte in two hexadecimal
digits, a code point in braces, or the end of a line, which the blanks behind it belong to.

The tokens of a line of code are read by fewer rules (`Code.advance`), enough for the literals that
are generated.  What those rules take for a part of a literal, the full rules read alike
(`reads_of_advance`), so what is known of tokens carries over, and the characters of a literal are
looked at one by one only for what is not a matter of reading: quotes and ends of lines.

* `Place.step`, `readLiteral`: the rules, **for any literal**, not only for those that are written
  here.
* `bareQuotes`: the quotes that no backslash escapes.
* `encode_isLiteral`: **the literal of a text is one literal in one line, and it is read back as
  the text.**
-/

namespace ApiScaffold.Text.Quoted

open Code (Begun advance)

/-! ## Reading a literal -/

/-- Where the reading of a literal stands. -/
inductive Place
  | between
  | escape
  /-- Behind the letter that announces a byte. -/
  | byte
  | byteDigit (high : Nat)
  /-- Behind the letter that announces a code point. -/
  | opening
  /-- Behind so many hexadecimal digits of a code point. -/
  | code (count n : Nat)
  /-- Behind the end of a line that is escaped: the blanks that follow stand for nothing. -/
  | continued
  deriving DecidableEq

/-- Whether a quote ends the literal. -/
def Place.isOpen : Place → Bool
  | between | continued => true
  | _ => false

/-- What a character that stands between escapes does. -/
def stepBetween (c : Char) : Option (List Char × Place) :=
  if c = '\\' then some ([], .escape)
  else if c = '\r' then none
  else some ([c], .between)

/-- What a character does: the characters that it stands for, and where the reading is then. -/
def Place.step (c : Char) : Place → Option (List Char × Place)
  | between => stepBetween c
  | escape =>
    if c = 'x' then some ([], byte)
    else if c = 'u' then some ([], opening)
    else if c = '\n' then some ([], continued)
    else (Code.escaped? c).map fun d => ([d], between)
  | byte => ((Pattern.hexDigit? c).filter (· < 8)).map fun d => ([], byteDigit d)
  | byteDigit high =>
    (Pattern.hexDigit? c).map fun d => ([Char.ofNat (high * 16 + d)], between)
  | opening => if c = '\x7b' then some ([], code 0 0) else none
  | code count n =>
    if c = '\x7d' then
      if 1 ≤ count && count ≤ 6 then (Pattern.charOf? n).map fun d => ([d], between) else none
    else if c = '_' then if 1 ≤ count then some ([], code count n) else none
    else (Pattern.hexDigit? c).map fun d => ([], code (count + 1) (n * 16 + d))
  | continued =>
    if c = ' ' ∨ c = '\t' ∨ c = '\n' ∨ c = '\r' then some ([], continued) else stepBetween c

/-- What is read up to the quote that ends a literal, and what stands behind it. -/
def readFrom : Place → List Char → Option (List Char × List Char)
  | _, [] => none
  | place, c :: cs =>
    if c = '"' ∧ place.isOpen = true then some ([], cs)
    else do
      let (read, next) ← place.step c
      let (later, rest) ← readFrom next cs
      return (read ++ later, rest)

/-- The text of the literal that a text begins with, and what stands behind it. -/
def readLiteral : List Char → Option (List Char × List Char)
  | '"' :: cs => readFrom .between cs
  | _ => none

example : readLiteral "\"\\x41\\u\x7b1F_600\x7d\\\n  b\\\\\" \"".toList =
    some ("A😀b\\".toList, " \"".toList) := by decide +kernel

variable {place place' place'' : Place} {begun begun' next : Begun}
  {xs ys cs vs ws rest : List Char} {c : Char}

/-- Some characters within a literal stand for others, and lead to a place. -/
def Reads (place : Place) (xs vs : List Char) (place' : Place) : Prop :=
  ∀ rest, readFrom place (xs ++ rest) =
    (readFrom place' rest).map fun r => (vs ++ r.1, r.2)

theorem reads_nil (place : Place) : Reads place [] [] place := by
  intro rest
  rw [List.nil_append]
  cases readFrom place rest <;> rfl

theorem reads_cons (hquote : ¬(c = '"' ∧ place.isOpen = true))
    (hstep : place.step c = some (vs, place')) (hrest : Reads place' xs ws place'') :
    Reads place (c :: xs) (vs ++ ws) place'' := by
  intro rest
  rw [List.cons_append, readFrom, if_neg hquote, hstep]
  show (readFrom place' (xs ++ rest) >>= _) = _
  rw [hrest rest]
  cases readFrom place'' rest with
  | none => rfl
  | some r => simp

/-! ## What the tokens say -/

/-- The place that has been reached within a literal, and the characters read so far. -/
def placeOf? : Begun → Option (List Char × Place)
  | .literal cs => some (cs, .between)
  | .escape cs => some (cs, .escape)
  | .code cs => some (cs, .opening)
  | .digits cs count n => some (cs, .code count n)
  | _ => none

/-- One step of the tokens within a literal is one of the full rules. -/
theorem step_of_begun (hplace : placeOf? begun = some (cs, place))
    (hstep : begun.step c = some ([], next)) :
    ¬(c = '"' ∧ place.isOpen = true) ∧
      ∃ vs place', placeOf? next = some (cs ++ vs, place') ∧
        place.step c = some (vs, place') := by
  cases begun with
  | nothing | word _ | number _ => cases hplace
  | literal read =>
    cases hplace
    rw [Begun.step] at hstep
    by_cases hquote : c = '"'
    · rw [if_pos hquote] at hstep
      cases hstep
    rw [if_neg hquote] at hstep
    refine ⟨fun h => hquote h.1, ?_⟩
    rw [Place.step, stepBetween]
    by_cases hslash : c = '\\'
    · rw [if_pos hslash] at hstep ⊢
      cases hstep
      exact ⟨[], .escape, by rw [List.append_nil]; rfl, rfl⟩
    by_cases hreturn : c = '\r'
    · rw [if_neg hslash, if_pos hreturn] at hstep
      cases hstep
    rw [if_neg hslash, if_neg hreturn] at hstep ⊢
    cases hstep
    exact ⟨[c], .between, rfl, rfl⟩
  | escape read =>
    cases hplace
    refine ⟨fun h => absurd h.2 Bool.false_ne_true, ?_⟩
    rw [Begun.step] at hstep
    rw [Place.step]
    by_cases hcode : c = 'u'
    · subst hcode
      cases hstep
      exact ⟨[], .opening, by rw [List.append_nil]; rfl, rfl⟩
    rw [if_neg hcode, Option.map_eq_some_iff] at hstep
    obtain ⟨d, hd, hstep⟩ := hstep
    cases hstep
    -- the letter of a byte and the end of a line are no letters that the tokens know
    have hbyte : c ≠ 'x' := by rintro rfl; cases hd
    have hline : c ≠ '\n' := by rintro rfl; cases hd
    rw [if_neg hbyte, if_neg hcode, if_neg hline, hd]
    exact ⟨[d], .between, rfl, rfl⟩
  | code read =>
    cases hplace
    refine ⟨fun h => absurd h.2 Bool.false_ne_true, ?_⟩
    rw [Begun.step] at hstep
    rw [Place.step]
    by_cases hbrace : c = '\x7b'
    · rw [if_pos hbrace] at hstep ⊢
      cases hstep
      exact ⟨[], .code 0 0, by rw [List.append_nil]; rfl, rfl⟩
    · rw [if_neg hbrace] at hstep
      cases hstep
  | digits read count n =>
    cases hplace
    refine ⟨fun h => absurd h.2 Bool.false_ne_true, ?_⟩
    rw [Begun.step] at hstep
    rw [Place.step]
    by_cases hbrace : c = '\x7d'
    · rw [if_pos hbrace] at hstep ⊢
      by_cases hcount : (1 ≤ count && count ≤ 6) = true
      · rw [if_pos hcount, Option.map_eq_some_iff] at hstep
        obtain ⟨d, hd, hstep⟩ := hstep
        cases hstep
        rw [if_pos hcount, hd]
        exact ⟨[d], .between, rfl, rfl⟩
      · rw [if_neg hcount] at hstep
        cases hstep
    rw [if_neg hbrace, Option.map_eq_some_iff] at hstep
    obtain ⟨d, hd, hstep⟩ := hstep
    cases hstep
    have hunderscore : c ≠ '_' := by
      rintro rfl
      cases hd
    rw [if_neg hbrace, if_neg hunderscore, hd]
    exact ⟨[], .code (count + 1) (n * 16 + d), by rw [List.append_nil]; rfl, rfl⟩

/-- **What the tokens take for a part of a literal is read alike by the full rules.** -/
theorem reads_of_advance (hplace : placeOf? begun = some (cs, place))
    (hadvance : advance begun xs = some ([], begun'))
    (hplace' : placeOf? begun' = some (ys, place')) :
    ∃ vs, ys = cs ++ vs ∧ Reads place xs vs place' := by
  induction xs generalizing begun cs place with
  | nil =>
    cases hadvance
    rw [hplace] at hplace'
    cases hplace'
    exact ⟨[], (List.append_nil _).symm, reads_nil _⟩
  | cons x xs ih =>
    obtain ⟨⟨first, next⟩, hstep, hadvance⟩ := Option.bind_eq_some_iff.mp hadvance
    obtain ⟨⟨later, last⟩, hlater, hadvance⟩ := Option.bind_eq_some_iff.mp hadvance
    simp only [Option.pure_def, Option.some.injEq, Prod.mk.injEq, List.append_eq_nil_iff] at hadvance
    obtain ⟨⟨rfl, rfl⟩, rfl⟩ := hadvance
    obtain ⟨hquote, vs, place₁, hnext, hplaceStep⟩ := step_of_begun hplace hstep
    obtain ⟨ws, rfl, hws⟩ := ih hnext hlater
    exact ⟨vs ++ ws, List.append_assoc .., reads_cons hquote hplaceStep hws⟩

/-- The characters between the quotes of a literal stand for the text. -/
theorem reads_encodeBody (xs : List Char) : Reads .between (encodeBody xs) xs .between := by
  have hplace : placeOf? (.literal []) = some ([], .between) := rfl
  obtain ⟨vs, hvs, hreads⟩ := reads_of_advance hplace (Code.advance_encodeBody [] xs) rfl
  rw [List.nil_append, List.nil_append] at hvs
  exact hvs ▸ hreads

/-! ## Quotes and ends of lines -/

/-- How many double quotes of a text no backslash escapes. -/
def bareQuotes : List Char → Nat
  | [] => 0
  | '\\' :: _ :: cs => bareQuotes cs
  | '"' :: cs => bareQuotes cs + 1
  | _ :: cs => bareQuotes cs

theorem bareQuotes_cons (hquote : c ≠ '"') (hslash : c ≠ '\\') :
    bareQuotes (c :: cs) = bareQuotes cs := by
  rw [bareQuotes.eq_def]
  split <;> simp_all

theorem bareQuotes_append (h : ∀ c ∈ xs, c ≠ '"' ∧ c ≠ '\\') (rest : List Char) :
    bareQuotes (xs ++ rest) = bareQuotes rest := by
  induction xs with
  | nil => rfl
  | cons x xs ih =>
    obtain ⟨⟨hquote, hslash⟩, hxs⟩ := List.forall_mem_cons.mp h
    rw [List.cons_append, bareQuotes_cons hquote hslash, ih hxs]

/-- The characters that end a line, in the sense of the character standard. -/
def lineEnds : List Char := ['\n', '\x0b', '\x0c', '\r', '\u0085', '\u2028', '\u2029']

theorem not_lineEnd_of_isPrintable (h : isPrintable c = true) : c ∉ lineEnds := by
  have hends : lineEnds.all (fun d => isPrintable d = false) = true := by decide +kernel
  intro hmem
  rw [of_decide_eq_true (List.all_eq_true.mp hends c hmem)] at h
  cases h

theorem of_mem_hexDigits {n : Nat} (h : c ∈ hexDigits n) :
    isPrintable c = true ∧ c ≠ '"' ∧ c ≠ '\\' := by
  have hdigits : ∀ d < 16, isPrintable (Nat.digitChar d) = true ∧ Nat.digitChar d ≠ '"' ∧
      Nat.digitChar d ≠ '\\' := by decide +kernel
  induction n using Nat.strongRecOn with
  | ind n ih =>
    by_cases hn : n < 16
    · rw [hexDigits, Nat.toDigits_of_lt_base hn, List.mem_singleton] at h
      subst h
      exact hdigits n hn
    · have hlast : hexDigits n = hexDigits (n / 16) ++ [Nat.digitChar (n % 16)] :=
        Nat.toDigits_of_base_le (by decide) (Nat.le_of_not_lt hn)
      rw [hlast, List.mem_append, List.mem_singleton] at h
      rcases h with h | rfl
      · exact ih (n / 16) (Nat.div_lt_self (by omega) (by decide)) h
      · exact hdigits (n % 16) (Nat.mod_lt n (by decide))

/-- The three ways in which a character stands in a literal: as a letter behind a backslash, as
itself, or as its code point. -/
inductive Stands (c : Char) : List Char → Prop
  | letter (d : Char) (h : isPrintable d = true) : Stands c ['\\', d]
  | itself (h : isPrintable c = true) (hquote : c ≠ '"') (hslash : c ≠ '\\') : Stands c [c]
  | code : Stands c (['\\', 'u', '\x7b'] ++ hexDigits c.toNat ++ ['\x7d'])

theorem stands_encodeChar (c : Char) : Stands c (encodeChar c) := by
  unfold encodeChar
  split
  · exact .letter _ (by decide)
  split
  · exact .letter _ (by decide)
  split
  · exact .letter _ (by decide)
  split
  · exact .letter _ (by decide)
  split
  · exact .letter _ (by decide)
  next hslash =>
  split
  · exact .letter _ (by decide)
  next hquote =>
  split
  · next hprintable =>
    rw [Bool.and_eq_true] at hprintable
    exact .itself hprintable.2 hquote hslash
  split
  · exact .code
  next hprintable =>
  rw [Bool.or_eq_true, not_or, Bool.not_eq_true', Bool.not_eq_false] at hprintable
  exact .itself hprintable.2 hquote hslash

/-- The characters of a literal have a printed form. -/
theorem isPrintable_of_mem_encodeChar {d : Char} (h : d ∈ encodeChar c) : isPrintable d = true := by
  have hstands := stands_encodeChar c
  generalize encodeChar c = written at h hstands
  cases hstands with
  | letter e he =>
    rcases List.mem_pair.mp h with rfl | rfl
    · decide
    · exact he
  | itself hc =>
    rw [List.mem_singleton.mp h]
    exact hc
  | code =>
    have hmarks : ∀ e ∈ ['\\', 'u', '\x7b', '\x7d'], isPrintable e = true :=
      List.all_eq_true.mp (by decide)
    simp only [List.mem_append] at h
    rcases h with (h | h) | h
    · exact hmarks d (List.mem_append_left ['\x7d'] h)
    · exact (of_mem_hexDigits h).1
    · exact hmarks d (List.mem_append_right ['\\', 'u', '\x7b'] h)

/-- No quote of a character in a literal is bare. -/
theorem bareQuotes_encodeChar (c : Char) (rest : List Char) :
    bareQuotes (encodeChar c ++ rest) = bareQuotes rest := by
  have hstands := stands_encodeChar c
  generalize encodeChar c = written at hstands
  cases hstands with
  | letter d _ => rfl
  | itself _ hquote hslash => exact bareQuotes_cons hquote hslash
  | code =>
    have hplain : ∀ d ∈ '\x7b' :: (hexDigits c.toNat ++ ['\x7d']), d ≠ '"' ∧ d ≠ '\\' := by
      have hmarks : ∀ e ∈ ['\x7b', '\x7d'], e ≠ '"' ∧ e ≠ '\\' := by simp
      intro d hd
      rw [List.mem_cons, List.mem_append] at hd
      rcases hd with hd | hd | hd
      · exact hmarks d (hd ▸ List.mem_cons_self)
      · exact (of_mem_hexDigits hd).2
      · exact hmarks d (List.mem_cons_of_mem _ hd)
    rw [← bareQuotes_append hplain rest]
    simp [bareQuotes]

theorem bareQuotes_encodeBody (xs rest : List Char) :
    bareQuotes (encodeBody xs ++ rest) = bareQuotes rest := by
  induction xs with
  | nil => rfl
  | cons x xs ih =>
    rw [encodeBody, List.flatMap_cons, List.append_assoc, bareQuotes_encodeChar]
    exact ih

/-! ## The literal of a text -/

/-- A text is one string literal, in one line, that denotes a value.  It stands between two bare
quotes, with no other between them and no escape left open before the second; no character ends a
line; and reading it from its beginning gives the value and stops right behind it. -/
structure IsLiteral (text value : List Char) : Prop where
  quoted : ∃ body, text = '"' :: body ++ ['"'] ∧
    ∀ rest, bareQuotes (body ++ rest) = bareQuotes rest
  one_line : ∀ c ∈ text, c ∉ lineEnds
  read : ∀ rest, readLiteral (text ++ rest) = some (value, rest)

/-- **The literal of a text is one string literal in one line, and it is read back as the text.** -/
theorem encode_isLiteral (s : String) : IsLiteral (encode s).toList s.toList := by
  rw [encode, String.toList_ofList]
  refine ⟨⟨encodeBody s.toList, rfl, bareQuotes_encodeBody s.toList⟩, ?_, ?_⟩
  · intro c hc
    refine not_lineEnd_of_isPrintable ?_
    have hquote : isPrintable '"' = true := by decide
    rw [encodeChars, List.mem_append, List.mem_cons, List.mem_singleton] at hc
    rcases hc with (rfl | hc) | rfl
    · exact hquote
    · obtain ⟨d, -, hd⟩ := List.mem_flatMap.mp hc
      exact isPrintable_of_mem_encodeChar hd
    · exact hquote
  · intro rest
    have hbody := reads_encodeBody s.toList ('"' :: rest)
    rw [encodeChars, List.append_assoc]
    show readFrom .between (encodeBody s.toList ++ '"' :: rest) = _
    rw [hbody]
    show some (s.toList ++ [], rest) = _
    rw [List.append_nil]

end ApiScaffold.Text.Quoted
