import ApiScaffold.Proofs.Text.Quoted
import ApiScaffold.Toml.Reader

/-!
# String literals in TOML texts

A string literal is written for a language whose escapes are not those of TOML.  The two share the
escapes of the tab, the ends of lines, the quote and the backslash; what has a printed form stands
for itself in both.  A character that is written as its code point in braces, and the null character
with its escape of its own, have a form that TOML does not read, and one such character spoils the
whole text.

* `isShared`: the characters whose written form is read.
* `readBasic_encodeBody`: **a literal is read back as its text if all its characters are shared, and
is not read at all otherwise**; the induction is on the characters, with what follows the literal as
an argument.
* `Writes`: the texts that are read as a value up to the end of their line; `writes_encode`,
`writes_unescaped` and `writes_false` are three kinds of them.
-/

namespace ApiScaffold.Toml

open Text (isAscii isPrintable isGraphemeExtend)
open Text.Quoted (encode encodeBody encodeChar encodeChars hexDigits)

variable {c d : Char} {cs rest : List Char}

/-! ## Characters -/

/-- Whether the form of a character in a string literal is read in TOML. -/
def isShared (c : Char) : Bool :=
  ['\t', '\n', '\r'].contains c || (isPrintable c && (isAscii c || !isGraphemeExtend c))

theorem isPlain_of_isPrintable (h : isPrintable c = true) : isPlain c = true := by
  by_cases hascii : isAscii c = true
  · rw [isPrintable, if_pos hascii, Bool.and_eq_true, decide_eq_true_iff, decide_eq_true_iff] at h
    have hdelete : c.toNat ≠ 0x7F := by
      have hle : c.toNat ≤ '~'.toNat := h.2
      have htilde : '~'.toNat = 0x7E := rfl
      omega
    simp [isPlain, h.1, hdelete]
  · have hlarge : 128 ≤ c.toNat := by simpa [isAscii] using hascii
    have hblank : ' ' ≤ c := by
      show (0x20 : Nat) ≤ c.toNat
      omega
    have hdelete : c.toNat ≠ 0x7F := by omega
    simp [isPlain, hblank, hdelete]

/-- Whether a character stands for itself between quotes. -/
def isUnescaped (c : Char) : Bool := isPlain c && c != '"' && c != '\\'

theorem readBasic_unescaped (h : isUnescaped c = true) :
    readBasic (c :: rest) = (readBasic rest).map (prepend c) := by
  simp only [isUnescaped, Bool.and_eq_true, bne_iff_ne] at h
  obtain ⟨⟨hplain, hquote⟩, hslash⟩ := h
  rw [readBasic.eq_6 _ _ hquote (by simp [hslash]) (by simp [hslash]) (by simp [hslash])]
  simp [hplain, hslash]

/-- A letter behind a backslash.  The two letters that announce a code point are none. -/
theorem readBasic_letter (h : escaped? d = some c) :
    readBasic ('\\' :: d :: rest) = (readBasic rest).map (prepend c) := by
  have hfour : d ≠ 'u' := by
    rintro rfl
    cases h
  have height : d ≠ 'U' := by
    rintro rfl
    cases h
  rw [readBasic.eq_5 _ _ (by simp [hfour]) (by simp [height]), h]
  cases readBasic rest <;> rfl

/-- A code point in braces is not read, whatever stands in them. -/
theorem readBasic_braces : readBasic ('\\' :: 'u' :: '\x7b' :: rest) = none := by
  match rest with
  | b :: c :: d :: rest =>
    have hdigit : hexValue? '\x7b' = none := rfl
    rw [readBasic.eq_3, codePoint?]
    simp [List.mapM_cons, hdigit]
  | [] | [_] | [_, _] => rfl

/-- The form of a character that is shared is read, whatever follows. -/
theorem readBasic_encodeChar (h : isShared c = true) :
    readBasic (encodeChar c ++ rest) = (readBasic rest).map (prepend c) := by
  unfold encodeChar
  split
  · next hnull =>
    subst hnull
    cases h
  split
  · next htab =>
    subst htab
    exact readBasic_letter rfl
  split
  · next hreturn =>
    subst hreturn
    exact readBasic_letter rfl
  split
  · next hfeed =>
    subst hfeed
    exact readBasic_letter rfl
  split
  · next hslash =>
    subst hslash
    exact readBasic_letter rfl
  split
  · next hquote =>
    subst hquote
    exact readBasic_letter rfl
  next htab hreturn hfeed hslash hquote =>
  have hprintable : isPrintable c = true ∧ (isAscii c = true ∨ isGraphemeExtend c = false) := by
    simpa [isShared, htab, hreturn, hfeed] using h
  have hplain : readBasic (c :: rest) = (readBasic rest).map (prepend c) :=
    readBasic_unescaped (by simp [isUnescaped, isPlain_of_isPrintable hprintable.1, hquote, hslash])
  split
  · exact hplain
  split
  · next hascii hcode =>
    simp_all
  · exact hplain

/-- The form of a character that is not shared is not read. -/
theorem readBasic_encodeChar_of_not (h : isShared c = false) :
    readBasic (encodeChar c ++ rest) = none := by
  have hother : ∀ d, isShared d = true → c ≠ d := by
    rintro d hd rfl
    rw [hd] at h
    cases h
  unfold encodeChar
  split
  · exact (readBasic.eq_5 '0' rest (by simp) (by simp)).trans rfl
  rw [if_neg (hother '\t' rfl), if_neg (hother '\r' rfl), if_neg (hother '\n' rfl),
    if_neg (hother '\\' rfl), if_neg (hother '"' rfl)]
  have hbraced : (isAscii c && isPrintable c) = false ∧
      (isGraphemeExtend c || !isPrintable c) = true := by
    simp only [isShared, Bool.or_eq_false_iff, Bool.and_eq_false_iff] at h
    rcases h with ⟨-, hprint | ⟨hascii, hextend⟩⟩
    · simp [hprint]
    · simp_all
  rw [hbraced.1, hbraced.2]
  exact readBasic_braces

/-- **A literal is read back as its text if all its characters are shared, and is not read at all
otherwise.** -/
theorem readBasic_encodeBody (cs rest : List Char) :
    readBasic (encodeBody cs ++ '"' :: rest) =
      if cs.all isShared then some (cs, rest) else none := by
  induction cs with
  | nil => rfl
  | cons c cs ih =>
    rw [encodeBody, List.flatMap_cons, List.append_assoc, List.all_cons]
    cases hc : isShared c with
    | false => exact readBasic_encodeChar_of_not hc
    | true =>
      rw [readBasic_encodeChar hc]
      show (readBasic (encodeBody cs ++ '"' :: rest)).map (prepend c) = _
      rw [ih, Bool.true_and]
      split <;> rfl

/-! ## Values -/

/-- A value that begins with one quote, and not with three. -/
theorem readValue_basic (depth : Nat) (h : ¬['"', '"'] <+: cs) :
    readValue depth ('"' :: cs) =
      (readBasic cs).map fun r => (.string (String.ofList r.1), r.2) := by
  have hthree : ∀ rest, '"' :: cs ≠ '"' :: '"' :: '"' :: rest := by
    intro rest hcs
    exact h ⟨rest, (List.cons.inj hcs).2.symm⟩
  rw [readValue.eq_1, readString.eq_3 _ hthree (by simp), readLineString, Option.map_map]
  rfl

/-- A closing quote is not followed by a second one. -/
theorem not_two_quotes (hcs : cs.head? ≠ some '"') (hrest : rest.head? ≠ some '"') :
    ¬['"', '"'] <+: cs ++ '"' :: rest := by
  rintro ⟨more, hmore⟩
  cases cs with
  | nil =>
    obtain rfl : '"' :: more = rest := (List.cons.inj hmore).2
    exact hrest rfl
  | cons c cs =>
    obtain rfl : '"' = c := (List.cons.inj hmore).1
    exact hcs rfl

/-- No literal has a quote in front that is not escaped. -/
theorem head?_encodeBody (cs : List Char) : (encodeBody cs).head? ≠ some '"' := by
  cases cs with
  | nil => exact nofun
  | cons c cs =>
    have hstands := Text.Quoted.stands_encodeChar c
    rw [encodeBody, List.flatMap_cons]
    generalize encodeChar c = written at hstands ⊢
    cases hstands with
    | letter d _ => simp
    | itself _ hquote _ => simp [hquote]
    | code => simp

theorem readBasic_of_unescaped (h : cs.all isUnescaped = true) :
    readBasic (cs ++ '"' :: rest) = some (cs, rest) := by
  induction cs with
  | nil => rfl
  | cons c cs ih =>
    rw [List.all_cons, Bool.and_eq_true] at h
    rw [List.cons_append, readBasic_unescaped h.1, ih h.2]
    rfl

/-- The literal of a text as a value. -/
theorem readValue_encode (depth : Nat) (s : String) (hrest : rest.head? ≠ some '"') :
    readValue depth ((encode s).toList ++ rest) =
      if s.toList.all isShared then some (.string s, rest) else none := by
  have hopening := not_two_quotes (head?_encodeBody s.toList) hrest
  rw [encode, String.toList_ofList, encodeChars, List.append_assoc]
  show readValue depth ('"' :: (encodeBody s.toList ++ '"' :: rest)) = _
  rw [readValue_basic depth hopening, readBasic_encodeBody]
  split
  · rw [Option.map_some, String.ofList_toList]
  · rfl

/-- A text is read as a value, up to the end of its line. -/
def Writes (text : List Char) (v : Value) : Prop :=
  ∀ rest, skipBlanks (text ++ '\n' :: rest) = text ++ '\n' :: rest ∧
    readValue deepest (text ++ '\n' :: rest) = some (v, '\n' :: rest)

theorem skipBlanks_encode (s : String) (rest : List Char) :
    skipBlanks ((encode s).toList ++ rest) = (encode s).toList ++ rest := by
  rw [encode, String.toList_ofList]
  exact List.dropWhile_cons_of_neg (by decide)

theorem writes_encode {s : String} (h : s.toList.all isShared = true) :
    Writes (encode s).toList (.string s) := by
  intro rest
  refine ⟨skipBlanks_encode s _, ?_⟩
  rw [readValue_encode deepest s (by simp), if_pos h]

/-- A text between two quotes in which no character is escaped. -/
theorem readValue_unescaped (depth : Nat) {s : String} (h : s.toList.all isUnescaped = true)
    (hrest : rest.head? ≠ some '"') :
    readValue depth ('"' :: (s.toList ++ '"' :: rest)) = some (.string s, rest) := by
  have hhead : s.toList.head? ≠ some '"' := by
    intro hhead
    cases List.all_eq_true.mp h _ (List.mem_of_head? hhead)
  rw [readValue_basic depth (not_two_quotes hhead hrest), readBasic_of_unescaped h, Option.map_some,
    String.ofList_toList]

theorem writes_unescaped {s : String} (h : s.toList.all isUnescaped = true) :
    Writes ('"' :: s.toList ++ ['"']) (.string s) := by
  intro rest
  refine ⟨List.dropWhile_cons_of_neg (by decide), ?_⟩
  rw [List.append_assoc]
  exact readValue_unescaped deepest h (by simp)

theorem writes_false : Writes "false".toList (.boolean false) := fun _ => ⟨rfl, rfl⟩

end ApiScaffold.Toml
