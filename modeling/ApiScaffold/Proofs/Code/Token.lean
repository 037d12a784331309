import ApiScaffold.Code.Token
import ApiScaffold.Text.Quoted
import ApiScaffold.Proofs.Naming
import ApiScaffold.Proofs.Number.FloatText

/-!
# Tokens are read as they are written

A line is written piece by piece: words of the language and marks, which are fixed, the name of a
field, string literals and numbers.  What each piece does is known from what has been begun before
it, and one piece behind another does what both do (`advance_trans`).

* `advance_field`: **the name of a field is one word.**
* `advance_encode`: **a string literal is one token, and denotes the text that it was made from.**
* `advance_parts`: **the text of a floating number is one number**, behind its sign.
-/

namespace ApiScaffold.Code

open Text (isAscii isAsciiDigit)

variable {begun begun' begun'' : Begun} {xs ys cs : List Char} {ts us : List Token} {c : Char}
  {s t : String} {n : Nat}

theorem advance_cons (hstep : begun.step c = some (ts, begun'))
    (hrest : advance begun' cs = some (us, begun'')) :
    advance begun (c :: cs) = some (ts ++ us, begun'') := by
  simp [advance, hstep, hrest]

theorem advance_singleton (hstep : begun.step c = some (ts, begun')) :
    advance begun [c] = some (ts, begun') := by
  rw [advance_cons hstep rfl, List.append_nil]

/-- **One piece behind another** does what both do. -/
theorem advance_trans (hxs : advance begun xs = some (ts, begun'))
    (hys : advance begun' ys = some (us, begun'')) :
    advance begun (xs ++ ys) = some (ts ++ us, begun'') := by
  induction xs generalizing begun ts with
  | nil =>
    cases hxs
    exact hys
  | cons x xs ih =>
    obtain ⟨⟨first, next⟩, hstep, hxs⟩ := Option.bind_eq_some_iff.mp hxs
    obtain ⟨⟨later, last⟩, hlater, hxs⟩ := Option.bind_eq_some_iff.mp hxs
    cases hxs
    rw [List.append_assoc]
    exact advance_cons hstep (ih hlater)

/-- One text behind another does what both do. -/
theorem advance_append (hs : advance begun s.toList = some (ts, begun'))
    (ht : advance begun' t.toList = some (us, begun'')) :
    advance begun (s ++ t).toList = some (ts ++ us, begun'') := by
  rw [String.toList_append]
  exact advance_trans hs ht

/-! ## Words -/

theorem advance_word (h : ∀ c ∈ xs, isWordChar c = true) (cs : List Char) :
    advance (.word cs) xs = some ([], .word (cs ++ xs)) := by
  induction xs generalizing cs with
  | nil => rw [List.append_nil]; rfl
  | cons x xs ih =>
    obtain ⟨hx, hxs⟩ := List.forall_mem_cons.mp h
    have hstep : (Begun.word cs).step x = some ([], .word (cs ++ [x])) := if_pos hx
    have hrest := ih hxs (cs ++ [x])
    rw [List.append_assoc] at hrest
    exact advance_cons hstep hrest

/-- A word is begun by a character of words that is no digit. -/
theorem begin_word (h : isWordChar c = true) (hdigit : isAsciiDigit c = false) :
    begin c = ([], .word [c]) := by
  have hspace : c ≠ ' ' := by
    rintro rfl
    exact absurd h (by decide)
  have hquote : c ≠ '"' := by
    rintro rfl
    exact absurd h (by decide)
  rw [begin, if_neg hspace, if_neg hquote, if_neg (by rw [hdigit]; exact Bool.false_ne_true),
    if_pos h]

theorem isWordChar_of_tame (h : Naming.Tame c) : isWordChar c = true := by
  cases hascii : isAscii c with
  | false => simp [isWordChar, hascii]
  | true =>
    have hname := h hascii
    simp only [Naming.isNameChar, Bool.or_eq_true] at hname
    simp only [isWordChar, Text.isAsciiAlphanumeric, Text.isAsciiLetter, Bool.or_eq_true]
    tauto

/-- **The name of a field is one word.** -/
theorem advance_field (s : String) :
    advance .nothing (Naming.field s).toList = some ([], .word (Naming.field s).toList) := by
  obtain ⟨c, cs, hcs, hdigit⟩ := Naming.exists_field_eq_cons s
  have hword : ∀ d ∈ c :: cs, isWordChar d = true := fun d hd =>
    isWordChar_of_tame (Naming.tame_of_mem_field (s := s) (hcs ▸ hd))
  obtain ⟨hc, hrest⟩ := List.forall_mem_cons.mp hword
  have hstep : Begun.nothing.step c = some ([], .word [c]) :=
    congrArg some (begin_word hc hdigit)
  rw [hcs]
  exact advance_cons hstep (advance_word hrest [c])

/-! ## String literals -/

open Text.Quoted (encode encodeBody encodeChar hexDigits)

theorem hexDigit?_digitChar (h : n < 16) : Pattern.hexDigit? (Nat.digitChar n) = some n :=
  (by decide : ∀ n < 16, Pattern.hexDigit? (Nat.digitChar n) = some n) n h

theorem digitChar_ne_brace (h : n < 16) : Nat.digitChar n ≠ '\x7d' :=
  (by decide : ∀ n < 16, Nat.digitChar n ≠ '\x7d') n h

theorem step_digits (cs : List Char) (h : n < 16) (count m : Nat) :
    (Begun.digits cs count m).step (Nat.digitChar n)
      = some ([], .digits cs (count + 1) (m * 16 + n)) := by
  rw [Begun.step, if_neg (digitChar_ne_brace h), hexDigit?_digitChar h]
  rfl

/-- The hexadecimal digits of a number are read as the number. -/
theorem advance_hexDigits (cs : List Char) (n : Nat) :
    advance (.digits cs 0 0) (hexDigits n) = some ([], .digits cs (hexDigits n).length n) := by
  induction n using Nat.strongRecOn with
  | ind n ih =>
    by_cases hn : n < 16
    · have hstep := step_digits cs hn 0 0
      rw [Nat.zero_mul, Nat.zero_add n] at hstep
      rw [hexDigits, Nat.toDigits_of_lt_base hn]
      exact advance_singleton hstep
    · have hlast : hexDigits n = hexDigits (n / 16) ++ [Nat.digitChar (n % 16)] :=
        Nat.toDigits_of_base_le (by decide) (Nat.le_of_not_lt hn)
      have hstep := step_digits cs (Nat.mod_lt n (by decide : 0 < 16))
        (hexDigits (n / 16)).length (n / 16)
      rw [Nat.div_add_mod'] at hstep
      rw [hlast, List.length_append]
      exact advance_trans (ih (n / 16) (Nat.div_lt_self (by omega) (by decide)))
        (advance_singleton hstep)

theorem charOf?_toNat (c : Char) : Pattern.charOf? c.toNat = some c := by
  rw [Pattern.charOf?, Char.ofNat_toNat]
  exact if_pos c.valid

/-- The code point of a character between braces is read as the character. -/
theorem advance_code (cs : List Char) (c : Char) :
    advance (.literal cs) (['\\', 'u', '\x7b'] ++ hexDigits c.toNat ++ ['\x7d'])
      = some ([], .literal (cs ++ [c])) := by
  have hcount : 1 ≤ (hexDigits c.toNat).length ∧ (hexDigits c.toNat).length ≤ 6 := by
    have hvalid := c.valid
    refine ⟨Nat.length_toDigits_pos, (Nat.length_toDigits_le_iff (by decide) (by decide)).mpr ?_⟩
    rcases hvalid with h | h <;> (have : c.toNat = c.val.toNat := rfl; omega)
  have hopen : advance (.literal cs) ['\\', 'u', '\x7b'] = some ([], .digits cs 0 0) := rfl
  have hclose : (Begun.digits cs (hexDigits c.toNat).length c.toNat).step '\x7d'
      = some ([], .literal (cs ++ [c])) := by
    rw [Begun.step, if_pos rfl, if_pos (by simpa using hcount), charOf?_toNat]
    rfl
  exact advance_trans (advance_trans hopen (advance_hexDigits cs c.toNat))
    (advance_singleton hclose)

/-- **A character in a literal** is read as it is written. -/
theorem advance_encodeChar (cs : List Char) (c : Char) :
    advance (.literal cs) (encodeChar c) = some ([], .literal (cs ++ [c])) := by
  unfold encodeChar
  split
  · next h => subst h; rfl
  split
  · next h => subst h; rfl
  split
  · next h => subst h; rfl
  next hreturn =>
  split
  · next h => subst h; rfl
  split
  · next h => subst h; rfl
  next hbackslash =>
  split
  · next h => subst h; rfl
  next hquote =>
  have hplain : advance (.literal cs) [c] = some ([], .literal (cs ++ [c])) := by
    refine advance_singleton ?_
    rw [Begun.step, if_neg hquote, if_neg hbackslash, if_neg hreturn]
  split
  · exact hplain
  split
  · exact advance_code cs c
  · exact hplain

theorem advance_encodeBody (cs xs : List Char) :
    advance (.literal cs) (encodeBody xs) = some ([], .literal (cs ++ xs)) := by
  induction xs generalizing cs with
  | nil => rw [List.append_nil]; rfl
  | cons x xs ih =>
    have hrest := ih (cs ++ [x])
    rw [List.append_assoc] at hrest
    exact advance_trans (advance_encodeChar cs x) hrest

/-- **A string literal is one token, and denotes the text that it was made from.** -/
theorem advance_encode (s : String) :
    advance .nothing (encode s).toList = some ([.literal s], .nothing) := by
  have hopen : advance .nothing ['"'] = some ([], .literal []) := rfl
  have hclose : advance (.literal s.toList) ['"'] = some ([.literal s], .nothing) := by
    have hliteral : Token.literal (String.ofList s.toList) = .literal s := by
      rw [String.ofList_toList]
    rw [← hliteral]
    rfl
  rw [encode, String.toList_ofList]
  exact advance_trans (advance_trans hopen (advance_encodeBody [] s.toList)) hclose

/-! ## Numbers -/

open Number (IsDigits Parts)

theorem advance_number (h : ∀ c ∈ xs, (isAsciiDigit c || c == '.' || c == 'e') = true)
    (cs : List Char) : advance (.number cs) xs = some ([], .number (cs ++ xs)) := by
  induction xs generalizing cs with
  | nil => rw [List.append_nil]; rfl
  | cons x xs ih =>
    obtain ⟨hx, hxs⟩ := List.forall_mem_cons.mp h
    have hstep : (Begun.number cs).step x = some ([], .number (cs ++ [x])) := by
      rw [Begun.step, if_pos]
      rw [continuesNumber, hx, Bool.true_or]
    have hrest := ih hxs (cs ++ [x])
    rw [List.append_assoc] at hrest
    exact advance_cons hstep hrest

/-- A number is begun by a digit. -/
theorem begin_digit (h : isAsciiDigit c = true) : begin c = ([], .number [c]) := by
  have hspace : c ≠ ' ' := by
    rintro rfl
    exact absurd h (by decide)
  have hquote : c ≠ '"' := by
    rintro rfl
    exact absurd h (by decide)
  rw [begin, if_neg hspace, if_neg hquote, if_pos h]

theorem advance_digit_cons (hc : isAsciiDigit c = true)
    (hrest : advance (.number [c]) xs = some (ts, begun)) :
    advance .nothing (c :: xs) = some (ts, begun) := by
  have hstep : Begun.nothing.step c = some ([], .number [c]) := congrArg some (begin_digit hc)
  exact advance_cons hstep hrest

/-- Digits are one number. -/
theorem advance_digits (hne : xs ≠ []) (h : IsDigits xs) :
    advance .nothing xs = some ([], .number xs) := by
  cases xs with
  | nil => exact absurd rfl hne
  | cons c xs =>
    obtain ⟨hc, hxs⟩ := List.forall_mem_cons.mp h
    exact advance_digit_cons hc (advance_number (fun d hd => by rw [hxs d hd]; rfl) [c])

/-- A power of ten goes on with a number. -/
theorem advance_power (cs : List Char) (power : Option Int) :
    advance (.number cs) (Parts.powerChars power)
      = some ([], .number (cs ++ Parts.powerChars power)) := by
  cases power with
  | none => rw [Parts.powerChars, List.append_nil]; rfl
  | some n =>
    have hdigits : ∀ (k : Nat), ∀ c ∈ Nat.toDigits 10 k,
        (isAsciiDigit c || c == '.' || c == 'e') = true := fun k c hc => by
      rw [Number.isDigits_toDigits k c hc]
      rfl
    have hletter : (Begun.number cs).step 'e' = some ([], .number (cs ++ ['e'])) := rfl
    rw [Parts.powerChars]
    obtain ⟨h, -⟩ | ⟨h, -⟩ := Number.toList_toString_int n
    · rw [h]
      have hrest := advance_number (hdigits n.toNat) (cs ++ ['e'])
      rw [List.append_assoc] at hrest
      exact advance_cons hletter hrest
    · rw [h]
      have hsign : (Begun.number (cs ++ ['e'])).step '-' = some ([], .number (cs ++ ['e', '-'])) := by
        rw [Begun.step, if_pos, List.append_assoc]
        · rfl
        · rw [continuesNumber, List.getLast?_append]
          rfl
      have hrest := advance_number (hdigits n.natAbs) (cs ++ ['e', '-'])
      rw [List.append_assoc] at hrest
      exact advance_cons hletter (advance_cons hsign hrest)

/-- **The text of a floating number is one number.** -/
theorem advance_parts {p : Parts} (hp : p.IsNumber) :
    advance .nothing p.chars = some ([], .number p.chars) := by
  have hwhole : IsDigits p.whole := fun c hc => hp.digits c (List.mem_append_left _ hc)
  have hmiddle : ∀ c ∈ p.decimals.elim [] ('.' :: ·),
      (isAsciiDigit c || c == '.' || c == 'e') = true := by
    intro c hc
    cases hdecimals : p.decimals with
    | none => rw [hdecimals] at hc; cases hc
    | some decimals =>
      rw [hdecimals, Option.elim_some] at hc
      obtain rfl | hc := List.mem_cons.mp hc
      · rfl
      · rw [hp.digits c (List.mem_append_right _ (by rw [hdecimals]; exact hc))]
        rfl
  have hrest := advance_trans (advance_number hmiddle p.whole)
    (advance_power (p.whole ++ p.decimals.elim [] ('.' :: ·)) p.power)
  rw [List.append_assoc] at hrest
  exact advance_trans (advance_digits hp.whole hwhole) hrest

end ApiScaffold.Code
