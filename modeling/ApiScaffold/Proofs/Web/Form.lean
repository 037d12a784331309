import ApiScaffold.Proofs.Text.Split
import ApiScaffold.Proofs.Text.Utf8
import ApiScaffold.Web.Form

/-!
# Forms are read as they are written

A name or a value is written byte by byte, and each byte is read back from its characters
whatever stands behind them (`percentDecode_encodeByte`).  The characters that part a form, `=`
and `&`, are never among them, so the reader parts a text where the writer joined it.

* `decodeText_encodeText`: a name or a value is read as it is written.
* `decode_encode`: **a form is read as it is written**, names and values in order.
-/

namespace ApiScaffold.Web

open Text

variable {b : UInt8} {c : Char} {cs : List Char} {bytes : List UInt8} {s : String}
  {pair : String × String} {pairs : List (String × String)}

/-! ## ASCII texts -/

/-- The byte of an ASCII character. -/
def asciiByte (c : Char) : UInt8 := .ofNat c.toNat

theorem toNat_asciiByte (h : c.toNat < 128) : (asciiByte c).toNat = c.toNat :=
  UInt8.toNat_ofNat_of_lt' (Nat.lt_trans h (by decide))

theorem toNat_ofNat_byte (b : UInt8) : (Char.ofNat b.toNat).toNat = b.toNat := by
  have hvalid : Nat.isValidChar b.toNat := .inl (Nat.lt_trans b.toNat_lt (by decide))
  rw [Char.ofNat, dif_pos hvalid]
  rfl

/-- ASCII characters are told apart by their bytes. -/
theorem asciiByte_ne {d : Char} (hc : c.toNat < 128) (hd : d.toNat < 128) (hne : c ≠ d) :
    asciiByte c ≠ asciiByte d := by
  intro heq
  have hnat := congrArg UInt8.toNat heq
  rw [toNat_asciiByte hc, toNat_asciiByte hd] at hnat
  exact hne (Char.toNat_inj.mp hnat)

/-- **An ASCII text has one byte for each character.** -/
theorem utf8_ascii (h : ∀ c ∈ cs, c.toNat < 128) :
    utf8 (String.ofList cs) = cs.map asciiByte := by
  rw [utf8_ofList]
  induction cs with
  | nil => rfl
  | cons c cs ih =>
    obtain ⟨hc, hcs⟩ := List.forall_mem_cons.mp h
    have hbytes : String.utf8EncodeChar c = [asciiByte c] := by
      have hsmall : c.val.toNat ≤ 127 := Nat.le_of_lt_succ hc
      unfold String.utf8EncodeChar
      dsimp only
      rw [if_pos hsmall]
      rfl
    rw [List.flatMap_cons, hbytes, ih hcs]
    rfl

/-! ## Single bytes -/

/-- A digit of an encoded byte. -/
def upperDigit (n : Nat) : Char := asciiUpper (Nat.digitChar n)

theorem hexDigitValue?_upperDigit :
    ∀ n < 16, hexDigitValue? (asciiByte (upperDigit n)) = some n := by decide

theorem percentByte_eq (b : UInt8) :
    percentByte b = ['%', upperDigit (b.toNat / 16), upperDigit (b.toNat % 16)] := rfl

theorem hexByte?_upperDigit (b : UInt8) :
    hexByte? (asciiByte (upperDigit (b.toNat / 16))) (asciiByte (upperDigit (b.toNat % 16))) =
      some b := by
  have hlt := b.toNat_lt
  have hbyte : b.toNat / 16 * 16 + b.toNat % 16 = b.toNat := by omega
  rw [hexByte?, hexDigitValue?_upperDigit _ (by omega), hexDigitValue?_upperDigit _ (by omega)]
  dsimp only
  rw [hbyte]
  exact congrArg some UInt8.ofNat_toNat

theorem percentDecode_cons (hb : b ≠ 37) (rest : List UInt8) :
    percentDecode (b :: rest) = b :: percentDecode rest := by
  rw [percentDecode]
  intro _ _ _ heq
  exact absurd heq hb

theorem percentDecode_escape {high low : UInt8} (h : hexByte? high low = some b)
    (rest : List UInt8) : percentDecode (37 :: high :: low :: rest) = b :: percentDecode rest := by
  rw [percentDecode, h]

namespace Form

/-- The byte that a plus sign stands for, and any other byte. -/
def spaced (b : UInt8) : UInt8 := if b == 43 then 32 else b

theorem spaced_of_ne (hb : b ≠ 43) : spaced b = b := if_neg (by simpa using hb)

/-- The characters that names and values are written with. -/
def isTextChar (c : Char) : Bool := isPlain c || c == '+' || c == '%'

theorem isAsciiAlphanumeric_ascii (h : isAsciiAlphanumeric c = true) : c.toNat < 128 := by
  simp only [isAsciiAlphanumeric, isAsciiLetter, isAsciiUpper, isAsciiLower, isAsciiDigit,
    Bool.or_eq_true, Bool.and_eq_true, decide_eq_true_eq] at h
  rcases h with (⟨-, h⟩ | ⟨-, h⟩) | ⟨-, h⟩
  · have hle : c.toNat ≤ 90 := h
    omega
  · have hle : c.toNat ≤ 122 := h
    omega
  · have hle : c.toNat ≤ 57 := h
    omega

theorem isTextChar_ascii (h : isTextChar c = true) : c.toNat < 128 := by
  simp only [isTextChar, isPlain, Bool.or_eq_true, beq_iff_eq] at h
  rcases h with ((((((h | rfl) | rfl) | rfl) | rfl) | rfl) | rfl)
  · exact isAsciiAlphanumeric_ascii h
  all_goals decide

/-- A byte that stands for itself is neither a blank, a plus sign nor a percent sign. -/
theorem ne_of_isPlain (h : isPlain (Char.ofNat b.toNat) = true) : b ≠ 43 ∧ b ≠ 37 := by
  constructor
  · rintro rfl
    exact absurd h (by decide)
  · rintro rfl
    exact absurd h (by decide)

theorem encodeByte_plain (h : b < 128 ∧ isPlain (Char.ofNat b.toNat) = true) (hb : b ≠ 32) :
    encodeByte b = [Char.ofNat b.toNat] := by
  have hkeep : (b < 128 && isPlain (Char.ofNat b.toNat)) = true := by simpa using h
  rw [encodeByte, if_neg (by simpa using hb), encodeWith, List.flatMap_singleton]
  exact if_pos hkeep

theorem encodeByte_escape (h : ¬(b < 128 ∧ isPlain (Char.ofNat b.toNat) = true)) (hb : b ≠ 32) :
    encodeByte b = percentByte b := by
  have hkeep : ¬(b < 128 && isPlain (Char.ofNat b.toNat)) = true := by simpa using h
  rw [encodeByte, if_neg (by simpa using hb), encodeWith, List.flatMap_singleton]
  exact if_neg hkeep

/-- **A byte is read from the characters it is written with**, whatever stands behind them. -/
theorem percentDecode_encodeByte (b : UInt8) (rest : List UInt8) :
    percentDecode ((encodeByte b).map (spaced ∘ asciiByte) ++ rest) = b :: percentDecode rest := by
  by_cases hb : b = 32
  · subst hb
    exact percentDecode_cons (by decide) rest
  · by_cases h : b < 128 ∧ isPlain (Char.ofNat b.toNat) = true
    · have hbyte : asciiByte (Char.ofNat b.toNat) = b := by
        rw [asciiByte, toNat_ofNat_byte]
        exact UInt8.ofNat_toNat
      obtain ⟨hplus, hpercent⟩ := ne_of_isPlain h.2
      rw [encodeByte_plain h hb, List.map_singleton, Function.comp_apply, hbyte,
        spaced_of_ne hplus]
      exact percentDecode_cons hpercent rest
    · have hlt := b.toNat_lt
      have hdigit : ∀ n < 16, spaced (asciiByte (upperDigit n)) = asciiByte (upperDigit n) := by
        decide
      have hpercent : spaced (asciiByte '%') = 37 := by decide
      rw [encodeByte_escape h hb, percentByte_eq]
      simp only [List.map_cons, List.map_nil, Function.comp_apply, hpercent,
        hdigit (b.toNat / 16) (by omega), hdigit (b.toNat % 16) (by omega)]
      exact percentDecode_escape (hexByte?_upperDigit b) rest

theorem isTextChar_of_mem_encodeByte (h : c ∈ encodeByte b) : isTextChar c = true := by
  by_cases hb : b = 32
  · subst hb
    rw [List.mem_singleton.mp (show c ∈ ['+'] from h)]
    rfl
  · by_cases hkeep : b < 128 ∧ isPlain (Char.ofNat b.toNat) = true
    · rw [encodeByte_plain hkeep hb, List.mem_singleton] at h
      rw [isTextChar, h, hkeep.2]
      rfl
    · have hlt := b.toNat_lt
      have hdigit : ∀ n < 16, isTextChar (upperDigit n) = true := by decide
      rw [encodeByte_escape hkeep hb, percentByte_eq] at h
      simp only [List.mem_cons, List.not_mem_nil, or_false] at h
      rcases h with rfl | rfl | rfl
      · rfl
      · exact hdigit _ (by omega)
      · exact hdigit _ (by omega)

/-! ## Names and values -/

theorem isTextChar_of_mem_encodeText (h : c ∈ encodeText s) : isTextChar c = true := by
  obtain ⟨b, -, hc⟩ := List.mem_flatMap.mp h
  exact isTextChar_of_mem_encodeByte hc

theorem percentDecode_encodeText (bytes rest : List UInt8) :
    percentDecode ((bytes.flatMap encodeByte).map (spaced ∘ asciiByte) ++ rest) =
      bytes ++ percentDecode rest := by
  induction bytes with
  | nil => rfl
  | cons b bytes ih =>
    rw [List.flatMap_cons, List.map_append, List.append_assoc, percentDecode_encodeByte, ih]
    rfl

/-- **A name or a value is read as it is written.** -/
theorem decodeText_encodeText (s : String) : decodeText ((encodeText s).map asciiByte) = s := by
  have hbytes := percentDecode_encodeText (utf8 s) []
  have hnil : percentDecode [] = [] := by rw [percentDecode]
  rw [List.append_nil, hnil, List.append_nil] at hbytes
  show decodeLossy (percentDecode (((encodeText s).map asciiByte).map spaced)) = s
  rw [List.map_map, encodeText, hbytes, decodeLossy_utf8]

/-! ## Pairs -/

/-- The bytes of a name or a value hold none of a character that is not written. -/
theorem ne_of_mem_encodeText (mark : Char) (hmark : isTextChar mark = false)
    (hascii : mark.toNat < 128) (h : b ∈ (encodeText s).map asciiByte) : b ≠ asciiByte mark := by
  obtain ⟨c, hc, rfl⟩ := List.mem_map.mp h
  have htext := isTextChar_of_mem_encodeText hc
  refine asciiByte_ne (isTextChar_ascii htext) hascii ?_
  rintro rfl
  rw [hmark] at htext
  cases htext

/-- The bytes of a pair. -/
def pairBytes (pair : String × String) : List UInt8 := (encodePair pair).map asciiByte

theorem pairBytes_eq (pair : String × String) :
    pairBytes pair =
      (encodeText pair.1).map asciiByte ++ 61 :: (encodeText pair.2).map asciiByte := by
  rw [pairBytes, encodePair, List.map_append]
  rfl

/-- A pair is parted at its first equals sign. -/
theorem decodePair_append {front back : List UInt8} (h : ∀ b ∈ front, b ≠ 61) :
    decodePair (front ++ 61 :: back) = (decodeText front, decodeText back) := by
  have hfront : ∀ b ∈ front, (b != 61) = true := fun b hb => by simpa using h b hb
  have htake : (front ++ 61 :: back).takeWhile (· != 61) = front := by
    rw [List.takeWhile_append_of_pos hfront]
    simp
  have hdrop : (front ++ 61 :: back).dropWhile (· != 61) = 61 :: back := by
    rw [List.dropWhile_append_of_pos hfront]
    simp
  rw [decodePair, htake, hdrop]
  rfl

/-- A pair is read as it is written. -/
theorem decodePair_pairBytes (pair : String × String) : decodePair (pairBytes pair) = pair := by
  rw [pairBytes_eq, decodePair_append fun b hb => ?_, decodeText_encodeText, decodeText_encodeText]
  exact ne_of_mem_encodeText '=' rfl (by decide) hb

/-! ## Forms -/

/-- The characters that forms are written with. -/
def isFormChar (c : Char) : Bool := isTextChar c || c == '=' || c == '&'

theorem isFormChar_ascii (h : isFormChar c = true) : c.toNat < 128 := by
  simp only [isFormChar, Bool.or_eq_true, beq_iff_eq] at h
  rcases h with (h | rfl) | rfl
  · exact isTextChar_ascii h
  · decide
  · decide

theorem isFormChar_of_mem_encodePair (h : c ∈ encodePair pair) : isFormChar c = true := by
  rcases List.mem_append.mp h with h | h
  · rw [isFormChar, isTextChar_of_mem_encodeText h]
    rfl
  · rcases List.mem_cons.mp h with rfl | h
    · rfl
    · rw [isFormChar, isTextChar_of_mem_encodeText h]
      rfl

theorem encodeChars_cons_cons (pair next : String × String) (pairs : List (String × String)) :
    encodeChars (pair :: next :: pairs) =
      encodePair pair ++ '&' :: encodeChars (next :: pairs) := by
  simp only [encodeChars, List.map_cons, List.intercalate_cons_cons, List.append_assoc,
    List.singleton_append]

theorem encodeChars_singleton (pair : String × String) :
    encodeChars [pair] = encodePair pair := by
  rw [encodeChars, List.map_singleton, List.intercalate_singleton]

/-- **A form is written with the characters of forms.** -/
theorem isFormChar_of_mem_encodeChars (h : c ∈ encodeChars pairs) : isFormChar c = true := by
  induction pairs with
  | nil => cases h
  | cons pair pairs ih =>
    cases pairs with
    | nil =>
      rw [encodeChars_singleton] at h
      exact isFormChar_of_mem_encodePair h
    | cons next pairs =>
      rw [encodeChars_cons_cons] at h
      rcases List.mem_append.mp h with h | h
      · exact isFormChar_of_mem_encodePair h
      · rcases List.mem_cons.mp h with rfl | h
        · rfl
        · exact ih h

/-- The form of the bytes of a text. -/
def decodeBytes (bytes : List UInt8) : List (String × String) :=
  ((splitWhere (· == 38) bytes).filter (!·.isEmpty)).map decodePair

theorem decode_eq (s : String) : decode s = decodeBytes (utf8 s) := rfl

/-- What stands before an ampersand and what stands behind it are read apart. -/
theorem decodeBytes_mark (front back : List UInt8) :
    decodeBytes (front ++ 38 :: back) = decodeBytes front ++ decodeBytes back := by
  rw [decodeBytes, splitWhere_mark rfl, List.filter_append, List.map_append]
  rfl

/-- Bytes without an ampersand are those of one pair. -/
theorem decodeBytes_pair (h : ∀ b ∈ bytes, b ≠ 38) (hne : bytes ≠ []) :
    decodeBytes bytes = [decodePair bytes] := by
  have hsplit : splitWhere (· == 38) bytes = [bytes] :=
    splitWhere_of_forall fun b hb => by simpa using h b hb
  have hkeep : [bytes].filter (!·.isEmpty) = [bytes] := by simpa using hne
  rw [decodeBytes, hsplit, hkeep]
  rfl

theorem ne_of_mem_pairBytes (h : b ∈ pairBytes pair) : b ≠ 38 := by
  rw [pairBytes_eq] at h
  rcases List.mem_append.mp h with h | h
  · exact ne_of_mem_encodeText '&' rfl (by decide) h
  · rcases List.mem_cons.mp h with rfl | h
    · decide
    · exact ne_of_mem_encodeText '&' rfl (by decide) h

theorem pairBytes_ne_nil (pair : String × String) : pairBytes pair ≠ [] := by
  rw [pairBytes_eq]
  exact List.append_ne_nil_of_right_ne_nil _ (List.cons_ne_nil _ _)

theorem decodeBytes_pairBytes (pair : String × String) : decodeBytes (pairBytes pair) = [pair] := by
  rw [decodeBytes_pair (fun _ => ne_of_mem_pairBytes) (pairBytes_ne_nil pair), decodePair_pairBytes]

/-- The bytes of a form. -/
def formBytes (pairs : List (String × String)) : List UInt8 := (encodeChars pairs).map asciiByte

theorem utf8_encode (pairs : List (String × String)) : utf8 (encode pairs) = formBytes pairs :=
  utf8_ascii fun _ hc => isFormChar_ascii (isFormChar_of_mem_encodeChars hc)

theorem formBytes_cons_cons (pair next : String × String) (pairs : List (String × String)) :
    formBytes (pair :: next :: pairs) = pairBytes pair ++ 38 :: formBytes (next :: pairs) := by
  rw [formBytes, encodeChars_cons_cons, List.map_append]
  rfl

theorem decodeBytes_formBytes (pairs : List (String × String)) :
    decodeBytes (formBytes pairs) = pairs := by
  induction pairs with
  | nil => rfl
  | cons pair pairs ih =>
    cases pairs with
    | nil =>
      rw [formBytes, encodeChars_singleton]
      exact decodeBytes_pairBytes pair
    | cons next pairs =>
      rw [formBytes_cons_cons, decodeBytes_mark, decodeBytes_pairBytes, ih]
      rfl

/-- **A form is read as it is written.** -/
theorem decode_encode (pairs : List (String × String)) : decode (encode pairs) = pairs := by
  rw [decode_eq, utf8_encode, decodeBytes_formBytes]

end Form

end ApiScaffold.Web
