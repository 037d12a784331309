import ApiScaffold.Json.Reader
import ApiScaffold.Proofs.Text.Utf8

/-!
# Strings are read as they are printed

A string is read byte by byte until its closing quote, so what the bytes inside stand for is put
together from what their pieces stand for (`Spells`): a byte for itself, if it is no mark of the
string, or an escape for its character.  The printer writes a character in one of these two ways
(`spells_escape`), and no byte of a character beyond ASCII looks like a mark.

Where a text begins and where it ends is all that a reader of a value knows of its place, so the
place is left out here: a value is readable if it is read wherever its text stands (`Readable`).

* `readString_quote`: **a printed string is read as its text.**
* `readable_string`, `readable_record`: strings, and records of one field, are readable.
* `Readable.readBytes_print`: **a readable value is what its printed text is read as.**
-/

namespace ApiScaffold.Json

open Text (utf8)

variable {c : Cursor} {b : UInt8} {bs bytes text rest : List UInt8}

/-! ## The cursor -/

namespace Cursor

theorem rest_next (h : c.rest = b :: bs) : c.next.rest = bs := by
  rw [next, h]
  dsimp only
  split <;> rfl

theorem rest_skip (bs : List UInt8) (h : c.rest = bs ++ rest) :
    (c.skip bs.length).rest = rest := by
  induction bs generalizing c with
  | nil => exact h
  | cons b bs ih => exact ih (rest_next h)

theorem skipSpace_cons (h : c.rest = b :: bs) (hb : isSpace b = false) : c.skipSpace = c := by
  rw [skipSpace, h, skipSpaceIn, hb]
  rfl

theorem skipSpace_nil (h : c.rest = []) : c.skipSpace = c := by
  rw [skipSpace, h, skipSpaceIn]

end Cursor

/-! ## The inside of a string -/

/-- The bytes inside a string stand for a text: they are passed over, and the text has been read. -/
def Spells (bytes text : List UInt8) : Prop :=
  ∀ (fuel : Nat) (read rest : List UInt8) (c : Cursor),
    c.rest = bytes ++ rest → c.rest.length < fuel →
      ∃ fuel' c', c'.rest = rest ∧ rest.length < fuel' ∧
        readStringBytes fuel read c = readStringBytes fuel' (text.reverse ++ read) c'

theorem spells_nil : Spells [] [] :=
  fun fuel _ _ c h hfuel => ⟨fuel, c, h, (congrArg List.length h) ▸ hfuel, rfl⟩

theorem Spells.append {bytes' text' : List UInt8} (h : Spells bytes text)
    (h' : Spells bytes' text') : Spells (bytes ++ bytes') (text ++ text') := by
  intro fuel read rest c hrest hfuel
  rw [List.append_assoc] at hrest
  obtain ⟨fuel₁, c₁, hrest₁, hfuel₁, hread⟩ := h fuel read (bytes' ++ rest) c hrest hfuel
  obtain ⟨fuel₂, c₂, hrest₂, hfuel₂, hread'⟩ :=
    h' fuel₁ (text.reverse ++ read) rest c₁ hrest₁ (hrest₁ ▸ hfuel₁)
  refine ⟨fuel₂, c₂, hrest₂, hfuel₂, ?_⟩
  rw [hread, hread', List.reverse_append, List.append_assoc]

/-- A byte that neither ends a string, nor begins an escape, nor controls anything. -/
def IsPlain (b : UInt8) : Prop := b ≠ byte '"' ∧ b ≠ byte '\\' ∧ ¬b < 32

theorem spells_plain (hb : IsPlain b) : Spells [b] [b] := by
  obtain ⟨hquote, hescape, hcontrol⟩ := hb
  intro fuel read rest c hrest hfuel
  cases fuel with
  | zero => exact absurd hfuel (Nat.not_lt_zero _)
  | succ fuel =>
    refine ⟨fuel, c.next, Cursor.rest_next hrest, ?_, ?_⟩
    · rw [hrest] at hfuel
      exact Nat.lt_of_succ_lt_succ hfuel
    · rw [readStringBytes, hrest]
      simp only [List.singleton_append, beq_iff_eq]
      rw [if_neg hquote, if_neg hescape, if_neg hcontrol]
      rfl

theorem spells_of_plain (h : ∀ b ∈ bytes, IsPlain b) : Spells bytes bytes := by
  induction bytes with
  | nil => exact spells_nil
  | cons b bytes ih =>
    obtain ⟨hb, hbytes⟩ := List.forall_mem_cons.mp h
    exact (spells_plain hb).append (ih hbytes)

/-- An escape stands for the character that is read for it. -/
theorem spells_of_readEscape {ch : Char} (hescape : ∀ rest (c : Cursor), c.rest = bytes ++ rest →
    ∃ c', c'.rest = rest ∧ readEscape c = .ok (ch, c')) :
    Spells (byte '\\' :: bytes) (String.utf8EncodeChar ch) := by
  intro fuel read rest c hrest hfuel
  cases fuel with
  | zero => exact absurd hfuel (Nat.not_lt_zero _)
  | succ fuel =>
    obtain ⟨c', hrest', hread⟩ := hescape rest c.next (Cursor.rest_next hrest)
    refine ⟨fuel, c', hrest', ?_, ?_⟩
    · rw [hrest, List.cons_append, List.length_cons, List.length_append] at hfuel
      omega
    · have hchar : utf8 (String.singleton ch) = String.utf8EncodeChar ch := by
        rw [Text.utf8_eq, String.toList_singleton, List.flatMap_singleton]
      rw [readStringBytes, hrest]
      dsimp only [List.cons_append]
      rw [if_neg (by decide), if_pos (by decide), hread, ← hchar]

/-- The characters with a short escape, and the letters of these. -/
def shortEscapes : List (Char × Char) :=
  [('"', '"'), ('\\', '\\'), ('\x08', 'b'), ('\x0c', 'f'), ('\n', 'n'), ('\r', 'r'), ('\t', 't')]

theorem readEscape_short {ch letter : Char} (hmem : (ch, letter) ∈ shortEscapes)
    (hrest : c.rest = byte letter :: rest) : readEscape c = .ok (ch, c.next) := by
  rw [readEscape, hrest]
  simp only [shortEscapes, List.mem_cons, Prod.mk.injEq, List.not_mem_nil, or_false] at hmem
  rcases hmem with ⟨rfl, rfl⟩ | ⟨rfl, rfl⟩ | ⟨rfl, rfl⟩ | ⟨rfl, rfl⟩ | ⟨rfl, rfl⟩ | ⟨rfl, rfl⟩ |
    ⟨rfl, rfl⟩ <;> rfl

theorem escape_short : ∀ p ∈ shortEscapes,
    (escape p.1).flatMap String.utf8EncodeChar = [byte '\\', byte p.2] := by
  decide

theorem hexValue?_hexDigit : ∀ d < 16, hexValue? (byte (hexDigit d)) = some d := by decide

theorem utf8EncodeChar_hexDigit :
    ∀ d < 16, String.utf8EncodeChar (hexDigit d) = [byte (hexDigit d)] := by decide

/-- The long escape of a character below the blank. -/
theorem spells_control {ch : Char} (h : ch.toNat < 32) :
    Spells [byte '\\', byte 'u', byte '0', byte '0', byte (hexDigit (ch.toNat / 16)),
      byte (hexDigit (ch.toNat % 16))] (String.utf8EncodeChar ch) := by
  refine spells_of_readEscape fun rest c hrest => ?_
  have hnext : c.next.rest = byte '0' :: byte '0' :: byte (hexDigit (ch.toNat / 16)) ::
      byte (hexDigit (ch.toNat % 16)) :: rest := Cursor.rest_next hrest
  have hzero : hexValue? (byte '0') = some 0 := rfl
  have hcode : ((0 * 16 + 0) * 16 + ch.toNat / 16) * 16 + ch.toNat % 16 = ch.toNat := by omega
  have hread : readHex c.next = .ok (ch.toNat, c.next.skip 4) := by
    rw [readHex, hnext]
    simp only [hzero, hexValue?_hexDigit (ch.toNat / 16) (by omega),
      hexValue?_hexDigit (ch.toNat % 16) (by omega), hcode]
  have hescape : readHexEscape c.next = .ok (ch, c.next.skip 4) := by
    rw [readHexEscape, hread]
    simp only [bind, Except.bind]
    rw [if_neg (by simp; omega), if_pos (by simp; omega), Char.ofNat_toNat]
    rfl
  refine ⟨c.next.skip 4, Cursor.rest_skip [_, _, _, _] hnext, ?_⟩
  rw [readEscape, hrest]
  exact hescape

theorem isPlain_ofNat {n : Nat} (hn : n < 256) (hquote : n ≠ 34) (hescape : n ≠ 92)
    (hcontrol : 32 ≤ n) : IsPlain (.ofNat n) := by
  have hvalue : (UInt8.ofNat n).toNat = n := UInt8.toNat_ofNat_of_lt' hn
  refine ⟨fun h => hquote ?_, fun h => hescape ?_, fun h => ?_⟩
  · rw [← hvalue, h]
    rfl
  · rw [← hvalue, h]
    rfl
  · have h : (UInt8.ofNat n).toNat < 32 := h
    omega

theorem isPlain_of_written {n : Nat} (h : Text.Written n bytes) (hquote : n ≠ 34) (hescape : n ≠ 92)
    (hcontrol : 32 ≤ n) : ∀ b ∈ bytes, IsPlain b := by
  -- a byte is the code point itself, or not ASCII
  have hplain : ∀ m < 256, m = n ∨ 128 ≤ m → IsPlain (.ofNat m) := by
    intro m hm hcase
    exact isPlain_ofNat hm (by omega) (by omega) (by omega)
  intro b hb
  cases h with
  | one high =>
    obtain rfl := List.mem_singleton.mp hb
    exact hplain n (by omega) (.inl rfl)
  | two low high =>
    simp only [List.mem_cons, List.not_mem_nil, or_false] at hb
    rcases hb with rfl | rfl
    all_goals exact hplain _ (by omega) (.inr (by omega))
  | three low high gap =>
    simp only [List.mem_cons, List.not_mem_nil, or_false] at hb
    rcases hb with rfl | rfl | rfl
    all_goals exact hplain _ (by omega) (.inr (by omega))
  | four low high =>
    simp only [List.mem_cons, List.not_mem_nil, or_false] at hb
    rcases hb with rfl | rfl | rfl | rfl
    all_goals exact hplain _ (by omega) (.inr (by omega))

theorem escape_long {ch : Char} (h : ∀ p ∈ shortEscapes, ch ≠ p.1) : escape ch =
    if ch.toNat < 32 then
      ['\\', 'u', '0', '0', hexDigit (ch.toNat / 16), hexDigit (ch.toNat % 16)]
    else [ch] := by
  simp only [shortEscapes, List.forall_mem_cons] at h
  obtain ⟨h₁, h₂, h₃, h₄, h₅, h₆, h₇, -⟩ := h
  rw [escape, if_neg h₁, if_neg h₂, if_neg h₃, if_neg h₄, if_neg h₅, if_neg h₆, if_neg h₇]

/-- **A printed character stands for itself.** -/
theorem spells_escape (ch : Char) :
    Spells ((escape ch).flatMap String.utf8EncodeChar) (String.utf8EncodeChar ch) := by
  by_cases hshort : ∃ letter, (ch, letter) ∈ shortEscapes
  · obtain ⟨letter, hmem⟩ := hshort
    rw [escape_short _ hmem]
    exact spells_of_readEscape fun _ c hrest =>
      ⟨c.next, Cursor.rest_next hrest, readEscape_short hmem hrest⟩
  · have hother : ∀ p ∈ shortEscapes, ch ≠ p.1 := fun p hp h => hshort ⟨p.2, h ▸ hp⟩
    rw [escape_long hother]
    split
    case isTrue hcontrol =>
      have hhigh := utf8EncodeChar_hexDigit (ch.toNat / 16) (by omega)
      have hlow := utf8EncodeChar_hexDigit (ch.toNat % 16) (by omega)
      simp only [List.flatMap_cons, List.flatMap_nil, hhigh, hlow]
      exact spells_control hcontrol
    case isFalse hcontrol =>
      have hquote : ch.toNat ≠ 34 := fun h => hother ('"', '"') (by decide) (Char.toNat_inj.mp h)
      have hescape : ch.toNat ≠ 92 := fun h => hother ('\\', '\\') (by decide) (Char.toNat_inj.mp h)
      rw [List.flatMap_singleton]
      exact spells_of_plain
        (isPlain_of_written (Text.written_char ch) hquote hescape (Nat.not_lt.mp hcontrol))

theorem spells_chars (cs : List Char) : Spells ((cs.flatMap escape).flatMap String.utf8EncodeChar)
    (cs.flatMap String.utf8EncodeChar) := by
  induction cs with
  | nil => exact spells_nil
  | cons ch cs ih =>
    rw [List.flatMap_cons, List.flatMap_append, List.flatMap_cons]
    exact (spells_escape ch).append ih

/-! ## Whole strings -/

theorem utf8_quote (s : String) : utf8 (quote s) =
    byte '"' :: (s.toList.flatMap escape).flatMap String.utf8EncodeChar ++ [byte '"'] := by
  rw [quote, Text.utf8_ofList, quoteChars, List.flatMap_append, List.flatMap_cons]
  rfl

/-- **A printed string is read as its text.** -/
theorem readString_quote {s : String} (h : c.rest = utf8 (quote s) ++ rest) :
    ∃ c', c'.rest = rest ∧ readString c.next = .ok (s, c') := by
  rw [utf8_quote, List.append_assoc, List.cons_append] at h
  have hnext := Cursor.rest_next h
  obtain ⟨fuel, c', hrest, hfuel, hread⟩ :=
    spells_chars s.toList (c.next.rest.length + 1) [] _ c.next hnext (Nat.lt_succ_self _)
  cases fuel with
  | zero => exact absurd hfuel (Nat.not_lt_zero _)
  | succ fuel =>
    have hquote : readStringBytes (fuel + 1) ((utf8 s).reverse ++ []) c' =
        .ok (utf8 s, c'.next) := by
      rw [readStringBytes, hrest]
      dsimp only [List.singleton_append]
      rw [if_pos (by decide), List.append_nil, List.reverse_reverse]
    refine ⟨c'.next, Cursor.rest_next hrest, ?_⟩
    rw [readString, hread, ← Text.utf8_eq, hquote]
    dsimp only
    rw [Text.decode?_utf8]

/-! ## Values -/

/-- A value is what is read where its printed text stands, whatever comes behind. -/
def Readable (depth : Nat) (shape : Shape) (v : Value) : Prop :=
  ∀ (fuel : Nat) (rest : List UInt8) (c : Cursor),
    c.rest = utf8 v.print ++ rest → c.rest.length < fuel →
      ∃ c', c'.rest = rest ∧ readValue fuel depth shape c = .ok (v, c')

variable {depth : Nat} {inner shape : Shape} {v : Value} {key name : String} {absent : Option Value}

theorem rest_of_quote {s : String} (h : c.rest = utf8 (quote s) ++ rest) :
    ∃ bs, c.rest = byte '"' :: bs := by
  rw [h, utf8_quote]
  exact ⟨_, rfl⟩

theorem readable_string (s : String) : Readable depth .string (.string s) := by
  intro fuel rest c hrest hfuel
  cases fuel with
  | zero => exact absurd hfuel (Nat.not_lt_zero _)
  | succ fuel =>
    rw [Value.print] at hrest
    obtain ⟨bs, hquote⟩ := rest_of_quote hrest
    obtain ⟨c', hrest', hread⟩ := readString_quote hrest
    refine ⟨c', hrest', ?_⟩
    rw [readValue.eq_def]
    dsimp only
    rw [Cursor.skipSpace_cons hquote rfl, hquote]
    dsimp only
    rw [if_pos (beq_self_eq_true _), hread]
    rfl

theorem print_field (key : String) (v : Value) :
    utf8 (Value.object [(key, v)]).print =
      byte '\x7b' :: (utf8 (quote key) ++ byte ':' :: (utf8 v.print ++ [byte '\x7d'])) := by
  have hopen : utf8 "\x7b" = [byte '\x7b'] := by decide +kernel
  have hcolon : utf8 ":" = [byte ':'] := by decide +kernel
  have hclose : utf8 "\x7d" = [byte '\x7d'] := by decide +kernel
  rw [Value.print, printMembers, printMembers, String.intercalate_singleton]
  simp only [Text.utf8_append, hopen, hcolon, hclose, List.append_assoc, List.cons_append,
    List.nil_append]

theorem nextKey_quote (h : c.rest = byte '"' :: bs) : nextKey true c = .ok (true, c) := by
  rw [nextKey, Cursor.skipSpace_cons h rfl, h]
  rfl

theorem nextKey_close {first : Bool} (h : c.rest = byte '\x7d' :: bs) :
    nextKey first c = .ok (false, c) := by
  rw [nextKey, Cursor.skipSpace_cons h rfl, h]
  rfl

theorem readColon_colon (h : c.rest = byte ':' :: bs) : readColon c = .ok c.next := by
  rw [readColon, Cursor.skipSpace_cons h rfl, h]
  rfl

/-- The one field of a record is read from its key to the closing bracket. -/
theorem readFields_field (h : Readable depth inner v) {fuel : Nat}
    (hrest : c.rest = utf8 (quote key) ++ byte ':' :: (utf8 v.print ++ byte '\x7d' :: rest))
    (hfuel : c.rest.length ≤ fuel) : ∃ c', c'.rest = byte '\x7d' :: rest ∧
      readFields (fuel + 1) depth [(key, inner, absent)] [] true c =
        .ok (.complete [(key, v)] c') := by
  obtain ⟨bs, hquote⟩ := rest_of_quote hrest
  obtain ⟨c₁, hrest₁, hkey⟩ := readString_quote hrest
  have hrest₂ := Cursor.rest_next hrest₁
  have hshorter : c₁.next.rest.length < fuel := by
    rw [hrest₂]
    rw [hrest, List.length_append, List.length_cons] at hfuel
    omega
  obtain ⟨c₃, hrest₃, hvalue⟩ := h fuel _ c₁.next hrest₂ hshorter
  have hfield : fieldShape? [(key, inner, absent)] key = some inner := by
    simp [fieldShape?, memberOf?]
  refine ⟨c₃, hrest₃, ?_⟩
  rw [readFields, nextKey_quote hquote]
  dsimp only
  rw [hkey]
  dsimp only
  rw [hfield]
  dsimp only
  rw [if_neg (by simp [memberOf?]), readColon_colon hrest₁]
  dsimp only
  rw [hvalue]
  dsimp only
  cases fuel with
  | zero => exact absurd hshorter (Nat.not_lt_zero _)
  | succ fuel =>
    rw [readFields, nextKey_close hrest₃]
    simp [setMember, completeRecord, memberOf?, Except.map]

theorem readable_record (h : Readable depth inner v) :
    Readable (depth + 1) (.record name [(key, inner, absent)]) (.object [(key, v)]) := by
  intro fuel rest c hrest hfuel
  rw [print_field, List.cons_append, List.append_assoc, List.cons_append,
    List.append_assoc] at hrest
  have hnext := Cursor.rest_next hrest
  obtain ⟨fuel, rfl⟩ : ∃ k, fuel = k + 2 := by
    refine ⟨fuel - 2, ?_⟩
    rw [hrest, List.length_cons, List.length_append, List.length_cons] at hfuel
    omega
  have hshorter : c.next.rest.length ≤ fuel := by
    rw [hnext]
    rw [hrest, List.length_cons] at hfuel
    omega
  obtain ⟨c', hrest', hread⟩ := readFields_field h hnext hshorter
  refine ⟨c'.next, Cursor.rest_next hrest', ?_⟩
  rw [readValue.eq_def]
  dsimp only
  rw [Cursor.skipSpace_cons hrest rfl, hrest]
  dsimp only
  rw [if_neg (by decide), if_pos (beq_self_eq_true _), hread]
  dsimp only
  rw [closeObject, Cursor.skipSpace_cons hrest' rfl, hrest']
  rfl

/-- **A readable value is what its printed text is read as.** -/
theorem Readable.readBytes_print (h : Readable maxDepth shape v) :
    readBytes shape (utf8 v.print) = .ok v := by
  obtain ⟨c', hrest, hread⟩ := h (2 * (utf8 v.print).length + 4) [] (Cursor.start (utf8 v.print))
    (List.append_nil _).symm (by show (utf8 v.print).length < _; omega)
  rw [readBytes, hread]
  dsimp only
  rw [Cursor.skipSpace_nil hrest, hrest]
  rfl

end ApiScaffold.Json
