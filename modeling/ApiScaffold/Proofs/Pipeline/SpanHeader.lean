import ApiScaffold.Proofs.Naming
import ApiScaffold.Proofs.Pipeline.Spans
import ApiScaffold.Proofs.Text.Split

/-!
# The header of a span, written and read

A text is read as a span by its fields, the pieces between its dashes.  What is read of it is
settled by `ofHeader?_eq_some_iff`: which fields must be there, and what becomes of them.  All that
follows looks at fields and not at the reader.  The header that is written has four fields, since
no digit is a dash or a blank, and the identifiers of a span that was read are in lower case, so
they stay as they are.

* `IsIdentifier`, `IsCanonical`: identifiers, and the spans that are read.
* `ofHeader?_eq_some_iff`: **which texts are read, and as what.**
* `exists_fields`: the fields of a text of the first version, whatever stands behind its flags.
* `header_round_trip`: **spans are read as they are written**, from their own header and from the
  headers of a request.
* `foreign_refused_iff`: **the version and what follows the flags are not looked at.**
-/

namespace ApiScaffold.Client.SpanContext

open Text

variable {c : Char} {cs : List Char} {length : Nat} {text : String} {s : SpanContext}

/-! ## Digits -/

/-- The hexadecimal digits in lower case. -/
def lowerHexDigits : List Char :=
  ['0', '1', '2', '3', '4', '5', '6', '7', '8', '9', 'a', 'b', 'c', 'd', 'e', 'f']

/-- The hexadecimal digits. -/
def hexDigits : List Char := lowerHexDigits ++ ['A', 'B', 'C', 'D', 'E', 'F']

theorem isAscii_of_isHexDigit (h : isHexDigit c = true) : isAscii c = true := by
  simp only [isHexDigit, isAsciiDigit, Bool.or_eq_true, Bool.and_eq_true, decide_eq_true_eq] at h
  rcases h with (⟨-, h⟩ | ⟨-, h⟩) | ⟨-, h⟩
  all_goals exact decide_eq_true (Nat.lt_of_le_of_lt h (by decide))

/-- What can be computed of all hexadecimal digits holds of each of them. -/
theorem of_mem_hexDigits {p : Char → Bool} (hall : hexDigits.all p = true) (h : c ∈ hexDigits) :
    p c = true :=
  List.all_eq_true.mp hall c h

theorem isHexDigit_iff : isHexDigit c = true ↔ c ∈ hexDigits := by
  constructor
  · intro h
    have hcode := Naming.of_ascii (p := fun c => !isHexDigit c || hexDigits.contains c)
      (by decide +kernel) (isAscii_of_isHexDigit h)
    rw [h, Bool.not_true, Bool.false_or] at hcode
    exact List.contains_iff_mem.mp hcode
  · exact of_mem_hexDigits (by decide)

theorem mem_hexDigits_of_lower (h : c ∈ lowerHexDigits) : c ∈ hexDigits :=
  List.mem_append_left _ h

theorem asciiLower_of_lower (h : c ∈ lowerHexDigits) : asciiLower c = c := by
  have hall : (lowerHexDigits.all fun c => asciiLower c == c) = true := by decide
  exact eq_of_beq (List.all_eq_true.mp hall c h)

theorem asciiLower_mem_lowerHexDigits (h : c ∈ hexDigits) : asciiLower c ∈ lowerHexDigits :=
  List.contains_iff_mem.mp
    (of_mem_hexDigits (p := fun c => lowerHexDigits.contains (asciiLower c)) (by decide) h)

/-- No letter becomes a zero. -/
theorem asciiLower_ne_zero (h : c ∈ hexDigits) (hc : c ≠ '0') : asciiLower c ≠ '0' := by
  have hcode := of_mem_hexDigits (p := fun c => c == '0' || !(asciiLower c == '0')) (by decide) h
  simpa [hc] using hcode

/-- No digit is a mark of the header. -/
theorem not_mark_of_mem (h : c ∈ hexDigits) : (c == '-') = false ∧ isBlank c = false := by
  have hcode := of_mem_hexDigits (p := fun c => !(c == '-') && !isBlank c) (by decide) h
  simpa using hcode

/-! ## Identifiers -/

/-- Whether characters are an identifier: so many of some digits, not all of them zero. -/
structure IsIdentifier (digits : List Char) (length : Nat) (cs : List Char) : Prop where
  length_eq : cs.length = length
  mem_digits : ∀ c ∈ cs, c ∈ digits
  ne_zero : ∃ c ∈ cs, c ≠ '0'

theorem isHex_iff : isHex length cs = true ↔ cs.length = length ∧ ∀ c ∈ cs, c ∈ hexDigits := by
  simp only [isHex, Bool.and_eq_true, beq_iff_eq, List.all_eq_true, isHexDigit_iff]

theorem isIdentifier_iff : IsIdentifier hexDigits length cs ↔
    (isHex length cs && !cs.all (· == '0')) = true := by
  rw [Bool.and_eq_true, isHex_iff]
  constructor
  · rintro ⟨hlength, hdigits, hzero⟩
    exact ⟨⟨hlength, hdigits⟩, by simpa using hzero⟩
  · rintro ⟨⟨hlength, hdigits⟩, hzero⟩
    exact ⟨hlength, hdigits, by simpa using hzero⟩

/-- A text of characters in lower case. -/
def lowered (cs : List Char) : String := String.ofList (cs.map asciiLower)

/-- An identifier is read in lower case, and nothing else is read. -/
theorem identifier?_eq_some_iff {id : String} :
    identifier? length cs = some id ↔ IsIdentifier hexDigits length cs ∧ id = lowered cs := by
  rw [isIdentifier_iff, identifier?]
  split
  next h =>
    rw [Option.some.injEq]
    exact ⟨fun heq => ⟨h, heq.symm⟩, fun heq => heq.2.symm⟩
  next h =>
    constructor
    · intro hnone
      cases hnone
    · rintro ⟨hid, -⟩
      exact absurd hid h

theorem IsIdentifier.lower (h : IsIdentifier hexDigits length cs) :
    IsIdentifier lowerHexDigits length (lowered cs).toList := by
  rw [SpanContext.lowered, String.toList_ofList]
  refine ⟨by rw [List.length_map, h.length_eq], fun c hc => ?_, ?_⟩
  · obtain ⟨d, hd, rfl⟩ := List.mem_map.mp hc
    exact asciiLower_mem_lowerHexDigits (h.mem_digits d hd)
  · obtain ⟨d, hd, hzero⟩ := h.ne_zero
    exact ⟨asciiLower d, List.mem_map_of_mem hd,
      asciiLower_ne_zero (h.mem_digits d hd) hzero⟩

theorem IsIdentifier.of_lower (h : IsIdentifier lowerHexDigits length cs) :
    IsIdentifier hexDigits length cs :=
  ⟨h.length_eq, fun c hc => mem_hexDigits_of_lower (h.mem_digits c hc), h.ne_zero⟩

/-- What is in lower case stays as it is. -/
theorem IsIdentifier.lowered_eq {id : String} (h : IsIdentifier lowerHexDigits length id.toList) :
    lowered id.toList = id := by
  have hmap : id.toList.map asciiLower = id.toList := by
    rw [List.map_congr_left fun c hc => asciiLower_of_lower (h.mem_digits c hc), List.map_id']
  rw [SpanContext.lowered, hmap, String.ofList_toList]

theorem IsIdentifier.isHex (h : IsIdentifier lowerHexDigits length cs) :
    isHex length cs = true :=
  isHex_iff.mpr ⟨h.of_lower.length_eq, h.of_lower.mem_digits⟩

theorem IsIdentifier.all_isAscii (h : IsIdentifier lowerHexDigits length cs) :
    cs.all isAscii = true := by
  refine List.all_eq_true.mpr fun c hc => ?_
  exact isAscii_of_isHexDigit (isHexDigit_iff.mpr (h.of_lower.mem_digits c hc))

theorem IsIdentifier.dash_not_mem (h : IsIdentifier lowerHexDigits length cs) : '-' ∉ cs := by
  intro hdash
  have hdigit := (not_mark_of_mem (mem_hexDigits_of_lower (h.mem_digits _ hdash))).1
  exact absurd hdigit (by decide)

/-! ## Fields -/

/-- The fields of a text: its pieces between dashes, without the blanks at the two ends. -/
def fields (text : String) : List (List Char) := splitWhere (· == '-') (trimChars text.toList)

/-- **Which texts are read, and as what.** -/
theorem ofHeader?_eq_some_iff : ofHeader? text = some s ↔
    ∃ version traceId spanId flags more,
      fields text = version :: traceId :: spanId :: flags :: more ∧
      (String.ofList version).utf8ByteSize = 2 ∧ IsIdentifier hexDigits 32 traceId ∧
      IsIdentifier hexDigits 16 spanId ∧ isHex 2 flags = true ∧
      s = ⟨lowered traceId, lowered spanId, flags.getLast?.any isOddDigit⟩ := by
  rw [ofHeader?, ← fields]
  split
  next version traceId spanId flags more hfields =>
    rw [hfields]
    split
    next h =>
      obtain ⟨hversion, hflags⟩ := Bool.and_eq_true_iff.mp h
      simp only [Option.bind_eq_bind, Option.bind_eq_some_iff, identifier?_eq_some_iff]
      constructor
      · rintro ⟨_, ⟨htrace, rfl⟩, _, ⟨hspan, rfl⟩, hs⟩
        exact ⟨version, traceId, spanId, flags, more, rfl, eq_of_beq hversion, htrace, hspan,
          hflags, (Option.some.inj hs).symm⟩
      · rintro ⟨_, _, _, _, _, heq, -, htrace, hspan, -, rfl⟩
        cases heq
        exact ⟨_, ⟨htrace, rfl⟩, _, ⟨hspan, rfl⟩, rfl⟩
    next h =>
      constructor
      · intro hnone
        cases hnone
      · rintro ⟨_, _, _, _, _, heq, hversion, -, -, hflags, -⟩
        cases heq
        exact absurd (by rw [hversion, hflags]; rfl) h
  next hshort =>
    constructor
    · intro hnone
      cases hnone
    · rintro ⟨version, traceId, spanId, flags, more, heq, -⟩
      exact absurd heq (hshort version traceId spanId flags more)

/-- The fields of a text of the first version, with something behind its flags. -/
theorem exists_fields {traceId spanId tail : List Char} {a b : Char}
    (h : text.toList.dropWhile isBlank =
      '0' :: '0' :: '-' :: (traceId ++ '-' :: (spanId ++ '-' :: a :: b :: tail)))
    (htrace : '-' ∉ traceId) (hspan : '-' ∉ spanId)
    (ha : a ∈ hexDigits) (hb : b ∈ hexDigits) :
    ∃ piece rest, splitWhere (· == '-') (dropEndWhile isBlank tail) = piece :: rest ∧
      fields text = ['0', '0'] :: traceId :: spanId :: (a :: b :: piece) :: rest := by
  have hflags : ∀ x ∈ [a, b], (x == '-') = false := by
    intro x hx
    rcases List.mem_pair.mp hx with rfl | rfl
    · exact (not_mark_of_mem ha).1
    · exact (not_mark_of_mem hb).1
  obtain ⟨piece, rest, hsplit, happend⟩ := splitWhere_append hflags (dropEndWhile isBlank tail)
  have htrim : trimChars text.toList = ['0', '0'] ++ '-' :: (traceId ++ '-' :: (spanId ++ '-' ::
      ([a, b] ++ dropEndWhile isBlank tail))) := by
    have hend := dropEndWhile_mark (not_mark_of_mem hb).2
      ('0' :: '0' :: '-' :: (traceId ++ '-' :: (spanId ++ '-' :: [a]))) tail
    rw [trimChars, trimWhile, h]
    simpa using hend
  refine ⟨piece, rest, hsplit, ?_⟩
  rw [fields, htrim, splitWhere_mark (by rfl), splitWhere_mark (by rfl), splitWhere_mark (by rfl),
    happend, splitWhere_of_not_mem htrace, splitWhere_of_not_mem hspan]
  rfl

/-! ## Spans that are written -/

/-- Whether a span is one that is read: its identifiers are in lower case. -/
structure IsCanonical (s : SpanContext) : Prop where
  traceId : IsIdentifier lowerHexDigits 32 s.traceId.toList
  spanId : IsIdentifier lowerHexDigits 16 s.spanId.toList

/-- The flags of a span. -/
def flags (s : SpanContext) : List Char := ['0', if s.sampled then '1' else '0']

theorem toList_header (s : SpanContext) : s.header.toList =
    '0' :: '0' :: '-' :: (s.traceId.toList ++ '-' :: (s.spanId.toList ++ '-' :: s.flags)) := by
  cases hs : s.sampled <;> simp [header, toString, flags, hs]

theorem isCanonical_of_ofHeader? (h : ofHeader? text = some s) : s.IsCanonical := by
  obtain ⟨version, traceId, spanId, flags, more, -, -, htrace, hspan, -, rfl⟩ :=
    ofHeader?_eq_some_iff.mp h
  exact ⟨htrace.lower, hspan.lower⟩

theorem IsCanonical.ofHeader? (h : s.IsCanonical) : ofHeader? s.header = some s := by
  have hstart : s.header.toList.dropWhile isBlank = '0' :: '0' :: '-' :: (s.traceId.toList ++
      '-' :: (s.spanId.toList ++ '-' :: '0' :: (if s.sampled then '1' else '0') :: [])) := by
    rw [toList_header]
    exact List.dropWhile_cons_of_neg (by decide)
  have hflag : (if s.sampled then '1' else '0') ∈ hexDigits := by
    cases s.sampled <;> decide
  obtain ⟨piece, rest, hsplit, hfields⟩ := exists_fields hstart
    h.traceId.dash_not_mem h.spanId.dash_not_mem (by decide) hflag
  cases hsplit
  refine ofHeader?_eq_some_iff.mpr ⟨_, _, _, _, _, hfields, by decide, h.traceId.of_lower,
    h.spanId.of_lower, ?_, ?_⟩
  · cases s.sampled <;> decide
  · have hsampled : ['0', if s.sampled then '1' else '0'].getLast?.any isOddDigit = s.sampled := by
      cases s.sampled <;> decide
    rw [hsampled, h.traceId.lowered_eq, h.spanId.lowered_eq]

theorem IsCanonical.isHeaderValue (h : s.IsCanonical) : Web.isHeaderValue s.header = true := by
  rw [isHeaderValue_header h.spanId.isHex]
  exact isHeaderValue_of_isHex h.traceId.isHex

theorem IsCanonical.readableValue? (h : s.IsCanonical) :
    Web.readableValue? s.header = some s.header := by
  have hflags : s.flags.all isAscii = true := by
    rw [flags]
    cases s.sampled <;> decide
  have hall : s.header.toList.all isAscii = true := by
    rw [toList_header]
    simp only [List.all_cons, List.all_append, h.traceId.all_isAscii,
      h.spanId.all_isAscii, hflags]
    decide
  rw [Web.readableValue?, if_pos hall]

/-- **Spans are read as they are written.**  Whatever text a span is read from, its identifiers are
32 and 16 hexadecimal digits in lower case, not all of them zero.  Every such span is read from its
own header, and from any headers that it was written into. -/
theorem header_round_trip :
    (∀ text s, SpanContext.ofHeader? text = some s → s.IsCanonical) ∧
    ∀ s : SpanContext, s.IsCanonical →
      SpanContext.ofHeader? s.header = some s ∧
      ∀ headers, ∃ headers', inject s headers = .ok headers' ∧ extract headers' = some s := by
  refine ⟨fun text s h => isCanonical_of_ofHeader? h, fun s h => ⟨h.ofHeader?, fun headers => ?_⟩⟩
  refine ⟨headers.insert traceHeader s.header, ?_, ?_⟩
  · rw [inject, if_pos h.isHeaderValue]
  · rw [extract, Web.Headers.get?_insert, Option.bind_some, h.readableValue?, Option.bind_some,
      h.ofHeader?]

/-- A text of a later version, in upper case and with more flags than one, is read as a span that
replaces two earlier ones. -/
theorem header_round_trip_later :
    let s : SpanContext := ⟨"4bf92f3577b34da6a3ce929d0e0e4736", "00f067aa0ba902b7", true⟩
    ofHeader? "cc-4BF92F3577B34DA6A3CE929D0E0E4736-00F067AA0BA902B7-03-what" = some s ∧
    s.IsCanonical ∧ ofHeader? s.header = some s ∧
    ∃ headers, inject s [(traceHeader, "old"), ("accept", "*/*"), (traceHeader, "older")] =
      .ok headers ∧ extract headers = some s := by
  intro s
  have hread : ofHeader? "cc-4BF92F3577B34DA6A3CE929D0E0E4736-00F067AA0BA902B7-03-what" =
      some s := rfl
  have hcanonical := header_round_trip.1 _ s hread
  obtain ⟨hheader, hheaders⟩ := header_round_trip.2 s hcanonical
  exact ⟨hread, hcanonical, hheader, hheaders _⟩

/-! ## What is not looked at -/

/-- Whether the fields behind the version are those of a span: two identifiers and two digits of
flags, whatever follows them. -/
def Legible (rest : List (List Char)) : Prop :=
  ∃ traceId spanId flags more, rest = traceId :: spanId :: flags :: more ∧
    IsIdentifier hexDigits 32 traceId ∧ IsIdentifier hexDigits 16 spanId ∧ isHex 2 flags = true

/-- A version of two bytes decides nothing. -/
theorem ofHeader?_eq_none_iff {version : List Char} {rest : List (List Char)}
    (hfields : fields text = version :: rest)
    (hversion : (String.ofList version).utf8ByteSize = 2) :
    ofHeader? text = none ↔ ¬Legible rest := by
  rw [← not_iff_not, not_not, ← ne_eq, Option.ne_none_iff_exists']
  simp only [ofHeader?_eq_some_iff, hfields]
  constructor
  · rintro ⟨s, _, traceId, spanId, flags, more, heq, -, htrace, hspan, hflags, -⟩
    cases heq
    exact ⟨traceId, spanId, flags, more, rfl, htrace, hspan, hflags⟩
  · rintro ⟨traceId, spanId, flags, more, rfl, htrace, hspan, hflags⟩
    exact ⟨_, version, traceId, spanId, flags, more, rfl, hversion, htrace, hspan, hflags, rfl⟩

/-- Two digits of flags leave no room for more in their field. -/
theorem legible_iff {traceId spanId piece : List Char} {rest : List (List Char)} {a b : Char}
    (ha : a ∈ hexDigits) (hb : b ∈ hexDigits) :
    Legible (traceId :: spanId :: (a :: b :: piece) :: rest) ↔
      IsIdentifier hexDigits 32 traceId ∧ IsIdentifier hexDigits 16 spanId ∧ piece = [] := by
  constructor
  · rintro ⟨_, _, _, _, heq, htrace, hspan, hflags⟩
    cases heq
    have hlength : (a :: b :: piece).length = 2 := (isHex_iff.mp hflags).1
    exact ⟨htrace, hspan, List.length_eq_zero_iff.mp (by simpa using hlength)⟩
  · rintro ⟨htrace, hspan, rfl⟩
    exact ⟨_, _, _, _, rfl, htrace, hspan, isHex_iff.mpr ⟨rfl, by simp [ha, hb]⟩⟩

theorem eq_of_asciiLower_eq_f (h : asciiLower c = 'f') : c = 'f' ∨ c = 'F' := by
  by_cases hascii : isAscii c = true
  · have hcode := Naming.of_ascii (p := fun c => !(asciiLower c == 'f') || c == 'f' || c == 'F')
      (by decide +kernel) hascii
    simpa [h] using hcode
  · have hupper : ¬isAsciiUpper c = true := by
      intro hupper
      refine hascii (decide_eq_true ?_)
      rw [isAsciiUpper, Bool.and_eq_true, decide_eq_true_eq, decide_eq_true_eq] at hupper
      exact Nat.lt_of_le_of_lt hupper.2 (by decide)
    rw [asciiLower, if_neg hupper] at h
    exact .inl h

theorem size_of_lower_ff {version : List Char} (h : version.map asciiLower = ['f', 'f']) :
    (String.ofList version).utf8ByteSize = 2 := by
  obtain ⟨a, _, rfl, ha, hrest⟩ := List.map_eq_cons_iff.mp h
  obtain ⟨b, _, rfl, hb, hnil⟩ := List.map_eq_cons_iff.mp hrest
  obtain rfl := List.map_eq_nil_iff.mp hnil
  rcases eq_of_asciiLower_eq_f ha with rfl | rfl <;>
    rcases eq_of_asciiLower_eq_f hb with rfl | rfl <;> decide

/-- **The version and what follows the flags are not looked at.**  A text of the version `ff`, in
any case, is refused exactly if one of its other fields is malformed.  A text of the version `00`
with two digits of flags is refused exactly if one of its identifiers is malformed, or if what
follows the digits, without the blanks at the end, begins with anything but a dash. -/
theorem foreign_refused_iff (text : String) :
    (∀ version rest, fields text = version :: rest → version.map asciiLower = ['f', 'f'] →
      (ofHeader? text = none ↔ ¬Legible rest)) ∧
    ∀ traceId spanId a b tail,
      text.toList.dropWhile isBlank =
        '0' :: '0' :: '-' :: (traceId ++ '-' :: (spanId ++ '-' :: a :: b :: tail)) →
      '-' ∉ traceId → '-' ∉ spanId → a ∈ hexDigits → b ∈ hexDigits →
      (ofHeader? text = none ↔
        ¬IsIdentifier hexDigits 32 traceId ∨ ¬IsIdentifier hexDigits 16 spanId ∨
          ∃ c, (dropEndWhile isBlank tail).head? = some c ∧ c ≠ '-') := by
  refine ⟨fun version rest hfields hff => ofHeader?_eq_none_iff hfields (size_of_lower_ff hff), ?_⟩
  intro traceId spanId a b tail hstart htrace hspan ha hb
  obtain ⟨piece, rest, hsplit, hfields⟩ := exists_fields hstart htrace hspan ha hb
  have hpiece : piece ≠ [] ↔ ∃ c, (dropEndWhile isBlank tail).head? = some c ∧ c ≠ '-' := by
    simpa only [beq_eq_false_iff_ne] using splitWhere_head_ne_nil hsplit
  rw [ofHeader?_eq_none_iff hfields (by decide), legible_iff ha hb, ← hpiece, not_and_or,
    not_and_or]

/-- Texts of the version `ff` without its flags, and of the version `00` with a dot behind them. -/
theorem foreign_refused_iff_malformed :
    ofHeader? "fF-4bf92f3577b34da6a3ce929d0e0e4736-00f067aa0ba902b7" = none ∧
    ofHeader? "00-4bf92f3577b34da6a3ce929d0e0e4736-00f067aa0ba902b7-01.5 " = none := by
  constructor
  · refine ((foreign_refused_iff _).1 ['f', 'F']
      ["4bf92f3577b34da6a3ce929d0e0e4736".toList, "00f067aa0ba902b7".toList] (by decide)
      (by decide)).mpr ?_
    rintro ⟨_, _, _, _, heq, -⟩
    cases heq
  · refine ((foreign_refused_iff _).2 "4bf92f3577b34da6a3ce929d0e0e4736".toList
      "00f067aa0ba902b7".toList '0' '1' ".5 ".toList (by decide) (by decide)
      (by decide) (by decide) (by decide)).mpr ?_
    exact .inr (.inr ⟨'.', by decide, by decide⟩)

/-- **Not every text of another version, or with more in it, is refused.** -/
theorem foreign_read :
    (¬∀ text version rest, fields text = version :: rest → version.map asciiLower = ['f', 'f'] →
      ofHeader? text = none) ∧
    ¬∀ text traceId spanId a b tail,
      String.toList text =
        '0' :: '0' :: '-' :: (traceId ++ '-' :: (spanId ++ '-' :: a :: b :: tail)) →
      '-' ∉ traceId → '-' ∉ spanId → a ∈ hexDigits → b ∈ hexDigits → tail ≠ [] →
      ofHeader? text = none := by
  constructor
  · intro h
    have hnone := h "ff-4bf92f3577b34da6a3ce929d0e0e4736-00f067aa0ba902b7-01" ['f', 'f']
      ["4bf92f3577b34da6a3ce929d0e0e4736".toList, "00f067aa0ba902b7".toList, ['0', '1']]
      (by decide) (by decide)
    exact absurd hnone (by decide)
  · intro h
    have hnone := h "00-4bf92f3577b34da6a3ce929d0e0e4736-00f067aa0ba902b7-01-extra"
      "4bf92f3577b34da6a3ce929d0e0e4736".toList "00f067aa0ba902b7".toList '0' '1' "-extra".toList
      (by decide) (by decide) (by decide) (by decide)
      (by decide) (by decide)
    exact absurd hnone (by decide)

end ApiScaffold.Client.SpanContext
