import ApiScaffold.Proofs.Traversal
import ApiScaffold.Text.Utf8
import Mathlib.Data.List.Basic
import Mathlib.Data.Nat.Init

/-!
# Bytes of texts and texts of bytes

A text is written one character at a time, and a character takes one to four bytes by the size of
its code point (`written_char`).  Everything here is read off these four forms.

* `utf8_append`, `utf8_ofList`: the bytes of a text are those of its characters.
* `decodeLossy_utf8`, `decode?_utf8`: **reading the bytes of a text gives the text.**
* `utf8_lt`: **texts are ordered as their bytes are.**
* `decodeLossy_mark`: what stands before an ASCII character and what stands behind it are read
  apart, well formed or not.
-/

namespace ApiScaffold.Text

variable {b : UInt8} {bs : List UInt8} {s t : String}

/-! ## The bytes of a text -/

/-- The list of a byte array is read from its front. -/
theorem toList_loop (bytes : ByteArray) : ∀ (m i : Nat) (read : List UInt8), bytes.size - i = m →
    ByteArray.toList.loop bytes i read = read.reverse ++ bytes.data.toList.drop i := by
  intro m
  induction m with
  | zero =>
    intro i read hm
    have hend : ¬i < bytes.size := by omega
    have hdrop : bytes.data.toList.drop i = [] :=
      List.drop_eq_nil_of_le (by simpa using Nat.not_lt.mp hend)
    rw [ByteArray.toList.loop, if_neg hend, hdrop, List.append_nil]
  | succ m ih =>
    intro i read hm
    have hlt : i < bytes.size := by omega
    have hget : bytes.get! i = bytes.data.toList[i] := by
      show bytes.data[i]! = _
      rw [getElem!_pos bytes.data i hlt, Array.getElem_toList]
    rw [ByteArray.toList.loop, if_pos hlt, ih _ _ (by omega), List.reverse_cons, List.append_assoc,
      List.singleton_append, hget, ← List.drop_eq_getElem_cons]

theorem toList_toByteArray (bytes : List UInt8) : bytes.toByteArray.toList = bytes := by
  rw [ByteArray.toList, toList_loop _ _ 0 [] rfl, List.data_toByteArray]
  rfl

/-- **The bytes of a text are those of its characters.** -/
theorem utf8_ofList (cs : List Char) :
    utf8 (String.ofList cs) = cs.flatMap String.utf8EncodeChar := by
  rw [utf8, String.toUTF8, String.toByteArray_ofList, List.utf8Encode, toList_toByteArray]

theorem utf8_eq (s : String) : utf8 s = s.toList.flatMap String.utf8EncodeChar := by
  rw [← utf8_ofList, String.ofList_toList]

theorem utf8_append (s t : String) : utf8 (s ++ t) = utf8 s ++ utf8 t := by
  rw [utf8_eq, utf8_eq, utf8_eq, String.toList_append, List.flatMap_append]

/-! ## The four forms of a character -/

/-- How a code point is written in bytes. -/
inductive Written (n : Nat) : List UInt8 → Prop
  | one (high : n < 0x80) : Written n [.ofNat n]
  | two (low : 0x80 ≤ n) (high : n < 0x800) :
    Written n [.ofNat (n / 64 + 192), .ofNat (n % 64 + 128)]
  | three (low : 0x800 ≤ n) (high : n < 0x10000) (gap : n < 0xD800 ∨ 0xDFFF < n) :
    Written n [.ofNat (n / 4096 + 224), .ofNat (n / 64 % 64 + 128), .ofNat (n % 64 + 128)]
  | four (low : 0x10000 ≤ n) (high : n < 0x110000) :
    Written n [.ofNat (n / 262144 + 240), .ofNat (n / 4096 % 64 + 128),
      .ofNat (n / 64 % 64 + 128), .ofNat (n % 64 + 128)]

theorem written_char (c : Char) : Written c.toNat (String.utf8EncodeChar c) := by
  have hvalid : c.toNat < 0xD800 ∨ 0xDFFF < c.toNat ∧ c.toNat < 0x110000 := c.valid
  have hval : c.val.toNat = c.toNat := rfl
  unfold String.utf8EncodeChar
  rw [hval]
  generalize c.toNat = n at hvalid
  dsimp only
  by_cases h1 : n ≤ 127
  · rw [if_pos h1]
    exact .one (by omega)
  · rw [if_neg h1]
    by_cases h2 : n ≤ 2047
    · have hfirst : n / 64 % 32 = n / 64 := by omega
      rw [if_pos h2, hfirst]
      exact .two (by omega) (by omega)
    · rw [if_neg h2]
      by_cases h3 : n ≤ 65535
      · have hfirst : n / 4096 % 16 = n / 4096 := by omega
        rw [if_pos h3, hfirst]
        exact .three (by omega) (by omega) (by omega)
      · have hfirst : n / 262144 % 8 = n / 262144 := by omega
        rw [if_neg h3, hfirst]
        exact .four (by omega) (by omega)

/-! ## Reading -/

theorem leadingByte_one : ∀ n < 0x80, leadingByte (.ofNat n) = some (n, 0, 0, 0) := by
  decide

theorem leadingByte_two :
    ∀ n < 0x1E, leadingByte (.ofNat (n + 2 + 0xC0)) = some (n + 2, 1, 0x80, 0xBF) := by
  decide

/-- The second of three bytes is bounded so that a code point has one form, and is no half of a
pair. -/
theorem leadingByte_three : ∀ n < 0x10, leadingByte (.ofNat (n + 0xE0)) =
    some (n, 2, if n = 0 then 0xA0 else 0x80, if n = 0xD then 0x9F else 0xBF) := by
  decide

/-- The second of four bytes is bounded so that a code point has one form, and is not too large. -/
theorem leadingByte_four : ∀ n < 0x5, leadingByte (.ofNat (n + 0xF0)) =
    some (n, 3, if n = 0 then 0x90 else 0x80, if n = 0x4 then 0x8F else 0xBF) := by
  decide

theorem continueCode_zero (code low high : Nat) (rest : List UInt8) :
    continueCode 0 code low high rest = (some code, 0) := by
  rw [continueCode]

theorem continueCode_step (count code low high : Nat) (b : UInt8) (rest : List UInt8) :
    continueCode (count + 1) code low high (b :: rest) =
      if isContinuation low high b then
        ((continueCode count (code * 64 + (b.toNat - 0x80)) 0x80 0xBF rest).1,
          (continueCode count (code * 64 + (b.toNat - 0x80)) 0x80 0xBF rest).2 + 1)
      else (none, 0) := by
  rw [continueCode]

theorem continueCode_cons {count code low high n : Nat} (hn : n < 256) (hlow : low ≤ n)
    (hhigh : n ≤ high) (rest : List UInt8) :
    continueCode (count + 1) code low high (.ofNat n :: rest) =
      ((continueCode count (code * 64 + (n - 0x80)) 0x80 0xBF rest).1,
        (continueCode count (code * 64 + (n - 0x80)) 0x80 0xBF rest).2 + 1) := by
  have hbyte : (UInt8.ofNat n).toNat = n := UInt8.toNat_ofNat_of_lt' hn
  have hcontinues : isContinuation low high (.ofNat n) = true := by
    simp only [isContinuation, hbyte, Bool.and_eq_true, decide_eq_true_eq]
    exact ⟨hlow, hhigh⟩
  rw [continueCode_step, if_pos hcontinues, hbyte]

theorem firstChar_of_leading {bits count low high code : Nat} {rest : List UInt8}
    (hb : leadingByte b = some (bits, count, low, high))
    (hrest : continueCode count bits low high rest = (some code, count)) :
    firstChar b rest = (some (Char.ofNat code), count) := by
  simp only [firstChar, hb, hrest, Option.map_some]

/-- The bytes of a code point are read as it, whatever stands behind them. -/
theorem firstChar_written {n : Nat} (h : Written n (b :: bs)) (rest : List UInt8) :
    firstChar b (bs ++ rest) = (some (Char.ofNat n), bs.length) := by
  cases h with
  | one high => exact firstChar_of_leading (leadingByte_one _ high) (continueCode_zero ..)
  | two low high =>
    obtain ⟨k, hk⟩ : ∃ k, n / 64 = k + 2 := ⟨n / 64 - 2, by omega⟩
    have hcode : (k + 2) * 64 + (n % 64 + 128 - 0x80) = n := by omega
    rw [hk]
    refine firstChar_of_leading (leadingByte_two k (by omega)) ?_
    show continueCode 1 _ _ _ (.ofNat (n % 64 + 128) :: rest) = (some n, 1)
    rw [continueCode_cons (by omega) (by omega) (by omega), continueCode_zero, hcode]
  | three low high gap =>
    have hcode : (n / 4096 * 64 + (n / 64 % 64 + 128 - 0x80)) * 64 + (n % 64 + 128 - 0x80) = n := by
      omega
    refine firstChar_of_leading (leadingByte_three _ (by omega)) ?_
    show continueCode 2 _ _ _ (.ofNat (n / 64 % 64 + 128) :: .ofNat (n % 64 + 128) :: rest) =
      (some n, 2)
    rw [continueCode_cons (by omega) (by split <;> omega) (by split <;> omega),
      continueCode_cons (by omega) (by omega) (by omega), continueCode_zero, hcode]
  | four low high =>
    have hcode : ((n / 262144 * 64 + (n / 4096 % 64 + 128 - 0x80)) * 64 +
        (n / 64 % 64 + 128 - 0x80)) * 64 + (n % 64 + 128 - 0x80) = n := by omega
    refine firstChar_of_leading (leadingByte_four _ (by omega)) ?_
    show continueCode 3 _ _ _ (.ofNat (n / 4096 % 64 + 128) :: .ofNat (n / 64 % 64 + 128) ::
      .ofNat (n % 64 + 128) :: rest) = (some n, 3)
    rw [continueCode_cons (by omega) (by split <;> omega) (by split <;> omega),
      continueCode_cons (by omega) (by omega) (by omega),
      continueCode_cons (by omega) (by omega) (by omega), continueCode_zero, hcode]

theorem decodeParts_cons (b : UInt8) (bs : List UInt8) :
    decodeParts (b :: bs) = (firstChar b bs).1 :: decodeParts (bs.drop (firstChar b bs).2) := by
  rw [decodeParts]

/-- A character at the front is read first. -/
theorem decodeParts_char (c : Char) (rest : List UInt8) :
    decodeParts (String.utf8EncodeChar c ++ rest) = some c :: decodeParts rest := by
  have hwritten := written_char c
  cases hbytes : String.utf8EncodeChar c with
  | nil => exact absurd hbytes String.utf8EncodeChar_ne_nil
  | cons b bs =>
    rw [hbytes] at hwritten
    rw [List.cons_append, decodeParts_cons, firstChar_written hwritten, Char.ofNat_toNat,
      List.drop_left]

theorem decodeParts_chars (cs : List Char) (rest : List UInt8) :
    decodeParts (cs.flatMap String.utf8EncodeChar ++ rest) = cs.map some ++ decodeParts rest := by
  induction cs with
  | nil => rfl
  | cons c cs ih => rw [List.flatMap_cons, List.append_assoc, decodeParts_char, ih]; rfl

theorem decodeParts_utf8 (s : String) : decodeParts (utf8 s) = s.toList.map some := by
  have h := decodeParts_chars s.toList []
  rwa [List.append_nil, ← utf8_eq, decodeParts, List.append_nil] at h

/-- **Reading the bytes of a text gives the text.** -/
theorem decodeLossy_utf8 (s : String) : decodeLossy (utf8 s) = s := by
  have hplain : ((fun part => part.getD '\uFFFD') ∘ some : Char → Char) = id := rfl
  rw [decodeLossy, decodeParts_utf8, List.map_map, hplain, List.map_id, String.ofList_toList]

/-- Texts are told apart by their bytes. -/
theorem utf8_injective : Function.Injective utf8 :=
  Function.LeftInverse.injective decodeLossy_utf8

/-- **The bytes of a text are well formed.** -/
theorem decode?_utf8 (s : String) : decode? (utf8 s) = some s := by
  have hchars : (s.toList.map some).mapM id = some (s.toList.map id) :=
    mapM_map_eq_some fun _ _ => rfl
  rw [decode?, decodeParts_utf8, hchars, List.map_id, Option.map_some, String.ofList_toList]

/-! ## Marks

An ASCII byte continues no character, so whatever is being read before it ends there. -/

theorem continueCode_mark {mark : UInt8} (hmark : mark.toNat < 0x80) (rest : List UInt8) :
    ∀ count code low high : Nat, count = 0 ∨ 0x80 ≤ low →
      continueCode count code low high (bs ++ mark :: rest) = continueCode count code low high bs ∧
        (continueCode count code low high bs).2 ≤ bs.length := by
  induction bs with
  | nil =>
    intro count code low high h
    cases count with
    | zero => exact ⟨by rw [continueCode_zero, continueCode_zero], Nat.le_refl 0⟩
    | succ count =>
      have hends : isContinuation low high mark = false := by
        rw [isContinuation, Bool.and_eq_false_iff, decide_eq_false_iff_not]
        left
        omega
      have hempty : continueCode (count + 1) code low high [] = (none, 0) := by rw [continueCode]
      rw [List.nil_append, continueCode_step, hends, hempty]
      exact ⟨rfl, Nat.le_refl 0⟩
  | cons b bs ih =>
    intro count code low high h
    cases count with
    | zero => exact ⟨by rw [continueCode_zero, continueCode_zero], by rw [continueCode_zero]; simp⟩
    | succ count =>
      rw [List.cons_append, continueCode_step, continueCode_step]
      cases isContinuation low high b with
      | false => exact ⟨rfl, Nat.zero_le _⟩
      | true =>
        obtain ⟨hsame, hused⟩ :=
          ih count (code * 64 + (b.toNat - 0x80)) 0x80 0xBF (.inr (Nat.le_refl _))
        rw [if_pos rfl, if_pos rfl, hsame]
        exact ⟨rfl, Nat.succ_le_succ hused⟩

/-- A byte that announces others bounds the first of them by those that continue a character. -/
theorem bounds_of_leadingByte {bits count low high : Nat}
    (h : leadingByte b = some (bits, count, low, high)) : count = 0 ∨ 0x80 ≤ low := by
  unfold leadingByte at h
  dsimp only at h
  repeat' split at h
  all_goals simp only [Option.some.injEq, Prod.mk.injEq, reduceCtorEq] at h
  all_goals omega

theorem firstChar_mark {mark : UInt8} (hmark : mark.toNat < 0x80) (b : UInt8)
    (bs rest : List UInt8) :
    firstChar b (bs ++ mark :: rest) = firstChar b bs ∧ (firstChar b bs).2 ≤ bs.length := by
  cases hb : leadingByte b with
  | none => simp [firstChar, hb]
  | some announced =>
    obtain ⟨bits, count, low, high⟩ := announced
    obtain ⟨hsame, hused⟩ :=
      continueCode_mark hmark rest count bits low high (bounds_of_leadingByte hb)
    simp only [firstChar, hb]
    rw [hsame]
    exact ⟨rfl, hused⟩

theorem decodeParts_mark {mark : UInt8} (hmark : mark.toNat < 0x80) (rest : List UInt8) :
    decodeParts (bs ++ mark :: rest) =
      decodeParts bs ++ some (Char.ofNat mark.toNat) :: decodeParts rest := by
  induction hlength : bs.length using Nat.strong_induction_on generalizing bs with
  | _ length ih =>
    cases bs with
    | nil =>
      have hfirst : firstChar mark rest = (some (Char.ofNat mark.toNat), 0) := by
        have hb := leadingByte_one mark.toNat hmark
        rw [UInt8.ofNat_toNat] at hb
        exact firstChar_of_leading hb (continueCode_zero ..)
      have hnil : decodeParts [] = [] := by rw [decodeParts]
      rw [List.nil_append, decodeParts_cons, hfirst, hnil]
      rfl
    | cons b bs =>
      obtain ⟨hsame, hused⟩ := firstChar_mark hmark b bs rest
      have hshorter : (bs.drop (firstChar b bs).2).length < length := by
        rw [← hlength, List.length_drop, List.length_cons]
        omega
      rw [List.cons_append, decodeParts_cons, decodeParts_cons, hsame,
        List.drop_append_of_le_length hused, ih _ hshorter rfl, List.cons_append]

/-- **An ASCII character parts the reading**: what stands before it and what stands behind it are
read apart, well formed or not. -/
theorem decodeLossy_mark {mark : UInt8} (hmark : mark.toNat < 0x80) (bs rest : List UInt8) :
    (decodeLossy (bs ++ mark :: rest)).toList =
      (decodeLossy bs).toList ++ Char.ofNat mark.toNat :: (decodeLossy rest).toList := by
  simp only [decodeLossy, String.toList_ofList, decodeParts_mark hmark, List.map_append,
    List.map_cons, Option.getD_some]

/-! ## Order -/

/-- A first byte that is not greater decides, or leaves the decision to the bytes behind it. -/
theorem cons_lt {m n : Nat} {bs bs' : List UInt8} (hn : n < 256) (hle : m ≤ n)
    (hrest : m = n → bs < bs') : UInt8.ofNat m :: bs < UInt8.ofNat n :: bs' := by
  rw [List.cons_lt_cons_iff]
  rcases Nat.lt_or_eq_of_le hle with hlt | rfl
  · left
    rw [UInt8.lt_iff_toNat_lt, UInt8.toNat_ofNat_of_lt' hn,
      UInt8.toNat_ofNat_of_lt' (Nat.lt_trans hlt hn)]
    exact hlt
  · exact .inr ⟨rfl, hrest rfl⟩

/-- The bytes of a lesser code point are less, whatever stands behind them: a form of fewer bytes
has a lesser first byte, and in one form the bytes are the digits of the code point. -/
theorem written_lt {m n : Nat} {bytes bytes' : List UInt8} (hm : Written m bytes)
    (hn : Written n bytes') (hlt : m < n) (rest rest' : List UInt8) :
    bytes ++ rest < bytes' ++ rest' := by
  cases hm with
  | one =>
    cases hn <;> exact cons_lt (by omega) (by omega) fun _ => by omega
  | two =>
    cases hn with
    | one => omega
    | two =>
      refine cons_lt (by omega) (by omega) fun _ => ?_
      exact cons_lt (by omega) (by omega) fun _ => by omega
    | three => exact cons_lt (by omega) (by omega) fun _ => by omega
    | four => exact cons_lt (by omega) (by omega) fun _ => by omega
  | three =>
    cases hn with
    | one => omega
    | two => omega
    | three =>
      refine cons_lt (by omega) (by omega) fun _ => cons_lt (by omega) (by omega) fun _ => ?_
      exact cons_lt (by omega) (by omega) fun _ => by omega
    | four => exact cons_lt (by omega) (by omega) fun _ => by omega
  | four =>
    cases hn with
    | one => omega
    | two => omega
    | three => omega
    | four =>
      refine cons_lt (by omega) (by omega) fun _ => cons_lt (by omega) (by omega) fun _ => ?_
      refine cons_lt (by omega) (by omega) fun _ => ?_
      exact cons_lt (by omega) (by omega) fun _ => by omega

theorem flatMap_lt {cs ds : List Char} (h : cs < ds) :
    cs.flatMap String.utf8EncodeChar < ds.flatMap String.utf8EncodeChar := by
  induction h with
  | nil =>
    rename_i d ds
    cases hbytes : String.utf8EncodeChar d with
    | nil => exact absurd hbytes String.utf8EncodeChar_ne_nil
    | cons b bs =>
      rw [List.flatMap_cons, hbytes]
      exact .nil
  | rel hlt =>
    rw [List.flatMap_cons, List.flatMap_cons]
    exact written_lt (written_char _) (written_char _) hlt _ _
  | cons _ ih =>
    rw [List.flatMap_cons, List.flatMap_cons]
    exact List.append_left_lt ih

/-- **Texts are ordered as their bytes are.** -/
theorem utf8_lt (h : s < t) : utf8 s < utf8 t := by
  rw [utf8_eq, utf8_eq]
  exact flatMap_lt (String.lt_iff.mp h)

end ApiScaffold.Text
