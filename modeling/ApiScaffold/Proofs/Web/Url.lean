import ApiScaffold.Proofs.Traversal
import ApiScaffold.Proofs.Web.Form
import ApiScaffold.Web.Url.Reader
import Mathlib.Data.List.TakeDrop
import Mathlib.Data.List.TakeWhile

/-!
# The query of a URL

A URL is read in steps, each of which takes something from the front of the text: the blanks, the
scheme, and all that stands before the first question mark or sign of a fragment.  The characters
of forms are left alone by each step, so that a form behind the first question mark comes through
as the query.

* `kept_of_isFormChar`: the characters of forms stand for themselves in a URL.
* `exists_relevant`, `exists_behind_scheme`, `splitEnding_eq`: the steps, each with a form at the
  end of the text.
* `read_ok`: the query and the fragment of a URL are those at the end of its text.
* `query_of_read`: **the query of a URL with a form behind its first question mark is that form.**
-/

namespace ApiScaffold.Web.Url

open Text

variable {front text cs rest : List Char} {scheme : Scheme} {c : Char}

/-! ## Characters -/

/-- Neither the sign before a query nor the one before a fragment. -/
def isBare (c : Char) : Bool := c != '?' && c != '#'

theorem forall_isBare_iff : (∀ c ∈ cs, isBare c = true) ↔ '?' ∉ cs ∧ '#' ∉ cs := by
  simp only [isBare, Bool.and_eq_true, bne_iff_ne]
  constructor
  · intro h
    exact ⟨fun m => (h _ m).1 rfl, fun m => (h _ m).2 rfl⟩
  · rintro ⟨hquery, hfragment⟩ c hc
    exact ⟨fun e => hquery (e ▸ hc), fun e => hfragment (e ▸ hc)⟩

/-- **The characters of forms stand for themselves in a URL**: none is dropped, none ends the
query, and none is encoded. -/
theorem kept_of_isFormChar (h : Form.isFormChar c = true) :
    isOuterBlank c = false ∧ (c == '\t' || c == '\n' || c == '\r') = false ∧ c ≠ '#' ∧
      ∀ special, isQueryChar special c = true := by
  have codes : ∀ n < 128, Form.isFormChar (Char.ofNat n) = true →
      isOuterBlank (Char.ofNat n) = false ∧
      (Char.ofNat n == '\t' || Char.ofNat n == '\n' || Char.ofNat n == '\r') = false ∧
      Char.ofNat n ≠ '#' ∧ ∀ special, isQueryChar special (Char.ofNat n) = true := by
    decide +kernel
  have here := codes c.toNat (Form.isFormChar_ascii h)
  rw [Char.ofNat_toNat] at here
  exact here h

theorem encodeChars_of_forall {keep : Char → Bool}
    (h : ∀ c ∈ cs, c.toNat < 128 ∧ keep c = true) : encodeChars keep cs = cs := by
  rw [encodeChars, utf8_ascii fun c hc => (h c hc).1, encodeWith]
  induction cs with
  | nil => rfl
  | cons c cs ih =>
    obtain ⟨⟨hascii, hkeep⟩, hcs⟩ := List.forall_mem_cons.mp h
    have hchar : Char.ofNat (asciiByte c).toNat = c := by
      rw [toNat_asciiByte hascii, Char.ofNat_toNat]
    have hbyte : asciiByte c < 128 := by
      rw [UInt8.lt_iff_toNat_lt, toNat_asciiByte hascii]
      exact hascii
    rw [List.map_cons, List.flatMap_cons, ih hcs]
    simp [hchar, hbyte, hkeep]

/-! ## The steps -/

section

variable {α : Type} {p : α → Bool} {mark : α} {xs ys : List α}

/-- What is dropped from the front ends before a mark that stays. -/
theorem dropWhile_mark (hmark : p mark = false) :
    (xs ++ mark :: ys).dropWhile p = xs.dropWhile p ++ mark :: ys := by
  induction xs with
  | nil => simp [hmark]
  | cons x xs ih => cases hx : p x <;> simp [hx, ih]

/-- A text with a mark that stays, as all behind it does, is trimmed only before the mark. -/
theorem trimWhile_mark (hmark : p mark = false) (hys : ∀ y ∈ ys, p y = false) :
    trimWhile p (xs ++ mark :: ys) = xs.dropWhile p ++ mark :: ys := by
  have hlast : ∀ zs : List α, dropEndWhile p (zs ++ mark :: ys) = zs ++ mark :: ys := by
    intro zs
    have hreverse : ((mark :: ys).reverse ++ zs.reverse).dropWhile p
        = (mark :: ys).reverse ++ zs.reverse := by
      cases hback : (mark :: ys).reverse with
      | nil => simp at hback
      | cons y back =>
        have hy : y ∈ mark :: ys := by
          rw [← List.mem_reverse, hback]
          exact List.mem_cons_self
        have hstay : p y = false := by
          rcases List.mem_cons.mp hy with rfl | hy
          · exact hmark
          · exact hys y hy
        rw [List.cons_append, List.dropWhile_cons_of_neg (by simp [hstay])]
    rw [dropEndWhile, List.reverse_append, hreverse, ← List.reverse_append, List.reverse_reverse]
  rw [trimWhile, dropWhile_mark hmark, hlast]

end

/-- What is relevant of a text with a form behind a question mark. -/
theorem exists_relevant {s : String} (hs : s.toList = front ++ '?' :: text)
    (hfront : ∀ c ∈ front, isBare c = true) (htext : ∀ c ∈ text, Form.isFormChar c = true) :
    ∃ kept, relevant s = kept ++ '?' :: text ∧ ∀ c ∈ kept, isBare c = true := by
  have hblank : ∀ c ∈ text, isOuterBlank c = false := fun c hc =>
    (kept_of_isFormChar (htext c hc)).1
  have hkeep : ∀ c ∈ text, (!(c == '\t' || c == '\n' || c == '\r')) = true := by
    intro c hc
    rw [(kept_of_isFormChar (htext c hc)).2.1]
    rfl
  refine ⟨(front.dropWhile isOuterBlank).filter fun c => !(c == '\t' || c == '\n' || c == '\r'),
    ?_, fun c hc => ?_⟩
  · rw [relevant, hs, trimWhile_mark (by decide) hblank, List.filter_append, List.filter_cons,
      List.filter_eq_self.mpr hkeep]
    rfl
  · have hc := List.mem_of_mem_filter hc
    exact hfront c ((List.dropWhile_sublist _).subset hc)

/-- A scheme ends before the question mark. -/
theorem exists_behind_scheme (h : splitScheme (front ++ '?' :: text) = some (scheme, rest))
    (hfront : ∀ c ∈ front, isBare c = true) :
    ∃ kept, rest = kept ++ '?' :: text ∧ ∀ c ∈ kept, isBare c = true := by
  rw [splitScheme, List.span_eq_takeWhile_dropWhile, dropWhile_mark (by decide)] at h
  split at h
  · next name _ heq =>
    have hdrop := (Prod.mk.inj heq).2
    cases hkept : front.dropWhile isSchemeChar with
    | nil =>
      rw [hkept] at hdrop
      cases hdrop
    | cons d kept =>
      rw [hkept] at hdrop
      cases hdrop
      have hrest : rest = kept ++ '?' :: text := by
        split at h
        · exact (Prod.mk.inj (Option.some.inj h)).2.symm
        · cases h
      refine ⟨kept, hrest, fun c hc => hfront c ?_⟩
      have hmem : c ∈ front.dropWhile isSchemeChar := hkept ▸ List.mem_cons_of_mem _ hc
      exact (List.dropWhile_sublist _).subset hmem
  · cases h

/-- **The query of a text with a form behind its first question mark is that form.** -/
theorem splitEnding_eq (scheme : Scheme) (hfront : ∀ c ∈ front, isBare c = true)
    (htext : ∀ c ∈ text, Form.isFormChar c = true) :
    (splitEnding scheme (front ++ '?' :: text)).2 = ⟨some (String.ofList text), none⟩ := by
  have htake : (front ++ '?' :: text).takeWhile (fun c => c != '?' && c != '#') = front := by
    have hbare : ∀ c ∈ front, (c != '?' && c != '#') = true := hfront
    rw [List.takeWhile_append_of_pos hbare]
    simp
  have hform : ∀ c ∈ '?' :: text, (c != '#') = true := by
    intro c hc
    rcases List.mem_cons.mp hc with rfl | hc
    · decide
    · exact bne_iff_ne.mpr (kept_of_isFormChar (htext c hc)).2.2.1
  have hquery : ('?' :: text).takeWhile (· != '#') = '?' :: text :=
    List.takeWhile_eq_self_iff.mpr hform
  have hfragment : ('?' :: text).dropWhile (· != '#') = [] :=
    List.dropWhile_eq_nil_iff.mpr hform
  have hencode : encodeChars (isQueryChar scheme.isSpecial) text = text :=
    encodeChars_of_forall fun c hc =>
      ⟨Form.isFormChar_ascii (htext c hc), (kept_of_isFormChar (htext c hc)).2.2.2 _⟩
  have hrest : (front ++ '?' :: text).drop front.length = '?' :: text := List.drop_left
  simp only [splitEnding, htake, hrest, hquery, hfragment, List.drop_one, List.tail_cons, hencode]
  rfl

/-! ## The whole -/

/-- The query and the fragment of a URL are those at the end of its text. -/
theorem read_ok {s : String} {u : Url} (h : read s = .ok u) :
    ∃ scheme rest, splitScheme (relevant s) = some (scheme, rest) ∧
      u.query = (splitEnding scheme rest).2.query ∧
      u.fragment = (splitEnding scheme rest).2.fragment := by
  rw [read] at h
  split at h
  · cases h
  next scheme rest hsplit =>
  refine ⟨scheme, rest, hsplit, ?_⟩
  dsimp only at h
  split at h
  · obtain ⟨_, -, h⟩ := bind_eq_ok.mp h
    cases h
    exact ⟨rfl, rfl⟩
  split at h
  · obtain ⟨_, -, h⟩ := bind_eq_ok.mp h
    cases h
    exact ⟨rfl, rfl⟩
  split at h
  · obtain ⟨_, -, h⟩ := bind_eq_ok.mp h
    cases h
    exact ⟨rfl, rfl⟩
  · cases h
    exact ⟨rfl, rfl⟩
  · cases h
    exact ⟨rfl, rfl⟩

/-- **The query of a URL with a form behind its first question mark is that form**, if nothing
before it starts a fragment. -/
theorem query_of_read {s : String} {u : Url} (hs : s.toList = front ++ '?' :: text)
    (hfront : ∀ c ∈ front, isBare c = true) (htext : ∀ c ∈ text, Form.isFormChar c = true)
    (h : read s = .ok u) : u.query = some (String.ofList text) ∧ u.fragment = none := by
  obtain ⟨scheme, rest, hscheme, hquery, hfragment⟩ := read_ok h
  obtain ⟨kept, hkept, hbare⟩ := exists_relevant hs hfront htext
  rw [hkept] at hscheme
  obtain ⟨kept', rfl, hbare'⟩ := exists_behind_scheme hscheme hbare
  rw [hquery, hfragment, splitEnding_eq scheme hbare' htext]
  exact ⟨rfl, rfl⟩

end ApiScaffold.Web.Url
