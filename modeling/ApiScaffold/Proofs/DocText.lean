import ApiScaffold.DocText
import ApiScaffold.Package.Lines
import ApiScaffold.Proofs.Text.Split
import Mathlib.Data.List.Chain

/-!
# The lines of documentation

A line in normal form has characters, neither begins nor ends with a blank, holds no blank but
single spaces and no typographic mark.  Trimming settles the two ends and the collapse of blanks all
between them; what the collapse needs to know of the characters before it is whether the last one
was a blank, and that is what the induction over a line carries.

A line in normal form is left alone, so the lines of documentation are the fixed ones: joined by
line feeds, or by spaces into one line, they are read back as they were.

* `IsNormal`: a line in normal form.
* `isNormal_normalLine`, `normalLine_of_isNormal`: a line that is made normal is normal, and a
  normal one stays as it is.
* `docLines_join`: **lines in normal form are read back from their text.**
* `operationDoc_cases`: what the documentation of an operation is made of.
* `Lines.lines_text`: lines without line ends are the lines of their file.
* `doc_normal`: **documentation is in normal form, and each of its lines is one line of comment.**
-/

namespace ApiScaffold

open Text

/-! ## Lines of a file -/

namespace Lines

variable {lines : Lines}

theorem toList_text (lines : Lines) :
    (Lines.text lines).toList = lines.flatMap fun line => line.toList ++ ['\n'] := by
  induction lines with
  | nil => rfl
  | cons line lines ih =>
    rw [List.flatMap_cons, ← ih]
    simp [Lines.text, String.join_cons]

theorem toList_text_cons (line : String) (lines : Lines) :
    (Lines.text (line :: lines)).toList = line.toList ++ '\n' :: (Lines.text lines).toList := by
  rw [toList_text, toList_text, List.flatMap_cons, List.append_assoc]
  rfl

theorem toList_text_append (lines others : Lines) :
    (Lines.text (lines ++ others)).toList =
      (Lines.text lines).toList ++ (Lines.text others).toList := by
  rw [toList_text, toList_text, toList_text, List.flatMap_append]

theorem split_text : splitWhere (· == '\n') (Lines.text lines).toList =
    (lines.flatMap fun line => splitWhere (· == '\n') line.toList) ++ [[]] := by
  have hmark : ('\n' == '\n') = true := rfl
  have hsplit := splitWhere_flatMap (p := (· == '\n')) hmark (lines.map String.toList)
  rwa [List.flatMap_map, List.flatMap_map, ← toList_text] at hsplit

/-- Lines without line ends are the lines of their file. -/
theorem lines_text (h : ∀ line ∈ lines, '\n' ∉ line.toList ∧ '\r' ∉ line.toList) :
    Text.lines (Lines.text lines) = lines := by
  have hpieces : (lines.flatMap fun line => splitWhere (· == '\n') line.toList) =
      lines.map String.toList := by
    rw [List.flatMap_congr fun line hline => splitWhere_of_not_mem (h line hline).1,
      List.map_eq_flatMap]
  have hreturn : ∀ line ∈ lines.map String.toList, line.getLast? ≠ some '\r' :=
    List.forall_mem_map.mpr fun line hline heq => (h line hline).2 (List.mem_of_getLast? heq)
  rw [Text.lines, lineChars, split_text, hpieces]
  simp only [List.getLast?_append, List.getLast?_singleton, Option.some_or, List.dropLast_concat,
    map_dropReturn hreturn, map_ofList_toList]

end Lines

namespace DocText

variable {c : Char} {cs line other : List Char} {lines : List (List Char)}

/-! ## Normal form -/

/-- The typographic quotes and dashes. -/
def typographic : List Char := ['\u2018', '\u2019', '\u201C', '\u201D', '\u2013', '\u2014']

/-- Whether of two neighbours one is no blank. -/
def Apart (c d : Char) : Prop := isBlank c = false ∨ isBlank d = false

/-- A line in normal form. -/
structure IsNormal (line : List Char) : Prop where
  filled : line ≠ []
  plain : ∀ c ∈ line, c ∉ typographic
  spaced : ∀ c ∈ line, isBlank c = true → c = ' '
  first : ∀ c ∈ line.head?, isBlank c = false
  last : ∀ c ∈ line.getLast?, isBlank c = false
  apart : line.IsChain Apart

theorem plainPunctuation_not_mem (c : Char) : plainPunctuation c ∉ typographic := by
  unfold plainPunctuation
  split
  · decide
  · split
    · decide
    · split
      · decide
      · simp_all [typographic]

theorem plainPunctuation_of_not_mem (h : c ∉ typographic) : plainPunctuation c = c := by
  simp only [typographic, List.mem_cons, List.not_mem_nil, or_false, not_or] at h
  simp [plainPunctuation, h]

/-! ## Runs of blanks -/

theorem mem_collapseBlanks {b : Bool} (h : c ∈ collapseBlanks b cs) :
    c = ' ' ∨ c ∈ cs ∧ isBlank c = false := by
  fun_induction collapseBlanks b cs with
  | case1 => cases h
  | case2 d cs hd ih =>
    exact (ih h).imp_right fun hmem => ⟨List.mem_cons_of_mem _ hmem.1, hmem.2⟩
  | case3 b d cs hd hb ih =>
    rcases List.mem_cons.mp h with rfl | h
    · exact .inl rfl
    · exact (ih h).imp_right fun hmem => ⟨List.mem_cons_of_mem _ hmem.1, hmem.2⟩
  | case4 b d cs hd ih =>
    rcases List.mem_cons.mp h with rfl | h
    · exact .inr ⟨List.mem_cons_self, Bool.eq_false_iff.mpr hd⟩
    · exact (ih h).imp_right fun hmem => ⟨List.mem_cons_of_mem _ hmem.1, hmem.2⟩

/-- No two blanks are neighbours, and none comes first behind a blank. -/
theorem apart_collapseBlanks (b : Bool) (cs : List Char) :
    (collapseBlanks b cs).IsChain Apart ∧
      (b = true → ∀ c ∈ (collapseBlanks b cs).head?, isBlank c = false) := by
  fun_induction collapseBlanks b cs with
  | case1 => exact ⟨.nil, nofun⟩
  | case2 c cs hc ih => exact ⟨ih.1, fun _ => ih.2 rfl⟩
  | case3 b c cs hc hb ih =>
    exact ⟨List.isChain_cons.mpr ⟨fun d hd => .inr (ih.2 rfl d hd), ih.1⟩, fun h => absurd h hb⟩
  | case4 b c cs hc ih =>
    have hc : isBlank c = false := Bool.eq_false_iff.mpr hc
    refine ⟨List.isChain_cons.mpr ⟨fun d _ => .inl hc, ih.1⟩, fun _ d hd => ?_⟩
    cases hd
    exact hc

theorem head?_collapseBlanks {b : Bool} (h : ∀ c ∈ cs.head?, isBlank c = false) :
    (collapseBlanks b cs).head? = cs.head? := by
  cases cs with
  | nil => rfl
  | cons c cs => rw [collapseBlanks, if_neg (Bool.eq_false_iff.mp (h c rfl))]; rfl

theorem getLast?_collapseBlanks {b : Bool} (h : ∀ c ∈ cs.getLast?, isBlank c = false) :
    (collapseBlanks b cs).getLast? = cs.getLast? := by
  induction cs generalizing b with
  | nil => rfl
  | cons c cs ih =>
    rw [List.getLast?_cons] at h ⊢
    cases hcs : cs.getLast? with
    | none =>
      obtain rfl := List.getLast?_eq_none_iff.mp hcs
      rw [collapseBlanks, if_neg (Bool.eq_false_iff.mp (h c rfl))]
      rfl
    | some d =>
      have hrest : ∀ b : Bool, (collapseBlanks b cs).getLast? = some d := fun b => by
        rw [hcs] at h
        exact (ih (b := b) (hcs ▸ h)).trans hcs
      rw [collapseBlanks]
      split
      · split
        · exact hrest true
        · rw [List.getLast?_cons, hrest true]
          rfl
      · rw [List.getLast?_cons, hrest false]

/-- Blanks that are single spaces stay as they are. -/
theorem collapseBlanks_of_apart {b : Bool} (hspaced : ∀ c ∈ cs, isBlank c = true → c = ' ')
    (hapart : cs.IsChain Apart) (hfirst : b = true → ∀ c ∈ cs.head?, isBlank c = false) :
    collapseBlanks b cs = cs := by
  induction cs generalizing b with
  | nil => rfl
  | cons c cs ih =>
    obtain ⟨hc, hcs⟩ := List.forall_mem_cons.mp hspaced
    obtain ⟨hnext, hrest⟩ := List.isChain_cons.mp hapart
    rw [collapseBlanks]
    by_cases hblank : isBlank c = true
    · have hb : ¬ b = true := fun hb => Bool.eq_false_iff.mp (hfirst hb c rfl) hblank
      have hbehind : ∀ d ∈ cs.head?, isBlank d = false := fun d hd =>
        (hnext d hd).resolve_left (by simp [hblank])
      rw [if_pos hblank, if_neg hb, ih hcs hrest fun _ => hbehind, hc hblank]
    · rw [if_neg hblank, ih hcs hrest fun hb => absurd hb Bool.false_ne_true]

/-! ## Lines in normal form -/

/-- A line that is made normal is normal, unless nothing is left of it. -/
theorem isNormal_normalLine (h : normalLine line ≠ []) : IsNormal (normalLine line) := by
  obtain ⟨hfirst, hlast⟩ := trimWhile_ends isBlank (line.map plainPunctuation)
  have hspace : ' ' ∉ typographic := by decide
  refine ⟨h, fun c hc => ?_, fun c hc hblank => ?_, ?_, ?_, (apart_collapseBlanks _ _).1⟩
  · rcases mem_collapseBlanks hc with rfl | ⟨hmem, -⟩
    · exact hspace
    · obtain ⟨d, -, rfl⟩ := List.mem_map.mp (mem_of_mem_trimWhile hmem)
      exact plainPunctuation_not_mem d
  · rcases mem_collapseBlanks hc with hspace | ⟨-, hnot⟩
    · exact hspace
    · exact absurd hblank (Bool.eq_false_iff.mp hnot)
  · exact (head?_collapseBlanks hfirst).symm ▸ hfirst
  · exact (getLast?_collapseBlanks hlast).symm ▸ hlast

/-- A line in normal form stays as it is. -/
theorem normalLine_of_isNormal (h : IsNormal line) : normalLine line = line := by
  have hplain : line.map plainPunctuation = line := by
    rw [List.map_congr_left fun c hc => plainPunctuation_of_not_mem (h.plain c hc), List.map_id']
  rw [normalLine, hplain, trimChars, trimWhile_of_ends h.first h.last,
    collapseBlanks_of_apart (b := false) h.spaced h.apart fun hb => absurd hb Bool.false_ne_true]

namespace IsNormal

/-- A line in normal form has no white space but the space. -/
theorem not_mem (h : IsNormal line) (hblank : isBlank c = true) (hc : c ≠ ' ') : c ∉ line :=
  fun hmem => hc (h.spaced c hmem hblank)

/-- Two lines in normal form with a space between them are one. -/
theorem join (h : IsNormal line) (h' : IsNormal other) : IsNormal (line ++ ' ' :: other) := by
  have hspace : ' ' ∉ typographic := by decide
  have hend : ∀ d, (line ++ ' ' :: other).getLast? = some d → other.getLast? = some d := by
    intro d hd
    rw [List.getLast?_append, List.getLast?_cons] at hd
    cases hother : other.getLast? with
    | none => exact absurd (List.getLast?_eq_none_iff.mp hother) h'.filled
    | some e => rw [hother] at hd; simpa using hd
  have hstart : (line ++ ' ' :: other).head? = line.head? := by
    rw [List.head?_append_of_ne_nil _ h.filled]
  refine ⟨by simp, ?_, ?_, hstart ▸ h.first, fun d hd => h'.last d (hend d hd), ?_⟩
  · exact List.forall_mem_append.mpr ⟨h.plain, List.forall_mem_cons.mpr ⟨hspace, h'.plain⟩⟩
  · exact List.forall_mem_append.mpr ⟨h.spaced, List.forall_mem_cons.mpr ⟨fun _ => rfl, h'.spaced⟩⟩
  · refine List.isChain_append.mpr ⟨h.apart, List.isChain_cons.mpr ⟨?_, h'.apart⟩, ?_⟩
    · exact fun d hd => .inr (h'.first d hd)
    · exact fun d hd _ _ => .inl (h.last d hd)

end IsNormal

theorem isNormal_intercalate (hne : lines ≠ []) (h : ∀ line ∈ lines, IsNormal line) :
    IsNormal ([' '].intercalate lines) := by
  induction lines with
  | nil => exact absurd rfl hne
  | cons line rest ih =>
    obtain ⟨hline, hrest⟩ := List.forall_mem_cons.mp h
    cases rest with
    | nil => rwa [List.intercalate_singleton]
    | cons next rest =>
      rw [List.intercalate_cons_cons, List.append_assoc]
      exact hline.join (ih (List.cons_ne_nil _ _) hrest)

theorem isNormal_of_mem (h : line ∈ docLineChars cs) : IsNormal line := by
  obtain ⟨hmem, hfilled⟩ := List.mem_filter.mp h
  obtain ⟨raw, -, rfl⟩ := List.mem_map.mp hmem
  exact isNormal_normalLine (by simpa using hfilled)

/-- Lines in normal form are read back from their characters. -/
theorem docLineChars_intercalate (h : ∀ line ∈ lines, IsNormal line) :
    docLineChars (['\n'].intercalate lines) = lines := by
  have hfeed : isBlank '\n' = true ∧ '\n' ≠ ' ' := by decide
  have hreturn : isBlank '\r' = true := by decide
  rw [docLineChars, lineChars_intercalate (fun line hline => (h line hline).filled)
      (fun line hline => (h line hline).not_mem hfeed.1 hfeed.2)
      (fun line hline hlast => Bool.eq_false_iff.mp ((h line hline).last '\r' hlast) hreturn),
    List.map_congr_left fun line hline => normalLine_of_isNormal (h line hline), List.map_id',
    List.filter_eq_self.mpr fun line hline => by simpa using (h line hline).filled]

/-! ## Texts -/

variable {s text : String} {summary description : Option String}

theorem toList_docLines (s : String) : (docLines s).map String.toList = docLineChars s.toList :=
  map_toList_ofList _

theorem isNormal_of_mem_docLines (h : text ∈ docLines s) : IsNormal text.toList := by
  obtain ⟨line, hline, rfl⟩ := List.mem_map.mp h
  rw [String.toList_ofList]
  exact isNormal_of_mem hline

/-- **Lines in normal form are read back from their text.** -/
theorem docLines_join {lines : List String} (h : ∀ line ∈ lines, IsNormal line.toList) :
    docLines ("\n".intercalate lines) = lines := by
  have hfeed : "\n".toList = ['\n'] := rfl
  rw [docLines, String.toList_intercalate, hfeed,
    docLineChars_intercalate (List.forall_mem_map.mpr h), map_ofList_toList]

theorem toList_inline (s : String) :
    (inline s).toList = [' '].intercalate (docLineChars s.toList) := by
  have hspace : " ".toList = [' '] := rfl
  rw [inline, String.toList_intercalate, hspace, toList_docLines]

theorem inline_inline (s : String) : inline (inline s) = inline s := by
  rw [← String.toList_inj, toList_inline, toList_inline]
  by_cases hne : docLineChars s.toList = []
  · rw [hne]
    rfl
  · have hnormal := isNormal_intercalate hne fun line => isNormal_of_mem
    have hline := docLineChars_intercalate (List.forall_mem_singleton.mpr hnormal)
    rw [List.intercalate_singleton] at hline
    rw [hline, List.intercalate_singleton]

/-- The documentation of an operation has lines in normal form only, or has two such parts with an
empty line between them. -/
theorem operationDoc_cases (summary description : Option String) :
    (∀ line ∈ operationDoc summary description, IsNormal line.toList) ∨
      ∃ head body, operationDoc summary description = head ++ "" :: body ∧
        (head ≠ [] ∧ ∀ line ∈ head, IsNormal line.toList) ∧
        (body ≠ [] ∧ ∀ line ∈ body, IsNormal line.toList) := by
  have hnormal : ∀ given : Option String, ∀ line ∈ (given.map docLines).getD [],
      IsNormal line.toList := by
    intro given line hline
    cases given with
    | none => cases hline
    | some s => exact isNormal_of_mem_docLines hline
  unfold operationDoc
  dsimp only
  split
  · exact .inl (hnormal summary)
  · next hbody =>
    split
    · exact .inl (hnormal description)
    · next hhead =>
      refine .inr ⟨_, _, rfl, ⟨?_, hnormal summary⟩, ?_, hnormal description⟩
      · simpa using hhead
      · rw [Bool.or_eq_true, not_or, List.isEmpty_iff] at hbody
        exact hbody.1

/-! ## Comments -/

/-- The characters that end a line. -/
def lineEnds : List Char := ['\n', '\x0B', '\x0C', '\r', '\u0085', '\u2028', '\u2029']

/-- Whether a text holds no character that ends a line. -/
def IsUnbroken (text : String) : Prop := ∀ c ∈ lineEnds, c ∉ text.toList

theorem isUnbroken_empty : IsUnbroken "" := fun _ _ hc => by cases hc

theorem IsNormal.isUnbroken (h : IsNormal text.toList) : IsUnbroken text := by
  intro c hc
  have hends : (lineEnds.all fun c => isBlank c && c != ' ') = true := by decide
  have hend := List.all_eq_true.mp hends c hc
  rw [Bool.and_eq_true, bne_iff_ne] at hend
  exact h.not_mem hend.1 hend.2

theorem IsNormal.ne_empty (h : IsNormal text.toList) : text ≠ "" := by
  rintro rfl
  exact h.filled rfl

/-- A line of a comment holds what the text in it does, and what it begins with. -/
theorem not_mem_docLine (hword : c ∉ "/// ".toList) (h : c ∉ text.toList) :
    c ∉ (Lines.docLine text).toList := by
  rw [Lines.docLine]
  split
  · exact fun hc => hword (List.mem_append_left [' '] hc)
  · rw [String.toList_append]
    exact fun hc => (List.mem_append.mp hc).elim hword h

/-- The lines of a comment are those of the texts in it. -/
theorem lines_doc {texts : List String} (h : ∀ text ∈ texts, IsUnbroken text) :
    Text.lines (Lines.text (Lines.doc texts)) = Lines.doc texts := by
  refine Lines.lines_text (List.forall_mem_map.mpr fun text htext => ⟨?_, ?_⟩)
  · exact not_mem_docLine (by decide) (h text htext '\n' (by decide))
  · exact not_mem_docLine (by decide) (h text htext '\r' (by decide))

theorem operationDoc_isUnbroken (summary description : Option String) :
    ∀ line ∈ operationDoc summary description, IsUnbroken line := by
  rcases operationDoc_cases summary description with h | ⟨head, body, heq, ⟨-, hhead⟩, -, hbody⟩
  · exact fun line hline => (h line hline).isUnbroken
  · rw [heq]
    refine List.forall_mem_append.mpr ⟨fun line hline => (hhead line hline).isUnbroken, ?_⟩
    exact List.forall_mem_cons.mpr
      ⟨isUnbroken_empty, fun line hline => (hbody line hline).isUnbroken⟩

/-- At most one line of the documentation of an operation is empty, and it is neither the first nor
the last one. -/
theorem operationDoc_empty (summary description : Option String) :
    (operationDoc summary description).count "" ≤ 1 ∧
      (operationDoc summary description).head? ≠ some "" ∧
      (operationDoc summary description).getLast? ≠ some "" := by
  have hcount : ∀ {lines : List String}, (∀ line ∈ lines, IsNormal line.toList) →
      lines.count "" = 0 := fun h => List.count_eq_zero.mpr fun hmem => (h _ hmem).ne_empty rfl
  rcases operationDoc_cases summary description with
    h | ⟨head, body, heq, ⟨hne, hhead⟩, hne', hbody⟩
  · refine ⟨by simp [hcount h], fun hfirst => ?_, fun hlast => ?_⟩
    · exact (h _ (List.mem_of_head? hfirst)).ne_empty rfl
    · exact (h _ (List.mem_of_getLast? hlast)).ne_empty rfl
  · rw [heq]
    refine ⟨?_, fun hfirst => ?_, fun hlast => ?_⟩
    · rw [List.count_append, List.count_cons_self, hcount hhead, hcount hbody]
    · rw [List.head?_append_of_ne_nil _ hne] at hfirst
      exact (hhead _ (List.mem_of_head? hfirst)).ne_empty rfl
    · rw [List.getLast?_append_of_ne_nil _ (List.cons_ne_nil _ _),
        List.getLast?_cons_of_ne_nil hne'] at hlast
      exact (hbody _ (List.mem_of_getLast? hlast)).ne_empty rfl

/-- **Documentation is in normal form, and each of its lines is one line of comment.**  The lines of
a text are in normal form, and making them or the text in one line normal again changes nothing; any
lines in normal form are those of a text.  Of the documentation of an operation at most one line is
empty, between two others. -/
theorem doc_normal :
    (∀ s, (∀ line ∈ docLines s, IsNormal line.toList) ∧
      docLines ("\n".intercalate (docLines s)) = docLines s ∧ inline (inline s) = inline s ∧
      Text.lines (Lines.text (Lines.doc (docLines s))) = Lines.doc (docLines s)) ∧
    (∀ lines, (∀ line ∈ lines, IsNormal line.toList) → docLines ("\n".intercalate lines) = lines) ∧
    ∀ summary description, (∀ line ∈ operationDoc summary description, IsUnbroken line) ∧
      (operationDoc summary description).count "" ≤ 1 ∧
      (operationDoc summary description).head? ≠ some "" ∧
      (operationDoc summary description).getLast? ≠ some "" ∧
      Text.lines (Lines.text (Lines.doc (operationDoc summary description))) =
        Lines.doc (operationDoc summary description) := by
  refine ⟨fun s => ?_, fun lines => docLines_join, fun summary description => ?_⟩
  · have hnormal : ∀ line ∈ docLines s, IsNormal line.toList := fun line =>
      isNormal_of_mem_docLines
    exact ⟨hnormal, docLines_join hnormal, inline_inline s,
      lines_doc fun line hline => (hnormal line hline).isUnbroken⟩
  · have hunbroken := operationDoc_isUnbroken summary description
    obtain ⟨hcount, hfirst, hlast⟩ := operationDoc_empty summary description
    exact ⟨hunbroken, hcount, hfirst, hlast, lines_doc hunbroken⟩

/-- A vertical tab, a line separator and a carriage return between two words are one space. -/
theorem doc_normal_mixed :
    "\"A\" b" ∈ docLines " \u201CA\u201D\x0B\u2028\rb\r\n\t\u0085" ∧
      IsNormal "\"A\" b".toList := by
  have hmem : "\"A\" b" ∈ docLines " \u201CA\u201D\x0B\u2028\rb\r\n\t\u0085" := by decide
  exact ⟨hmem, (doc_normal.1 _).1 _ hmem⟩

end DocText

end ApiScaffold
