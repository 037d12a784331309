import ApiScaffold.Package.Lines
import ApiScaffold.Proofs.DocText
import ApiScaffold.Proofs.Json.Members
import ApiScaffold.Proofs.Toml.Literal

/-!
# Tables that are written line by line

A TOML text is read line by line, into the table that has been built so far.  A header opens its
table at the place of its name, and each key behind it is put in its place within that table.  So
what has been read after some rows of a table is known: the members that the rows set, in the order
of their keys.

* `readKey_plain`, `readMember_plain`: a key without quotes, and its value.
* `readLines_of_entry`: **what is read in one line is there for the lines behind it.**
* `Row`: a key and its value in one line.
* `readLines_rows`: **the rows of a table**, by induction on them; the members that were read before
are an argument.
* `readLines_table`: a header and the rows behind it.
* `readLines_member_eq_none`: a value that is not read spoils the text.
-/

namespace ApiScaffold.Toml

open Json (memberOf? memberOf?_cons memberOf?_setMember memberOf?_sortMembers setMember sortMembers)
open Lines (toList_text_cons)

variable {b : Building} {c : Char} {cs key text rest : List Char} {v : Value} {name : String}
  {root members members' : Members} {read : List Char → Option (Value × List Char)}

/-! ## Keys and members -/

/-- A key without quotes. -/
def IsKey (key : List Char) : Prop := key ≠ [] ∧ key.all isKeyChar = true

instance (key : List Char) : Decidable (IsKey key) :=
  inferInstanceAs (Decidable (_ ∧ _))

/-- A key does not begin as another kind of line does. -/
theorem of_key (hkey : IsKey (c :: cs)) : isBlank c = false ∧ c ≠ '\n' ∧ c ≠ '#' ∧ c ≠ '[' := by
  have hc : isKeyChar c = true := List.all_eq_true.mp hkey.2 c List.mem_cons_self
  have hother : ∀ d ∈ [' ', '\t', '\n', '#', '['], c ≠ d := by
    have hnone : [' ', '\t', '\n', '#', '['].all (fun d => isKeyChar d = false) = true := by decide
    rintro d hd rfl
    rw [of_decide_eq_true (List.all_eq_true.mp hnone c hd)] at hc
    cases hc
  refine ⟨?_, hother _ (by simp), hother _ (by simp), hother _ (by simp)⟩
  simp [isBlank, hother ' ' (by simp), hother '\t' (by simp)]

theorem skipBlanks_key (hkey : IsKey key) : skipBlanks (key ++ rest) = key ++ rest := by
  cases key with
  | nil => exact absurd rfl hkey.1
  | cons c cs => exact List.dropWhile_cons_of_neg (by simp [(of_key hkey).1])

theorem readKeyPart_plain (hkey : IsKey key)
    (hrest : (rest.head?.all fun c => !isKeyChar c) = true) :
    readKeyPart (key ++ rest) = some (String.ofList key, rest) := by
  have hall := List.all_eq_true.mp hkey.2
  have hends : rest.takeWhile isKeyChar = [] ∧ rest.dropWhile isKeyChar = rest := by
    cases rest with
    | nil => exact ⟨rfl, rfl⟩
    | cons c rest =>
      have hc : ¬isKeyChar c = true := by simpa using hrest
      exact ⟨List.takeWhile_cons_of_neg hc, List.dropWhile_cons_of_neg hc⟩
  rw [readKeyPart, List.takeWhile_append_of_pos hall, List.dropWhile_append_of_pos hall, hends.1,
    hends.2, List.append_nil]
  cases key with
  | nil => exact absurd rfl hkey.1
  | cons c cs => rfl

/-- A key, and what stands behind the blanks that follow it. -/
theorem readKey_plain (hkey : IsKey key) (hcs : skipBlanks cs = key ++ rest)
    (hrest : (rest.head?.all fun c => !isKeyChar c) = true)
    (hdot : (skipBlanks rest).head? ≠ some '.') :
    readKey cs = some ([String.ofList key], skipBlanks rest) := by
  rw [readKey, hcs, readKeyPart_plain hkey hrest]
  dsimp only [Option.bind_eq_bind, Option.bind_some]
  split
  · next more hmore =>
    rw [hmore] at hdot
    exact absurd rfl hdot
  · rfl

/-- A key and its value, whatever is read as the value. -/
theorem readMember_plain (read : List Char → Option (Value × List Char)) (hkey : IsKey key)
    (hcs : skipBlanks cs = key ++ ' ' :: '=' :: ' ' :: text) (htext : skipBlanks text = text) :
    readMember read cs = (read text).map fun r => ([], String.ofList key, r.1, r.2) := by
  have hname := readKey_plain hkey hcs rfl (by simp [skipBlanks, isBlank])
  have hsign : behind? '=' (skipBlanks (' ' :: '=' :: ' ' :: text)) = some (' ' :: text) := rfl
  have hskip : skipBlanks (' ' :: text) = text := htext
  rw [readMember, hname]
  simp only [Option.bind_eq_bind, Option.bind_some, hsign, hskip]
  cases read text <;> rfl

/-- A member between braces, and what is done about the others. -/
theorem readMembers_member (hmember : readMember read cs = some ([], name, v, rest))
    (hput : put name v members = some members') :
    readMembers read members cs =
      match skipBlanks rest with
      | '\x7d' :: rest => some (members', rest)
      | ',' :: more => if more.length < cs.length then readMembers read members' more else none
      | _ => none := by
  rw [readMembers, hmember]
  show (put name v members >>= _) = _
  rw [hput]
  rfl

theorem readMembers_last (hmember : readMember read cs = some ([], name, v, rest))
    (hput : put name v members = some members') (hend : skipBlanks rest = '\x7d' :: text) :
    readMembers read members cs = some (members', text) := by
  rw [readMembers_member hmember hput, hend]
  rfl

theorem readMembers_more (hmember : readMember read cs = some ([], name, v, rest))
    (hput : put name v members = some members') (hend : skipBlanks rest = ',' :: text)
    (hshort : text.length < cs.length) :
    readMembers read members cs = readMembers read members' text := by
  rw [readMembers_member hmember hput, hend]
  exact if_pos hshort

/-- A list of one item. -/
theorem readItems_single (hstart : skipGap false cs = some (c :: text)) (hc : c ≠ ']')
    (hitem : read (c :: text) = some (v, ']' :: rest)) : readItems read cs = some ([v], rest) := by
  rw [readItems, hstart]
  simp [hc, hitem, skipGap, isBlank]

theorem readEntry_member (hkey : IsKey key) (htext : skipBlanks text = text) :
    b.readEntry (key ++ ' ' :: '=' :: ' ' :: text) =
      (readValue deepest text).bind fun r =>
        (changeAt b.path (put (String.ofList key) r.1) b.root).map fun root =>
          ({ b with root }, r.2) := by
  have hhead : ((key ++ ' ' :: '=' :: ' ' :: text).head? == some '[') = false := by
    cases key with
    | nil => exact absurd rfl hkey.1
    | cons c cs => simpa using (of_key hkey).2.2.2
  rw [Building.readEntry, hhead, readMember_plain _ hkey (skipBlanks_key hkey) htext]
  cases readValue deepest text with
  | none => rfl
  | some r => exact Option.map_eq_bind.symm

/-! ## Lines -/

/-- A line that is not empty and begins with neither a blank nor a comment. -/
theorem readLines_entry (hblank : isBlank c = false) (hfeed : c ≠ '\n') (hcomment : c ≠ '#') :
    b.readLines (c :: cs) = (b.readEntry (c :: cs)).bind fun r =>
      (skipLine false r.2).bind fun next =>
        if next.length < (c :: cs).length then r.1.readLines next else none := by
  have hskip : skipBlanks (c :: cs) = c :: cs := List.dropWhile_cons_of_neg (by simp [hblank])
  have hmark : (c == '\n' || c == '#') = false := by simp [hfeed, hcomment]
  rw [Building.readLines]
  simp only [hskip, hmark]
  rfl

/-- What is read in one line is there for the lines behind it. -/
theorem readLines_of_entry {b' : Building} (hblank : isBlank c = false) (hfeed : c ≠ '\n')
    (hcomment : c ≠ '#') (hentry : b.readEntry (c :: cs) = some (b', '\n' :: rest))
    (hshort : rest.length < (c :: cs).length) :
    b.readLines (c :: cs) = b'.readLines rest := by
  have hline : skipLine false ('\n' :: rest) = some rest := rfl
  rw [readLines_entry hblank hfeed hcomment, hentry, Option.bind_some, hline, Option.bind_some,
    if_pos hshort]

/-- An empty line. -/
theorem readLines_lineFeed : b.readLines ('\n' :: rest) = b.readLines rest := by
  have hskip : skipBlanks ('\n' :: rest) = '\n' :: rest := rfl
  have hline : skipLine false ('\n' :: rest) = some rest := rfl
  rw [Building.readLines]
  simp [hskip, hline]

/-- The header of a table that may be opened. -/
theorem readLines_header (hkey : IsKey name.toList) (hopen : openTable name b.root = some root) :
    b.readLines ('[' :: (name.toList ++ ']' :: '\n' :: rest)) =
      Building.readLines { root, path := [name] } rest := by
  have hname : readKey (name.toList ++ ']' :: '\n' :: rest) =
      some ([String.ofList name.toList], ']' :: '\n' :: rest) :=
    readKey_plain hkey (skipBlanks_key hkey) rfl (by simp [skipBlanks, isBlank])
  have hheader : readHeader ('[' :: (name.toList ++ ']' :: '\n' :: rest)) =
      some (openTable, [name], '\n' :: rest) := by
    rw [readHeader.eq_2, hname, String.ofList_toList]
    · rfl
    · intro more hmore
      -- no second bracket follows the first
      generalize name.toList = key at hkey hmore
      cases key with
      | nil => exact hkey.1 rfl
      | cons c cs => exact (of_key hkey).2.2.2 (List.cons.inj hmore).1
  refine readLines_of_entry (by decide) (by decide) (by decide) ?_ ?_
  · rw [Building.readEntry, hheader]
    simp [changeAt, hopen]
  · simp only [List.length_cons, List.length_append]
    omega

/-- A key that is free and its value. -/
theorem readLines_member (hkey : IsKey name.toList) (hwrites : Writes text v)
    (hput : changeAt b.path (put name v) b.root = some root) :
    b.readLines (name.toList ++ ' ' :: '=' :: ' ' :: (text ++ '\n' :: rest)) =
      Building.readLines { b with root } rest := by
  obtain ⟨htext, hread⟩ := hwrites rest
  have hentry := readEntry_member (b := b) hkey htext
  rw [hread, Option.bind_some, String.ofList_toList, hput] at hentry
  generalize name.toList = key at hkey hentry
  cases key with
  | nil => exact absurd rfl hkey.1
  | cons c cs =>
    obtain ⟨hblank, hfeed, hcomment, -⟩ := of_key hkey
    rw [List.cons_append] at hentry ⊢
    refine readLines_of_entry hblank hfeed hcomment hentry ?_
    simp only [List.length_cons, List.length_append]
    omega

/-- A value that is not read spoils the text. -/
theorem readLines_member_eq_none (hkey : IsKey key) (htext : skipBlanks text = text)
    (hread : readValue deepest text = none) :
    b.readLines (key ++ ' ' :: '=' :: ' ' :: text) = none := by
  have hentry := readEntry_member (b := b) hkey htext
  rw [hread] at hentry
  cases key with
  | nil => exact absurd rfl hkey.1
  | cons c cs =>
    obtain ⟨hblank, hfeed, hcomment, -⟩ := of_key hkey
    rw [List.cons_append] at hentry ⊢
    rw [readLines_entry hblank hfeed hcomment, hentry]
    rfl

/-! ## Tables -/

/-- A key with the text of its value in one line, and the value. -/
structure Row where
  key : String
  text : String
  value : Value

/-- The line of a row. -/
def Row.line (r : Row) : String := r.key ++ " = " ++ r.text

/-- The member that a row sets. -/
def Row.member (r : Row) : String × Value := (r.key, r.value)

/-- The text of a row is read as its value. -/
structure Row.Reads (r : Row) : Prop where
  key : IsKey r.key.toList
  text : Writes r.text.toList r.value

/-- A table that a header opened, in its place among others. -/
def opened (name : String) (members : Members) (root : Members) : Members :=
  setMember name (.table .header members) root

theorem setMember_setMember (w : Value) :
    setMember name v (setMember name w root) = setMember name v root := by
  induction root with
  | nil => simp [setMember]
  | cons m rest ih =>
    rw [setMember.eq_2, setMember.eq_2]
    split
    · simp [setMember]
    split
    · simp [setMember]
    · next hne hlt =>
      rw [setMember, if_neg hne, if_neg hlt, ih]

/-- A key that no row before has is free. -/
theorem put_sortMembers {earlier : Members} (hfree : name ∉ earlier.map (·.1)) :
    put name v (sortMembers earlier) = some (sortMembers (earlier ++ [(name, v)])) := by
  have hnone : memberOf? (sortMembers earlier) name = none := by
    rw [memberOf?_sortMembers]
    refine List.lookup_eq_none_iff.mpr fun m hm => bne_iff_ne.mpr ?_
    rintro rfl
    exact hfree (List.mem_map_of_mem (List.mem_reverse.mp hm))
  rw [put, hnone, sortMembers, sortMembers, List.foldl_append]
  rfl

theorem changeAt_opened {change : Members → Option Members}
    (hchange : change members = some members') :
    changeAt [name] change (opened name members root) = some (opened name members' root) := by
  have hfound : memberOf? (opened name members root) name = some (.table .header members) := by
    rw [opened, memberOf?_setMember, if_pos rfl]
  rw [changeAt, hfound]
  simp [changeAt, hchange, opened, setMember_setMember]

theorem toList_text_row (r : Row) (lines : Lines) :
    (Lines.text (r.line :: lines)).toList =
      r.key.toList ++ ' ' :: '=' :: ' ' ::
        (r.text.toList ++ '\n' :: (Lines.text lines).toList) := by
  rw [toList_text_cons, Row.line]
  simp

/-- **The rows of a table are read one after another**, behind those that were read before. -/
theorem readLines_rows {rows : List Row} {earlier : Members} (hrows : ∀ r ∈ rows, r.Reads)
    (hkeys : (earlier.map (·.1) ++ rows.map (·.key)).Nodup) :
    Building.readLines { root := opened name (sortMembers earlier) root, path := [name] }
        ((Lines.text (rows.map Row.line)).toList ++ rest) =
      Building.readLines
        { root := opened name (sortMembers (earlier ++ rows.map Row.member)) root,
          path := [name] } rest := by
  induction rows generalizing earlier with
  | nil =>
    rw [List.map_nil, List.map_nil, List.append_nil]
    rfl
  | cons r rows ih =>
    obtain ⟨hr, hrest⟩ := List.forall_mem_cons.mp hrows
    rw [List.map_cons] at hkeys
    have hfree : r.key ∉ earlier.map (·.1) := fun hmem =>
      (List.nodup_append.mp hkeys).2.2 r.key hmem r.key List.mem_cons_self rfl
    have hline : (Lines.text ((r :: rows).map Row.line)).toList ++ rest =
        r.key.toList ++ ' ' :: '=' :: ' ' ::
          (r.text.toList ++ '\n' :: ((Lines.text (rows.map Row.line)).toList ++ rest)) := by
      rw [List.map_cons, toList_text_row]
      simp
    rw [hline, readLines_member hr.key hr.text (changeAt_opened (put_sortMembers hfree))]
    have hkeys' : ((earlier ++ [(r.key, r.value)]).map (·.1) ++ rows.map (·.key)).Nodup := by
      simpa using hkeys
    rw [ih hrest hkeys', List.append_assoc]
    rfl

/-- **A header and the rows behind it** make a table, if there was none of that name. -/
theorem readLines_table {rows : List Row} (hname : IsKey name.toList)
    (hnew : memberOf? b.root name = none) (hrows : ∀ r ∈ rows, r.Reads)
    (hkeys : (rows.map (·.key)).Nodup) :
    b.readLines ((Lines.text (("[" ++ name ++ "]") :: rows.map Row.line)).toList ++ rest) =
      Building.readLines
        { root := opened name (sortMembers (rows.map Row.member)) b.root,
          path := [name] } rest := by
  have hopen : openTable name b.root = some (opened name (sortMembers []) b.root) := by
    rw [openTable, hnew]
    rfl
  have hform : (Lines.text (("[" ++ name ++ "]") :: rows.map Row.line)).toList ++ rest =
      '[' :: (name.toList ++ ']' :: '\n' ::
        ((Lines.text (rows.map Row.line)).toList ++ rest)) := by
    rw [toList_text_cons]
    simp
  rw [hform, readLines_header hname hopen]
  exact readLines_rows hrows hkeys

/-! ## Texts -/

theorem normalLineEnds_of_not_mem (h : '\r' ∉ cs) : normalLineEnds cs = cs := by
  induction cs with
  | nil => rfl
  | cons c cs ih =>
    obtain ⟨hc, hcs⟩ := not_or.mp (mt List.mem_cons.mpr h)
    rw [normalLineEnds.eq_2 _ _ fun rest heq _ => hc heq.symm, ih hcs]

/-- A text with single line feeds and without a mark of its encoding is read as it is. -/
theorem readToml_eq {s : String} (hreturn : '\r' ∉ s.toList)
    (hmark : s.toList.head? ≠ some '\uFEFF') :
    readToml s = ({} : Building).readLines s.toList := by
  rw [readToml, normalLineEnds_of_not_mem hreturn]
  simp [hmark]

end ApiScaffold.Toml
