import ApiScaffold.Proofs.Param
import ApiScaffold.Proofs.Web.Form
import ApiScaffold.Web.QueryString
import ApiScaffold.Web.RequestParts

/-!
# Query strings are read as they are filled

A query string keeps its names in ascending order, and a value that is added goes behind those of
its name.  So of all that was added only two things count: the order of the names, which is fixed,
and the values of each name in the order they came (`Holds`).  Both are left as they are by the
way to the server, which reads the pairs of the text.

* `Holds.push`, `holds_filled`: what a query string holds after one value, and after all of them.
* `eq_of_filter_eq`: pairs in ascending order of their names are known from the values of each name.
* `filled_read`: **the server reads the values of each name in the order in which the client added
  them**, from a text that does not depend on how those of different names were interleaved.
-/

namespace ApiScaffold.Web

open Text

variable {q : QueryString}

/-! ## What is added -/

/-- What is added to a query string at once: a value, or several under one name. -/
inductive Addition
  | one (name : String) (value : ParamValue)
  | many (name : String) (values : List ParamValue)

namespace Addition

/-- The values with their names. -/
def pairs : Addition → List (String × ParamValue)
  | one name value => [(name, value)]
  | many name values => values.map (name, ·)

/-- A query string with the values added in their text form. -/
def run (q : QueryString) : Addition → QueryString
  | one name value => q.push name value.text
  | many name values => q.pushAll name (values.map ParamValue.text)

end Addition

/-- The query string that is filled step by step. -/
def filled (additions : List Addition) : QueryString := additions.foldl Addition.run {}

/-- The values that are added under a name, in order. -/
def added (name : String) (additions : List Addition) : List ParamValue :=
  ((additions.flatMap Addition.pairs).filter (·.1 == name)).map (·.2)

/-! ## What a query string holds -/

namespace QueryString

/-- The pairs of some names with their values. -/
def pairsOf (entries : List (String × List String)) : List (String × String) :=
  entries.flatMap fun (name, values) => values.map (name, ·)

variable {entries : List (String × List String)} {name value m n : String}

theorem pairsOf_cons (n : String) (values : List String) (entries : List (String × List String)) :
    pairsOf ((n, values) :: entries) = values.map (n, ·) ++ pairsOf entries := rfl

/-- Names that are all greater than another have no values of it. -/
theorem filter_pairsOf_eq_nil (h : ∀ m ∈ entries.map (·.1), n < m) :
    (pairsOf entries).filter (·.1 == n) = [] := by
  rw [List.filter_eq_nil_iff]
  intro pair hpair
  obtain ⟨entry, hentry, hpair⟩ := List.mem_flatMap.mp hpair
  obtain ⟨_, -, rfl⟩ := List.mem_map.mp hpair
  have hlt := h entry.1 (List.mem_map_of_mem hentry)
  simpa using (String.ne_of_lt hlt).symm

/-- A value can be taken before the values of greater names or behind them. -/
theorem filter_append_comm (h : ∀ m ∈ entries.map (·.1), name < m) (n : String) :
    [(name, value)].filter (·.1 == n) ++ (pairsOf entries).filter (·.1 == n) =
      (pairsOf entries).filter (·.1 == n) ++ [(name, value)].filter (·.1 == n) := by
  by_cases hname : name = n
  · subst hname
    rw [filter_pairsOf_eq_nil h, List.append_nil, List.nil_append]
  · have hnone : [(name, value)].filter (·.1 == n) = [] := by simpa using hname
    rw [hnone, List.append_nil, List.nil_append]

theorem mem_names_insertValue (h : n ∈ (insertValue name value entries).map (·.1)) :
    n = name ∨ n ∈ entries.map (·.1) := by
  induction entries with
  | nil => exact .inl (List.mem_singleton.mp h)
  | cons entry entries ih =>
    obtain ⟨m, values⟩ := entry
    rw [insertValue] at h
    split at h
    · exact .inr h
    · split at h
      · rcases List.mem_cons.mp h with rfl | h
        · exact .inl rfl
        · exact .inr h
      · rcases List.mem_cons.mp h with rfl | h
        · exact .inr List.mem_cons_self
        · exact (ih h).imp_right (List.mem_cons_of_mem _)

/-- **A value that is added leaves the names in ascending order.** -/
theorem ascending_insertValue (name value : String)
    (h : (entries.map (·.1)).Pairwise (· < ·)) :
    ((insertValue name value entries).map (·.1)).Pairwise (· < ·) := by
  induction entries with
  | nil => exact List.pairwise_singleton _ _
  | cons entry entries ih =>
    obtain ⟨m, values⟩ := entry
    rw [List.map_cons, List.pairwise_cons] at h
    obtain ⟨hfirst, hrest⟩ := h
    rw [insertValue]
    split
    · exact List.pairwise_cons.mpr ⟨hfirst, hrest⟩
    · next hne =>
      split
      · next hlt =>
        refine List.pairwise_cons.mpr ⟨?_, List.pairwise_cons.mpr ⟨hfirst, hrest⟩⟩
        intro n hn
        rcases List.mem_cons.mp hn with rfl | hn
        · exact hlt
        · exact String.lt_trans hlt (hfirst n hn)
      · next hnot =>
        refine List.pairwise_cons.mpr ⟨?_, ih hrest⟩
        intro n hn
        rcases mem_names_insertValue hn with rfl | hn
        · exact Std.lt_of_le_of_ne (String.not_lt.mp hnot) (Ne.symm hne)
        · exact hfirst n hn

/-- **A value that is added goes behind those of its name**, and all other values stay. -/
theorem filter_insertValue (name value : String) (h : (entries.map (·.1)).Pairwise (· < ·))
    (n : String) :
    (pairsOf (insertValue name value entries)).filter (·.1 == n) =
      (pairsOf entries).filter (·.1 == n) ++ [(name, value)].filter (·.1 == n) := by
  induction entries with
  | nil => rfl
  | cons entry entries ih =>
    obtain ⟨m, values⟩ := entry
    rw [List.map_cons, List.pairwise_cons] at h
    obtain ⟨hfirst, hrest⟩ := h
    rw [insertValue]
    split
    · next heq =>
      subst heq
      rw [pairsOf_cons, pairsOf_cons, List.map_append, List.filter_append, List.filter_append,
        List.filter_append, List.append_assoc, List.append_assoc]
      exact congrArg _ (filter_append_comm hfirst n)
    · next hne =>
      split
      · next hlt =>
        have hgreater : ∀ n ∈ ((m, values) :: entries).map (·.1), name < n := by
          intro n hn
          rcases List.mem_cons.mp hn with rfl | hn
          · exact hlt
          · exact String.lt_trans hlt (hfirst n hn)
        rw [← filter_append_comm hgreater n, ← List.filter_append]
        rfl
      · rw [pairsOf_cons, pairsOf_cons, List.filter_append, List.filter_append, ih hrest,
          List.append_assoc]

/-- What a query string holds once some pairs have been added: names in strictly ascending order,
and the values of each name as they came. -/
structure Holds (q : QueryString) (pairs : List (String × String)) : Prop where
  ascending : (q.entries.map (·.1)).Pairwise (· < ·)
  values : ∀ n, q.pairs.filter (·.1 == n) = pairs.filter (·.1 == n)

variable {pairs : List (String × String)}

theorem holds_empty : Holds {} [] where
  ascending := .nil
  values := fun _ => rfl

theorem Holds.push (h : q.Holds pairs) (name value : String) :
    (q.push name value).Holds (pairs ++ [(name, value)]) where
  ascending := ascending_insertValue name value h.ascending
  values := by
    intro n
    rw [List.filter_append, ← h.values]
    exact filter_insertValue name value h.ascending n

theorem Holds.pushAll (h : q.Holds pairs) (name : String) (values : List String) :
    (q.pushAll name values).Holds (pairs ++ values.map (name, ·)) := by
  induction values generalizing q pairs with
  | nil => simpa [QueryString.pushAll] using h
  | cons value values ih =>
    have hrest := ih (h.push name value)
    rwa [List.append_assoc] at hrest

/-- Pairs in ascending order of their names, those of a name together. -/
def Ascending (pairs : List (String × String)) : Prop :=
  pairs.Pairwise fun a b => a.1 = b.1 ∨ a.1 < b.1

theorem ascending_pairsOf (h : (entries.map (·.1)).Pairwise (· < ·)) :
    Ascending (pairsOf entries) := by
  induction entries with
  | nil => exact .nil
  | cons entry entries ih =>
    rw [List.map_cons, List.pairwise_cons] at h
    obtain ⟨hfirst, hrest⟩ := h
    refine List.pairwise_append.mpr ⟨?_, ih hrest, ?_⟩
    · exact List.pairwise_map.mpr (List.pairwise_of_forall fun _ _ => .inl rfl)
    · intro a ha b hb
      obtain ⟨_, -, rfl⟩ := List.mem_map.mp ha
      obtain ⟨other, hother, hb⟩ := List.mem_flatMap.mp hb
      obtain ⟨_, -, rfl⟩ := List.mem_map.mp hb
      exact .inr (hfirst other.1 (List.mem_map_of_mem hother))

theorem mem_of_filter_eq {l l' : List (String × String)} {a : String × String}
    (h : ∀ n, l.filter (·.1 == n) = l'.filter (·.1 == n)) (ha : a ∈ l) : a ∈ l' := by
  have hmem : a ∈ l.filter (·.1 == a.1) := List.mem_filter.mpr ⟨ha, beq_self_eq_true _⟩
  rw [h] at hmem
  exact List.mem_of_mem_filter hmem

/-- **Ascending pairs are known from the values of each name.** -/
theorem Ascending.eq_of_filter_eq {l l' : List (String × String)} (hl : Ascending l)
    (hl' : Ascending l') (h : ∀ n, l.filter (·.1 == n) = l'.filter (·.1 == n)) : l = l' := by
  induction l generalizing l' with
  | nil =>
    cases l' with
    | nil => rfl
    | cons b l' => cases mem_of_filter_eq (fun n => (h n).symm) List.mem_cons_self
  | cons a l ih =>
    cases l' with
    | nil => cases mem_of_filter_eq h List.mem_cons_self
    | cons b l' =>
      obtain ⟨hfirst, hrest⟩ := List.pairwise_cons.mp hl
      obtain ⟨hfirst', hrest'⟩ := List.pairwise_cons.mp hl'
      have hname : a.1 = b.1 := by
        rcases List.mem_cons.mp (mem_of_filter_eq h List.mem_cons_self) with rfl | ha
        · rfl
        · rcases List.mem_cons.mp (mem_of_filter_eq (fun n => (h n).symm) List.mem_cons_self) with
            rfl | hb
          · rfl
          · rcases hfirst b hb with heq | hlt
            · exact heq
            · rcases hfirst' a ha with heq | hgt
              · exact heq.symm
              · exact absurd hgt (String.lt_asymm hlt)
      have hself := h a.1
      rw [List.filter_cons, List.filter_cons, if_pos (beq_iff_eq.mpr rfl),
        if_pos (beq_iff_eq.mpr hname.symm)] at hself
      obtain ⟨rfl, htail⟩ := List.cons.inj hself
      refine congrArg _ (ih hrest hrest' fun n => ?_)
      by_cases hn : a.1 = n
      · rw [← hn]
        exact htail
      · have hother := h n
        rwa [List.filter_cons, List.filter_cons, if_neg (by simpa using hn),
          if_neg (by simpa using fun heq => hn (hname.trans heq))] at hother

/-- What is held is all that decides the text. -/
theorem Holds.encode_eq {r : QueryString} {others : List (String × String)} (hq : q.Holds pairs)
    (hr : r.Holds others) (h : ∀ n, pairs.filter (·.1 == n) = others.filter (·.1 == n)) :
    q.encode = r.encode := by
  have hpairs : q.pairs = r.pairs :=
    (ascending_pairsOf hq.ascending).eq_of_filter_eq (ascending_pairsOf hr.ascending) fun n =>
      (hq.values n).trans ((h n).trans (hr.values n).symm)
  rw [encode, encode, hpairs]

theorem decode_encode (q : QueryString) : Form.decode q.encode = q.pairs :=
  Form.decode_encode q.pairs

end QueryString

/-! ## Filling -/

/-- The pairs that are added, in their text form. -/
def addedPairs (additions : List Addition) : List (String × String) :=
  (additions.flatMap Addition.pairs).map fun (name, value) => (name, value.text)

theorem Addition.holds_run {pairs : List (String × String)} (h : q.Holds pairs)
    (addition : Addition) :
    (addition.run q).Holds
      (pairs ++ addition.pairs.map fun (name, value) => (name, value.text)) := by
  cases addition with
  | one name value => exact h.push name value.text
  | many name values =>
    have hvalues := h.pushAll name (values.map ParamValue.text)
    rw [List.map_map] at hvalues
    rw [Addition.pairs, List.map_map]
    exact hvalues

theorem holds_filled (additions : List Addition) :
    (filled additions).Holds (addedPairs additions) := by
  have hrun : ∀ (additions : List Addition) (q : QueryString) (pairs : List (String × String)),
      q.Holds pairs →
      (additions.foldl Addition.run q).Holds (pairs ++ addedPairs additions) := by
    intro additions
    induction additions with
    | nil =>
      intro q pairs h
      rwa [addedPairs, List.flatMap_nil, List.map_nil, List.append_nil]
    | cons addition additions ih =>
      intro q pairs h
      have hrest := ih _ _ (addition.holds_run h)
      rwa [List.append_assoc, addedPairs, ← List.map_append, ← List.flatMap_cons] at hrest
  exact hrun additions {} [] QueryString.holds_empty

theorem filter_addedPairs (additions : List Addition) (name : String) :
    (addedPairs additions).filter (·.1 == name) =
      (added name additions).map fun value => (name, value.text) := by
  rw [addedPairs, added, List.filter_map, List.map_map]
  refine List.map_congr_left fun pair hpair => ?_
  have hname := (List.mem_filter.mp hpair).2
  exact congrArg (·, pair.2.text) (eq_of_beq hname)

/-! ## Reading -/

section

variable {type : Primitive} {name : String} {values : List ParamValue}

theorem readValue_text (location : Location) (name : String) {v : ParamValue}
    (htype : type ≠ .float ∧ type ≠ .double) (h : v.hasType type = true) :
    RequestParts.readValue location name type v.text = .ok v := by
  rw [RequestParts.readValue, ParamValue.read_text htype h]
  rfl

theorem mapM_readValue (htype : type ≠ .float ∧ type ≠ .double)
    (h : ∀ v ∈ values, v.hasType type = true) :
    (values.map fun v => (name, v.text)).mapM
      (fun pair => RequestParts.readValue .query name type pair.2) = .ok values := by
  induction values with
  | nil => rfl
  | cons v values ih =>
    obtain ⟨hv, hvalues⟩ := List.forall_mem_cons.mp h
    rw [List.map_cons, List.mapM_cons, readValue_text .query name htype hv, ih hvalues]
    rfl

/-- The first value of a name is the first of its values. -/
theorem lookup_eq_head? (pairs : List (String × String)) (name : String) :
    pairs.lookup name = ((pairs.filter (·.1 == name)).map (·.2)).head? := by
  induction pairs with
  | nil => rfl
  | cons pair pairs ih =>
    obtain ⟨n, value⟩ := pair
    by_cases hn : n = name
    · subst hn
      simp
    · have hkey : (name == n) = false := by simpa using Ne.symm hn
      have hname : ¬(n == name) = true := by simpa using hn
      rw [List.lookup_cons, hkey, List.filter_cons, if_neg hname]
      exact ih

variable {parts : RequestParts}

/-- **All values of a name are read**, if the query holds them in their text form. -/
theorem queryAll_eq (htype : type ≠ .float ∧ type ≠ .double)
    (h : ∀ v ∈ values, v.hasType type = true)
    (hquery : parts.query.filter (·.1 == name) = values.map fun v => (name, v.text)) :
    parts.queryAll type name = .ok values := by
  rw [RequestParts.queryAll, hquery, mapM_readValue htype h]

/-- **The first value of a name is read**, or there is none. -/
theorem queryValue_eq (htype : type ≠ .float ∧ type ≠ .double)
    (h : ∀ v ∈ values, v.hasType type = true)
    (hquery : parts.query.filter (·.1 == name) = values.map fun v => (name, v.text)) :
    parts.queryValue type name = .ok values.head? := by
  have hlookup : parts.query.lookup name = values.head?.map ParamValue.text := by
    rw [lookup_eq_head?, hquery, List.map_map, List.head?_map]
    rfl
  rw [RequestParts.queryValue, hlookup]
  cases values with
  | nil => rfl
  | cons v values =>
    rw [List.head?_cons, Option.map_some]
    dsimp only
    rw [readValue_text .query name htype (h v List.mem_cons_self)]
    rfl

end

/-- **The server reads the values of each name in the order in which the client added them.**  The
pairs of the text stand in ascending order of the bytes of their names, and the text does not
depend on how the values of different names were interleaved. -/
theorem filled_read (additions : List Addition) :
    ((Form.decode (filled additions).encode).Pairwise
      fun a b => a.1 = b.1 ∨ utf8 a.1 < utf8 b.1) ∧
    (∀ name, ((Form.decode (filled additions).encode).filter (·.1 == name)).map (·.2) =
      (added name additions).map ParamValue.text) ∧
    (∀ others, (∀ name, added name others = added name additions) →
      (filled others).encode = (filled additions).encode) ∧
    ∀ type, type ≠ .float → type ≠ .double →
      ∀ name, (∀ v ∈ added name additions, v.hasType type = true) → ∀ path headers body,
        (RequestParts.ofRaw path (some (filled additions).encode) headers body).queryAll type name =
          .ok (added name additions) ∧
        (RequestParts.ofRaw path (some (filled additions).encode) headers body).queryValue type
          name = .ok (added name additions).head? := by
  have hholds := holds_filled additions
  have hvalues : ∀ name, (filled additions).pairs.filter (·.1 == name) =
      (added name additions).map fun v => (name, v.text) := fun name =>
    (hholds.values name).trans (filter_addedPairs additions name)
  rw [QueryString.decode_encode]
  refine ⟨?_, fun name => ?_, fun others hothers => ?_, ?_⟩
  · exact (QueryString.ascending_pairsOf hholds.ascending).imp fun h => h.imp_right utf8_lt
  · rw [hvalues, List.map_map]
    rfl
  · refine (holds_filled others).encode_eq hholds fun name => ?_
    rw [filter_addedPairs, filter_addedPairs, hothers]
  · intro type hfloat hdouble name htype path headers body
    have hquery : (RequestParts.ofRaw path (some (filled additions).encode) headers body).query =
        (filled additions).pairs := QueryString.decode_encode _
    exact ⟨queryAll_eq ⟨hfloat, hdouble⟩ htype (hquery ▸ hvalues name),
      queryValue_eq ⟨hfloat, hdouble⟩ htype (hquery ▸ hvalues name)⟩

/-- Values under a name that consists of separators, and under an empty one. -/
def wideAdditions : List Addition :=
  [.one "&=" (.string "ä +%"), .many "" [.integer (-5), .integer 2147483647],
    .one "&=" (.string "")]

/-- The same values with those of the two names in another order. -/
def wideAdditionsMixed : List Addition :=
  [.many "" [.integer (-5)], .one "&=" (.string "ä +%"), .many "&=" [.string ""],
    .one "" (.integer 2147483647)]

theorem filled_read_wide :
    (filled wideAdditionsMixed).encode = (filled wideAdditions).encode ∧
      (RequestParts.ofRaw [] (some (filled wideAdditions).encode) [] []).queryAll .int32 "" =
        .ok [.integer (-5), .integer 2147483647] ∧
      (RequestParts.ofRaw [] (some (filled wideAdditions).encode) [] []).queryValue .string "&=" =
        .ok (some (.string "ä +%")) := by
  obtain ⟨-, -, hmixed, hread⟩ := filled_read wideAdditions
  refine ⟨hmixed wideAdditionsMixed fun name => ?_, ?_, ?_⟩
  · by_cases hempty : name = ""
    · subst hempty
      decide +kernel
    · by_cases hmarks : name = "&="
      · subst hmarks
        decide +kernel
      · simp [added, wideAdditions, wideAdditionsMixed, Addition.pairs, Ne.symm hempty,
          Ne.symm hmarks]
  · exact (hread .int32 (by decide) (by decide) "" (by decide +kernel) [] [] []).1
  · exact (hread .string (by decide) (by decide) "&=" (by decide +kernel) [] [] []).2

end ApiScaffold.Web
