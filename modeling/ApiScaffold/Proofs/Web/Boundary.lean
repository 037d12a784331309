import ApiScaffold.Client.Request
import ApiScaffold.Proofs.Web.QueryString
import ApiScaffold.Proofs.Web.Url

/-!
# Where the path ends and the query begins

A request has one text for its path and its query.  Whoever reads it takes the first question mark
for the end of the path, and the first sign of a fragment for the end of both.  The query itself is
written with the characters of forms, which hold neither of the two, so all depends on the path:
a value is filled in as it is, and its characters are those of the path.

* `not_mem_substituteAll`: a filled path has no other characters than its template and the values.
* `percentDecode_mark`: a byte that is no digit parts an encoded text.
* `decodeBytes_question_ne`: behind a question mark in the query, a form is not read as written.
* `decode_finish_iff`: **the text behind the first question mark is read as the query exactly if
  the path has no question mark.**
* `query_of_new`: a request has the query that was filled, if its path has neither sign.
* `query_apart`: **no value without these two signs changes the query of a request**;
  `query_taken_over`: values with them do.
-/

namespace ApiScaffold.Web

open Text

/-! ## Values in a path -/

/-- A path with values filled in, one after another. -/
def substituteAll (template : String) (values : List (String × String)) : String :=
  values.foldl (fun path (name, value) => substitute path name value) template

theorem mem_of_mem_replaceFirst {part replacement : List Char} {c : Char} :
    ∀ {cs : List Char}, c ∈ replaceFirst part replacement cs → c ∈ replacement ∨ c ∈ cs
  | [], h => .inr h
  | d :: cs, h => by
    rw [replaceFirst] at h
    split at h
    · rcases List.mem_append.mp h with h | h
      · exact .inl h
      · exact .inr (List.mem_of_mem_drop h)
    · rcases List.mem_cons.mp h with rfl | h
      · exact .inr List.mem_cons_self
      · exact (mem_of_mem_replaceFirst h).imp_right (List.mem_cons_of_mem _)

/-- **A path has no other characters than its template and the values.** -/
theorem not_mem_substituteAll {c : Char} {template : String} {values : List (String × String)}
    (htemplate : c ∉ template.toList) (hvalues : ∀ v ∈ values, c ∉ v.2.toList) :
    c ∉ (substituteAll template values).toList := by
  induction values generalizing template with
  | nil => exact htemplate
  | cons v values ih =>
    obtain ⟨hv, hvalues⟩ := List.forall_mem_cons.mp hvalues
    have hstep : c ∉ (substitute template v.1 v.2).toList := by
      intro h
      rw [substitute, String.toList_ofList] at h
      rcases mem_of_mem_replaceFirst h with h | h
      · exact hv h
      · exact htemplate h
    exact ih hstep hvalues

/-! ## The text behind the first question mark -/

/-- The text behind the first question mark. -/
def queryText (s : String) : String := String.ofList ((s.toList.dropWhile (· != '?')).drop 1)

/-- The text before the first question mark. -/
def pathText (s : String) : String := String.ofList (s.toList.takeWhile (· != '?'))

theorem bne_question {path : String} (h : '?' ∉ path.toList) :
    ∀ c ∈ path.toList, (c != '?') = true :=
  fun _ hc => bne_iff_ne.mpr fun e => h (e ▸ hc)

theorem pathText_append {path : String} (h : '?' ∉ path.toList) (rest : String) :
    pathText (path ++ "?" ++ rest) = path := by
  rw [pathText, String.toList_append, String.toList_append, List.append_assoc,
    List.takeWhile_append_of_pos (bne_question h)]
  exact (congrArg String.ofList (List.append_nil _)).trans String.ofList_toList

theorem queryText_append {path : String} (h : '?' ∉ path.toList) (rest : String) :
    queryText (path ++ "?" ++ rest) = rest := by
  rw [queryText, String.toList_append, String.toList_append, List.append_assoc,
    List.dropWhile_append_of_pos (bne_question h)]
  exact String.ofList_toList

/-! ## Marks in encoded bytes -/

section

variable {mark : UInt8}

theorem hexByte?_of_high {high low : UInt8} (h : hexDigitValue? high = none) :
    hexByte? high low = none := by
  rw [hexByte?, h]

theorem hexByte?_of_low {high low : UInt8} (h : hexDigitValue? low = none) :
    hexByte? high low = none := by
  rw [hexByte?, h]
  cases hexDigitValue? high <;> rfl

/-- A percent sign without two digits behind it stands for itself. -/
theorem percentDecode_percent {rest : List UInt8}
    (h : ∀ high low more, rest = high :: low :: more → hexByte? high low = none) :
    percentDecode (37 :: rest) = 37 :: percentDecode rest := by
  rcases rest with _ | ⟨high, _ | ⟨low, more⟩⟩
  · simp [percentDecode]
  · simp [percentDecode]
  · rw [percentDecode, h high low more rfl]

/-- **A byte that is no digit parts the decoding** of what stands before it from what stands
behind it. -/
theorem percentDecode_mark (hmark : hexDigitValue? mark = none) (h37 : mark ≠ 37)
    (bs rest : List UInt8) :
    percentDecode (bs ++ mark :: rest) = percentDecode bs ++ mark :: percentDecode rest := by
  fun_induction percentDecode bs with
  | case1 high low bs b h ih =>
    rw [List.cons_append, List.cons_append, List.cons_append, percentDecode_escape h, ih]
    rfl
  | case2 high low bs h ih =>
    have digits : ∀ high' low' more, high :: low :: (bs ++ mark :: rest) = high' :: low' :: more →
        hexByte? high' low' = none := by
      intro high' low' more heq
      cases heq
      exact h
    exact (percentDecode_percent digits).trans (congrArg (37 :: ·) ih)
  | case3 b bs h ih =>
    by_cases hb : b = 37
    · subst hb
      -- fewer than two bytes stand between the percent sign and the mark
      have digits : ∀ high low more, bs ++ mark :: rest = high :: low :: more →
          hexByte? high low = none := by
        intro high low more heq
        rcases bs with _ | ⟨x, _ | ⟨y, more'⟩⟩
        · cases heq
          exact hexByte?_of_high hmark
        · cases heq
          exact hexByte?_of_low hmark
        · exact (h x y more' rfl rfl).elim
      exact (percentDecode_percent digits).trans (congrArg (37 :: ·) ih)
    · exact (percentDecode_cons hb _).trans (congrArg (b :: ·) ih)
  | case4 => exact percentDecode_cons h37 rest

namespace Form

variable {pairs : List (String × String)} {pair : String × String}

/-- A text with such an ASCII byte inside has the characters of what stands before it and of what
stands behind it, and one more. -/
theorem length_decodeText_mark (hmark : hexDigitValue? mark = none) (h37 : mark ≠ 37)
    (h43 : mark ≠ 43) (hascii : mark.toNat < 0x80) (bs rest : List UInt8) :
    (decodeText (bs ++ mark :: rest)).toList.length =
      (decodeText bs).toList.length + 1 + (decodeText rest).toList.length := by
  have spacedMark : spaced mark = mark := spaced_of_ne h43
  change (decodeLossy (percentDecode ((bs ++ mark :: rest).map spaced))).toList.length = _
  rw [List.map_append, List.map_cons, spacedMark, percentDecode_mark hmark h37,
    decodeLossy_mark hascii, List.length_append, List.length_cons]
  change _ = (decodeLossy (percentDecode (bs.map spaced))).toList.length + 1 +
    (decodeLossy (percentDecode (rest.map spaced))).toList.length
  omega

theorem length_decodeText_question (bs rest : List UInt8) :
    (decodeText (bs ++ 63 :: rest)).toList.length =
      (decodeText bs).toList.length + 1 + (decodeText rest).toList.length :=
  length_decodeText_mark (by decide) (by decide) (by decide) (by decide) bs rest

/-- **A pair with a question mark before it is another pair.** -/
theorem decodePair_question_ne (front : List UInt8) (pair : String × String) :
    decodePair (front ++ 63 :: pairBytes pair) ≠ pair := by
  intro heq
  rw [pairBytes_eq] at heq
  by_cases h : (61 : UInt8) ∈ front
  · -- the first equals sign stands before the question mark, and the value is too long
    obtain ⟨name, value, rfl, hname⟩ := List.eq_append_cons_of_mem h
    have hname : ∀ b ∈ name, b ≠ 61 := fun b hb e => hname (e ▸ hb)
    rw [List.append_assoc, List.cons_append, decodePair_append hname] at heq
    have hvalue := congrArg (fun p : String × String => p.2.toList.length) heq
    dsimp only at hvalue
    rw [length_decodeText_question, length_decodeText_mark (by decide) (by decide) (by decide)
      (by decide), decodeText_encodeText pair.2] at hvalue
    omega
  · -- the name reaches to the equals sign of the pair, and is too long
    have hname : ∀ b ∈ front ++ 63 :: (encodeText pair.1).map asciiByte, b ≠ 61 := by
      intro b hb
      rcases List.mem_append.mp hb with hb | hb
      · exact fun e => h (e ▸ hb)
      · rcases List.mem_cons.mp hb with rfl | hb
        · decide
        · exact ne_of_mem_encodeText '=' rfl (by decide) hb
    rw [← List.cons_append, ← List.append_assoc, decodePair_append hname] at heq
    have hvalue := congrArg (fun p : String × String => p.1.toList.length) heq
    dsimp only at hvalue
    rw [length_decodeText_question, decodeText_encodeText] at hvalue
    omega

/-- What stands before the last ampersand is read apart. -/
theorem exists_last_ampersand (front : List UInt8) : ∃ before back, (∀ b ∈ back, b ≠ 38) ∧
    ∀ rest, decodeBytes (front ++ rest) = before ++ decodeBytes (back ++ rest) := by
  by_cases h : (38 : UInt8) ∈ front
  · obtain ⟨back, before, heq, hback⟩ := List.eq_append_cons_of_mem (List.mem_reverse.mpr h)
    have hfront : front = before.reverse ++ 38 :: back.reverse := by
      rw [← List.reverse_reverse front, heq]
      simp
    refine ⟨decodeBytes before.reverse, back.reverse, fun b hb e => ?_, fun rest => ?_⟩
    · exact hback (e ▸ List.mem_reverse.mp hb)
    · rw [hfront, List.append_assoc, List.cons_append, decodeBytes_mark]
  · exact ⟨[], front, fun b hb e => h (e ▸ hb), fun rest => rfl⟩

/-- Bytes of a pair behind a question mark are still those of one pair. -/
theorem decodeBytes_question {back bytes : List UInt8} (hback : ∀ b ∈ back, b ≠ 38)
    (hbytes : ∀ b ∈ bytes, b ≠ 38) :
    decodeBytes (back ++ 63 :: bytes) = [decodePair (back ++ 63 :: bytes)] := by
  refine decodeBytes_pair (fun b hb => ?_) (by simp)
  rcases List.mem_append.mp hb with hb | hb
  · exact hback b hb
  · rcases List.mem_cons.mp hb with rfl | hb
    · decide
    · exact hbytes b hb

/-- Of a form behind a question mark all pairs but the first are read as they are written. -/
theorem decodeBytes_question_cons {back : List UInt8} (hback : ∀ b ∈ back, b ≠ 38)
    (pair : String × String) (pairs : List (String × String)) :
    decodeBytes (back ++ 63 :: formBytes (pair :: pairs)) =
      decodePair (back ++ 63 :: pairBytes pair) :: pairs := by
  have hpair : ∀ b ∈ pairBytes pair, b ≠ 38 := fun _ => ne_of_mem_pairBytes
  have first := decodeBytes_question hback hpair
  cases pairs with
  | nil =>
    rw [formBytes, encodeChars_singleton]
    exact first
  | cons next pairs =>
    rw [formBytes_cons_cons, ← List.cons_append, ← List.append_assoc, decodeBytes_mark,
      decodeBytes_formBytes, first]
    rfl

/-- **Behind a question mark a form is not read as it is written**: the first pair is another one,
or there is one more. -/
theorem decodeBytes_question_ne (front : List UInt8) (pairs : List (String × String)) :
    decodeBytes (front ++ 63 :: formBytes pairs) ≠ pairs := by
  obtain ⟨before, back, hback, hfront⟩ := exists_last_ampersand front
  rw [hfront]
  intro heq
  cases pairs with
  | nil =>
    have one := decodeBytes_question hback (List.forall_mem_nil fun b : UInt8 => b ≠ 38)
    change before ++ decodeBytes (back ++ [63]) = [] at heq
    rw [one] at heq
    simp at heq
  | cons pair pairs =>
    rw [decodeBytes_question_cons hback] at heq
    have none : before = [] := by
      have hlength := congrArg List.length heq
      rw [List.length_append, List.length_cons, List.length_cons] at hlength
      exact List.eq_nil_of_length_eq_zero (by omega)
    rw [none, List.nil_append] at heq
    exact decodePair_question_ne back pair (List.cons.inj heq).1

end Form

end

/-! ## The end of the path -/

/-- **The text behind the first question mark is the query exactly if no question mark stands in
the path.** -/
theorem decode_finish_iff (q : QueryString) (path : String) :
    Form.decode (queryText (q.finish path)) = q.pairs ↔ '?' ∉ path.toList := by
  constructor
  · intro heq h
    obtain ⟨front, back, hpath, hfront⟩ := List.eq_append_cons_of_mem h
    have htext : queryText (q.finish path) = String.ofList back ++ "?" ++ q.encode := by
      have hsplit : q.finish path
          = String.ofList front ++ "?" ++ (String.ofList back ++ "?" ++ q.encode) := by
        apply String.toList_inj.mp
        simp [QueryString.finish, hpath]
      rw [hsplit, queryText_append (by rwa [String.toList_ofList])]
    have mark : utf8 "?" = [63] := by decide +kernel
    rw [htext, Form.decode_eq, utf8_append, utf8_append, mark, QueryString.encode,
      Form.utf8_encode, List.append_assoc] at heq
    exact Form.decodeBytes_question_ne _ _ heq
  · intro h
    rw [QueryString.finish, queryText_append h, QueryString.decode_encode]

/-! ## The query of a request -/

/-- **The request for a path has the query that was filled**, if no value starts one itself or cuts
it off. -/
theorem query_of_new {q : QueryString} {base path method : String} {request : Client.Request}
    (hbase : '?' ∉ base.toList ∧ '#' ∉ base.toList) (hpath : '?' ∉ path.toList ∧ '#' ∉ path.toList)
    (h : Client.Request.new method (base ++ q.finish path) = .ok request) :
    request.url.query = some q.encode ∧ request.url.fragment = none := by
  rw [Client.Request.new] at h
  split at h
  · next u hread =>
    cases h
    have hs : (base ++ q.finish path).toList
        = (base.toList ++ path.toList) ++ '?' :: Form.encodeChars q.pairs := by
      simp [QueryString.finish, QueryString.encode, Form.encode]
    have hfront : ∀ c ∈ base.toList ++ path.toList, Url.isBare c = true := by
      intro c hc
      rcases List.mem_append.mp hc with hc | hc
      · exact Url.forall_isBare_iff.mpr hbase c hc
      · exact Url.forall_isBare_iff.mpr hpath c hc
    exact Url.query_of_read hs hfront (fun _ => Form.isFormChar_of_mem_encodeChars) hread
  · cases h

/-- The pairs of a query string are those that were added, in another order. -/
theorem pairs_perm (additions : List Addition) :
    (filled additions).pairs.Perm (addedPairs additions) := by
  refine List.perm_iff_count.mpr fun pair => ?_
  have hname : ∀ l : List (String × String), (l.filter (·.1 == pair.1)).count pair = l.count pair :=
    fun l => List.count_filter (beq_self_eq_true pair.1)
  have hheld := congrArg (List.count pair) ((holds_filled additions).values pair.1)
  rwa [hname, hname] at hheld

/-- **Where the path ends, the query begins, unless a value says otherwise.**  Behind the first
question mark of a request's path stand just the pairs that were added if no value has a question
mark, and in general exactly if the filled path has none.  If no value has the sign of a fragment
either, these pairs are the query of the request. -/
theorem query_apart {template : String}
    (htemplate : '?' ∉ template.toList ∧ '#' ∉ template.toList)
    (values : List (String × String)) (additions : List Addition) :
    (filled additions).pairs.Perm (addedPairs additions) ∧
    ((∀ v ∈ values, '?' ∉ v.2.toList) →
      Form.decode (queryText ((filled additions).finish (substituteAll template values)))
        = (filled additions).pairs) ∧
    (Form.decode (queryText ((filled additions).finish (substituteAll template values)))
        = (filled additions).pairs ↔ '?' ∉ (substituteAll template values).toList) ∧
    ((∀ v ∈ values, '?' ∉ v.2.toList ∧ '#' ∉ v.2.toList) →
      ∀ base, '?' ∉ base.toList ∧ '#' ∉ base.toList → ∀ method request,
        Client.Request.new method
            (base ++ (filled additions).finish (substituteAll template values)) = .ok request →
          request.url.query.map Form.decode = some (filled additions).pairs ∧
            request.url.fragment = none) := by
  have hiff := decode_finish_iff (filled additions) (substituteAll template values)
  refine ⟨pairs_perm additions, fun hvalues => ?_, hiff, ?_⟩
  · exact hiff.mpr (not_mem_substituteAll htemplate.1 hvalues)
  · intro hvalues base hbase method request hnew
    have hpath : '?' ∉ (substituteAll template values).toList ∧
        '#' ∉ (substituteAll template values).toList :=
      ⟨not_mem_substituteAll htemplate.1 fun v hv => (hvalues v hv).1,
        not_mem_substituteAll htemplate.2 fun v hv => (hvalues v hv).2⟩
    obtain ⟨hquery, hfragment⟩ := query_of_new hbase hpath hnew
    refine ⟨?_, hfragment⟩
    rw [hquery, Option.map_some, QueryString.decode_encode]

/-- A path with one name. -/
def itemTemplate : String := "/items/\x7bid\x7d"

/-- A single query parameter. -/
def verboseAddition : List Addition := [.one "verbose" (.bool true)]

/-- The separators of a query and an encoded question mark are part of a value. -/
theorem query_apart_of_separators :
    Form.decode (queryText ((filled verboseAddition).finish
        (substituteAll itemTemplate [("id", "a&b=c/%3F")]))) = (filled verboseAddition).pairs ∧
    ∃ request, Client.Request.new "GET" ("http://localhost:8080/v1" ++
        (filled verboseAddition).finish (substituteAll itemTemplate [("id", "a&b=c/%3F")]))
          = .ok request ∧
      request.url.query.map Form.decode = some (filled verboseAddition).pairs := by
  have htemplate : '?' ∉ itemTemplate.toList ∧ '#' ∉ itemTemplate.toList := by decide
  obtain ⟨-, hbehind, -, hrequest⟩ :=
    query_apart htemplate [("id", "a&b=c/%3F")] verboseAddition
  refine ⟨hbehind (by decide), ?_⟩
  have hok : (Client.Request.new "GET" ("http://localhost:8080/v1" ++
      (filled verboseAddition).finish
        (substituteAll itemTemplate [("id", "a&b=c/%3F")]))).isOk = true := by decide +kernel
  cases hnew : Client.Request.new "GET" ("http://localhost:8080/v1" ++
      (filled verboseAddition).finish (substituteAll itemTemplate [("id", "a&b=c/%3F")])) with
  | error e => rw [hnew] at hok; cases hok
  | ok request =>
    have hbase : '?' ∉ "http://localhost:8080/v1".toList ∧
        '#' ∉ "http://localhost:8080/v1".toList := by decide
    exact ⟨request, rfl, (hrequest (by decide) _ hbase "GET" request hnew).1⟩

/-- **A value with a question mark takes the query over, and one with the sign of a fragment cuts
it off.** -/
theorem query_taken_over :
    ('?' ∉ itemTemplate.toList ∧ '#' ∉ itemTemplate.toList) ∧
    Form.decode (queryText ((filled verboseAddition).finish
      (substituteAll itemTemplate [("id", "x?admin=1")]))) = [("admin", "1?verbose=true")] ∧
    ¬(Form.decode (queryText ((filled verboseAddition).finish
      (substituteAll itemTemplate [("id", "x?admin=1")])))).Perm (addedPairs verboseAddition) ∧
    (Client.Request.new "GET" ("http://localhost:8080/v1" ++ (filled verboseAddition).finish
      (substituteAll itemTemplate [("id", "x#")]))).map (·.url.query) = .ok none := by
  refine ⟨?_, ?_, ?_, ?_⟩
  · decide
  · decide +kernel
  · decide +kernel
  · decide +kernel

end ApiScaffold.Web
