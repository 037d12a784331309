import ApiScaffold.Proofs.Operation.PathTemplate
import ApiScaffold.Proofs.Pattern.Match
import ApiScaffold.Proofs.Traversal
import ApiScaffold.Proofs.Web.Boundary
import ApiScaffold.Sample.Items

/-!
# The request of the sample is read as it is made

The path of an input is its template with the identifier filled in, a question mark, and the query.
Nothing is escaped in the path, so whether it can be taken apart again depends on the identifier
alone; the check of an input admits only letters, digits and hyphens there (`pattern_id_iff`).  The
query is filled with the values that are present (`query_eq_filled`), and such a query is read as it
is filled.

* `path_eq`: the path of an input.
* `request_read`: **of an input that passes its check, a server reads all values from the path**,
  the absent ones as absent.
-/

namespace ApiScaffold.Sample

open Pattern (CharSet)
open Web (Addition RequestParts)

namespace GetItemInput

variable {x : GetItemInput}

/-! ## What the check admits -/

/-- The characters of an identifier. -/
def idChars : CharSet := .union (.union (.range 97 122) (.range 48 57)) (.range 45 45)

theorem ofString?_id : Pattern.ofString? "^[a-z0-9-]+$" = some (.whole idChars) := by
  decide +kernel

/-- **The pattern of identifiers admits all texts of their characters.** -/
theorem pattern_id_iff (s : String) : Validation.pattern "id" s "^[a-z0-9-]+$" = .ok () ↔
    s ≠ "" ∧ ∀ c ∈ s.toList, idChars.mem c = true := by
  rw [← Pattern.occursIn_whole, Validation.pattern, ofString?_id]
  cases hoccurs : (Pattern.whole idChars).occursIn s <;> simp [hoccurs]

theorem mem_idChars_of_validate (h : x.validate = .ok ()) {c : Char} (hc : c ∈ x.id.toList) :
    idChars.mem c = true := by
  obtain ⟨_, -, h⟩ := bind_eq_ok.mp h
  obtain ⟨_, hpattern, -⟩ := bind_eq_ok.mp h
  exact ((pattern_id_iff x.id).mp hpattern).2 c hc

/-! ## The path -/

/-- What an input adds to the query. -/
def additions (x : GetItemInput) : List Addition :=
  (x.verbose.map fun b => Addition.one "verbose" (.bool b)).toList ++
    (x.limit.map fun n => Addition.one "limit" (.integer n)).toList

theorem query_eq_filled (x : GetItemInput) : x.query = Web.filled x.additions := by
  obtain ⟨id, verbose, limit⟩ := x
  cases verbose <;> cases limit <;> rfl

/-- A value that an input adds at most once is read from its query, or is absent. -/
theorem queryValue_filled {name : String} {type : Primitive} {value : Option ParamValue}
    (htype : type ≠ .float ∧ type ≠ .double)
    (hadded : Web.added name x.additions = value.toList)
    (hvalue : ∀ v ∈ value, v.hasType type = true) (path headers body) :
    (RequestParts.ofRaw path (some (Web.filled x.additions).encode) headers body).queryValue type
      name = .ok value := by
  have hall : ∀ v ∈ Web.added name x.additions, v.hasType type = true := by
    intro v hv
    rw [hadded, Option.mem_toList] at hv
    exact hvalue v hv
  obtain ⟨-, -, -, hread⟩ := Web.filled_read x.additions
  have h := (hread type htype.1 htype.2 name hall path headers body).2
  rwa [hadded, Option.head?_toList] at h

theorem added_verbose (x : GetItemInput) :
    Web.added "verbose" x.additions = (x.verbose.map ParamValue.bool).toList := by
  obtain ⟨id, verbose, limit⟩ := x
  cases verbose <;> cases limit <;> rfl

theorem added_limit (x : GetItemInput) :
    Web.added "limit" x.additions = (x.limit.map ParamValue.integer).toList := by
  obtain ⟨id, verbose, limit⟩ := x
  cases verbose <;> cases limit <;> rfl

/-- **The path is the identifier behind its prefix, and the query behind a question mark.** -/
theorem path_eq (x : GetItemInput) :
    x.path = "/items/" ++ x.id ++ "?" ++ (Web.filled x.additions).encode := by
  have hplain : '\x7b' ∉ "/items/".toList := by decide
  have hfilled : Web.substitute "/items/\x7bid\x7d" "id" x.id = "/items/" ++ x.id := by
    apply String.toList_inj.mp
    rw [Web.substitute, String.toList_ofList, String.toList_append]
    calc
      Web.replaceFirst ('\x7b' :: "id".toList ++ ['\x7d']) x.id.toList
          ("/items/".toList ++ ('\x7b' :: "id".toList ++ ['\x7d'] ++ []))
        = "/items/".toList ++ Web.replaceFirst ('\x7b' :: "id".toList ++ ['\x7d']) x.id.toList
            ('\x7b' :: "id".toList ++ ['\x7d'] ++ []) := Web.replaceFirst_append hplain
      _ = "/items/".toList ++ (x.id.toList ++ []) :=
        congrArg _ (Web.replaceFirst_self (List.cons_ne_nil _ _))
      _ = "/items/".toList ++ x.id.toList := by rw [List.append_nil]
  rw [path, hfilled, query_eq_filled]
  rfl

/-- **Of an input that passes its check, a server reads all values from the path.**  The path ends
at the first question mark, its last part is the identifier, and the query holds the two optional
values, or that they are absent. -/
theorem request_read (hlimit : ∀ n ∈ x.limit, (ParamValue.integer n).hasType .int64 = true)
    (hvalid : x.validate = .ok ()) :
    '?' ∈ x.path.toList ∧ Web.pathText x.path = "/items/" ++ x.id ∧ '/' ∉ x.id.toList ∧
    ∀ headers body,
      let parts := RequestParts.ofRaw [("id", x.id)] (some (Web.queryText x.path)) headers body
      parts.pathValue .string "id" = .ok (.string x.id) ∧
      parts.queryValue .boolean "verbose" = .ok (x.verbose.map .bool) ∧
      parts.queryValue .int64 "limit" = .ok (x.limit.map .integer) := by
  have hmem := fun c => mem_idChars_of_validate (c := c) hvalid
  have hslash : '/' ∉ x.id.toList := fun h => absurd (hmem _ h) (by decide)
  have hfront : '?' ∉ ("/items/" ++ x.id).toList := by
    rw [String.toList_append, List.mem_append]
    rintro (h | h)
    · exact absurd h (by decide)
    · exact absurd (hmem _ h) (by decide)
  have hquery : Web.queryText x.path = (Web.filled x.additions).encode := by
    rw [path_eq, Web.queryText_append hfront]
  refine ⟨?_, ?_, hslash, fun headers body => ?_⟩
  · rw [path_eq]
    simp
  · rw [path_eq, Web.pathText_append hfront]
  · rw [hquery]
    refine ⟨rfl, queryValue_filled (by decide) x.added_verbose ?_ _ headers body,
      queryValue_filled (by decide) x.added_limit ?_ _ headers body⟩
    · intro v hv
      obtain ⟨b, -, rfl⟩ := Option.map_eq_some_iff.mp hv
      rfl
    · intro v hv
      obtain ⟨n, hn, rfl⟩ := Option.map_eq_some_iff.mp hv
      exact hlimit n hn

/-- A negative limit and a flag that is absent. -/
def narrowInput : GetItemInput where
  id := "a-1"
  limit := some (-5)

theorem request_read_narrow :
    narrowInput.validate = .ok () ∧ narrowInput.path = "/items/a-1?limit=-5" ∧
    let parts := RequestParts.ofRaw [("id", "a-1")] (some (Web.queryText narrowInput.path)) [] []
    parts.queryValue .boolean "verbose" = .ok none ∧
      parts.queryValue .int64 "limit" = .ok (some (.integer (-5))) := by
  have hvalid : narrowInput.validate = .ok () := by decide +kernel
  have hlimit : ∀ n ∈ narrowInput.limit, (ParamValue.integer n).hasType .int64 = true := by
    intro n hn
    cases hn
    decide
  obtain ⟨-, -, -, hread⟩ := request_read hlimit hvalid
  exact ⟨hvalid, by decide +kernel, (hread [] []).2⟩

end GetItemInput

end ApiScaffold.Sample
