import ApiScaffold.Client.Request
import ApiScaffold.Web.RequestParts

/-!
# Headers that are set and read

A client and a server have different rules on the value of a header.  The client refuses control
characters other than the tab, and the server reads ASCII only.  So `Put` says once how a header is
set, and what is read of it then hangs on its characters alone.

* `isHeaderValue_append`: a value is accepted piece by piece.
* `filter_insert_self`, `filter_insert_other`: **a header that is set has its one value, and all
  other headers stay, in their order.**
* `headerValue_string`: what a server reads of a header that is there.
* `putHeader_accepts_iff`, `headerValue_putHeader`: which headers a client accepts, and what the
  server reads of them.
* `header_read_iff`: **a header is read as it was set exactly if it is ASCII**, and one that is
  refused leaves the request as it was.
-/

namespace ApiScaffold.Web

theorem isHeaderValue_append (s t : String) :
    isHeaderValue (s ++ t) = (isHeaderValue s && isHeaderValue t) := by
  rw [isHeaderValue, String.toList_append, List.all_append]
  rfl

namespace Headers

variable {name value : String}

/-- A header that is set has its one value. -/
theorem filter_insert_self (headers : Headers) :
    (insert name value headers).filter (·.1 = name) = [(name, value)] := by
  induction headers with
  | nil => simp [insert]
  | cons h rest ih =>
    rw [insert]
    split
    · simp [List.filter_filter]
    · rename_i hne
      rw [List.filter_cons_of_neg (by simpa using hne), ih]

/-- Setting a header leaves the others as they are. -/
theorem filter_insert_other (headers : Headers) :
    (insert name value headers).filter (·.1 ≠ name) = headers.filter (·.1 ≠ name) := by
  induction headers with
  | nil => simp [insert]
  | cons h rest ih =>
    rw [insert]
    split
    · rename_i heq
      rw [List.filter_cons_of_neg (by simp), List.filter_cons_of_neg (by simpa using heq)]
      simp [List.filter_filter]
    · rename_i hne
      rw [List.filter_cons_of_pos (by simpa using hne), List.filter_cons_of_pos (by simpa using hne),
        ih]

end Headers

end ApiScaffold.Web

namespace ApiScaffold.Web.RequestParts

open Text (isAscii)

variable {name lower value : String} {r : RequestParts}

/-- What a server reads of a header that is there. -/
theorem headerValue_string (hname : headerName? name = some lower)
    (hvalue : r.headers.get? lower = some value) :
    r.headerValue .string name =
      if value.toList.all isAscii then .ok (some (.string value))
      else .error (.invalid .header name unreadableFault) := by
  rw [headerValue, hname, Option.bind_some, hvalue]
  simp only [readableValue?]
  cases value.toList.all isAscii <;> rfl

end ApiScaffold.Web.RequestParts

namespace ApiScaffold.Client.Request

open Text (isAscii)
open Web (RequestParts)

variable {name value : String} {r r' : Request}

/-- The ways in which a header can be set in place. -/
inductive Put (name value : String) (r : Request) : Request × Option CallError → Prop
  | accepted {lower : String} : Web.headerName? name = some lower →
      Web.isHeaderValue value = true →
      Put name value r ({ r with headers := r.headers.insert lower value }, none)
  | refused {e : CallError} :
      ¬((Web.headerName? name).isSome = true ∧ Web.isHeaderValue value = true) →
      Put name value r (r, some e)

theorem put_putHeader (name value : String) (r : Request) :
    Put name value r (r.putHeader name value) := by
  rw [putHeader, setHeader]
  cases hname : Web.headerName? name with
  | none => exact .refused (by simp [hname])
  | some lower =>
    cases hvalue : Web.isHeaderValue value with
    | true => exact .accepted hname hvalue
    | false => exact .refused (by simp [hvalue])

theorem putHeader_accepts_iff (name value : String) (r : Request) :
    (r.putHeader name value).2 = none ↔
      (Web.headerName? name).isSome = true ∧ Web.isHeaderValue value = true := by
  have hput := r.put_putHeader name value
  generalize r.putHeader name value = put at hput ⊢
  cases hput with
  | accepted hname hvalue => exact iff_of_true rfl ⟨Option.isSome_of_eq_some hname, hvalue⟩
  | refused hnot => exact iff_of_false (Option.some_ne_none _) hnot

theorem putHeader_of_refused (h : (r.putHeader name value).2 ≠ none) :
    (r.putHeader name value).1 = r := by
  have hput := r.put_putHeader name value
  generalize r.putHeader name value = put at hput h ⊢
  cases hput with
  | accepted => exact absurd rfl h
  | refused => rfl

/-- What the server reads of a header that was accepted. -/
theorem headerValue_putHeader (h : (r.putHeader name value).2 = none)
    (path : List (String × String)) (query : Option String) (body : List UInt8) :
    (RequestParts.ofRaw path query (r.putHeader name value).1.headers body).headerValue .string
        name =
      if value.toList.all isAscii then .ok (some (.string value))
      else .error (.invalid .header name Web.unreadableFault) := by
  have hput := r.put_putHeader name value
  generalize r.putHeader name value = put at hput h ⊢
  cases hput with
  | @accepted lower hname hvalue =>
    exact RequestParts.headerValue_string
      (r := .ofRaw path query (r.headers.insert lower value) body) hname
      (Web.Headers.get?_insert lower value r.headers)
  | refused => exact absurd h (Option.some_ne_none _)

/-- **A header is read as it was set exactly if it is ASCII.**  A request accepts a name that is
one with a value that has no control characters other than the tab.  It refuses any other header,
and is then as it was.  Of a header that it accepted, the server reads the same text under the same
name if that has ASCII characters only, and refuses it if not. -/
theorem header_read_iff (name value : String) (r : Request) (path : List (String × String))
    (query : Option String) (body : List UInt8) :
    let after := (r.putHeader name value).1
    let refused := (r.putHeader name value).2
    let read := (RequestParts.ofRaw path query after.headers body).headerValue .string name
    (refused = none ↔ (Web.headerName? name).isSome = true ∧ Web.isHeaderValue value = true) ∧
    (refused = none →
      (read = .ok (some (.string value)) ↔ ∀ c ∈ value.toList, isAscii c = true) ∧
      ((∃ c ∈ value.toList, isAscii c = false) →
        read = .error (.invalid .header name Web.unreadableFault))) ∧
    (refused ≠ none → after = r) := by
  intro after refused read
  refine ⟨r.putHeader_accepts_iff name value, fun hnone => ?_, fun hsome => ?_⟩
  · have hread : read = _ := headerValue_putHeader hnone path query body
    rw [hread, ← List.all_eq_true]
    cases hall : value.toList.all isAscii with
    | true =>
      refine ⟨iff_of_true rfl rfl, ?_⟩
      rintro ⟨c, hc, hbeyond⟩
      exact absurd (List.all_eq_true.mp hall c hc) (by simp [hbeyond])
    | false =>
      refine ⟨iff_of_false (fun h => ?_) Bool.false_ne_true, fun _ => rfl⟩
      cases h
  · exact putHeader_of_refused hsome

/-- A request to a place. -/
def plainRequest : Request :=
  { method := "GET"
    url := { scheme := .network "http" 80, authority := none, path := .segments [] }
    headers := [("x-tenant", "old"), ("accept", "*/*"), ("x-tenant", "older")] }

/-- A header with blanks in it takes the place of two earlier ones, and one with a line feed is
refused. -/
theorem header_read_iff_spaced :
    (RequestParts.ofRaw [] none
        (plainRequest.putHeader "X-Tenant" "a b\tc").1.headers []).headerValue .string "X-Tenant" =
          .ok (some (.string "a b\tc")) ∧
      (plainRequest.putHeader "X-Tenant" "line\nbreak").1 = plainRequest := by
  obtain ⟨haccepted, hread, -⟩ := header_read_iff "X-Tenant" "a b\tc" plainRequest [] none []
  obtain ⟨-, -, hrefused⟩ := header_read_iff "X-Tenant" "line\nbreak" plainRequest [] none []
  refine ⟨(hread (haccepted.mpr (by decide))).1.mpr ?_, hrefused (by decide)⟩
  exact List.all_eq_true.mp (by decide)

/-- **Not every header that a request accepts is read by the server.** -/
theorem accepted_not_read :
    ¬∀ (name value : String) (r : Request), (r.putHeader name value).2 = none →
      (RequestParts.ofRaw [] none (r.putHeader name value).1.headers []).headerValue .string name =
        .ok (some (.string value)) := by
  intro h
  have haccepted : (plainRequest.putHeader "X-T" "café").2 = none := by decide
  have hread := h "X-T" "café" plainRequest haccepted
  rw [headerValue_putHeader haccepted, if_neg (by decide)] at hread
  cases hread

end ApiScaffold.Client.Request
