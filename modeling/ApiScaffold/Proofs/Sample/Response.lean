import ApiScaffold.Proofs.Json.Quote
import ApiScaffold.Sample.Items

/-!
# The responses of the sample are read as they are sent

A response is sent as a status and the JSON text of what it carries, or no body where it carries
nothing.  The client picks the variant by the status and reads the body for it.  So a response
comes back if the variant of its status is its own and its body is read as what it was printed
from; all that is printed are records of one string, and these are readable whatever the string.

* `readBytes_record`: a record of one string is read as it is printed.
* `dispatch_output`, `dispatch_error`: the response that a client makes of what was sent.
* `status_of_dispatch_ok`, `status_of_dispatch_error`: the status of what a client makes.
* `response_read`: **every response comes back as it was sent**, and what comes back has the status
  it came with, unless the client could not read it.
-/

namespace ApiScaffold.Sample

open Client (BadRequest InternalError)
open Json (Shape Value)
open Text (utf8)

/-- The bytes of what a response carries. -/
def bodyOf (data : Option Value) : List UInt8 := (data.map fun v => utf8 v.print).getD []

theorem readBytes_record (name key s : String) (absent : Option Value) :
    Json.readBytes (.record name [(key, .string, absent)])
      (bodyOf (some (.object [(key, .string s)]))) = .ok (.object [(key, .string s)]) :=
  (Json.readable_record (Json.readable_string s)).readBytes_print

theorem decodeSuccess_record {α : Type} (name key s : String) (absent : Option Value)
    (wrap : Value → α) :
    Client.decodeSuccess (.record name [(key, .string, absent)]) wrap
      (bodyOf (some (.object [(key, .string s)]))) = .ok (wrap (.object [(key, .string s)])) := by
  rw [Client.decodeSuccess, readBytes_record]

theorem decodeFailure_record {α : Type} (name key s : String) (absent : Option Value)
    (wrap : Value → α) (internal : InternalError → α) :
    Client.decodeFailure (.record name [(key, .string, absent)]) wrap internal
      (bodyOf (some (.object [(key, .string s)]))) = wrap (.object [(key, .string s)]) := by
  rw [Client.decodeFailure, readBytes_record]

/-! ## What is sent -/

theorem dispatch_output (o : GetItemOutput) :
    dispatchGetItem o.status (bodyOf o.data) = .ok o := by
  cases o with
  | ok item =>
    exact congrArg (Except.mapError GetItemError.internalError)
      (decodeSuccess_record "Item" "id" item.id none fun v => GetItemOutput.ok (.ofJson v))

theorem dispatch_error (e : GetItemError) :
    dispatchGetItem e.status (bodyOf e.data) = .error e := by
  cases e with
  | notFound => rfl
  | badRequest r =>
    exact congrArg Except.error (decodeFailure_record "BadRequest" "message" r.message _
      (fun v => GetItemError.badRequest (.ofJson v)) GetItemError.internalError)
  | internalError r =>
    exact congrArg Except.error (decodeFailure_record "InternalError" "message" r.message _
      (fun v => GetItemError.internalError (.ofJson v)) GetItemError.internalError)

/-! ## What comes back -/

variable {status : Nat} {body : List UInt8}

/-- Only a body of status 200 is read as a success. -/
theorem status_of_dispatch_ok {o : GetItemOutput} (h : dispatchGetItem status body = .ok o) :
    o.status = status := by
  unfold dispatchGetItem at h
  split at h
  · cases o
    rfl
  all_goals cases h

theorem decodeFailure_cases {α : Type} (shape : Shape) (wrap : Value → α)
    (internal : InternalError → α) (body : List UInt8) :
    (∃ v, Client.decodeFailure shape wrap internal body = wrap v) ∨
      ∃ r, Client.decodeFailure shape wrap internal body = internal r := by
  unfold Client.decodeFailure
  cases Json.readBytes shape body with
  | ok v => exact .inl ⟨v, rfl⟩
  | error e => exact .inr ⟨_, rfl⟩

/-- A body that cannot be read, and a status that is not declared, give the internal error; every
other failure is that of its status. -/
theorem status_of_dispatch_error {e : GetItemError} (h : dispatchGetItem status body = .error e)
    (hread : ∀ r, e ≠ .internalError r) : e.status = status := by
  unfold dispatchGetItem at h
  split at h
  · unfold Client.decodeSuccess at h
    split at h
    · cases h
    · cases h
      exact absurd rfl (hread _)
  · cases h
    rfl
  · obtain ⟨v, hfailure⟩ | ⟨r, hfailure⟩ :=
      decodeFailure_cases BadRequest.shape (fun v => GetItemError.badRequest (.ofJson v))
        GetItemError.internalError body
    · rw [hfailure] at h
      cases h
      rfl
    · rw [hfailure] at h
      cases h
      exact absurd rfl (hread _)
  · obtain ⟨v, hfailure⟩ | ⟨r, hfailure⟩ :=
      decodeFailure_cases InternalError.shape (fun v => GetItemError.internalError (.ofJson v))
        GetItemError.internalError body
    -- the variant of this status is the internal error itself
    all_goals
      rw [hfailure] at h
      cases h
      exact absurd rfl (hread _)
  · cases h
    exact absurd rfl (hread _)

/-- **Every response comes back as it was sent**, whatever the texts in it.  What comes back of any
status and any body has that status, unless it is the internal error that stands for what could
not be read. -/
theorem response_read :
    (∀ o : GetItemOutput, dispatchGetItem o.status (bodyOf o.data) = .ok o) ∧
    (∀ e : GetItemError, dispatchGetItem e.status (bodyOf e.data) = .error e) ∧
    (∀ status body o, dispatchGetItem status body = .ok o → o.status = status) ∧
    ∀ status body e, dispatchGetItem status body = .error e →
      (∀ r, e ≠ .internalError r) → e.status = status :=
  ⟨dispatch_output, dispatch_error, fun _ _ _ => status_of_dispatch_ok,
    fun _ _ _ => status_of_dispatch_error⟩

/-- A text with marks of a string, a control character and characters beyond ASCII. -/
def markedText : String := "\"\\\n\x01é😀"

theorem response_read_marked :
    bodyOf (GetItemOutput.ok ⟨markedText⟩).data =
      utf8 "\x7b\"id\":\"\\\"\\\\\\n\\u0001é😀\"\x7d" ∧
    dispatchGetItem 200 (bodyOf (GetItemOutput.ok ⟨markedText⟩).data) = .ok (.ok ⟨markedText⟩) ∧
    (GetItemOutput.ok ⟨markedText⟩).status = 200 ∧
    dispatchGetItem 400 (bodyOf (GetItemError.badRequest ⟨markedText⟩).data) =
      .error (.badRequest ⟨markedText⟩) ∧
    (GetItemError.badRequest ⟨markedText⟩).status = 400 := by
  obtain ⟨houtput, herror, hok, hfailure⟩ := response_read
  have hsent := houtput (.ok ⟨markedText⟩)
  have hfailed := herror (.badRequest ⟨markedText⟩)
  exact ⟨by decide +kernel, hsent, hok 200 _ _ hsent, hfailed,
    hfailure 400 _ _ hfailed fun _ h => (by cases h)⟩

end ApiScaffold.Sample
