import ApiScaffold.Proofs.Circuit.Operation
import Mathlib.Data.List.ReduceOption

/-!
# A circuit under watch

A run of a circuit is a list of events: permits are asked for, given back with an outcome or
without one, the metrics are read, and the clock goes on.  `Watch` is the circuit together with
its clock and the permits that were issued, so that any number of permits can be out at once and
can come back in any order.

Two more fields are bookkeeping, and no step looks at them.  `opening` is written from the
observable state alone, and `book` from the outcomes that come back; the circuit's own record of
both, its phase and its window, is compared with them.

* `Watch.step`, `Watch.run`: what an event does, and what a list of events does.
* `Watch.live`: the permits that are out.
* `Watch.run_induction`: what every step keeps, every run keeps.
* `permit?_of_run`: a permit that is out after a run was out before it, if it had been issued.
-/

namespace ApiScaffold.Client

/-- An outcome that was given back, as an observer notes it. -/
structure Watch.Entry where
  mark : Mark
  /-- Whether the permit was that of a trial. -/
  trial : Bool
  deriving DecidableEq, Repr

/-- A circuit, its clock and its permits, and what an observer notes about them. -/
structure Watch where
  circuit : Circuit
  now : Nat
  /-- The permits in the order in which they were issued; none where one was given back. -/
  permits : List (Option Permit) := []
  /-- The moment at which the circuit was last seen to open. -/
  opening : Option Nat := none
  /-- The outcomes that were given back, oldest first. -/
  book : List Watch.Entry := []
  deriving DecidableEq, Repr

namespace Watch

/-- What happens to a circuit.  A permit is known by its place in the order of issue. -/
inductive Event
  | acquire
  | record (ticket : Nat) (success : Bool)
  | drop (ticket : Nat)
  | readMetrics
  | advance (span : Nat)
  deriving DecidableEq, Repr

/-- A new circuit, first seen at a moment. -/
def start (name : String) (settings : CircuitSettings) (now : Nat) : Watch :=
  { circuit := { name, settings }, now }

/-- The permit of a ticket, unless it was given back. -/
def permit? (w : Watch) (ticket : Nat) : Option Permit := w.permits[ticket]?.join

/-- The permits that are out. -/
def live (w : Watch) : List Permit := w.permits.reduceOption

/-- Strikes out the permit of a ticket. -/
def giveBack (w : Watch) (ticket : Nat) : Watch :=
  { w with permits := w.permits.set ticket none }

/-- The circuit after an operation.  The observer notes when it opens. -/
def moveTo (w : Watch) (c : Circuit) : Watch :=
  { w with
    circuit := c
    opening := if w.circuit.state ≠ .opened ∧ c.state = .opened then some w.now else w.opening }

/-- The circuit after a request for a permit that was granted. -/
def issue (w : Watch) (permit : Permit) (c : Circuit) : Watch :=
  { w.moveTo c with permits := w.permits ++ [some permit] }

/-- Notes an outcome that was given back. -/
def note (w : Watch) (entry : Entry) : Watch := { w with book := w.book ++ [entry] }

/-- What an event does.  There is nothing to give back where no permit is out. -/
def step (w : Watch) : Event → Watch
  | .acquire =>
    match w.circuit.tryAcquire w.now with
    | (.ok permit, c) => w.issue permit c
    | (.error _, c) => w.moveTo c
  | .record ticket success =>
    match w.permit? ticket with
    | some permit =>
      ((w.moveTo (w.circuit.record w.now permit success)).giveBack ticket).note
        ⟨⟨w.now, success⟩, permit.trial⟩
    | none => w
  | .drop ticket =>
    match w.permit? ticket with
    | some permit => (w.moveTo (w.circuit.release permit)).giveBack ticket
    | none => w
  | .readMetrics => w.moveTo (w.circuit.readMetrics w.now).2
  | .advance span => { w with now := w.now + span }

/-- What a list of events does. -/
def run (w : Watch) (events : List Event) : Watch := events.foldl step w

/-! ## Runs -/

/-- What every step keeps, every run keeps. -/
theorem run_induction {P : Watch → Prop} (hstep : ∀ w e, P w → P (w.step e)) :
    ∀ (events : List Event) (w : Watch), P w → P (w.run events) := by
  intro events
  induction events with
  | nil => intro w h; exact h
  | cons e es ih => intro w h; exact ih (w.step e) (hstep w e h)

theorem run_concat (w : Watch) (events : List Event) (e : Event) :
    w.run (events ++ [e]) = (w.run events).step e := List.foldl_concat step w e events

/-! ## What is left alone -/

@[simp] theorem moveTo_circuit (w : Watch) (c : Circuit) : (w.moveTo c).circuit = c := rfl
@[simp] theorem moveTo_permits (w : Watch) (c : Circuit) : (w.moveTo c).permits = w.permits := rfl
@[simp] theorem issue_permits (w : Watch) (p : Permit) (c : Circuit) :
    (w.issue p c).permits = w.permits ++ [some p] := rfl
@[simp] theorem giveBack_circuit (w : Watch) (k : Nat) : (w.giveBack k).circuit = w.circuit := rfl
@[simp] theorem note_circuit (w : Watch) (e : Entry) : (w.note e).circuit = w.circuit := rfl
@[simp] theorem note_permits (w : Watch) (e : Entry) : (w.note e).permits = w.permits := rfl
@[simp] theorem note_book (w : Watch) (e : Entry) : (w.note e).book = w.book ++ [e] := rfl

/-! ## What an event comes to -/

/-- The ways in which a request for a permit can end. -/
inductive Acquired (w : Watch) : Watch → Prop
  | refused : ¬ (w.circuit.hasRoom ∧ w.circuit.verdict w.now = .ok ⟨true⟩) →
      Acquired w (w.moveTo { w.circuit with rejected := w.circuit.rejected + 1 })
  /-- The call is admitted beside the trial, or where there is none. -/
  | call {n : Nat} : w.circuit.verdict w.now ≠ .ok ⟨true⟩ →
      Acquired w
        (w.issue ⟨false⟩ { w.circuit with inFlight := w.circuit.inFlight + 1, rejected := n })
  /-- The call is admitted as the trial. -/
  | trial {n : Nat} : w.circuit.hasRoom → w.circuit.verdict w.now = .ok ⟨true⟩ →
      Acquired w (w.issue ⟨true⟩
        { w.circuit with
          phase := .halfOpen true, inFlight := w.circuit.inFlight + 1, rejected := n })

theorem acquired_step (w : Watch) : w.Acquired (w.step .acquire) := by
  have h := w.circuit.tryAcquire_acquisition w.now
  rw [step]
  generalize w.circuit.tryAcquire w.now = r at h
  cases h with
  | full hroom => exact .refused fun hg => hroom hg.1
  | refused _ hv _ => exact .refused fun hg => by rw [hv] at hg; cases hg.2
  | tolerated hv _ => exact .call fun hg => by rw [hv] at hg; cases hg
  | @admitted permit hroom hv =>
    obtain ⟨trial⟩ := permit
    cases trial with
    | false => exact .call fun hg => by rw [hv] at hg; cases hg
    | true => exact .trial hroom hv

theorem step_record {w : Watch} {k : Nat} {p : Permit} (h : w.permit? k = some p)
    (success : Bool) :
    w.step (.record k success) =
      ((w.moveTo (w.circuit.record w.now p success)).giveBack k).note
        ⟨⟨w.now, success⟩, p.trial⟩ := by
  rw [step, h]

theorem step_record_none {w : Watch} {k : Nat} (h : w.permit? k = none) (success : Bool) :
    w.step (.record k success) = w := by
  rw [step, h]

theorem step_drop {w : Watch} {k : Nat} {p : Permit} (h : w.permit? k = some p) :
    w.step (.drop k) = (w.moveTo (w.circuit.release p)).giveBack k := by
  rw [step, h]

theorem step_drop_none {w : Watch} {k : Nat} (h : w.permit? k = none) :
    w.step (.drop k) = w := by
  rw [step, h]

/-- The settings of a circuit stay. -/
theorem settings_step (w : Watch) (e : Event) :
    (w.step e).circuit.settings = w.circuit.settings := by
  cases e with
  | acquire =>
    have h := w.acquired_step
    generalize w.step .acquire = w' at h ⊢
    cases h <;> rfl
  | record k success =>
    cases hp : w.permit? k with
    | none => rw [step_record_none hp]
    | some p => rw [step_record hp]; exact Circuit.record_settings ..
  | drop k =>
    cases hp : w.permit? k with
    | none => rw [step_drop_none hp]
    | some p => rw [step_drop hp]; rfl
  | readMetrics => rfl
  | advance span => rfl

theorem settings_run (name : String) (settings : CircuitSettings) (now : Nat)
    (events : List Event) : ((start name settings now).run events).circuit.settings = settings :=
  run_induction (fun w e h => (settings_step w e).trans h) events _ rfl

/-! ## What the observer notes -/

/-- An operation that leaves the observable state alone goes unnoticed. -/
theorem moveTo_opening_of_state_eq {w : Watch} {c : Circuit} (h : c.state = w.circuit.state) :
    (w.moveTo c).opening = w.opening := by
  rw [moveTo, h]
  exact if_neg fun hne => hne.1 hne.2

theorem moveTo_opening_of_opens {w : Watch} {c : Circuit} (h : w.circuit.state ≠ .opened)
    (hc : c.state = .opened) : (w.moveTo c).opening = some w.now := by
  rw [moveTo]
  exact if_pos ⟨h, hc⟩

/-! ## The permits that are out -/

theorem permit?_eq_some {w : Watch} {k : Nat} {p : Permit} :
    w.permit? k = some p ↔ w.permits[k]? = some (some p) := by
  rw [permit?, Option.join_eq_some_iff]

/-- Giving a permit back takes one from what is out. -/
theorem countP_live_giveBack {w : Watch} {k : Nat} {p : Permit} (h : w.permit? k = some p)
    (q : Permit → Bool) :
    w.live.countP q = (w.giveBack k).live.countP q + if q p then 1 else 0 := by
  rw [permit?_eq_some] at h
  obtain ⟨hk, hp⟩ := List.getElem?_eq_some_iff.mp h
  have hset := List.countP_set (p := fun a => ((id a).map q).getD false) (a := none) hk
  simp only [live, giveBack, List.reduceOption, List.countP_filterMap]
  rw [hset, hp]
  cases hq : q p with
  | true =>
    have hpos : 0 < w.permits.countP (fun a => ((id a).map q).getD false) :=
      List.countP_pos_iff.mpr ⟨some p, hp ▸ List.getElem_mem hk, hq⟩
    simp only [id, Option.map_some, Option.map_none, Option.getD_some, Option.getD_none, hq,
      if_true, Bool.false_eq_true, if_false]
    exact (Nat.sub_add_cancel hpos).symm
  | false => simp [hq]

theorem length_live_giveBack {w : Watch} {k : Nat} {p : Permit} (h : w.permit? k = some p) :
    w.live.length = (w.giveBack k).live.length + 1 := by
  have := countP_live_giveBack h fun _ => true
  simpa using this

/-- A permit that is out has a ticket. -/
theorem exists_ticket {w : Watch} {p : Permit} (h : p ∈ w.live) : ∃ k, w.permit? k = some p := by
  rw [live, List.reduceOption_mem_iff] at h
  obtain ⟨k, hk⟩ := List.getElem?_of_mem h
  exact ⟨k, permit?_eq_some.mpr hk⟩

/-- What is out after a permit came back. -/
theorem live_giveBack_perm {w : Watch} {k : Nat} {p : Permit} {rest : List Permit}
    (h : w.permit? k = some p) (hlive : w.live.Perm (p :: rest)) :
    (w.giveBack k).live.Perm rest := by
  rw [List.perm_iff_count] at hlive ⊢
  intro q
  have hback := countP_live_giveBack h (· == q)
  have hrest := hlive q
  rw [List.count_cons] at hrest
  rw [List.count] at hrest ⊢
  omega

theorem live_issue (w : Watch) (p : Permit) (c : Circuit) :
    (w.issue p c).live = w.live ++ [p] := by
  rw [live, issue_permits, List.reduceOption_append]
  rfl

/-! ## Tickets -/

theorem length_permits_step (w : Watch) (e : Event) :
    w.permits.length ≤ (w.step e).permits.length := by
  cases e with
  | acquire =>
    have h := w.acquired_step
    generalize w.step .acquire = w' at h
    cases h with
    | refused _ => exact Nat.le_refl _
    | call _ => simp
    | trial _ _ => simp
  | record k success =>
    cases hp : w.permit? k with
    | none => exact Nat.le_of_eq (by rw [step_record_none hp])
    | some p => rw [step_record hp]; simp [giveBack]
  | drop k =>
    cases hp : w.permit? k with
    | none => exact Nat.le_of_eq (by rw [step_drop_none hp])
    | some p => rw [step_drop hp]; simp [giveBack]
  | readMetrics => exact Nat.le_refl _
  | advance span => exact Nat.le_refl _

theorem permit?_of_giveBack {w : Watch} {j k : Nat} {p : Permit} (hk : k < w.permits.length)
    (h : (w.giveBack j).permit? k = some p) : w.permit? k = some p := by
  rw [permit?_eq_some, giveBack] at h
  rw [permit?_eq_some]
  by_cases hjk : j = k
  · subst hjk
    rw [List.getElem?_set_self hk] at h
    simp at h
  · rwa [List.getElem?_set_ne hjk] at h

theorem permit?_of_issue {w : Watch} {k : Nat} {p q : Permit} {c : Circuit}
    (hk : k < w.permits.length) (h : (w.issue q c).permit? k = some p) :
    w.permit? k = some p := by
  rw [permit?_eq_some, issue_permits, List.getElem?_append_left hk] at h
  exact permit?_eq_some.mpr h

/-- A ticket that was issued never comes to stand for another permit. -/
theorem permit?_of_step {w : Watch} {e : Event} {k : Nat} {p : Permit}
    (hk : k < w.permits.length) (h : (w.step e).permit? k = some p) : w.permit? k = some p := by
  cases e with
  | acquire =>
    have hacq := w.acquired_step
    generalize w.step .acquire = w' at hacq h
    cases hacq with
    | refused _ => exact h
    | call _ => exact permit?_of_issue hk h
    | trial _ _ => exact permit?_of_issue hk h
  | record j success =>
    cases hp : w.permit? j with
    | none => rwa [step_record_none hp] at h
    | some q => rw [step_record hp] at h; exact permit?_of_giveBack (w := w) hk h
  | drop j =>
    cases hp : w.permit? j with
    | none => rwa [step_drop_none hp] at h
    | some q => rw [step_drop hp] at h; exact permit?_of_giveBack (w := w) hk h
  | readMetrics => exact h
  | advance span => exact h

/-- A permit that is out after a run was out before it, if it had been issued. -/
theorem permit?_of_run {k : Nat} {p : Permit} :
    ∀ (events : List Event) (w : Watch), k < w.permits.length →
      (w.run events).permit? k = some p → w.permit? k = some p := by
  intro events
  induction events with
  | nil => intro w _ h; exact h
  | cons e es ih =>
    intro w hk h
    exact permit?_of_step hk
      (ih (w.step e) (Nat.lt_of_lt_of_le hk (length_permits_step w e)) h)

end Watch

end ApiScaffold.Client
