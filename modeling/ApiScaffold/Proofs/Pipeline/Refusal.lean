import ApiScaffold.Proofs.Circuit.Watch
import ApiScaffold.Proofs.Pipeline.Count

/-!
# Calls that are refused

A circuit that refuses a call has already reserved a place for it when it looks at the phase, and
relies on giving that place back.  What is left of the call is one refusal more in the count, and
nothing that the circuit does depends on that count.

So a refused call can be told apart from one that was never made only by the count itself: every
operation does the same to a circuit with one refusal more (`tryAcquire_countRefusal`,
`record_countRefusal`), hence every event does (`step_countRefusal`), and every run
(`run_countRefusal`, by induction over the events).

* `tryAcquire_of_refused`: what a refusal leaves of a circuit.
* `refusal_leaves_no_trace`: **a refused call reaches nobody, and whoever holds a permit goes on as
  if it had not been made.**
-/

namespace ApiScaffold.Client

namespace Circuit

variable {c : Circuit} {now : Nat}

/-- A circuit that has refused one call more. -/
def countRefusal (c : Circuit) : Circuit := { c with rejected := c.rejected + 1 }

/-- **A refused call leaves a refusal behind**, and no more. -/
theorem tryAcquire_of_refused {reason : Rejection} (h : (c.tryAcquire now).1 = .error reason) :
    c.tryAcquire now = (.error reason, c.countRefusal) := by
  have hacq := c.tryAcquire_acquisition now
  generalize c.tryAcquire now = r at h hacq ⊢
  cases hacq with
  | full _ => cases h; rfl
  | refused _ _ _ => cases h; rfl
  | tolerated _ _ => cases h
  | admitted _ _ => cases h

/-! ## The count of refusals is not looked at -/

theorem tryAcquire_countRefusal (c : Circuit) (now : Nat) :
    c.countRefusal.tryAcquire now = ((c.tryAcquire now).1, (c.tryAcquire now).2.countRefusal) := by
  have hframe := c.tryAcquire_reframed now 1 c.window
  have hwindow := (c.tryAcquire_window_name now).1
  have hafter : (c.tryAcquire now).2.reframed c.window 1 = (c.tryAcquire now).2.countRefusal := by
    rw [← hwindow]
    rfl
  rw [← hafter]
  exact hframe

theorem record_countRefusal (c : Circuit) (now : Nat) (permit : Permit) (success : Bool) :
    c.countRefusal.record now permit success = (c.record now permit success).countRefusal := by
  obtain ⟨trial⟩ := permit
  cases trial with
  | true => cases success <;> rfl
  | false =>
    have hcall : c.countRefusal.recordCall now success
        = (c.recordCall now success).countRefusal := by
      rw [recordCall, recordCall, apply_ite countRefusal]
      rfl
    exact congrArg (fun c : Circuit => { c with inFlight := c.inFlight - 1 }) hcall

end Circuit

namespace Watch

/-- A circuit under watch that has refused one call more. -/
def countRefusal (w : Watch) : Watch := { w with circuit := w.circuit.countRefusal }

/-- **Every event does the same** to a circuit that has refused one call more. -/
theorem step_countRefusal (w : Watch) (e : Event) :
    w.countRefusal.step e = (w.step e).countRefusal := by
  cases e with
  | acquire =>
    have hacquire : w.countRefusal.circuit.tryAcquire w.countRefusal.now = _ :=
      w.circuit.tryAcquire_countRefusal w.now
    rw [step, step, hacquire]
    generalize w.circuit.tryAcquire w.now = r
    obtain ⟨answer, c⟩ := r
    cases answer <;> rfl
  | record k success =>
    cases hp : w.permit? k with
    | none => rw [step_record_none hp, step_record_none (w := w.countRefusal) hp]
    | some p =>
      have hrecord := w.circuit.record_countRefusal w.now p success
      rw [step_record hp, step_record (w := w.countRefusal) hp]
      exact congrArg
        (fun c => ((w.countRefusal.moveTo c).giveBack k).note ⟨⟨w.now, success⟩, p.trial⟩) hrecord
  | drop k =>
    cases hp : w.permit? k with
    | none => rw [step_drop_none hp, step_drop_none (w := w.countRefusal) hp]
    | some p => rw [step_drop hp, step_drop (w := w.countRefusal) hp]; rfl
  | readMetrics => rfl
  | advance span => rfl

/-- **Every run does the same** to a circuit that has refused one call more. -/
theorem run_countRefusal (events : List Event) : ∀ w : Watch,
    w.countRefusal.run events = (w.run events).countRefusal := by
  induction events with
  | nil => intro w; rfl
  | cons e events ih =>
    intro w
    calc w.countRefusal.run (e :: events)
        = (w.countRefusal.step e).run events := rfl
      _ = (w.step e).countRefusal.run events := by rw [step_countRefusal]
      _ = (w.run (e :: events)).countRefusal := ih (w.step e)

theorem step_acquire_of_refused {w : Watch} {reason : Rejection}
    (h : (w.circuit.tryAcquire w.now).1 = .error reason) : w.step .acquire = w.countRefusal := by
  have hopening : (w.moveTo w.circuit.countRefusal).opening = w.opening :=
    moveTo_opening_of_state_eq rfl
  rw [step, Circuit.tryAcquire_of_refused h]
  exact congrArg (fun opening => { w.countRefusal with opening }) hopening

end Watch

namespace Pipeline

/-- What a pipeline makes of a call that its circuit refuses. -/
theorem execute_of_refused {p : Pipeline} {r : CircuitRegistry} {c : Circuit} {now : Nat}
    {reason : Rejection} (hcircuit : r.get? p.circuit = some c)
    (hrefused : (c.tryAcquire now).1 = .error reason) {call : Call}
    (hlive : call.options.isCancelled now = false) :
    p.execute now call r =
      (.immediate now (.circuitOpen p.circuit reason), r.insert c.countRefusal) := by
  have hcreate : r.getOrCreate p.circuit p.settings.circuit = (c, r) := by
    rw [CircuitRegistry.getOrCreate, hcircuit]
  rw [execute, start, hlive]
  simp only [Bool.false_eq_true, if_false, hcreate, Circuit.tryAcquire_of_refused hrefused]

/-- **A refused call leaves no trace but its count.**  Let the circuit of a pipeline refuse a call
that reaches it.  Then whatever the call is, no attempt is made and the caller gets the name of the
circuit and the reason; the other circuits stay as they are, and this one has one refusal more and
is otherwise the same, the phase with the moment of opening, the window and the calls in flight
included.  And whoever holds a permit goes on as if the call had not been made: every later run
leads to what it would have led to, but for the one refusal more, and answers every later request
as it would have. -/
theorem refusal_leaves_no_trace {p : Pipeline} {r : CircuitRegistry} {w : Watch}
    {reason : Rejection} (hcircuit : r.get? p.circuit = some w.circuit)
    (hrefused : (w.circuit.tryAcquire w.now).1 = .error reason) :
    (∃ r' : CircuitRegistry,
      (∀ call : Call, call.options.isCancelled w.now = false →
        p.execute w.now call r =
          ({ attempts := [], finish := w.now, settled := none,
             outcome := .error (.circuitOpen w.circuit.name reason) }, r')) ∧
      r'.get? p.circuit = some { w.circuit with rejected := w.circuit.rejected + 1 } ∧
      ∀ other, other ≠ p.circuit → r'.get? other = r.get? other) ∧
    w.step .acquire =
      { w with circuit := { w.circuit with rejected := w.circuit.rejected + 1 } } ∧
    ∀ later,
      (w.step .acquire).run later =
        { w.run later with
          circuit :=
            { (w.run later).circuit with rejected := (w.run later).circuit.rejected + 1 } } ∧
      (((w.step .acquire).run later).circuit.tryAcquire (w.run later).now).1 =
        ((w.run later).circuit.tryAcquire (w.run later).now).1 := by
  have hname : w.circuit.name = p.circuit := CircuitRegistry.name_of_get? hcircuit
  have hstep := Watch.step_acquire_of_refused hrefused
  refine ⟨⟨r.insert w.circuit.countRefusal, fun call hlive => ?_, ?_, fun other hne => ?_⟩, hstep,
    fun later => ⟨?_, ?_⟩⟩
  · rw [hname]
    exact execute_of_refused hcircuit hrefused hlive
  · rw [← hname]
    exact r.get?_insert w.circuit.countRefusal
  · exact CircuitRegistry.get?_insert_of_ne (c := w.circuit.countRefusal) (hname ▸ hne)
  · rw [hstep]
    exact Watch.run_countRefusal later w
  · have hsame := (w.run later).circuit.tryAcquire_countRefusal (w.run later).now
    rw [hstep, Watch.run_countRefusal]
    change ((w.run later).circuit.countRefusal.tryAcquire (w.run later).now).1 = _
    rw [hsame]

/-- The trial of a circuit is under way when another call comes in.  It is refused, and the trial
closes the circuit all the same. -/
theorem refusal_leaves_no_trace_beside_trial :
    let w := (Watch.start "c" { volume := 1, errorPercent := 50, sleepWindow := 40 } 0).run
      [.acquire, .record 0 false, .advance 40, .acquire]
    let p : Pipeline := ⟨"c", {}⟩
    let r : CircuitRegistry := ⟨[w.circuit]⟩
    w.permit? 1 = some ⟨true⟩ ∧
    (∃ r', (∀ call : Call, call.options.isCancelled 40 = false →
        (p.execute 40 call r).1.attempts = [] ∧
        (p.execute 40 call r).1.outcome = .error (.circuitOpen "c" .trialInFlight) ∧
        (p.execute 40 call r).2 = r') ∧
      (r'.get? "c").map (·.phase) = some (.halfOpen true)) ∧
    ((w.step .acquire).run [.record 1 true]).circuit.phase = .closed := by
  intro w p r
  have hrefused : (w.circuit.tryAcquire w.now).1 = .error .trialInFlight := by rfl
  have hcircuit : r.get? p.circuit = some w.circuit := by rfl
  obtain ⟨⟨r', hcall, hafter, -⟩, -, hlater⟩ := refusal_leaves_no_trace hcircuit hrefused
  refine ⟨by decide, ⟨r', fun call hlive => ?_, ?_⟩, ?_⟩
  · have hexecute : p.execute 40 call r = _ := hcall call hlive
    rw [hexecute]
    exact ⟨rfl, rfl, rfl⟩
  · have hget : r'.get? "c" = _ := hafter
    rw [hget]
    rfl
  · rw [(hlater [.record 1 true]).1]
    decide

end Pipeline

end ApiScaffold.Client
