import ApiScaffold.Client.Pipeline
import ApiScaffold.Proofs.Call.Deadline
import ApiScaffold.Proofs.Circuit.Registry

/-!
# What a call leaves in the window

A call that a pipeline admits holds a permit of its circuit until its course has ended, and
whatever other calls do to the circuit meanwhile, it touches the window only when it gives the
permit back.  `Proofs/Call/Deadline.lean` says which courses bring an outcome back.  Together they
say how often a call is counted.

* `start_admission`: the ways in which a call can start.
* `start_running`: what a call is that was admitted; `start_other`: any other call would have been.
* `settle_window`: a call that its caller does not give up is counted once, with the success or
  failure that the caller gets, unless the deadline cuts it short; then it is not counted.
* `not_counted_once`: a call that is cut short exists, so not every call is counted.
-/

namespace ApiScaffold.Client

/-- Asking for a permit leaves the outcomes alone. -/
theorem Circuit.tryAcquire_window_name (c : Circuit) (now : Nat) :
    (c.tryAcquire now).2.window = c.window ∧ (c.tryAcquire now).2.name = c.name := by
  have h := c.tryAcquire_acquisition now
  generalize c.tryAcquire now = r at h ⊢
  cases h with
  | full _ => exact ⟨rfl, rfl⟩
  | refused _ _ _ => exact ⟨rfl, rfl⟩
  | tolerated _ _ => exact ⟨rfl, rfl⟩
  | admitted _ _ => exact ⟨rfl, rfl⟩

/-! ## The permit comes back -/

/-- Whether a call was served: it got a response, and not that of a server error. -/
def isServed : Outcome → Bool
  | .ok r => !(500 ≤ r.status && r.status ≤ 599)
  | .error _ => false

namespace Running

theorem giveBack_name (run : Running) (c : Circuit) : (run.giveBack c).name = c.name := by
  rw [giveBack]
  split
  · exact Circuit.release_name c _
  · exact Circuit.release_name c _
  · exact Circuit.record_name c _ _ _
  · exact Circuit.record_name c _ _ _

/-- A permit comes back without an outcome or with one. -/
theorem giveBack_cases (run : Running) :
    (∀ c, run.giveBack c = c.release run.permit) ∨
      ∃ success, ∀ c, run.giveBack c = c.record run.course.finish run.permit success := by
  simp only [giveBack]
  split
  · exact .inl fun c => rfl
  · exact .inl fun c => rfl
  · exact .inr ⟨false, fun c => rfl⟩
  · exact .inr ⟨_, fun c => rfl⟩

/-- A call with an outcome other than that it was given up records whether it was served. -/
theorem giveBack_of_settled {run : Running} {outcome : Outcome}
    (hsettled : run.course.settled = some outcome) (hout : outcome ≠ .error .cancelled)
    (c : Circuit) :
    run.giveBack c = c.record run.course.finish run.permit (isServed outcome) := by
  rw [giveBack, hsettled]
  cases outcome with
  | ok r => rfl
  | error e =>
    cases e with
    | cancelled => exact absurd rfl hout
    | request => rfl
    | connection text => rfl
    | deadlineExceeded => rfl
    | circuitOpen circuit reason => rfl
    | traceInjection text => rfl
    | invalidRequest text => rfl

/-- The window after a call that is not a trial: the outcome joins it unless the call was cut
short. -/
theorem giveBack_window {run : Running} {cut : Prop} [Decidable cut]
    (hagrees : run.course.agrees cut) (hcall : run.permit.trial = false)
    (hout : run.course.outcome ≠ .error .cancelled) (c : Circuit) :
    (run.giveBack c).window =
      if cut then c.window
      else (c.joined run.course.finish (isServed run.course.outcome)).window := by
  have hpermit : run.permit = ⟨false⟩ := by rw [← hcall]
  rcases hagrees with ⟨hcut, hsettled, -⟩ | ⟨hcut, hsettled⟩
  · rw [if_pos hcut, giveBack, hsettled]
    exact Circuit.release_window c _
  · rw [if_neg hcut, giveBack_of_settled hsettled hout, hpermit]
    exact Circuit.record_call_window c _ _

end Running

namespace Pipeline

/-! ## Every call -/

/-- The call that is made for a call of a caller: with a deadline, if the caller set none. -/
def boundCall (p : Pipeline) (now : Nat) (call : Call) : Call :=
  { call with options := p.bound now call.options }

theorem bound_isCancelled (p : Pipeline) (now time : Nat) (o : CallOptions) :
    (p.bound now o).isCancelled time = o.isCancelled time := by
  rw [bound]
  split
  · rfl
  · rfl

/-- The ways in which a call can start. -/
inductive Admission (p : Pipeline) (now : Nat) (call : Call) (r : CircuitRegistry) :
    Started × CircuitRegistry → Prop
  /-- The caller has given it up, and the circuit never hears of it. -/
  | givenUp : call.options.isCancelled now = true →
      Admission p now call r (.ended (.immediate now .cancelled), r)
  | refused {c c' : Circuit} {r₁ : CircuitRegistry} {reason : Rejection} :
      call.options.isCancelled now = false →
      r.getOrCreate p.circuit p.settings.circuit = (c, r₁) →
      c.tryAcquire now = (.error reason, c') →
      Admission p now call r
        (.ended (.immediate now (.circuitOpen p.circuit reason)), r₁.insert c')
  | admitted {c c' : Circuit} {r₁ : CircuitRegistry} {permit : Permit} :
      call.options.isCancelled now = false →
      r.getOrCreate p.circuit p.settings.circuit = (c, r₁) →
      c.tryAcquire now = (.ok permit, c') →
      Admission p now call r
        (.running ⟨p.circuit, permit, (p.boundCall now call).course now⟩, r₁.insert c')

theorem start_admission (p : Pipeline) (now : Nat) (call : Call) (r : CircuitRegistry) :
    Admission p now call r (p.start now call r) := by
  rw [start]
  cases hcancel : call.options.isCancelled now with
  | true => exact .givenUp hcancel
  | false =>
    simp only [Bool.false_eq_true, if_false]
    rcases hcreate : r.getOrCreate p.circuit p.settings.circuit with ⟨c, r₁⟩
    rcases hacquire : c.tryAcquire now with ⟨answer, c'⟩
    cases answer with
    | error reason => exact .refused hcancel hcreate hacquire
    | ok permit => exact .admitted hcancel hcreate hacquire

/-- A call that was admitted runs its course, and has not touched the window. -/
theorem start_running {p : Pipeline} {now : Nat} {call : Call} {r r' : CircuitRegistry}
    {run : Running} (h : p.start now call r = (.running run, r')) :
    call.options.isCancelled now = false ∧ run.circuit = p.circuit ∧
      run.course = (p.boundCall now call).course now ∧
      ∃ c, r'.get? p.circuit = some c ∧
        c.window = (r.getOrCreate p.circuit p.settings.circuit).1.window := by
  have hadmission := p.start_admission now call r
  rw [h] at hadmission
  cases hadmission with
  | @admitted c c' r₁ permit hlive hcreate hacquire =>
    have hname := r.name_getOrCreate p.circuit p.settings.circuit
    obtain ⟨hwindow, hsame⟩ := c.tryAcquire_window_name now
    rw [hcreate] at hname ⊢
    rw [hacquire] at hwindow hsame
    refine ⟨hlive, rfl, rfl, c', ?_, hwindow⟩
    rw [← hname, ← hsame]
    exact r₁.get?_insert c'

/-- Whether a call is admitted does not hang on the call, unless that was given up before. -/
theorem start_other {p : Pipeline} {now : Nat} {call : Call} {r r' : CircuitRegistry}
    {run : Running} (hstart : p.start now call r = (.running run, r')) (q : Pipeline) (other : Call)
    (hcircuit : q.circuit = p.circuit) (hsettings : q.settings.circuit = p.settings.circuit)
    (hlive : other.options.isCancelled now = false) :
    q.start now other r =
      (.running { run with course := (q.boundCall now other).course now }, r') := by
  have hadmission := p.start_admission now call r
  rw [hstart] at hadmission
  cases hadmission with
  | admitted _ hcreate hacquire =>
    rw [start, hlive, hcircuit, hsettings]
    simp only [Bool.false_eq_true, if_false, hcreate, hacquire]
    rfl

/-- **An admitted call is counted once, unless the deadline cuts it short.**  Let a call be
admitted that is not a trial, and end with anything but that its caller gave it up.  Asking for
the permit leaves the window alone.  When the call ends, whatever became of the circuit meanwhile,
its outcome joins the window: a success if the caller gets a response outside the server errors,
and a failure otherwise.  Only if the deadline falls into an attempt or a pause of the call does
the window stay as it is, though the caller gets that the deadline has passed. -/
theorem settle_window {p : Pipeline} {now : Nat} {call : Call} {r r' : CircuitRegistry}
    {run : Running} (hstart : p.start now call r = (.running run, r'))
    (hcall : run.permit.trial = false) (hout : run.course.outcome ≠ .error .cancelled) :
    p.execute now call r = (run.course, run.settle r') ∧
    (∃ c, r'.get? p.circuit = some c ∧
      c.window = (r.getOrCreate p.circuit p.settings.circuit).1.window) ∧
    ((p.boundCall now call).isCutShort now →
      run.course.outcome = .error .deadlineExceeded) ∧
    ∀ later c, later.get? p.circuit = some c →
      ∃ c', (run.settle later).get? p.circuit = some c' ∧
        c'.window =
          if (p.boundCall now call).isCutShort now then c.window
          else (c.window ++ [⟨run.course.finish, isServed run.course.outcome⟩]).dropWhile
            (c.isStale run.course.finish) := by
  obtain ⟨hlive, hcircuit, hcourse, hadmitted⟩ := start_running hstart
  have hagrees : run.course.agrees ((p.boundCall now call).isCutShort now) := by
    rw [hcourse] at hout ⊢
    exact Call.course_agrees ((p.bound_isCancelled now now call.options).trans hlive) hout
  refine ⟨by rw [execute, hstart], hadmitted, fun hcut => ?_, fun later c hc => ?_⟩
  · rcases hagrees with h | h
    · exact h.2.2
    · exact absurd hcut h.1
  · refine ⟨run.giveBack c, ?_, Running.giveBack_window hagrees hcall hout c⟩
    rw [Running.settle, hcircuit, CircuitRegistry.get?_update run.giveBack_name, hc]
    rfl

/-- A call that is answered after a time, first by a server error, and that is tried once more
after 10 ms.  It has 50 ms. -/
def hurriedCall (delay : Nat) : Call where
  request :=
    { method := "GET"
      url := { scheme := .network "http" 80, authority := none, path := .segments ["items"] } }
  options := { deadline := some 50000 }
  policy := .once 10000
  service number _ := ⟨delay, .ok { status := if number = 1 then 500 else 200 }⟩
  tracer :=
    { root := ⟨"0a", "0b", true⟩, spanId := fun _ => "0c", inject := fun _ headers => .ok headers }

/-- A call that is served by its second attempt is counted once. -/
theorem settle_window_second_attempt :
    ∃ run r', start ⟨"c", {}⟩ 0 (hurriedCall 10000) {} = (.running run, r') ∧
      run.course.attempts.length = 2 ∧
      ∃ c, (run.settle r').get? "c" = some c ∧ c.window = [⟨30000, true⟩] := by
  refine ⟨_, _, rfl, rfl, ?_⟩
  have hstart : start ⟨"c", {}⟩ 0 (hurriedCall 10000) {} = (.running _, _) := rfl
  obtain ⟨-, -, -, hcount⟩ := settle_window hstart rfl (by decide)
  obtain ⟨c, hc, hwindow⟩ := hcount (start ⟨"c", {}⟩ 0 (hurriedCall 10000) {}).2 _ rfl
  exact ⟨c, hc, hwindow.trans (by decide)⟩

/-- **Not every admitted call is counted.**  A call that has 50 ms and is answered after 60 ms
leaves no outcome, though its caller gets that the deadline has passed. -/
theorem not_counted_once :
    ¬ ∀ (p : Pipeline) (now : Nat) (call : Call) (r r' : CircuitRegistry) (run : Running)
        (c c' : Circuit),
      p.start now call r = (.running run, r') → run.permit.trial = false →
      run.course.outcome ≠ .error .cancelled → r'.get? p.circuit = some c →
      (run.settle r').get? p.circuit = some c' →
      c'.window =
        (c.window ++ [(⟨run.course.finish, isServed run.course.outcome⟩ : Mark)]).dropWhile
          (c.isStale run.course.finish) := by
  intro h
  have hwindow := h (.mk "c" {}) 0 (hurriedCall 60000) {} _ _ _ _ rfl rfl (by decide) rfl rfl
  exact absurd hwindow (by decide)

end Pipeline

end ApiScaffold.Client
