import ApiScaffold.Proofs.Circuit.Trial
import ApiScaffold.Proofs.Pipeline.Count
import Mathlib.Data.List.Perm.Basic

/-!
# Calls that overlap

Any number of calls can be under way at once, on pipelines that share circuits.  They begin and end
in any order that the clock allows; in between each of them runs its course, and no circuit hears of
it.  `Traffic` is the registry together with the clock and the calls that were admitted and have not
returned.

What one circuit sees of the traffic is a run of its own (`Traffic.IsWatched`): a call asks for a
permit when it begins, and gives that permit back when it ends, with an outcome or without one.  So
whatever holds of every run of a circuit holds here, with the calls that are under way in the place
of the permits that are out.  One lemma for each kind of event carries this through a run of the
traffic.

* `Traffic.step`, `Traffic.run`: what an event does, and what a list of events does.
* `Traffic.isWatched_step`: **no event makes a circuit see anything but a run of its own.**
* `permits_never_leak`: **the calls in flight are those that are under way, and a call that is given
  up leaves the circuit as if it had not been made, but for the trial that may now be another.**
-/

namespace ApiScaffold.Client

/-- The circuits of some pipelines, the clock, and the calls that were admitted and have not
returned. -/
structure Traffic where
  registry : CircuitRegistry := {}
  now : Nat := 0
  /-- In the order in which they began. -/
  calls : List Running := []

namespace Traffic

/-- What happens in the traffic.  A call that is under way is known by its place among them. -/
inductive Event
  | build (baseUrl : String) (settings : ClientSettings)
  | start (p : Pipeline) (call : Call)
  | finish (place : Nat)
  | readMetrics
  | advance (span : Nat)

/-- What an event does.  A call ends at the moment at which its course does, and the clock passes
none of these moments before the call has ended. -/
def step (t : Traffic) : Event → Traffic
  | .build baseUrl settings =>
    { t with registry := (Pipeline.build baseUrl settings t.registry).2 }
  | .start p call =>
    match p.start t.now call t.registry with
    | (.running run, registry) => { t with registry, calls := t.calls ++ [run] }
    | (.ended _, registry) => { t with registry }
  | .finish place =>
    match t.calls[place]? with
    | some run =>
      if run.course.finish = t.now then
        { t with registry := run.settle t.registry, calls := t.calls.eraseIdx place }
      else t
    | none => t
  | .readMetrics => { t with registry := (t.registry.readMetrics t.now).2 }
  | .advance span =>
    if ∀ run ∈ t.calls, t.now + span ≤ run.course.finish then { t with now := t.now + span } else t

/-- What a list of events does. -/
def run (t : Traffic) (events : List Event) : Traffic := events.foldl step t

/-- What every step keeps, every run keeps. -/
theorem run_induction {P : Traffic → Prop} (hstep : ∀ t e, P t → P (t.step e)) :
    ∀ (events : List Event) (t : Traffic), P t → P (t.run events) := by
  intro events
  induction events with
  | nil => intro t h; exact h
  | cons e es ih => intro t h; exact ih (t.step e) (hstep t e h)

/-- The calls that are under way on a circuit. -/
def callsOn (t : Traffic) (name : String) : List Running := t.calls.filter (·.circuit = name)

/-! ## What a circuit sees -/

/-- Whether a circuit was reached by a run of its own. -/
def Reached (name : String) (w : Watch) : Prop :=
  ∃ settings now events, w = (Watch.start name settings now).run events

theorem Reached.step {name : String} {w : Watch} (h : Reached name w) (e : Watch.Event) :
    Reached name (w.step e) := by
  obtain ⟨settings, now, events, rfl⟩ := h
  exact ⟨settings, now, events ++ [e], (Watch.run_concat _ events e).symm⟩

theorem Reached.kept {name : String} {w : Watch} (h : Reached name w) : w.Kept := by
  obtain ⟨settings, now, events, rfl⟩ := h
  exact Watch.kept_run name settings now events

/-- A circuit under watch, as the traffic has it. -/
structure Seen (t : Traffic) (name : String) (w : Watch) : Prop where
  reached : Reached name w
  circuit : t.registry.get? name = some w.circuit
  now : w.now = t.now
  live : w.live.Perm ((t.callsOn name).map (·.permit))

/-- Whether the circuit of a name has seen a run of its own, if there is one. -/
def IsWatched (t : Traffic) (name : String) : Prop :=
  (t.registry.get? name = none ∧ t.callsOn name = []) ∨ ∃ w, t.Seen name w

variable {t : Traffic} {name : String} {w : Watch}

/-- A circuit sees nothing of what happens elsewhere. -/
theorem IsWatched.elsewhere (h : t.IsWatched name) {t' : Traffic}
    (hget : t'.registry.get? name = t.registry.get? name) (hnow : t'.now = t.now)
    (hcalls : (t.callsOn name).Perm (t'.callsOn name)) : t'.IsWatched name := by
  rcases h with ⟨hnone, hnil⟩ | ⟨w, h⟩
  · rw [hnil] at hcalls
    exact .inl ⟨hget.trans hnone, hcalls.symm.eq_nil⟩
  · exact .inr ⟨w, h.reached, hget.trans h.circuit, h.now.trans hnow.symm,
      h.live.trans (hcalls.map _)⟩

/-- A circuit is created at the beginning of its run, or was there. -/
theorem IsWatched.created (h : t.IsWatched name) (settings : CircuitSettings) :
    ∃ w, w.circuit = (t.registry.getOrCreate name settings).1 ∧
      Seen { t with registry := (t.registry.getOrCreate name settings).2 } name w := by
  rcases t.registry.getOrCreate_cases name settings with ⟨c, hc, hcreate⟩ | ⟨hnone, hcreate⟩
  · rcases h with ⟨hnone, -⟩ | ⟨w, h⟩
    · rw [hnone] at hc
      cases hc
    · rw [hcreate]
      have heq := h.circuit.symm.trans hc
      cases heq
      exact ⟨w, rfl, h⟩
  · rcases h with ⟨-, hnil⟩ | ⟨w, h⟩
    · rw [hcreate]
      refine ⟨Watch.start name settings t.now, rfl, ⟨settings, t.now, [], rfl⟩, ?_, rfl, ?_⟩
      · exact CircuitRegistry.get?_insert t.registry { name, settings }
      · show List.Perm [] ((t.callsOn name).map (·.permit))
        rw [hnil]
        exact .refl _
    · rw [h.circuit] at hnone
      cases hnone

/-- Circuits of other names are not created. -/
theorem get?_getOrCreate_of_ne (r : CircuitRegistry) {other : String} (hne : other ≠ name)
    (settings : CircuitSettings) :
    (r.getOrCreate name settings).2.get? other = r.get? other := by
  rcases r.getOrCreate_cases name settings with ⟨c, -, hcreate⟩ | ⟨-, hcreate⟩
  · rw [hcreate]
  · rw [hcreate]
    exact CircuitRegistry.get?_insert_of_ne hne

/-! ## One event -/

theorem isWatched_build (h : t.IsWatched name) (baseUrl : String) (settings : ClientSettings) :
    (t.step (.build baseUrl settings)).IsWatched name := by
  by_cases hname : circuitName settings.service baseUrl = name
  · obtain ⟨w, -, hseen⟩ := (hname ▸ h).created settings.circuit
    exact .inr ⟨w, hname ▸ hseen⟩
  · exact h.elsewhere (get?_getOrCreate_of_ne _ (Ne.symm hname) _) rfl (.refl _)

/-- A circuit that is asked for a permit goes on with its run. -/
theorem Seen.acquired (h : t.Seen name w) {answer : Except Rejection Permit} {c : Circuit}
    (hacquire : w.circuit.tryAcquire t.now = (answer, c)) {t' : Traffic}
    (hget : t'.registry.get? name = some c) (hnow : t'.now = t.now)
    (hcalls : (t'.callsOn name).map (·.permit) =
      (t.callsOn name).map (·.permit) ++ answer.toOption.toList) :
    t'.Seen name (w.step .acquire) := by
  have hreached := h.reached.step .acquire
  cases answer with
  | ok permit =>
    have hstep : w.step .acquire = w.issue permit c := by rw [Watch.step, h.now, hacquire]
    rw [hstep] at hreached ⊢
    refine ⟨hreached, hget, h.now.trans hnow.symm, ?_⟩
    rw [Watch.live_issue, hcalls]
    exact h.live.append_right _
  | error reason =>
    have hstep : w.step .acquire = w.moveTo c := by rw [Watch.step, h.now, hacquire]
    rw [hstep] at hreached ⊢
    refine ⟨hreached, hget, h.now.trans hnow.symm, ?_⟩
    rw [hcalls]
    exact h.live.trans (.of_eq (List.append_nil _).symm)

/-- A call that asks the circuit of a pipeline for a permit. -/
theorem isWatched_asked (h : t.IsWatched name) {p : Pipeline} {c c' : Circuit}
    {r : CircuitRegistry} {answer : Except Rejection Permit}
    (hcreate : t.registry.getOrCreate p.circuit p.settings.circuit = (c, r))
    (hacquire : c.tryAcquire t.now = (answer, c')) (calls : List Running)
    (hcalls : ∀ run ∈ calls, run.circuit = p.circuit)
    (hpermits : calls.map (·.permit) = answer.toOption.toList) :
    IsWatched { t with registry := r.insert c', calls := t.calls ++ calls } name := by
  have hname' : c'.name = p.circuit := by
    have hc := t.registry.name_getOrCreate p.circuit p.settings.circuit
    have hsame := (c.tryAcquire_window_name t.now).2
    rw [hcreate] at hc
    rw [hacquire] at hsame
    exact hsame.trans hc
  have hon : callsOn { t with registry := r.insert c', calls := t.calls ++ calls } name =
      t.callsOn name ++ if p.circuit = name then calls else [] := by
    rw [callsOn, List.filter_append, callsOn]
    congr 1
    split
    · rename_i heq
      exact List.filter_eq_self.mpr fun run hrun => decide_eq_true ((hcalls run hrun).trans heq)
    · rename_i hne
      exact List.filter_eq_nil_iff.mpr fun run hrun heq =>
        hne ((hcalls run hrun).symm.trans (of_decide_eq_true heq))
  by_cases hname : p.circuit = name
  · subst hname
    obtain ⟨w, hcircuit, hseen⟩ := h.created p.settings.circuit
    rw [hcreate] at hcircuit hseen
    have hasks : w.circuit.tryAcquire t.now = (answer, c') := by
      rw [hcircuit]
      exact hacquire
    refine .inr ⟨w.step .acquire, hseen.acquired hasks ?_ rfl ?_⟩
    · rw [← hname']
      exact r.get?_insert c'
    · rw [hon, if_pos rfl, List.map_append, hpermits]
      rfl
  · refine h.elsewhere ?_ rfl ?_
    · have hother := get?_getOrCreate_of_ne t.registry (Ne.symm hname) p.settings.circuit
      rw [hcreate] at hother
      exact (CircuitRegistry.get?_insert_of_ne (hname'.symm ▸ Ne.symm hname)).trans hother
    · rw [hon, if_neg hname, List.append_nil]

theorem isWatched_start (h : t.IsWatched name) (p : Pipeline) (call : Call) :
    (t.step (.start p call)).IsWatched name := by
  have hadmission := p.start_admission t.now call t.registry
  rw [step]
  generalize p.start t.now call t.registry = started at hadmission ⊢
  cases hadmission with
  | givenUp _ => exact h
  | refused _ hcreate hacquire =>
    have hasked := isWatched_asked h hcreate hacquire [] (fun run hrun => by cases hrun) rfl
    rwa [List.append_nil] at hasked
  | admitted _ hcreate hacquire =>
    exact isWatched_asked h hcreate hacquire [_]
      (fun run hrun => by rw [List.mem_singleton.mp hrun]) rfl

/-- The permit of a call that is under way is out. -/
theorem Seen.exists_ticket (h : t.Seen name w) {run : Running} (hrun : run ∈ t.calls)
    (hname : run.circuit = name) : ∃ k, w.permit? k = some run.permit := by
  refine Watch.exists_ticket (h.live.mem_iff.mpr (List.mem_map.mpr ⟨run, ?_, rfl⟩))
  exact List.mem_filter.mpr ⟨hrun, decide_eq_true hname⟩

/-- A permit that comes back as a call ends goes on with the run of the circuit. -/
theorem Seen.gaveBack (h : t.Seen name w) {run : Running} (hfinish : run.course.finish = t.now)
    {rest : List Running} (hcalls : (t.callsOn name).Perm (run :: rest)) {t' : Traffic}
    (hget : t'.registry.get? name = some (run.giveBack w.circuit)) (hnow : t'.now = t.now)
    (hrest : (t'.callsOn name).Perm rest) : ∃ w', t'.Seen name w' := by
  have hlive : w.live.Perm (run.permit :: rest.map (·.permit)) := h.live.trans (hcalls.map _)
  obtain ⟨k, hticket⟩ := Watch.exists_ticket (hlive.mem_iff.mpr List.mem_cons_self)
  have hlive' : (w.giveBack k).live.Perm ((t'.callsOn name).map (·.permit)) :=
    (Watch.live_giveBack_perm hticket hlive).trans (hrest.map _).symm
  rcases run.giveBack_cases with hrelease | ⟨success, hrecord⟩
  · have hstep := Watch.step_drop hticket
    refine ⟨w.step (.drop k), h.reached.step _, ?_, ?_, ?_⟩
    · rw [hget, hstep, hrelease]
      rfl
    · rw [hstep]
      exact h.now.trans hnow.symm
    · rw [hstep]
      exact hlive'
  · have hstep := Watch.step_record hticket success
    refine ⟨w.step (.record k success), h.reached.step _, ?_, ?_, ?_⟩
    · rw [hget, hstep, hrecord, hfinish, ← h.now]
      rfl
    · rw [hstep]
      exact h.now.trans hnow.symm
    · rw [hstep]
      exact hlive'

theorem step_finish {place : Nat} {run : Running} (hrun : t.calls[place]? = some run)
    (hfinish : run.course.finish = t.now) : t.step (.finish place) =
      { t with registry := run.settle t.registry, calls := t.calls.eraseIdx place } := by
  rw [step, hrun]
  exact if_pos hfinish

theorem isWatched_finish (h : t.IsWatched name) (place : Nat) :
    (t.step (.finish place)).IsWatched name := by
  cases hrun : t.calls[place]? with
  | none => rw [step, hrun]; exact h
  | some run =>
    by_cases hfinish : run.course.finish = t.now
    · rw [step_finish hrun hfinish]
      obtain ⟨hplace, heq⟩ := List.getElem?_eq_some_iff.mp hrun
      have hperm : (run :: t.calls.eraseIdx place).Perm t.calls :=
        heq ▸ List.getElem_cons_eraseIdx_perm hplace
      have hon : (t.callsOn name).Perm
          ((run :: t.calls.eraseIdx place).filter (·.circuit = name)) := (hperm.filter _).symm
      by_cases hname : run.circuit = name
      · rw [List.filter_cons_of_pos (by simpa using hname)] at hon
        rcases h with ⟨-, hnil⟩ | ⟨w, h⟩
        · rw [hnil] at hon
          exact absurd hon.symm.eq_nil (List.cons_ne_nil _ _)
        · refine .inr (h.gaveBack hfinish hon ?_ rfl (.refl _))
          subst hname
          exact (CircuitRegistry.get?_update run.giveBack_name).trans
            (congrArg (Option.map run.giveBack) h.circuit)
      · rw [List.filter_cons_of_neg (by simpa using hname)] at hon
        exact h.elsewhere
          (CircuitRegistry.get?_update_of_ne run.giveBack_name (Ne.symm hname)) rfl hon
    · have hstay : t.step (.finish place) = t := by
        rw [step, hrun]
        exact if_neg hfinish
      rwa [hstay]

theorem isWatched_readMetrics (h : t.IsWatched name) : (t.step .readMetrics).IsWatched name := by
  have hget := t.registry.get?_readMetrics t.now name
  rcases h with ⟨hnone, hnil⟩ | ⟨w, h⟩
  · rw [hnone] at hget
    exact .inl ⟨hget, hnil⟩
  · refine .inr ⟨w.step .readMetrics, h.reached.step _, ?_, h.now, h.live⟩
    rw [step, hget, h.circuit, ← h.now]
    rfl

theorem isWatched_advance (h : t.IsWatched name) (span : Nat) :
    (t.step (.advance span)).IsWatched name := by
  rw [step]
  split
  · rcases h with hnone | ⟨w, h⟩
    · exact .inl hnone
    · exact .inr ⟨w.step (.advance span), h.reached.step _, h.circuit,
        congrArg (· + span) h.now, h.live⟩
  · exact h

/-- **No event makes a circuit see anything but a run of its own.** -/
theorem isWatched_step (h : t.IsWatched name) (e : Event) : (t.step e).IsWatched name := by
  cases e with
  | build baseUrl settings => exact isWatched_build h baseUrl settings
  | start p call => exact isWatched_start h p call
  | finish place => exact isWatched_finish h place
  | readMetrics => exact isWatched_readMetrics h
  | advance span => exact isWatched_advance h span

/-- Of the circuits of new traffic, each sees a run of its own. -/
theorem isWatched_run (now : Nat) (events : List Event) (name : String) :
    (run { now } events).IsWatched name :=
  run_induction (P := fun t => t.IsWatched name) (fun _ e h => isWatched_step h e) events _
    (.inl ⟨rfl, rfl⟩)

/-! ## Calls under way -/

/-- What is known of a call that is under way: its end has not passed, and its caller will get the
outcome that the circuit hears of. -/
structure Underway (t : Traffic) (run : Running) : Prop where
  ahead : t.now ≤ run.course.finish
  faithful : run.course.Faithful

theorem underway_of_start {p : Pipeline} {call : Call} {r r' : CircuitRegistry} {run : Running}
    (hstart : p.start t.now call r = (.running run, r')) : t.Underway run := by
  obtain ⟨hlive, -, hcourse, -⟩ := Pipeline.start_running hstart
  have hlive' := (p.bound_isCancelled t.now t.now call.options).trans hlive
  refine ⟨?_, ?_⟩
  · rw [hcourse]
    exact Call.le_finish _ _ _ hlive'
  · rw [hcourse]
    exact Call.run_faithful _ _ _ _

theorem underway_step (h : ∀ run ∈ t.calls, t.Underway run) (e : Event) :
    ∀ run ∈ (t.step e).calls, (t.step e).Underway run := by
  cases e with
  | build baseUrl settings => exact fun run hrun => ⟨(h run hrun).ahead, (h run hrun).faithful⟩
  | start p call =>
    rcases hstarted : p.start t.now call t.registry with ⟨started, registry⟩
    rw [step, hstarted]
    intro run hrun
    have hknown : t.Underway run := by
      cases started with
      | ended course => exact h run hrun
      | running new =>
        rcases List.mem_append.mp hrun with hold | hnew
        · exact h run hold
        · rw [List.mem_singleton.mp hnew]
          exact underway_of_start hstarted
    cases started <;> exact ⟨hknown.ahead, hknown.faithful⟩
  | finish place =>
    rw [step]
    split
    · split
      · intro run hrun
        have hknown := h run (List.mem_of_mem_eraseIdx hrun)
        exact ⟨hknown.ahead, hknown.faithful⟩
      · exact h
    · exact h
  | readMetrics => exact fun run hrun => ⟨(h run hrun).ahead, (h run hrun).faithful⟩
  | advance span =>
    rw [step]
    split
    · next hopen => exact fun run hrun => ⟨hopen run hrun, (h run hrun).faithful⟩
    · exact h

theorem underway_run (now : Nat) (events : List Event) :
    let t := run { now } events
    ∀ call ∈ t.calls, t.Underway call :=
  run_induction (P := fun t => ∀ call ∈ t.calls, t.Underway call)
    (fun _ e h => underway_step h e) events _ fun call hcall => by cases hcall

end Traffic

/-- A call that was given up gives its permit back without an outcome. -/
theorem Running.giveBack_of_cancelled {run : Running} (hfaithful : run.course.Faithful)
    (hout : run.course.outcome = .error .cancelled) (c : Circuit) :
    run.giveBack c = c.release run.permit := by
  rw [Course.Faithful, hout] at hfaithful
  rcases hfaithful with hnone | hsome
  · rw [giveBack, hnone]
  · rw [giveBack, hsome]

namespace Traffic

/-- **Permits never leak.**  Pipelines share circuits that were new when the traffic began.  Then,
whatever calls are made on them, and in whatever order they begin and end, the calls in flight on a
circuit are those that were admitted and have not returned.  The end of none of these has passed.
When all of them have returned, none is in flight, and no trial is marked as under way.  A call that
ends because its caller gave it up adds nothing to the window, and if it was the trial, the next
call may be. -/
theorem permits_never_leak (now : Nat) (events : List Event) :
    let t := run { now } events
    (∀ name c, t.registry.get? name = some c →
      c.inFlight = (t.callsOn name).length ∧
      (t.callsOn name = [] → c.inFlight = 0 ∧ c.phase ≠ .halfOpen true)) ∧
    (∀ run ∈ t.calls, t.now ≤ run.course.finish) ∧
    ∀ place run, t.calls[place]? = some run → run.course.finish = t.now →
      run.course.outcome = .error .cancelled →
      ∃ c c', t.registry.get? run.circuit = some c ∧
        (t.step (.finish place)).registry.get? run.circuit = some c' ∧
        c'.window = c.window ∧ (run.permit.trial = true → c'.phase = .halfOpen false) := by
  intro t
  refine ⟨?_, fun run hrun => (underway_run now events run hrun).ahead, ?_⟩
  · intro name c hc
    rcases isWatched_run now events name with ⟨hnone, -⟩ | ⟨w, hseen⟩
    · rw [hc] at hnone
      cases hnone
    · have heq := hseen.circuit.symm.trans hc
      cases heq
      have hkept := hseen.reached.kept
      have hflight : w.circuit.inFlight = (t.callsOn name).length := by
        rw [hkept.inFlight, hseen.live.length_eq, List.length_map]
      refine ⟨hflight, fun hnil => ⟨by rw [hflight, hnil]; rfl, fun hphase => ?_⟩⟩
      -- the trial that is under way would hold a permit
      have htrials := hkept.trials
      have hlive : w.live = [] := by
        rw [← List.length_eq_zero_iff, ← hkept.inFlight, hflight, hnil]
        rfl
      rw [if_pos hphase, Watch.trials, hlive] at htrials
      cases htrials
  · intro place run hplace hfinish hout
    have hrun : run ∈ t.calls := List.mem_of_getElem? hplace
    have hback := Running.giveBack_of_cancelled (underway_run now events run hrun).faithful hout
    rcases isWatched_run now events run.circuit with ⟨-, hnil⟩ | ⟨w, hseen⟩
    · have hon : run ∈ t.callsOn run.circuit := List.mem_filter.mpr ⟨hrun, by simp⟩
      rw [hnil] at hon
      cases hon
    · refine ⟨w.circuit, run.giveBack w.circuit, hseen.circuit, ?_, ?_, fun htrial => ?_⟩
      · rw [step_finish hplace hfinish]
        exact (CircuitRegistry.get?_update run.giveBack_name).trans
          (congrArg (Option.map run.giveBack) hseen.circuit)
      · rw [hback]
        exact Circuit.release_window w.circuit run.permit
      · obtain ⟨k, hticket⟩ := hseen.exists_ticket hrun rfl
        have hpermit : run.permit = ⟨true⟩ := by rw [← htrial]
        rw [hpermit] at hticket
        have hphase := hseen.reached.kept.phase_of_trial hticket
        have hstate : w.circuit.state = .halfOpen := by
          rw [Circuit.state, hphase]
          rfl
        rw [hback, Circuit.release_phase, if_pos ⟨htrial, hstate⟩]

/-- A call that is answered after 10 µs. -/
def promptCall (status : Nat) (cancelAt : Option Nat) : Call where
  request :=
    { method := "GET"
      url := { scheme := .network "http" 80, authority := none, path := .segments ["items"] } }
  options := { cancelAt }
  policy := .never
  service _ _ := ⟨10, .ok { status }⟩
  tracer :=
    { root := ⟨"0a", "0b", true⟩, spanId := fun _ => "0c", inject := fun _ headers => .ok headers }

/-- One call fails and opens the circuit.  The next one is the trial, and its caller gives it up
while it is under way. -/
def abandonedTrial : List Event :=
  let p : Pipeline := ⟨"c", { circuit := { volume := 1, errorPercent := 50, sleepWindow := 40 } }⟩
  [.start p (promptCall 500 none), .advance 10, .finish 0, .advance 40,
    .start p (promptCall 200 (some 55)), .advance 5]

theorem permits_never_leak_abandonedTrial :
    let t := run {} abandonedTrial
    (t.callsOn "c").length = 1 ∧
      ∃ c c', t.registry.get? "c" = some c ∧ c.inFlight = 1 ∧ c.phase = .halfOpen true ∧
        (t.step (.finish 0)).registry.get? "c" = some c' ∧
        c'.window = c.window ∧ c'.phase = .halfOpen false := by
  intro t
  have hlength : (t.callsOn "c").length = 1 := by decide
  have htrial : ∃ call, t.calls[0]? = some call ∧ call.circuit = "c" ∧
      call.course.finish = t.now ∧ call.course.outcome = .error .cancelled ∧
      call.permit.trial = true := ⟨_, rfl, rfl, rfl, rfl, rfl⟩
  have hphase : (t.registry.get? "c").map (·.phase) = some (.halfOpen true) := by decide
  obtain ⟨call, hcall, hname, hfinish, hout, htrial⟩ := htrial
  obtain ⟨hflight, -, hcancelled⟩ := permits_never_leak 0 abandonedTrial
  obtain ⟨c, c', hc, hc', hwindow, hfree⟩ := hcancelled 0 call hcall hfinish hout
  rw [hname] at hc hc'
  refine ⟨hlength, c, c', hc, (hflight "c" c hc).1.trans hlength, ?_, hc', hwindow, hfree htrial⟩
  rw [hc] at hphase
  exact Option.some.inj hphase

end Traffic

end ApiScaffold.Client
