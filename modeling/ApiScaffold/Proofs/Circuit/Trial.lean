import ApiScaffold.Proofs.Circuit.Watch

/-!
# The trial of a half-open circuit

The flag that a trial is under way stands in the phase, and the right to be that trial in a
permit.  `Watch.Kept` says that the two always agree, that the number of calls in flight is the
number of permits that are out, and that an open circuit remembers the moment at which it was
seen to open.  Every step keeps this (`Kept.step`), one lemma for each kind of event, so every
run of a new circuit has it (`kept_run`).

* `single_trial`: one permit of a trial is out while a trial is under way, and none otherwise;
  and a circuit of which no permit is out admits a call once the sleep window has passed.
-/

namespace ApiScaffold.Client.Watch

/-- How many permits of a trial are out. -/
def trials (w : Watch) : Nat := w.live.countP (·.trial)

/-- The phase and the counter say about the permits what is the case. -/
structure Kept (w : Watch) : Prop where
  trials : w.trials = if w.circuit.phase = .halfOpen true then 1 else 0
  inFlight : w.circuit.inFlight = w.live.length
  opening : ∀ since, w.circuit.phase = .opened since → w.opening = some since ∧ since ≤ w.now

theorem kept_start (name : String) (settings : CircuitSettings) (now : Nat) :
    Kept (start name settings now) where
  trials := rfl
  inFlight := rfl
  opening := fun since h => by cases h

/-! ## Permits of trials -/

theorem trials_issue (w : Watch) (p : Permit) (c : Circuit) :
    (w.issue p c).trials = w.trials + if p.trial then 1 else 0 := by
  rw [trials, live_issue, List.countP_append, List.countP_singleton]
  rfl

theorem trials_giveBack {w : Watch} {k : Nat} {p : Permit} (h : w.permit? k = some p) :
    w.trials = (w.giveBack k).trials + if p.trial then 1 else 0 :=
  countP_live_giveBack h (·.trial)

/-- While a permit of a trial is out, a trial is under way. -/
theorem Kept.phase_of_trial {w : Watch} (h : Kept w) {k : Nat}
    (hp : w.permit? k = some ⟨true⟩) : w.circuit.phase = .halfOpen true := by
  by_contra hne
  have h1 := h.trials
  rw [trials_giveBack hp, if_neg hne] at h1
  exact absurd h1 (Nat.succ_ne_zero _)

/-- When the permit of a trial comes back, no other one is out. -/
theorem Kept.trials_of_trial {w : Watch} (h : Kept w) {k : Nat}
    (hp : w.permit? k = some ⟨true⟩) : (w.giveBack k).trials = 0 := by
  have h1 := h.trials
  rw [trials_giveBack hp, if_pos (h.phase_of_trial hp)] at h1
  exact Nat.succ.inj h1

/-- The circuit admits a call as the trial only where no trial is under way. -/
theorem Kept.trials_of_verdict {w : Watch} (h : Kept w)
    (hv : w.circuit.verdict w.now = .ok ⟨true⟩) : w.trials = 0 := by
  rw [h.trials, if_neg]
  intro hp
  rcases Circuit.verdict_trial_iff.mp hv with h1 | ⟨since, h1, -⟩
  · rw [hp] at h1; cases h1
  · rw [hp] at h1; cases h1

/-! ## One step -/

/-- An operation keeps the memory of the opening if it leaves an open circuit as it is and
opens another one only now. -/
theorem Kept.opening_moveTo {w : Watch} (h : Kept w) {c : Circuit}
    (hc : ∀ since, c.phase = .opened since →
      w.circuit.phase = .opened since ∨ w.circuit.state ≠ .opened ∧ since = w.now) :
    ∀ since, c.phase = .opened since → (w.moveTo c).opening = some since ∧ since ≤ w.now := by
  intro since hs
  rcases hc since hs with h1 | ⟨h1, rfl⟩
  · rw [moveTo_opening_of_state_eq (by rw [Circuit.state, Circuit.state, hs, h1])]
    exact h.opening since h1
  · exact ⟨moveTo_opening_of_opens h1 (Circuit.state_eq_opened.mpr ⟨_, hs⟩), Nat.le_refl _⟩

theorem Kept.acquire {w : Watch} (h : Kept w) : Kept (w.step .acquire) := by
  have hacq := w.acquired_step
  generalize w.step .acquire = w' at hacq ⊢
  cases hacq with
  | refused _ => exact ⟨h.trials, h.inFlight, h.opening_moveTo fun since hs => .inl hs⟩
  | call _ =>
    refine ⟨?_, ?_, h.opening_moveTo fun since hs => .inl hs⟩
    · rw [trials_issue]
      exact h.trials
    · rw [live_issue, List.length_append]
      exact congrArg (· + 1) h.inFlight
  | trial _ hv =>
    refine ⟨?_, ?_, h.opening_moveTo fun since hs => by cases hs⟩
    · rw [trials_issue, h.trials_of_verdict hv]
      rfl
    · rw [live_issue, List.length_append]
      exact congrArg (· + 1) h.inFlight

theorem Kept.record {w : Watch} (h : Kept w) (k : Nat) (success : Bool) :
    Kept (w.step (.record k success)) := by
  cases hp : w.permit? k with
  | none => rwa [step_record_none hp]
  | some permit =>
    rw [step_record hp]
    have hflight :
        (w.circuit.record w.now permit success).inFlight = (w.giveBack k).live.length := by
      rw [Circuit.record_inFlight, h.inFlight, length_live_giveBack hp, Nat.add_sub_cancel]
    obtain ⟨trial⟩ := permit
    cases trial with
    | true =>
      have hphase := h.phase_of_trial hp
      refine ⟨?_, hflight, h.opening_moveTo fun since hs => .inr ⟨?_, ?_⟩⟩
      · refine (h.trials_of_trial hp).trans ?_
        rw [note_circuit, giveBack_circuit, moveTo_circuit, Circuit.record_trial_phase]
        cases success <;> rfl
      · rw [Circuit.state, hphase]
        exact CircuitState.noConfusion
      · have h1 := (Circuit.record_trial_phase w.circuit w.now success).symm.trans hs
        cases success <;> cases h1
        rfl
    | false =>
      refine ⟨?_, hflight, h.opening_moveTo fun since hs => ?_⟩
      · refine (trials_giveBack hp).symm.trans (h.trials.trans ?_)
        rw [note_circuit, giveBack_circuit, moveTo_circuit]
        exact if_congr Circuit.record_call_halfOpen_iff.symm rfl rfl
      · refine (Circuit.record_call_opened_iff.mp hs).imp id fun h1 => ⟨fun hne => ?_, h1.2.symm⟩
        rw [Circuit.state, h1.1.1] at hne
        cases hne

theorem Kept.drop {w : Watch} (h : Kept w) (k : Nat) : Kept (w.step (.drop k)) := by
  cases hp : w.permit? k with
  | none => rwa [step_drop_none hp]
  | some permit =>
    rw [step_drop hp]
    have hflight : (w.circuit.release permit).inFlight = (w.giveBack k).live.length := by
      rw [Circuit.release_inFlight, h.inFlight, length_live_giveBack hp, Nat.add_sub_cancel]
    refine ⟨?_, hflight, h.opening_moveTo fun since hs => ?_⟩
    · obtain ⟨trial⟩ := permit
      rw [giveBack_circuit, moveTo_circuit]
      cases trial with
      | true =>
        have hstate : w.circuit.state = .halfOpen := by
          rw [Circuit.state, h.phase_of_trial hp]
          rfl
        have hphase : (w.circuit.release ⟨true⟩).phase = .halfOpen false := by
          rw [Circuit.release_phase, if_pos ⟨rfl, hstate⟩]
        rw [hphase]
        exact h.trials_of_trial hp
      | false =>
        have hphase : (w.circuit.release ⟨false⟩).phase = w.circuit.phase := by
          rw [Circuit.release_phase, if_neg fun hc => Bool.noConfusion hc.1]
        rw [hphase]
        exact (trials_giveBack hp).symm.trans h.trials
    · have h1 := (Circuit.release_phase w.circuit permit).symm.trans hs
      split at h1
      · cases h1
      · exact .inl h1

/-- **Every step keeps the phase and the counter in agreement with the permits.** -/
theorem Kept.step {w : Watch} (h : Kept w) (e : Event) : Kept (w.step e) := by
  cases e with
  | acquire => exact h.acquire
  | record k success => exact h.record k success
  | drop k => exact h.drop k
  | readMetrics => exact ⟨h.trials, h.inFlight, h.opening_moveTo fun since hs => .inl hs⟩
  | advance span =>
    refine ⟨h.trials, h.inFlight, fun since hs => ?_⟩
    obtain ⟨h1, h2⟩ := h.opening since hs
    exact ⟨h1, Nat.le_add_right_of_le h2⟩

theorem kept_run (name : String) (settings : CircuitSettings) (now : Nat) (events : List Event) :
    Kept ((start name settings now).run events) :=
  run_induction (fun _ e h => h.step e) events _ (kept_start name settings now)

/-! ## Every run -/

/-- A circuit of which no permit is out has a place for a call. -/
theorem Kept.hasRoom {w : Watch} (h : Kept w) (hlive : w.live = [])
    (hmax : 1 ≤ w.circuit.settings.maxConcurrent) : w.circuit.hasRoom := by
  refine .inl ?_
  rw [h.inFlight, hlive]
  exact hmax

/-- A circuit of which no permit is out admits a call once its sleep window has passed. -/
theorem Kept.verdict_ok {w : Watch} (h : Kept w) (hlive : w.live = [])
    (hslept : w.circuit.state = .opened →
      ∀ since ∈ w.opening, since + w.circuit.settings.sleepWindow ≤ w.now) :
    ∃ permit, w.circuit.verdict w.now = .ok permit := by
  cases hp : w.circuit.phase with
  | closed => exact ⟨⟨false⟩, Circuit.verdict_call_iff.mpr hp⟩
  | opened since =>
    have hopen : w.circuit.state = .opened := Circuit.state_eq_opened.mpr ⟨since, hp⟩
    have hle := hslept hopen since (h.opening since hp).1
    exact ⟨⟨true⟩, Circuit.verdict_trial_iff.mpr (.inr ⟨since, hp, Nat.le_sub_of_add_le' hle⟩)⟩
  | halfOpen trial =>
    cases trial with
    | false => exact ⟨⟨true⟩, Circuit.verdict_trial_iff.mpr (.inl hp)⟩
    | true =>
      -- the trial that is under way holds a permit
      have h1 := h.trials
      rw [if_pos hp, Watch.trials, hlive] at h1
      cases h1

/-- **A single trial, and no wedging.**  After every run of a new circuit exactly one permit of a
trial is out while a trial is under way, and none in every other phase.  So a circuit of which no
permit is out admits the next call, once the clock is the sleep window past the opening. -/
theorem single_trial (name : String) (settings : CircuitSettings) (now : Nat)
    (events : List Event) :
    let w := (start name settings now).run events
    w.trials = (if w.circuit.phase = .halfOpen true then 1 else 0) ∧
      (w.live = [] → 1 ≤ settings.maxConcurrent →
        (w.circuit.state = .opened →
          ∀ since ∈ w.opening, since + settings.sleepWindow ≤ w.now) →
        ∃ permit, (w.circuit.tryAcquire w.now).1 = .ok permit) := by
  intro w
  have h : Kept w := kept_run name settings now events
  have hsettings : w.circuit.settings = settings := settings_run name settings now events
  refine ⟨h.trials, fun hlive hmax hslept => ?_⟩
  rw [← hsettings] at hmax hslept
  obtain ⟨permit, hv⟩ := h.verdict_ok hlive hslept
  exact ⟨permit, Circuit.tryAcquire_of_verdict (h.hasRoom hlive hmax) hv⟩

/-- A circuit opens, hears late of another call, fails its trial, and is asked again. -/
theorem single_trial_after_failed_trial :
    let events : List Event :=
      [.acquire, .acquire, .record 0 false, .record 1 true, .advance 40, .acquire,
        .record 2 false, .advance 40]
    let w := (start "c" { volume := 1, errorPercent := 50, sleepWindow := 40 } 0).run events
    w.live = [] ∧ w.opening = some 40 ∧
      ∃ permit, (w.circuit.tryAcquire w.now).1 = .ok permit :=
  ⟨by decide, by decide,
    (single_trial "c" { volume := 1, errorPercent := 50, sleepWindow := 40 } 0
      [.acquire, .acquire, .record 0 false, .record 1 true, .advance 40, .acquire,
        .record 2 false, .advance 40]).2 (by decide) (by decide) (by decide)⟩

end ApiScaffold.Client.Watch
