import ApiScaffold.Proofs.Circuit.Trial
import ApiScaffold.Proofs.Circuit.Window

/-!
# The edges of a circuit

`Watch.Edge` lists the four ways in which the observable state of a circuit moves.  Each names the
event, and says what must be the case before it in terms of what an observer knows: the permits
that are out, the book of outcomes, and the moment at which the circuit was seen to open.

The phase after an event is computed once for each kind of event (`phase_acquire`,
`phase_record_trial`, `Tracked.phase_record`, `state_drop`).  From this an edge moves the circuit
(`Edge.moves`), and whatever moves the circuit is an edge (`edge_of_moves`).

* `late_phase`: the outcome of a permit that was issued before a circuit was seen open moves it
  only if it has closed since.
* `moves_iff_edge`: a circuit moves along the edges, and at no other event.
-/

namespace ApiScaffold.Client.Watch

/-- The edges along which the observable state moves, and the events that move it. -/
inductive Edge (w : Watch) : Event → CircuitState → CircuitState → Prop
  /-- The outcome of a call makes the rolling window bad. -/
  | trip {k : Nat} {success : Bool} : w.circuit.state = .closed → w.permit? k = some ⟨false⟩ →
      w.circuit.settings.exceededBy (w.note ⟨⟨w.now, success⟩, false⟩).recent →
      Edge w (.record k success) .closed .opened
  /-- A call comes in once the sleep window has passed, and there is a place for it. -/
  | probe {since : Nat} : w.circuit.state = .opened → w.opening = some since →
      since + w.circuit.settings.sleepWindow ≤ w.now →
      (w.live.length < w.circuit.settings.maxConcurrent ∨ w.circuit.settings.debug = true) →
      Edge w .acquire .opened .halfOpen
  /-- The trial succeeds. -/
  | recover {k : Nat} : w.permit? k = some ⟨true⟩ → Edge w (.record k true) .halfOpen .closed
  /-- The trial fails. -/
  | relapse {k : Nat} : w.permit? k = some ⟨true⟩ → Edge w (.record k false) .halfOpen .opened

/-! ## The phase after an event -/

/-- A request for a permit touches the phase only if it makes a trial. -/
theorem phase_acquire (w : Watch) :
    (w.step .acquire).circuit.phase =
      if w.circuit.hasRoom ∧ w.circuit.verdict w.now = .ok ⟨true⟩ then .halfOpen true
      else w.circuit.phase := by
  have hacq := w.acquired_step
  generalize w.step .acquire = w' at hacq ⊢
  cases hacq with
  | refused h => rw [if_neg h]; rfl
  | call h => rw [if_neg fun hg => h hg.2]; rfl
  | trial hroom hv => rw [if_pos ⟨hroom, hv⟩]; rfl

/-- The permit that a trial is given. -/
theorem permit?_acquire {w : Watch} (hroom : w.circuit.hasRoom)
    (hv : w.circuit.verdict w.now = .ok ⟨true⟩) :
    (w.step .acquire).permit? w.permits.length = some ⟨true⟩ := by
  have hacq := w.acquired_step
  generalize w.step .acquire = w' at hacq ⊢
  cases hacq with
  | refused h => exact absurd ⟨hroom, hv⟩ h
  | call h => exact absurd hv h
  | trial _ _ => rw [permit?_eq_some, issue_permits, List.getElem?_concat_length]

/-- The outcome of a trial decides the phase. -/
theorem phase_record_trial {w : Watch} {k : Nat} (hp : w.permit? k = some ⟨true⟩)
    (success : Bool) :
    (w.step (.record k success)).circuit.phase = if success then .closed else .opened w.now := by
  rw [step_record hp]
  exact Circuit.record_trial_phase w.circuit w.now success

/-- Any other outcome touches the phase only of a closed circuit. -/
theorem phase_record_call {w : Watch} {k : Nat} (hp : w.permit? k = some ⟨false⟩)
    (hclosed : w.circuit.state ≠ .closed) (success : Bool) :
    (w.step (.record k success)).circuit.phase = w.circuit.phase := by
  rw [step_record hp]
  refine (Circuit.record_call_phase w.circuit w.now success).trans (if_neg fun hc => ?_)
  exact hclosed (Circuit.state_eq_closed.mpr hc.1)

theorem state_drop (w : Watch) (k : Nat) :
    (w.step (.drop k)).circuit.state = w.circuit.state := by
  cases hp : w.permit? k with
  | none => rw [step_drop_none hp]
  | some p => rw [step_drop hp]; exact Circuit.release_state w.circuit p

theorem recent_step_record {w : Watch} {k : Nat} (hp : w.permit? k = some ⟨false⟩)
    (success : Bool) :
    (w.step (.record k success)).recent = (w.note ⟨⟨w.now, success⟩, false⟩).recent := by
  rw [recent, settings_step, step_record hp]
  rfl

/-! ## Edges -/

/-- While a permit of a trial is out, the circuit is half open. -/
theorem Kept.state_of_trial {w : Watch} (h : Kept w) {k : Nat}
    (hp : w.permit? k = some ⟨true⟩) : w.circuit.state = .halfOpen :=
  Circuit.state_eq_halfOpen.mpr ⟨true, h.phase_of_trial hp⟩

/-- No permit of a trial is out while the circuit is open. -/
theorem Kept.call_of_opened {w : Watch} (h : Kept w) (hopen : w.circuit.state = .opened)
    {k : Nat} {p : Permit} (hp : w.permit? k = some p) : p = ⟨false⟩ := by
  obtain ⟨trial⟩ := p
  cases trial with
  | true => rw [h.state_of_trial hp] at hopen; cases hopen
  | false => rfl

/-- An open circuit that has slept long enough, by what the observer noted, admits a trial. -/
theorem Kept.verdict_of_slept {w : Watch} (h : Kept w) {since : Nat}
    (hopen : w.circuit.state = .opened) (hs : w.opening = some since)
    (hle : since + w.circuit.settings.sleepWindow ≤ w.now) :
    w.circuit.verdict w.now = .ok ⟨true⟩ := by
  obtain ⟨since', hphase⟩ := Circuit.state_eq_opened.mp hopen
  obtain rfl : since' = since := Option.some.inj ((h.opening since' hphase).1.symm.trans hs)
  exact Circuit.verdict_trial_iff.mpr (.inr ⟨since', hphase, Nat.le_sub_of_add_le' hle⟩)

/-- **An edge moves the circuit.** -/
theorem Edge.moves {w : Watch} (hk : Kept w) (ht : Tracked w) {e : Event} {a b : CircuitState}
    (h : Edge w e a b) : w.circuit.state = a ∧ (w.step e).circuit.state = b := by
  cases h with
  | @trip k success hclosed hp hbad =>
    refine ⟨hclosed, ?_⟩
    rw [← recent_step_record hp success] at hbad
    rw [Circuit.state, ht.phase_record hp success,
      if_pos ⟨Circuit.state_eq_closed.mp hclosed, hbad⟩]
    rfl
  | probe hopen hs hle hroom =>
    refine ⟨hopen, ?_⟩
    rw [← hk.inFlight] at hroom
    rw [Circuit.state, phase_acquire, if_pos ⟨hroom, hk.verdict_of_slept hopen hs hle⟩]
    rfl
  | recover hp =>
    refine ⟨hk.state_of_trial hp, ?_⟩
    rw [Circuit.state, phase_record_trial hp]
    rfl
  | relapse hp =>
    refine ⟨hk.state_of_trial hp, ?_⟩
    rw [Circuit.state, phase_record_trial hp]
    rfl

/-- A request for a permit moves the circuit only along the edge of a probe. -/
theorem Kept.edge_acquire {w : Watch} (h : Kept w)
    (hne : (w.step .acquire).circuit.state ≠ w.circuit.state) :
    Edge w .acquire w.circuit.state (w.step .acquire).circuit.state := by
  have hphase := w.phase_acquire
  by_cases hg : w.circuit.hasRoom ∧ w.circuit.verdict w.now = .ok ⟨true⟩
  · rw [if_pos hg] at hphase
    have hafter : (w.step .acquire).circuit.state = .halfOpen :=
      Circuit.state_eq_halfOpen.mpr ⟨true, hphase⟩
    obtain ⟨hroom, hv⟩ := hg
    rcases Circuit.verdict_trial_iff.mp hv with h1 | ⟨since, h1, hslept⟩
    · exact absurd (hafter.trans (Circuit.state_eq_halfOpen.mpr ⟨false, h1⟩).symm) hne
    · have hopen : w.circuit.state = .opened := Circuit.state_eq_opened.mpr ⟨since, h1⟩
      obtain ⟨hs, hle⟩ := h.opening since h1
      rw [Circuit.hasRoom, h.inFlight] at hroom
      rw [hafter, hopen]
      exact .probe hopen hs (by rw [Nat.add_comm]; exact Nat.add_le_of_le_sub hle hslept) hroom
  · rw [if_neg hg] at hphase
    exact absurd (congrArg Phase.state hphase) hne

/-- An outcome moves the circuit only along the other three edges. -/
theorem edge_record {w : Watch} (hk : Kept w) (ht : Tracked w) {k : Nat} {success : Bool}
    (hne : (w.step (.record k success)).circuit.state ≠ w.circuit.state) :
    Edge w (.record k success) w.circuit.state (w.step (.record k success)).circuit.state := by
  cases hp : w.permit? k with
  | none => rw [step_record_none hp] at hne; exact absurd rfl hne
  | some permit =>
    obtain ⟨trial⟩ := permit
    cases trial with
    | true =>
      rw [hk.state_of_trial hp, Circuit.state, phase_record_trial hp]
      cases success with
      | true => exact .recover hp
      | false => exact .relapse hp
    | false =>
      have hphase := ht.phase_record hp success
      split at hphase
      · rename_i h
        have hclosed : w.circuit.state = .closed := Circuit.state_eq_closed.mpr h.1
        rw [hclosed, Circuit.state, hphase]
        exact .trip hclosed hp (recent_step_record hp success ▸ h.2)
      · exact absurd (congrArg Phase.state hphase) hne

/-- **Whatever moves the circuit is an edge.** -/
theorem edge_of_moves {w : Watch} (hk : Kept w) (ht : Tracked w) {e : Event}
    (hne : (w.step e).circuit.state ≠ w.circuit.state) :
    Edge w e w.circuit.state (w.step e).circuit.state := by
  cases e with
  | acquire => exact hk.edge_acquire hne
  | record k success => exact edge_record hk ht hne
  | drop k => exact absurd (w.state_drop k) hne
  | readMetrics => exact absurd rfl hne
  | advance span => exact absurd rfl hne

/-! ## The sleep window -/

/-- An edge to the open state starts the sleep window anew. -/
theorem Edge.phase_opened {w : Watch} (hk : Kept w) (ht : Tracked w) {e : Event}
    {a : CircuitState} (h : Edge w e a .opened) :
    (w.step e).circuit.phase = .opened w.now ∧ (w.step e).opening = some w.now := by
  have hphase : (w.step e).circuit.phase = .opened w.now := by
    cases h with
    | @trip k success hclosed hp hbad =>
      rw [← recent_step_record hp success] at hbad
      rw [ht.phase_record hp success, if_pos ⟨Circuit.state_eq_closed.mp hclosed, hbad⟩]
    | relapse hp => exact phase_record_trial hp false
  exact ⟨hphase, ((hk.step e).opening w.now hphase).1⟩

/-- While a circuit stays open, the sleep window goes on. -/
theorem Kept.phase_of_opened {w : Watch} (h : Kept w) {e : Event}
    (hopen : w.circuit.state = .opened) (hstays : (w.step e).circuit.state = .opened) :
    (w.step e).circuit.phase = w.circuit.phase := by
  cases e with
  | acquire =>
    have hphase := w.phase_acquire
    split at hphase
    · rw [Circuit.state, hphase] at hstays
      cases hstays
    · exact hphase
  | record k success =>
    cases hp : w.permit? k with
    | none => rw [step_record_none hp]
    | some permit =>
      rw [h.call_of_opened hopen hp] at hp
      refine phase_record_call hp (fun hc => ?_) success
      rw [hopen] at hc
      cases hc
  | drop k =>
    cases hp : w.permit? k with
    | none => rw [step_drop_none hp]
    | some permit =>
      rw [step_drop hp]
      refine (Circuit.release_phase w.circuit permit).trans (if_neg fun hc => ?_)
      rw [hopen] at hc
      cases hc.2
  | readMetrics => rfl
  | advance span => rfl

/-! ## Every run -/

/-- A permit that comes back from before a circuit was seen open moves it only if it has closed
since. -/
theorem late_phase {w : Watch} (hk : Kept w) (hopen : w.circuit.state = .opened)
    {later : List Event} {k : Nat} (hissued : k < w.permits.length)
    (hclosed : (w.run later).circuit.state ≠ .closed) (success : Bool) :
    ((w.run later).step (.record k success)).circuit.phase = (w.run later).circuit.phase := by
  cases hp : (w.run later).permit? k with
  | none => rw [step_record_none hp]
  | some permit =>
    -- tickets are not used twice, and while the circuit was open no trial was out
    have hp' : w.permit? k = some permit := permit?_of_run later w hissued hp
    rw [hk.call_of_opened hopen hp'] at hp
    exact phase_record_call hp hclosed success

/-- **A circuit moves along the edges, and at no other event.**  This is so after every run of a
new circuit.  The call that finds an open circuit ready gets the permit of the trial; an edge to
the open state starts the sleep window, which then goes on until the circuit is half open; and
the late outcome of a permit that was issued before the circuit was seen open leaves the phase
alone as long as the circuit has not closed. -/
theorem moves_iff_edge (name : String) (settings : CircuitSettings) (now : Nat)
    (events : List Event) :
    let w := (start name settings now).run events
    (∀ e a b, a ≠ b →
      ((w.circuit.state = a ∧ (w.step e).circuit.state = b) ↔ Edge w e a b)) ∧
    (∀ e, Edge w e .opened .halfOpen →
      (w.step e).permit? w.permits.length = some ⟨true⟩) ∧
    (∀ e a, Edge w e a .opened →
      (w.step e).circuit.phase = .opened w.now ∧ (w.step e).opening = some w.now) ∧
    (∀ e, w.circuit.state = .opened → (w.step e).circuit.state = .opened →
      (w.step e).circuit.phase = w.circuit.phase) ∧
    (∀ later k success, w.circuit.state = .opened → k < w.permits.length →
      (w.run later).circuit.state ≠ .closed →
      ((w.run later).step (.record k success)).circuit.phase = (w.run later).circuit.phase) := by
  intro w
  have hk : Kept w := kept_run name settings now events
  have ht : Tracked w := tracked_run name settings now events
  refine ⟨fun e a b hab => ⟨?_, fun h => h.moves hk ht⟩, fun e h => ?_,
    fun e a h => h.phase_opened hk ht, fun e => hk.phase_of_opened,
    fun later k success hopen hissued hclosed => late_phase hk hopen hissued hclosed success⟩
  · rintro ⟨rfl, rfl⟩
    exact edge_of_moves hk ht hab.symm
  · cases h with
    | probe hopen hs hle hroom =>
      rw [← hk.inFlight] at hroom
      exact permit?_acquire hroom (hk.verdict_of_slept hopen hs hle)

/-- Of two calls the first opens the circuit.  The circuit probes after the sleep window, not
before it, and the late outcome of the second call does not touch the trial. -/
theorem moves_iff_edge_after_failure :
    let w := (start "c" { volume := 1, errorPercent := 50, sleepWindow := 40 } 0).run
      [.acquire, .acquire, .record 0 false, .advance 39]
    ¬ Edge w .acquire .opened .halfOpen ∧
      ((w.run [.advance 1, .acquire]).step (.record 1 false)).circuit.phase = .halfOpen true := by
  have h := moves_iff_edge "c" { volume := 1, errorPercent := 50, sleepWindow := 40 } 0
    [.acquire, .acquire, .record 0 false, .advance 39]
  refine ⟨fun hedge => ?_, ?_⟩
  · have h1 := (h.1 .acquire .opened .halfOpen (by decide)).mpr hedge
    exact absurd h1.2 (by decide)
  · exact (h.2.2.2.2 [.advance 1, .acquire] 1 false (by decide) (by decide) (by decide)).trans
      (by decide)

end ApiScaffold.Client.Watch
