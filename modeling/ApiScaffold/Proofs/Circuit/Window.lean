import ApiScaffold.Proofs.Circuit.Watch
import Mathlib.Data.List.DropRight

/-!
# The rolling window and the book

A circuit keeps its window by forgetting outcomes in front, and only when it takes in an outcome
or shows its numbers.  The observer's book has every outcome.  `Watch.recent` is the rolling
window as one would define it from the book: the outcomes of calls since the last successful
trial whose age is at most the length of the window.

`Watch.Tracked` joins the two.  The outcomes of calls since the last successful trial are in the
order of time, none lies in the future, and the window is what is left of them after some
outcomes in front, all of which are too old by now.  Every step keeps this (`Tracked.step`): the
clock only goes on, so what is too old stays so.

* `dropWhile_eq_filter`: in a list in which a property is lost once and for all, forgetting in
  front is the same as filtering.
* `Tracked.prune_window`: the pruned window is the rolling window of the book.
* `metrics_eq_recent`: so the metrics, and the decision to open, are those of the book.
-/

namespace ApiScaffold.Client

/-- Whether some outcomes are bad enough to open a circuit. -/
def CircuitSettings.exceededBy (s : CircuitSettings) (outcomes : List Mark) : Prop :=
  0 < outcomes.length ∧ s.volume ≤ outcomes.length ∧
    s.errorPercent * outcomes.length < outcomes.countP (fun m => !m.success) * 100

instance (s : CircuitSettings) (outcomes : List Mark) : Decidable (s.exceededBy outcomes) :=
  inferInstanceAs (Decidable (_ ∧ _ ∧ _))

theorem Circuit.isFailing_iff {c : Circuit} :
    c.isFailing = true ↔ c.settings.exceededBy c.window := by
  rw [isFailing, Bool.and_eq_true, Bool.and_eq_true, decide_eq_true_iff, decide_eq_true_iff,
    decide_eq_true_iff]
  exact ⟨fun h => ⟨h.1.2, h.1.1, h.2⟩, fun h => ⟨⟨h.2.1, h.1⟩, h.2.2⟩⟩

/-- Where a property is lost once and for all, forgetting in front is the same as filtering. -/
theorem dropWhile_eq_filter {α : Type} {p : α → Bool} {l : List α}
    (h : l.Pairwise fun a b => p b = true → p a = true) :
    l.dropWhile p = l.filter fun a => !p a := by
  induction l with
  | nil => rfl
  | cons a l ih =>
    obtain ⟨ha, hl⟩ := List.pairwise_cons.mp h
    cases hp : p a with
    | true => rw [List.dropWhile_cons_of_pos hp, ih hl, List.filter_cons_of_neg (by simp [hp])]
    | false =>
      rw [List.dropWhile_cons_of_neg (by simp [hp]), eq_comm, List.filter_eq_self]
      intro b hb
      rcases List.mem_cons.mp hb with rfl | hb
      · rw [hp]; rfl
      · cases hpb : p b with
        | true => rw [ha b hb hpb] at hp; cases hp
        | false => rfl

namespace Watch

/-! ## The rolling window of the book -/

/-- Whether an outcome is that of a successful trial, after which a circuit starts anew. -/
def Entry.isRecovery (e : Entry) : Bool := e.trial && e.mark.success

/-- The outcomes of calls since the last successful trial. -/
def calls (w : Watch) : List Mark :=
  ((w.book.rtakeWhile fun e => !e.isRecovery).filter fun e => !e.trial).map (·.mark)

/-- The outcomes of calls since the last successful trial that still count. -/
def recent (w : Watch) : List Mark :=
  w.calls.filter fun m => w.now - m.time ≤ w.circuit.settings.rollingWindow

theorem calls_note_call (w : Watch) (m : Mark) : (w.note ⟨m, false⟩).calls = w.calls ++ [m] := by
  rw [calls, note_book, List.rtakeWhile_concat_pos _ _ _ rfl, List.filter_append, List.map_append]
  rfl

theorem calls_note_trial (w : Watch) (now : Nat) (success : Bool) :
    (w.note ⟨⟨now, success⟩, true⟩).calls = if success then [] else w.calls := by
  rw [calls, note_book]
  cases success with
  | true => rw [List.rtakeWhile_concat_neg _ _ _ Bool.false_ne_true]; rfl
  | false =>
    rw [List.rtakeWhile_concat_pos _ _ _ rfl, List.filter_append, List.map_append]
    exact List.append_nil _

/-- The window is what is left of the outcomes of calls since the last successful trial. -/
structure Tracked (w : Watch) : Prop where
  sorted : w.calls.Pairwise fun a b => a.time ≤ b.time
  past : ∀ m ∈ w.calls, m.time ≤ w.now
  window : ∃ old, w.calls = old ++ w.circuit.window ∧
    ∀ m ∈ old, w.circuit.isStale w.now m = true

theorem tracked_start (name : String) (settings : CircuitSettings) (now : Nat) :
    Tracked (start name settings now) where
  sorted := .nil
  past := fun m hm => by cases hm
  window := ⟨[], rfl, fun m hm => by cases hm⟩

/-! ## One step -/

/-- Forgetting in front what is too old loses nothing else. -/
theorem exists_stale_prefix {c : Circuit} {now : Nat} {calls old : List Mark}
    (hcalls : calls = old ++ c.window) (hold : ∀ m ∈ old, c.isStale now m = true) :
    ∃ old', calls = old' ++ (c.prune now).window ∧ ∀ m ∈ old', c.isStale now m = true := by
  refine ⟨old ++ c.window.takeWhile (c.isStale now), ?_, fun m hm => ?_⟩
  · rw [hcalls, Circuit.prune, List.append_assoc, List.takeWhile_append_dropWhile]
  · rcases List.mem_append.mp hm with h | h
    · exact hold m h
    · exact List.mem_takeWhile_imp h

/-- An operation that touches neither the window nor the settings keeps the window in step. -/
theorem Tracked.of_window_eq {w w' : Watch} (h : Tracked w) (hcalls : w'.calls = w.calls)
    (hnow : w'.now = w.now) (hwindow : w'.circuit.window = w.circuit.window)
    (hsettings : w'.circuit.settings = w.circuit.settings) : Tracked w' := by
  obtain ⟨old, hold, hstale⟩ := h.window
  refine ⟨hcalls ▸ h.sorted, fun m hm => ?_, old, ?_, fun m hm => ?_⟩
  · rw [hnow]
    exact h.past m (hcalls ▸ hm)
  · rw [hcalls, hwindow, hold]
  · rw [Circuit.isStale, hsettings, hnow]
    exact hstale m hm

theorem Tracked.acquire {w : Watch} (h : Tracked w) : Tracked (w.step .acquire) := by
  have hacq := w.acquired_step
  generalize w.step .acquire = w' at hacq ⊢
  cases hacq with
  | refused _ => exact h.of_window_eq rfl rfl rfl rfl
  | call _ => exact h.of_window_eq rfl rfl rfl rfl
  | trial _ _ => exact h.of_window_eq rfl rfl rfl rfl

theorem Tracked.record {w : Watch} (h : Tracked w) (k : Nat) (success : Bool) :
    Tracked (w.step (.record k success)) := by
  cases hp : w.permit? k with
  | none => rwa [step_record_none hp]
  | some permit =>
    rw [step_record hp]
    obtain ⟨trial⟩ := permit
    cases trial with
    | true =>
      have hcalls := calls_note_trial
        ((w.moveTo (w.circuit.record w.now ⟨true⟩ success)).giveBack k) w.now success
      have hwindow := Circuit.record_trial_window w.circuit w.now success
      cases success with
      | true =>
        refine ⟨hcalls ▸ .nil, fun m hm => ?_, [], hcalls.trans hwindow.symm,
          fun m hm => by cases hm⟩
        rw [hcalls] at hm
        cases hm
      | false => exact h.of_window_eq hcalls rfl hwindow (Circuit.record_settings ..)
    | false =>
      have hcalls := calls_note_call
        ((w.moveTo (w.circuit.record w.now ⟨false⟩ success)).giveBack k) ⟨w.now, success⟩
      have hwindow := Circuit.record_call_window w.circuit w.now success
      obtain ⟨old, hold, hstale⟩ := h.window
      refine ⟨?_, fun m hm => ?_, ?_⟩
      · rw [hcalls]
        refine List.pairwise_append.mpr ⟨h.sorted, List.pairwise_singleton .., fun a ha b hb => ?_⟩
        rw [List.mem_singleton.mp hb]
        exact h.past a ha
      · rw [hcalls] at hm
        rcases List.mem_append.mp hm with hm | hm
        · exact h.past m hm
        · rw [List.mem_singleton.mp hm]
          exact Nat.le_refl _
      · have hjoin : w.calls ++ [⟨w.now, success⟩] =
            old ++ (w.circuit.window ++ [⟨w.now, success⟩]) := by rw [hold, List.append_assoc]
        obtain ⟨old', hold', hstale'⟩ := exists_stale_prefix
          (c := { w.circuit with window := w.circuit.window ++ [⟨w.now, success⟩] }) hjoin hstale
        refine ⟨old', ?_, fun m hm => ?_⟩
        · rw [hcalls, note_circuit, giveBack_circuit, moveTo_circuit, hwindow]
          exact hold'
        · rw [Circuit.isStale, note_circuit, giveBack_circuit, moveTo_circuit,
            Circuit.record_settings]
          exact hstale' m hm

/-- **Every step keeps the window in step with the book.** -/
theorem Tracked.step {w : Watch} (h : Tracked w) (e : Event) : Tracked (w.step e) := by
  cases e with
  | acquire => exact h.acquire
  | record k success => exact h.record k success
  | drop k =>
    cases hp : w.permit? k with
    | none => rwa [step_drop_none hp]
    | some permit => rw [step_drop hp]; exact h.of_window_eq rfl rfl rfl rfl
  | readMetrics =>
    obtain ⟨old, hold, hstale⟩ := h.window
    exact ⟨h.sorted, h.past, exists_stale_prefix hold hstale⟩
  | advance span =>
    obtain ⟨old, hold, hstale⟩ := h.window
    refine ⟨h.sorted, fun m hm => Nat.le_add_right_of_le (h.past m hm), old, hold, fun m hm => ?_⟩
    -- what is too old stays too old
    have h1 : _ < w.now - m.time := of_decide_eq_true (hstale m hm)
    refine decide_eq_true (Nat.lt_of_lt_of_le h1 ?_)
    exact Nat.sub_le_sub_right (Nat.le_add_right _ _) _

theorem tracked_run (name : String) (settings : CircuitSettings) (now : Nat)
    (events : List Event) : Tracked ((start name settings now).run events) :=
  run_induction (fun _ e h => h.step e) events _ (tracked_start name settings now)

/-! ## Every run -/

/-- A window that lacks only outcomes in front that are too old shows, once it is pruned, those
that are young enough. -/
theorem prune_window_eq {c : Circuit} {now : Nat} {calls old : List Mark}
    (hsorted : calls.Pairwise fun a b => a.time ≤ b.time) (hcalls : calls = old ++ c.window)
    (hold : ∀ m ∈ old, c.isStale now m = true) :
    (c.prune now).window = calls.filter fun m => now - m.time ≤ c.settings.rollingWindow := by
  have hfresh : (fun m => !c.isStale now m) =
      fun m : Mark => decide (now - m.time ≤ c.settings.rollingWindow) := by
    funext m
    simp only [Circuit.isStale, ← decide_not, Nat.not_lt]
  have hstale : calls.Pairwise fun a b => c.isStale now b = true → c.isStale now a = true := by
    refine hsorted.imp fun {a b} hab hb => ?_
    have h1 : c.settings.rollingWindow < now - b.time := of_decide_eq_true hb
    exact decide_eq_true (Nat.lt_of_lt_of_le h1 (Nat.sub_le_sub_left hab now))
  calc (c.prune now).window
      = c.window.dropWhile (c.isStale now) := rfl
    _ = calls.dropWhile (c.isStale now) := by rw [hcalls, List.dropWhile_append_of_pos hold]
    _ = calls.filter (fun m => !c.isStale now m) := dropWhile_eq_filter hstale
    _ = calls.filter fun m => now - m.time ≤ c.settings.rollingWindow := by rw [hfresh]

/-- **The pruned window is the rolling window of the book.** -/
theorem Tracked.prune_window {w : Watch} (h : Tracked w) :
    (w.circuit.prune w.now).window = w.recent := by
  obtain ⟨old, hold, hstale⟩ := h.window
  exact prune_window_eq h.sorted hold hstale

/-- The window that takes in the outcome of a call is the rolling window of the book in which
the outcome is noted. -/
theorem Tracked.joined_window {w : Watch} (h : Tracked w) {k : Nat}
    (hp : w.permit? k = some ⟨false⟩) (success : Bool) :
    (w.circuit.joined w.now success).window = (w.step (.record k success)).recent := by
  have hsorted := (h.record k success).sorted
  have hsettings := settings_step w (.record k success)
  obtain ⟨old, hold, hstale⟩ := h.window
  rw [recent, hsettings]
  rw [step_record hp] at hsorted ⊢
  rw [calls_note_call] at hsorted ⊢
  have hjoin : w.calls ++ [⟨w.now, success⟩] =
      old ++ (w.circuit.window ++ [⟨w.now, success⟩]) := by rw [hold, List.append_assoc]
  exact prune_window_eq hsorted hjoin hstale

/-- The outcome of a call opens a closed circuit exactly if the rolling window of the book is
bad. -/
theorem Tracked.phase_record {w : Watch} (h : Tracked w) {k : Nat}
    (hp : w.permit? k = some ⟨false⟩) (success : Bool) :
    (w.step (.record k success)).circuit.phase =
      if w.circuit.phase = .closed ∧
          w.circuit.settings.exceededBy (w.step (.record k success)).recent
        then .opened w.now else w.circuit.phase := by
  have hfailing : (w.circuit.joined w.now success).isFailing = true ↔
      w.circuit.settings.exceededBy (w.step (.record k success)).recent := by
    rw [Circuit.isFailing_iff, h.joined_window hp success]
    exact Iff.rfl
  rw [← if_congr (and_congr_right fun _ => hfailing) rfl rfl, step_record hp]
  exact Circuit.record_call_phase w.circuit w.now success

/-- **The rolling window is the history.**  After every run of a new circuit the metrics count
the outcomes of calls since the last successful trial whose age is at most the rolling window,
and the failures among them.  A call that ends decides by the same two numbers, its own outcome
included, whether the circuit opens.  The outcome of a trial never enters the window. -/
theorem metrics_eq_recent (name : String) (settings : CircuitSettings) (now : Nat)
    (events : List Event) :
    let w := (start name settings now).run events
    ((w.circuit.readMetrics w.now).1.requests = w.recent.length ∧
      (w.circuit.readMetrics w.now).1.errors = w.recent.countP fun m => !m.success) ∧
    (∀ k success, w.permit? k = some ⟨false⟩ →
      (w.step (.record k success)).calls = w.calls ++ [⟨w.now, success⟩] ∧
      (w.step (.record k success)).circuit.phase =
        if w.circuit.phase = .closed ∧
            settings.exceededBy (w.step (.record k success)).recent
          then .opened w.now else w.circuit.phase) ∧
    (∀ k success, w.permit? k = some ⟨true⟩ →
      (w.step (.record k success)).circuit.window = if success then [] else w.circuit.window) ∧
    w.circuit.window <:+ w.calls := by
  intro w
  have h : Tracked w := tracked_run name settings now events
  have hsettings : w.circuit.settings = settings := settings_run name settings now events
  refine ⟨⟨?_, ?_⟩, fun k success hp => ⟨?_, ?_⟩, fun k success hp => ?_, ?_⟩
  · exact congrArg List.length h.prune_window
  · exact congrArg (List.countP fun m => !m.success) h.prune_window
  · rw [step_record hp, calls_note_call]
    rfl
  · rw [← hsettings]
    exact h.phase_record hp success
  · rw [step_record hp]
    exact Circuit.record_trial_window w.circuit w.now success
  · obtain ⟨old, hold, -⟩ := h.window
    exact ⟨old, hold.symm⟩

/-- Two of three outcomes are failures, but the first is too old by the time of the last, so the
circuit stays closed. -/
theorem metrics_eq_recent_after_old_failure :
    let events : List Event :=
      [.acquire, .record 0 false, .advance 15, .acquire, .acquire, .record 1 true, .advance 10]
    let w := (start "c" { volume := 2, errorPercent := 50, rollingWindow := 20 } 0).run events
    (w.circuit.readMetrics w.now).1.requests = 1 ∧
      w.permit? 2 = some ⟨false⟩ ∧
      (w.step (.record 2 false)).calls.length = 3 ∧
      (w.step (.record 2 false)).circuit.phase = .closed := by
  have h := metrics_eq_recent "c" { volume := 2, errorPercent := 50, rollingWindow := 20 } 0
    [.acquire, .record 0 false, .advance 15, .acquire, .acquire, .record 1 true, .advance 10]
  have hp := h.2.1 2 false (by decide)
  exact ⟨h.1.1.trans (by decide), by decide, (congrArg List.length hp.1).trans (by decide),
    hp.2.trans (by decide)⟩

end Watch

end ApiScaffold.Client
