import ApiScaffold.Proofs.Circuit.Trial

/-!
# The number of permits

A circuit counts the calls in flight.  `Kept` says that the number is that of the permits that are
out; here it meets the limit.  A call reserves its place before the phase is asked, and a circuit
that only counts lets it in past the limit, so the limit is shown for the reserved place as well
(`reserve_bounded`).

* `Circuit.IsBounded`: a circuit that refuses calls has no more of them in flight than it may
  have.  No operation breaks this (`IsBounded.tryAcquire`, `IsBounded.of_inFlight_le`).
* `tryAcquire_maxConcurrency_iff`: a call is refused for want of a permit exactly where there is no
  room, for the phase has other reasons.
* `permits_accounted`: so the counter is right after every run.
-/

namespace ApiScaffold.Client

namespace Circuit

variable {c : Circuit} {now : Nat}

/-! ## Refusals -/

theorem verdict_ne_maxConcurrency (c : Circuit) (now : Nat) :
    c.verdict now ≠ .error .maxConcurrency := by
  intro h
  rw [verdict] at h
  split at h
  · cases h
  · split at h <;> cases h
  · cases h
  · cases h

/-- A call is refused for want of a permit exactly where there is no room for it. -/
theorem tryAcquire_maxConcurrency_iff :
    (c.tryAcquire now).1 = .error .maxConcurrency ↔ ¬ c.hasRoom := by
  have h := c.tryAcquire_acquisition now
  generalize c.tryAcquire now = r at h ⊢
  cases h with
  | full hfull => exact ⟨fun _ => hfull, fun _ => rfl⟩
  | refused hroom hv _ =>
    refine ⟨fun he => ?_, fun hfull => absurd hroom hfull⟩
    cases he
    exact absurd hv (c.verdict_ne_maxConcurrency now)
  | tolerated _ hd => exact ⟨fun he => (by cases he), fun hfull => absurd (Or.inr hd) hfull⟩
  | admitted hroom _ => exact ⟨fun he => (by cases he), fun hfull => absurd hroom hfull⟩

/-- A circuit that only counts admits every call. -/
theorem tryAcquire_of_debug (hd : c.settings.debug = true) (now : Nat) :
    ∃ permit, (c.tryAcquire now).1 = .ok permit := by
  have h := c.tryAcquire_acquisition now
  generalize c.tryAcquire now = r at h ⊢
  cases h with
  | full hfull => exact absurd (.inr hd) hfull
  | refused _ _ hd' => rw [hd] at hd'; cases hd'
  | tolerated _ _ => exact ⟨⟨false⟩, rfl⟩
  | @admitted permit _ _ => exact ⟨permit, rfl⟩

/-! ## The limit -/

/-- A circuit that refuses calls has no more of them in flight than it may have. -/
def IsBounded (c : Circuit) : Prop :=
  c.settings.debug = false → c.inFlight ≤ c.settings.maxConcurrent

/-- A circuit that refuses calls has room for one more only below its limit. -/
theorem lt_of_hasRoom (hroom : c.hasRoom) (hd : c.settings.debug = false) :
    c.inFlight < c.settings.maxConcurrent :=
  hroom.resolve_right fun hd' => by rw [hd] at hd'; cases hd'

/-- A reserved place is one more, and within the limit before the phase has been asked. -/
theorem reserve_bounded {c' : Circuit} (h : c.reserve = (.ok (), c')) :
    c'.inFlight = c.inFlight + 1 ∧
      (c.settings.debug = false → c'.inFlight ≤ c.settings.maxConcurrent) := by
  by_cases hroom : c.hasRoom
  · rw [reserve_of_hasRoom hroom] at h
    cases h
    exact ⟨rfl, fun hd => lt_of_hasRoom hroom hd⟩
  · rw [reserve_of_not_hasRoom hroom] at h
    cases h

theorem IsBounded.tryAcquire (h : c.IsBounded) (now : Nat) : (c.tryAcquire now).2.IsBounded := by
  have hacq := c.tryAcquire_acquisition now
  generalize c.tryAcquire now = r at hacq ⊢
  cases hacq with
  | full _ => exact h
  | refused _ _ _ => exact h
  | tolerated _ hd => exact fun hd' => by rw [hd] at hd'; cases hd'
  | admitted hroom _ => exact fun hd => lt_of_hasRoom hroom hd

/-- An operation that takes no place keeps the limit. -/
theorem IsBounded.of_inFlight_le {c' : Circuit} (h : c.IsBounded)
    (hsettings : c'.settings = c.settings) (hle : c'.inFlight ≤ c.inFlight) : c'.IsBounded := by
  intro hd
  rw [hsettings] at hd ⊢
  exact Nat.le_trans hle (h hd)

end Circuit

namespace Watch

theorem circuit_step_acquire (w : Watch) :
    (w.step .acquire).circuit = (w.circuit.tryAcquire w.now).2 := by
  rw [step]
  generalize w.circuit.tryAcquire w.now = r
  obtain ⟨answer, c⟩ := r
  cases answer <;> rfl

/-- **Every step keeps the limit.** -/
theorem isBounded_step {w : Watch} (h : w.circuit.IsBounded) (e : Event) :
    (w.step e).circuit.IsBounded := by
  cases e with
  | acquire => rw [circuit_step_acquire]; exact h.tryAcquire w.now
  | record k success =>
    cases hp : w.permit? k with
    | none => rwa [step_record_none hp]
    | some p =>
      refine h.of_inFlight_le (settings_step w _) ?_
      rw [step_record hp, note_circuit, giveBack_circuit, moveTo_circuit, Circuit.record_inFlight]
      exact Nat.sub_le _ _
  | drop k =>
    cases hp : w.permit? k with
    | none => rwa [step_drop_none hp]
    | some p =>
      refine h.of_inFlight_le (settings_step w _) ?_
      rw [step_drop hp, giveBack_circuit, moveTo_circuit, Circuit.release_inFlight]
      exact Nat.sub_le _ _
  | readMetrics => exact h
  | advance span => exact h

theorem isBounded_run (name : String) (settings : CircuitSettings) (now : Nat)
    (events : List Event) : ((start name settings now).run events).circuit.IsBounded :=
  run_induction (P := fun w => w.circuit.IsBounded) (fun _ e h => isBounded_step h e) events _
    fun _ => Nat.zero_le _

/-- While a permit is out, the counter can go down by one. -/
theorem Kept.inFlight_pos {w : Watch} (h : Kept w) {k : Nat} {p : Permit}
    (hp : w.permit? k = some p) : 0 < w.circuit.inFlight := by
  rw [h.inFlight, length_live_giveBack hp]
  exact Nat.succ_pos _

/-- Where calls are refused, one lacks a permit exactly if as many are out as there may be. -/
theorem Kept.not_hasRoom_iff {w : Watch} (h : Kept w) (hbound : w.circuit.IsBounded)
    (hd : w.circuit.settings.debug = false) :
    ¬ w.circuit.hasRoom ↔ w.live.length = w.circuit.settings.maxConcurrent := by
  have hle := hbound hd
  rw [h.inFlight] at hle
  constructor
  · intro hfull
    have hge := Nat.le_of_not_lt fun hlt => hfull (.inl hlt)
    rw [h.inFlight] at hge
    exact Nat.le_antisymm hle hge
  · intro heq hroom
    have hlt := Circuit.lt_of_hasRoom hroom hd
    rw [h.inFlight, heq] at hlt
    exact Nat.lt_irrefl _ hlt

/-- **The counter of permits is right.**  After every run of a new circuit the calls in flight are
as many as the permits that are out, and the counter is above zero whenever a permit comes back,
or the place that was reserved for a refused call.  A circuit that refuses calls never has more of
them in flight than it may have, the reserved places included, and it refuses one for want of a
permit exactly if so many permits are out.  A circuit that only counts refuses none. -/
theorem permits_accounted (name : String) (settings : CircuitSettings) (now : Nat)
    (events : List Event) :
    let w := (start name settings now).run events
    w.circuit.inFlight = w.live.length ∧
    (∀ k permit, w.permit? k = some permit → 0 < w.circuit.inFlight) ∧
    (∀ c, w.circuit.reserve = (.ok (), c) → c.inFlight = w.circuit.inFlight + 1 ∧
      (settings.debug = false → c.inFlight ≤ settings.maxConcurrent)) ∧
    (settings.debug = false → w.circuit.inFlight ≤ settings.maxConcurrent ∧
      ((w.circuit.tryAcquire w.now).1 = .error .maxConcurrency ↔
        w.live.length = settings.maxConcurrent)) ∧
    (settings.debug = true → ∃ permit, (w.circuit.tryAcquire w.now).1 = .ok permit) := by
  intro w
  have h : Kept w := kept_run name settings now events
  have hbound : w.circuit.IsBounded := isBounded_run name settings now events
  have hsettings : w.circuit.settings = settings := settings_run name settings now events
  rw [← hsettings]
  refine ⟨h.inFlight, fun k permit hp => h.inFlight_pos hp,
    fun c hc => Circuit.reserve_bounded hc, fun hd => ⟨hbound hd, ?_⟩,
    fun hd => Circuit.tryAcquire_of_debug hd w.now⟩
  exact Circuit.tryAcquire_maxConcurrency_iff.trans (h.not_hasRoom_iff hbound hd)

/-- Two of two permits are out.  Then a call fails, the circuit opens, and a place is reserved for
a call that it refuses.  A circuit that only counts lets in a call beyond its one permit. -/
theorem permits_accounted_when_opened :
    let settings : CircuitSettings := { maxConcurrent := 2, volume := 1, errorPercent := 50 }
    let full := (start "c" settings 0).run [.acquire, .acquire]
    let opened := (start "c" settings 0).run [.acquire, .acquire, .record 0 false, .acquire]
    let lenient : CircuitSettings := { maxConcurrent := 1, debug := true }
    let counting := (start "c" lenient 0).run [.acquire]
    (full.circuit.tryAcquire full.now).1 = .error .maxConcurrency ∧
      0 < opened.circuit.inFlight ∧ opened.circuit.inFlight ≤ 2 ∧
      (∀ c, opened.circuit.reserve = (.ok (), c) → c.inFlight = 2) ∧
      ∃ permit, (counting.circuit.tryAcquire counting.now).1 = .ok permit := by
  have hfull := permits_accounted "c" { maxConcurrent := 2, volume := 1, errorPercent := 50 } 0
    [.acquire, .acquire]
  obtain ⟨-, hpos, hreserve, hlimit, -⟩ :=
    permits_accounted "c" { maxConcurrent := 2, volume := 1, errorPercent := 50 } 0
      [.acquire, .acquire, .record 0 false, .acquire]
  have hcounting := permits_accounted "c" { maxConcurrent := 1, debug := true } 0 [.acquire]
  exact ⟨(hfull.2.2.2.1 rfl).2.mpr (by decide), hpos 1 ⟨false⟩ (by decide), (hlimit rfl).1,
    fun c hc => (hreserve c hc).1, hcounting.2.2.2.2 rfl⟩

end Watch

end ApiScaffold.Client
