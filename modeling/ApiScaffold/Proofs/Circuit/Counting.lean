import ApiScaffold.Proofs.Circuit.Permits

/-!
# What a circuit that only counts has counted

A circuit that only counts goes on after the first reason to refuse a call.  It lets the call in
past the number of permits and asks the phase all the same, so it comes to the second reason in
states that a circuit that refuses calls never sees, and counts that one as well.

* `Circuit.refuses`, `Circuit.bars`: a call is refused, and the phase is the reason (`bars_iff`).
* `tryAcquire_rejected_of_debug`: **one is counted for every reason.**
* `Watch.IsStrict`: a circuit that stands where the one under watch stands, and refuses calls.
  `IsStrict.refuses_iff`: it refuses a call where there is a reason.
* `rejected_acquire_iff`: **so the count is that of the refusals unless both reasons hold at once**;
  `refused_twice`: then it is not.
-/

namespace ApiScaffold.Client

namespace Circuit

variable {c : Circuit} {now : Nat}

/-- Whether a call that comes in is refused. -/
def refuses (c : Circuit) (now : Nat) : Bool := !(c.tryAcquire now).1.isOk

/-- Whether the phase speaks against a call that comes in. -/
def bars (c : Circuit) (now : Nat) : Bool := !(c.verdict now).isOk

theorem bars_of_ok {permit : Permit} (h : c.verdict now = .ok permit) : c.bars now = false := by
  rw [bars, h]
  rfl

theorem bars_of_error {reason : Rejection} (h : c.verdict now = .error reason) :
    c.bars now = true := by
  rw [bars, h]
  rfl

/-- The phase speaks against a call while the circuit sleeps and while a trial is under way. -/
theorem bars_iff : c.bars now = true ↔
    (∃ since, c.phase = .opened since ∧ now - since < c.settings.sleepWindow) ∨
      c.phase = .halfOpen true := by
  cases hp : c.phase with
  | closed => simp [bars, verdict, hp, Except.isOk, Except.toBool]
  | opened since =>
    by_cases h : c.settings.sleepWindow ≤ now - since
    · simp [bars, verdict, hp, h, Except.isOk, Except.toBool]
    · simpa [bars, verdict, hp, h, Except.isOk, Except.toBool] using Nat.lt_of_not_le h
  | halfOpen trial => cases trial <;> simp [bars, verdict, hp, Except.isOk, Except.toBool]

/-- **A circuit that only counts counts every reason to refuse a call.** -/
theorem tryAcquire_rejected_of_debug (hd : c.settings.debug = true) (now : Nat) :
    (c.tryAcquire now).2.rejected =
      c.rejected + c.overflow + if c.bars now = true then 1 else 0 := by
  have h := c.tryAcquire_acquisition now
  generalize c.tryAcquire now = r at h ⊢
  cases h with
  | full hfull => exact absurd (.inr hd) hfull
  | refused _ _ hd' => rw [hd] at hd'; cases hd'
  | tolerated hv _ => rw [if_pos (bars_of_error hv)]
  | admitted _ hv => rw [bars_of_ok hv, if_neg Bool.false_ne_true]; rfl

/-- A circuit that refuses calls does so where there is a reason. -/
theorem refuses_iff_of_not_debug (hd : c.settings.debug = false) :
    c.refuses now = true ↔ c.settings.maxConcurrent ≤ c.inFlight ∨ c.bars now = true := by
  have h := c.tryAcquire_acquisition now
  rw [refuses]
  generalize c.tryAcquire now = r at h ⊢
  cases h with
  | full hfull => exact iff_of_true rfl (.inl (Nat.le_of_not_lt fun hlt => hfull (.inl hlt)))
  | refused _ hv _ => exact iff_of_true rfl (.inr (bars_of_error hv))
  | tolerated _ hd' => rw [hd] at hd'; cases hd'
  | admitted hroom hv =>
    refine iff_of_false Bool.false_ne_true ?_
    rintro (hfull | hbars)
    · exact absurd (lt_of_hasRoom hroom hd) (Nat.not_lt_of_le hfull)
    · rw [bars_of_ok hv] at hbars
      cases hbars

end Circuit

namespace Watch

/-- A circuit that refuses calls and stands where the one under watch stands: in the same phase, and
with as many calls in flight as there are permits out. -/
structure IsStrict (strict : Circuit) (w : Watch) : Prop where
  settings : strict.settings = { w.circuit.settings with debug := false }
  phase : strict.phase = w.circuit.phase
  inFlight : strict.inFlight = w.live.length

variable {w : Watch} {strict : Circuit}

theorem IsStrict.bars_eq (h : IsStrict strict w) (now : Nat) :
    strict.bars now = w.circuit.bars now := by
  rw [Circuit.bars, Circuit.bars, Circuit.verdict, Circuit.verdict, h.phase, h.settings]

theorem IsStrict.refuses_iff (h : IsStrict strict w) (now : Nat) :
    strict.refuses now = true ↔
      w.circuit.settings.maxConcurrent ≤ w.live.length ∨ w.circuit.bars now = true := by
  have hd : strict.settings.debug = false := by rw [h.settings]
  rw [Circuit.refuses_iff_of_not_debug hd, h.bars_eq, h.inFlight, h.settings]

/-- A call is counted once if there is no permit for it, and once if the phase speaks against it. -/
theorem Kept.rejected_acquire (h : Kept w) (hd : w.circuit.settings.debug = true) :
    (w.step .acquire).circuit.rejected = w.circuit.rejected
      + (if w.circuit.settings.maxConcurrent ≤ w.live.length then 1 else 0)
      + (if w.circuit.bars w.now = true then 1 else 0) := by
  rw [circuit_step_acquire, Circuit.tryAcquire_rejected_of_debug hd, Circuit.overflow, h.inFlight]
  simp only [← Nat.not_le, ite_not]

/-- A call is counted as often as it would be refused, unless both reasons to refuse it hold. -/
theorem Kept.counted_once_iff (h : Kept w) (hd : w.circuit.settings.debug = true)
    (hstrict : IsStrict strict w) :
    (w.step .acquire).circuit.rejected =
        w.circuit.rejected + (if strict.refuses w.now = true then 1 else 0) ↔
      ¬(w.circuit.settings.maxConcurrent ≤ w.live.length ∧ w.circuit.bars w.now = true) := by
  rw [h.rejected_acquire hd]
  simp only [hstrict.refuses_iff]
  by_cases hfull : w.circuit.settings.maxConcurrent ≤ w.live.length
  · by_cases hbars : w.circuit.bars w.now = true
    · simp [hfull, hbars]
    · simp [hfull, hbars]
  · by_cases hbars : w.circuit.bars w.now = true
    · simp [hfull, hbars]
    · simp [hfull, hbars]

/-- **When a circuit that only counts has counted right.**  After every run of a new circuit that
only counts, and for every circuit that stands where it stands and refuses calls, the next call is
counted once if as many permits are out as there may be, and once if the phase speaks against it;
the other circuit refuses it if there is one of these reasons.  So what is counted is one for a call
that would be refused, and nothing for any other one, unless both reasons hold at once. -/
theorem rejected_acquire_iff (name : String) (settings : CircuitSettings) (now : Nat)
    (events : List Event) (hdebug : settings.debug = true) (strict : Circuit)
    (hstrict : IsStrict strict ((start name settings now).run events)) :
    let w := (start name settings now).run events
    (w.step .acquire).circuit.rejected = w.circuit.rejected
        + (if settings.maxConcurrent ≤ w.live.length then 1 else 0)
        + (if w.circuit.bars w.now = true then 1 else 0) ∧
      (strict.refuses w.now = true ↔
        settings.maxConcurrent ≤ w.live.length ∨ w.circuit.bars w.now = true) ∧
      ((w.step .acquire).circuit.rejected =
          w.circuit.rejected + (if strict.refuses w.now = true then 1 else 0) ↔
        ¬(settings.maxConcurrent ≤ w.live.length ∧ w.circuit.bars w.now = true)) := by
  intro w
  have h : Kept w := kept_run name settings now events
  have hsettings : w.circuit.settings = settings := settings_run name settings now events
  rw [← hsettings] at hdebug ⊢
  exact ⟨h.rejected_acquire hdebug, hstrict.refuses_iff w.now, h.counted_once_iff hdebug hstrict⟩

/-- A circuit with one permit that opens at its first failure, and only counts. -/
def countingSettings : CircuitSettings :=
  { maxConcurrent := 1, volume := 1, errorPercent := 50, debug := true }

/-- The first call that comes in while the circuit sleeps is counted once. -/
theorem rejected_acquire_iff_sleeping :
    let w := (start "c" countingSettings 0).run [.acquire, .record 0 false]
    let strict : Circuit := { w.circuit with settings := { countingSettings with debug := false } }
    IsStrict strict w ∧ strict.refuses w.now = true ∧
      (w.step .acquire).circuit.rejected = w.circuit.rejected + 1 := by
  intro w strict
  have hstrict : IsStrict strict w := ⟨rfl, rfl, by decide⟩
  obtain ⟨-, hrefuses, hcounted⟩ := rejected_acquire_iff "c" countingSettings 0
    [.acquire, .record 0 false] rfl strict hstrict
  have hrefused : strict.refuses w.now = true := hrefuses.mpr (.inr (by decide))
  have hone := hcounted.mpr (by decide)
  exact ⟨hstrict, hrefused, hone.trans (congrArg (w.circuit.rejected + ·) (if_pos hrefused))⟩

/-- **The second call is counted twice**, though it would be refused once. -/
theorem refused_twice :
    let w := (start "c" countingSettings 0).run [.acquire, .record 0 false, .acquire]
    let strict : Circuit := { w.circuit with settings := { countingSettings with debug := false } }
    IsStrict strict w ∧ (strict.tryAcquire w.now).1 = .error .maxConcurrency ∧
      (strict.tryAcquire w.now).2.rejected = w.circuit.rejected + 1 ∧
      (w.step .acquire).circuit.rejected = w.circuit.rejected + 2 := by
  intro w strict
  refine ⟨⟨rfl, rfl, by decide⟩, ?_, ?_, ?_⟩
  all_goals decide

end Watch

end ApiScaffold.Client
