import ApiScaffold.Client.Circuit.Basic

/-!
# What one operation does to a circuit

`Circuit.tryAcquire` reserves a place first, looks at the phase afterwards, and gives the place
back if the phase refuses the call; a circuit that only counts goes on in both cases.
`Circuit.record` either lets the outcome of a trial decide the phase, or puts the outcome of any
other call into the window.  Here all that is said once.

* `Circuit.hasRoom`: a call gets past the number of permits.
* `Circuit.Acquisition`: the four ways in which a request for a permit can end, each with the
  circuit it leaves behind.  `tryAcquire_acquisition`: there are no others.
* `tryAcquire_reframed`: what such a request does not look at.
* `verdict_trial_iff`: when the phase admits a call as the trial.
* `record_trial_phase`, `record_call_phase`, `record_call_window`: the phase and the window after
  an outcome.
* `release_phase`: the phase after a permit that comes back without one.
-/

namespace ApiScaffold.Client.Circuit

/-! ## Asking for a permit -/

/-- Whether a call gets past the number of permits. -/
def hasRoom (c : Circuit) : Prop :=
  c.inFlight < c.settings.maxConcurrent ∨ c.settings.debug = true

instance (c : Circuit) : Decidable c.hasRoom := inferInstanceAs (Decidable (_ ∨ _))

/-- How many refusals are counted for a call that gets past the number of permits. -/
def overflow (c : Circuit) : Nat := if c.inFlight < c.settings.maxConcurrent then 0 else 1

/-- The ways in which a request for a permit can end. -/
inductive Acquisition (c : Circuit) (now : Nat) : Except Rejection Permit × Circuit → Prop
  /-- All permits are taken. -/
  | full : ¬ c.hasRoom →
      Acquisition c now (.error .maxConcurrency, { c with rejected := c.rejected + 1 })
  /-- The phase refuses the call. -/
  | refused {reason : Rejection} : c.hasRoom → c.verdict now = .error reason →
      c.settings.debug = false →
      Acquisition c now (.error reason, { c with rejected := c.rejected + 1 })
  /-- The phase refuses the call, and the circuit only counts. -/
  | tolerated {reason : Rejection} : c.verdict now = .error reason → c.settings.debug = true →
      Acquisition c now (.ok ⟨false⟩,
        { c with inFlight := c.inFlight + 1, rejected := c.rejected + c.overflow + 1 })
  /-- The phase admits the call. -/
  | admitted {permit : Permit} : c.hasRoom → c.verdict now = .ok permit →
      Acquisition c now (.ok permit,
        { c with
          phase := if permit.trial then .halfOpen true else c.phase
          inFlight := c.inFlight + 1
          rejected := c.rejected + c.overflow })

theorem reserve_of_hasRoom {c : Circuit} (h : c.hasRoom) :
    c.reserve = (.ok (),
      { c with inFlight := c.inFlight + 1, rejected := c.rejected + c.overflow }) := by
  rw [reserve, overflow]
  by_cases hlt : c.inFlight < c.settings.maxConcurrent
  · rw [if_pos hlt, if_pos hlt]
    rfl
  · have hd : c.settings.debug = true := h.resolve_left hlt
    rw [if_neg hlt, if_neg hlt, refuse, if_pos hd]

theorem reserve_of_not_hasRoom {c : Circuit} (h : ¬ c.hasRoom) :
    c.reserve = (.error .maxConcurrency, { c with rejected := c.rejected + 1 }) := by
  obtain ⟨hlt, hd⟩ := not_or.mp h
  rw [reserve, if_neg hlt, refuse, if_neg hd]

/-- Reserving a place changes nothing that the phase looks at. -/
theorem verdict_reserved (c : Circuit) (now n m : Nat) :
    verdict { c with inFlight := n, rejected := m } now = c.verdict now := rfl

/-- **Every request for a permit ends in one of the four ways.** -/
theorem tryAcquire_acquisition (c : Circuit) (now : Nat) :
    Acquisition c now (c.tryAcquire now) := by
  by_cases hroom : c.hasRoom
  · rw [tryAcquire, reserve_of_hasRoom hroom]
    simp only [verdict_reserved]
    cases hv : c.verdict now with
    | ok permit =>
      have h := Acquisition.admitted hroom hv
      cases ht : permit.trial with
      | true => simpa only [ht, if_true] using h
      | false => simpa only [ht, Bool.false_eq_true, if_false] using h
    | error reason =>
      cases hd : c.settings.debug with
      | true => simpa only [refuse, hd, if_true] using Acquisition.tolerated hv hd
      | false =>
        have h := Acquisition.refused hroom hv hd
        have ho : c.overflow = 0 := by
          rw [overflow, if_pos (hroom.resolve_right (by simp [hd]))]
        simpa only [refuse, hd, ho, Bool.false_eq_true, if_false, Nat.add_zero,
          Nat.add_sub_cancel] using h
  · rw [tryAcquire, reserve_of_not_hasRoom hroom]
    exact .full hroom

/-- A request for a permit ends in one way only. -/
theorem Acquisition.unique {c : Circuit} {now : Nat} {r r' : Except Rejection Permit × Circuit}
    (h : Acquisition c now r) (h' : Acquisition c now r') : r = r' := by
  cases h with
  | full hfull =>
    cases h' with
    | full _ => rfl
    | refused hroom _ _ => exact absurd hroom hfull
    | tolerated _ hd => exact absurd (.inr hd) hfull
    | admitted hroom _ => exact absurd hroom hfull
  | refused hroom hv hd =>
    cases h' with
    | full hfull => exact absurd hroom hfull
    | refused _ hv' _ => rw [hv] at hv'; cases hv'; rfl
    | tolerated _ hd' => rw [hd] at hd'; cases hd'
    | admitted _ hv' => rw [hv] at hv'; cases hv'
  | tolerated hv hd =>
    cases h' with
    | full hfull => exact absurd (.inr hd) hfull
    | refused _ _ hd' => rw [hd] at hd'; cases hd'
    | tolerated _ _ => rfl
    | admitted _ hv' => rw [hv] at hv'; cases hv'
  | admitted hroom hv =>
    cases h' with
    | full hfull => exact absurd hroom hfull
    | refused _ hv' _ => rw [hv] at hv'; cases hv'
    | tolerated hv' _ => rw [hv] at hv'; cases hv'
    | admitted _ hv' => rw [hv] at hv'; cases hv'; rfl

/-- A circuit with other outcomes in its window, and with more refusals. -/
def reframed (c : Circuit) (window : List Mark) (refusals : Nat) : Circuit :=
  { c with window, rejected := c.rejected + refusals }

/-- **A request for a permit looks neither at the outcomes nor at the number of refusals.** -/
theorem tryAcquire_reframed (c : Circuit) (now n : Nat) (window : List Mark) :
    (c.reframed window n).tryAcquire now =
      ((c.tryAcquire now).1, (c.tryAcquire now).2.reframed window n) := by
  refine ((c.reframed window n).tryAcquire_acquisition now).unique ?_
  have h := c.tryAcquire_acquisition now
  generalize c.tryAcquire now = r at h
  have hsum : ∀ more, c.rejected + more + n = c.rejected + n + more :=
    fun more => Nat.add_right_comm _ _ _
  cases h with
  | full hfull =>
    simp only [reframed, hsum]
    exact .full hfull
  | refused hroom hv hd =>
    simp only [reframed, hsum]
    exact .refused hroom hv hd
  | tolerated hv hd =>
    simp only [reframed, Nat.add_assoc _ c.overflow 1, hsum]
    exact .tolerated hv hd
  | admitted hroom hv =>
    simp only [reframed, hsum]
    exact .admitted hroom hv

/-- Only an open circuit whose sleep window has passed, and a half-open one without a trial,
admit a call as the trial. -/
theorem verdict_trial_iff {c : Circuit} {now : Nat} :
    c.verdict now = .ok ⟨true⟩ ↔
      c.phase = .halfOpen false ∨
        ∃ since, c.phase = .opened since ∧ c.settings.sleepWindow ≤ now - since := by
  cases hp : c.phase with
  | closed => simp [verdict, hp]
  | opened since =>
    by_cases h : c.settings.sleepWindow ≤ now - since <;> simp [verdict, hp, h]
  | halfOpen trial => cases trial <;> simp [verdict, hp]

/-- Only a closed circuit admits a call that is not the trial. -/
theorem verdict_call_iff {c : Circuit} {now : Nat} :
    c.verdict now = .ok ⟨false⟩ ↔ c.phase = .closed := by
  cases hp : c.phase with
  | closed => simp [verdict, hp]
  | opened since =>
    by_cases h : c.settings.sleepWindow ≤ now - since <;> simp [verdict, hp, h]
  | halfOpen trial => cases trial <;> simp [verdict, hp]

/-- A call that gets past the number of permits gets what the phase gives. -/
theorem tryAcquire_of_verdict {c : Circuit} {now : Nat} {permit : Permit} (hroom : c.hasRoom)
    (hv : c.verdict now = .ok permit) : (c.tryAcquire now).1 = .ok permit := by
  have h := c.tryAcquire_acquisition now
  generalize c.tryAcquire now = r at h ⊢
  cases h with
  | full hfull => exact absurd hroom hfull
  | refused _ hr _ => rw [hv] at hr; cases hr
  | tolerated hr _ => rw [hv] at hr; cases hr
  | admitted _ hp => rw [hv] at hp; cases hp; rfl

/-! ## Giving a permit back -/

/-- A circuit whose window has taken in the outcome of a call. -/
def joined (c : Circuit) (now : Nat) (success : Bool) : Circuit :=
  prune { c with window := c.window ++ [⟨now, success⟩] } now

theorem record_trial_phase (c : Circuit) (now : Nat) (success : Bool) :
    (c.record now ⟨true⟩ success).phase = if success then .closed else .opened now := by
  cases success <;> rfl

theorem record_trial_window (c : Circuit) (now : Nat) (success : Bool) :
    (c.record now ⟨true⟩ success).window = if success then [] else c.window := by
  cases success <;> rfl

/-- The outcome of a call moves a circuit only if it is closed and the window is bad. -/
theorem record_call_phase (c : Circuit) (now : Nat) (success : Bool) :
    (c.record now ⟨false⟩ success).phase =
      if c.phase = .closed ∧ (c.joined now success).isFailing = true then .opened now
      else c.phase := by
  simp only [record, recordCall, Bool.false_eq_true, if_false, Bool.and_eq_true, decide_eq_true_eq]
  rw [apply_ite Circuit.phase]
  rfl

/-- A late outcome does not touch a half-open circuit, nor makes one. -/
theorem record_call_halfOpen_iff {c : Circuit} {now : Nat} {success trial : Bool} :
    (c.record now ⟨false⟩ success).phase = .halfOpen trial ↔ c.phase = .halfOpen trial := by
  rw [record_call_phase]
  split
  · rename_i h
    rw [h.1]
    exact ⟨fun h1 => (by cases h1), fun h1 => (by cases h1)⟩
  · exact Iff.rfl

/-- A late outcome does not touch an open circuit, and opens a closed one at its own time. -/
theorem record_call_opened_iff {c : Circuit} {now since : Nat} {success : Bool} :
    (c.record now ⟨false⟩ success).phase = .opened since ↔
      c.phase = .opened since ∨
        (c.phase = .closed ∧ (c.joined now success).isFailing = true) ∧ now = since := by
  rw [record_call_phase]
  split
  · rename_i h
    rw [h.1, Phase.opened.injEq]
    exact ⟨fun h1 => .inr ⟨⟨rfl, h.2⟩, h1⟩, fun h1 => h1.elim (fun h2 => (by cases h2)) (·.2)⟩
  · rename_i h
    exact ⟨.inl, fun h1 => h1.elim id fun h2 => absurd h2.1 h⟩

theorem record_call_window (c : Circuit) (now : Nat) (success : Bool) :
    (c.record now ⟨false⟩ success).window = (c.joined now success).window := by
  simp only [record, recordCall, Bool.false_eq_true, if_false]
  rw [apply_ite Circuit.window]
  exact ite_self _

@[simp] theorem record_settings (c : Circuit) (now : Nat) (p : Permit) (success : Bool) :
    (c.record now p success).settings = c.settings := by
  simp only [record, recordTrial, recordCall]
  split
  · split <;> rfl
  · split <;> rfl

@[simp] theorem record_name (c : Circuit) (now : Nat) (p : Permit) (success : Bool) :
    (c.record now p success).name = c.name := by
  simp only [record, recordTrial, recordCall]
  split
  · split <;> rfl
  · split <;> rfl

@[simp] theorem record_inFlight (c : Circuit) (now : Nat) (p : Permit) (success : Bool) :
    (c.record now p success).inFlight = c.inFlight - 1 := by
  simp only [record, recordTrial, recordCall]
  split
  · split <;> rfl
  · split <;> rfl

/-- A trial that ends without an outcome leaves the place of the trial to another call. -/
theorem release_phase (c : Circuit) (p : Permit) :
    (c.release p).phase =
      if p.trial = true ∧ c.state = .halfOpen then .halfOpen false else c.phase := by
  cases ht : p.trial <;> cases hp : c.phase <;> simp [release, state, Phase.state, ht, hp]

@[simp] theorem release_window (c : Circuit) (p : Permit) : (c.release p).window = c.window := rfl
@[simp] theorem release_settings (c : Circuit) (p : Permit) :
    (c.release p).settings = c.settings := rfl
@[simp] theorem release_name (c : Circuit) (p : Permit) : (c.release p).name = c.name := rfl
@[simp] theorem release_inFlight (c : Circuit) (p : Permit) :
    (c.release p).inFlight = c.inFlight - 1 := rfl

/-! ## What is shown -/

theorem state_eq_closed {c : Circuit} : c.state = .closed ↔ c.phase = .closed := by
  cases h : c.phase <;> simp [state, Phase.state, h]

theorem state_eq_opened {c : Circuit} : c.state = .opened ↔ ∃ since, c.phase = .opened since := by
  cases h : c.phase <;> simp [state, Phase.state, h]

theorem state_eq_halfOpen {c : Circuit} :
    c.state = .halfOpen ↔ ∃ trial, c.phase = .halfOpen trial := by
  cases h : c.phase <;> simp [state, Phase.state, h]

/-- The state after a permit that comes back without an outcome. -/
@[simp] theorem release_state (c : Circuit) (p : Permit) : (c.release p).state = c.state := by
  rw [state, release_phase]
  split
  · rename_i h
    exact h.2.symm
  · rfl

end ApiScaffold.Client.Circuit
