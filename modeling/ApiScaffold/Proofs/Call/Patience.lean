import ApiScaffold.Proofs.Call.Deadline

/-!
# A call with and without its deadline

`Call.patient` is the same call by a caller who waits for ever.  The two go alike, segment by
segment, up to the deadline: an attempt or a pause that ends before it is the same in both, and
the segment into which it falls is where they part.  `Course.Under` says how: a course that ends
before the deadline is left as it is, and any other ends at the deadline.

An attempt is counted from one, and a policy allows no other one after the last
(`decision_of_last`), so the bound on the attempts that may follow is never what ends a call.  The
induction over the attempts carries that bound.

* `run_of_stop`, `run_of_again`: the run while patience lasts, the same for both calls.
* `run_of_cut_attempt`, `run_of_cut_pause`: the run in the segment into which the deadline falls.
* `run_under`, `course_under`: so a deadline leaves a course alone or ends it.
* `start_lt_deadline`: no attempt starts at the deadline or after it.
* `run_of_expired`: a run that starts behind its deadline is one attempt.
-/

namespace ApiScaffold.Client

/-! ## Patience -/

namespace CallOptions

variable {o : CallOptions} {start finish d : Nat}

/-- The same options for a caller who waits for ever. -/
def patient (o : CallOptions) : CallOptions := { o with deadline := none, cancelAt := none }

/-- Whether the caller neither gives up nor has a deadline by a moment. -/
def WaitsBeyond (o : CallOptions) (time : Nat) : Prop :=
  (∀ t ∈ o.cancelAt, time < t) ∧ ∀ d ∈ o.deadline, time < d

theorem waitsBeyond_patient (o : CallOptions) (time : Nat) : o.patient.WaitsBeyond time :=
  ⟨fun t ht => (by cases ht), fun d hd => (by cases hd)⟩

theorem WaitsBeyond.mono (h : o.WaitsBeyond finish) (hle : start ≤ finish) :
    o.WaitsBeyond start :=
  ⟨fun t ht => Nat.lt_of_le_of_lt hle (h.1 t ht), fun d hd => Nat.lt_of_le_of_lt hle (h.2 d hd)⟩

theorem filter_le_eq_none {c : Option Nat} (h : ∀ t ∈ c, finish < t) :
    c.filter (· ≤ finish) = none :=
  Option.filter_eq_none_iff.mpr fun t ht => by simpa using h t ht

theorem WaitsBeyond.isCancelled (h : o.WaitsBeyond finish) : o.isCancelled finish = false :=
  isCancelled_of_filter (filter_le_eq_none h.1)

theorem WaitsBeyond.isExpired (h : o.WaitsBeyond finish) : o.isExpired finish = false := by
  rw [CallOptions.isExpired]
  cases hd : o.deadline with
  | none => rfl
  | some d => exact decide_eq_false (Nat.not_le.mpr (h.2 d hd))

/-- A segment that ends while patience lasts is not cut short. -/
theorem WaitsBeyond.interruption? (h : o.WaitsBeyond finish) (start : Nat) :
    o.interruption? start finish = none := by
  have hexpiry : o.deadline.filter (· < finish) = none :=
    Option.filter_eq_none_iff.mpr fun d hd => by simpa using Nat.le_of_lt (h.2 d hd)
  rw [CallOptions.interruption?, filter_le_eq_none h.1, hexpiry]
  split <;> rfl

/-- A deadline that falls into a segment cuts it short. -/
theorem interruption?_of_deadline (hd : o.deadline = some d) (hlive : ∀ t ∈ o.cancelAt, d < t)
    (hstart : start < d) (hfinish : d < finish) :
    o.interruption? start finish = some (d, .deadlineExceeded) := by
  have hexpiry : (o.deadline.filter (· < finish)).map (max start) = some d := by
    rw [hd, Option.filter_some, if_pos (decide_eq_true hfinish), Option.map_some,
      Nat.max_eq_right (Nat.le_of_lt hstart)]
  rw [CallOptions.interruption?, if_neg (Nat.not_le.mpr (Nat.lt_trans hstart hfinish)), hexpiry]
  cases hc : o.cancelAt.filter (· ≤ finish) with
  | none => rfl
  | some t =>
    have ht : d < t := hlive t (Option.filter_eq_some_iff.mp hc).1
    exact if_neg (Nat.not_le.mpr ht)

/-- Behind a deadline nothing lasts, unless it takes no time. -/
theorem interruption?_of_expired (hd : o.deadline = some d) (hlive : o.isCancelled start = false)
    (hpast : d ≤ start) (finish : Nat) :
    o.interruption? start finish =
      if finish ≤ start then none else some (start, .deadlineExceeded) := by
  rw [CallOptions.interruption?]
  by_cases hle : finish ≤ start
  · rw [if_pos hle, if_pos hle]
  · rw [if_neg hle, if_neg hle]
    have hexpiry : (o.deadline.filter (· < finish)).map (max start) = some start := by
      have hlt : d < finish := Nat.lt_of_le_of_lt hpast (Nat.lt_of_not_le hle)
      rw [hd, Option.filter_some, if_pos (decide_eq_true hlt), Option.map_some,
        Nat.max_eq_left hpast]
    rw [hexpiry]
    cases hc : o.cancelAt.filter (· ≤ finish) with
    | none => rfl
    | some t =>
      have ht : ¬t ≤ start := by
        rw [CallOptions.isCancelled, (Option.filter_eq_some_iff.mp hc).1] at hlive
        simpa using hlive
      simp only [if_neg ht]

end CallOptions

/-- What a deadline makes of a course: it leaves it alone, or ends it. -/
inductive Course.Under (d : Nat) (free : Course) : Course → Prop
  | spared : free.finish < d → Under d free free
  | expired {attempts : List Attempt} : d < free.finish →
      Under d free ⟨attempts, d, none, .error .deadlineExceeded⟩

namespace Course.Under

variable {d : Nat} {free c : Course}

theorem after (h : free.Under d c) (a : Attempt) : (free.after a).Under d (c.after a) := by
  cases h with
  | spared hlt => exact .spared hlt
  | expired hlt => exact .expired hlt

theorem eq_of_finish_lt (h : free.Under d c) (hlt : free.finish < d) : c = free := by
  cases h with
  | spared _ => rfl
  | expired hgt => exact absurd hlt (Nat.lt_asymm hgt)

theorem expired_of_lt_finish (h : free.Under d c) (hlt : d < free.finish) :
    c.outcome = .error .deadlineExceeded ∧ c.finish = d := by
  cases h with
  | spared hgt => exact absurd hlt (Nat.lt_asymm hgt)
  | expired _ => exact ⟨rfl, rfl⟩

end Course.Under

namespace Call

/-- The same call by a caller who waits for ever. -/
def patient (c : Call) : Call := { c with options := c.options.patient }

/-- The moments at which the attempts and pauses of a call end if nobody cuts them short. -/
def allEnds (c : Call) (now : Nat) : List Nat := c.ends (c.effectivePolicy.maxAttempts - 1) 1 now

/-- An attempt that nobody cuts short. -/
def wholeAttempt (c : Call) (number now : Nat) : Attempt :=
  let span := c.parent.child (c.tracer.spanId number)
  match c.tracer.inject span c.request.headers with
  | .error reason => ⟨now, c.spanName, span, none, some (.failure reason)⟩
  | .ok headers =>
    ⟨now, c.spanName, span, some { c.request with headers },
      some (.ofOutcome (c.reply number now).2)⟩

variable {c : Call} {d more number now : Nat}

/-- When attempts and pauses end does not hang on who waits for them. -/
theorem ends_patient : ∀ (more number now : Nat),
    c.patient.ends more number now = c.ends more number now := by
  intro more
  induction more with
  | zero => intro number now; rfl
  | succ more ih =>
    intro number now
    have hlater : c.patient.later (more + 1) number now = c.later (more + 1) number now :=
      ih (number + 1) (c.resume number now)
    rw [ends_eq, ends_eq, rest, rest, hlater]
    rfl

theorem allEnds_patient (c : Call) (now : Nat) : c.patient.allEnds now = c.allEnds now :=
  ends_patient _ 1 now

/-- No policy asks for more attempts than it allows. -/
theorem decision_of_last (h : c.effectivePolicy.maxAttempts ≤ number) :
    (c.decision number now).retry = false := by
  rw [decision]
  cases hp : c.effectivePolicy with
  | never => rfl
  | once pause =>
    rw [hp] at h
    simp [RetryPolicy.decide, show 2 ≤ number from h, RetryDecision.stop]
  | bounded n =>
    rw [hp] at h
    simp [RetryPolicy.decide, RetryPolicy.decideBounded, show n ≤ number from h,
      RetryDecision.stop]
  | exponential n initial multiplier longest =>
    rw [hp] at h
    simp [RetryPolicy.decide, RetryPolicy.decideBounded, show n ≤ number from h,
      RetryDecision.stop]
  | custom n rule =>
    rw [hp] at h
    simp [RetryPolicy.decide, show n ≤ number from h, RetryDecision.stop]

/-! ## While patience lasts -/

theorem attempt_eq_wholeAttempt
    (h : c.options.interruption? now (c.reply number now).1 = none) :
    (c.attempt number now).1 = c.wholeAttempt number now := by
  rw [attempt, wholeAttempt, reply]
  rw [reply] at h
  cases hi : c.tracer.inject (c.parent.child (c.tracer.spanId number)) c.request.headers with
  | error reason => rfl
  | ok headers =>
    simp only [hi] at h
    simp only [h]

theorem run_of_stop (h : c.options.WaitsBeyond (c.reply number now).1)
    (hstop : (c.decision number now).retry = false) (more : Nat) :
    c.run more number now =
      .settle (c.wholeAttempt number now) (c.reply number now).1 (c.reply number now).2 := by
  have hwhole := h.interruption? now
  rw [run_eq, hwhole, following_stop (.inl hstop), attempt_eq_wholeAttempt hwhole]
  cases more <;> rfl

theorem run_of_again (h : c.options.WaitsBeyond (c.resume number now))
    (hretry : (c.decision number now).retry = true) (more : Nat) :
    c.run (more + 1) number now =
      (c.run more (number + 1) (c.resume number now)).after
        (c.wholeAttempt number now) := by
  have hreply := h.mono (c.reply_le_resume number now)
  have hwhole := hreply.interruption? now
  rw [run_eq, hwhole, following_pause hretry hreply.isCancelled hreply.isExpired,
    h.interruption? _, attempt_eq_wholeAttempt hwhole]
  simp only [h.isExpired, Bool.false_eq_true, if_false]
  rfl

/-! ## Where the deadline falls -/

section Deadline

variable (hd : c.options.deadline = some d) (hlive : ∀ t ∈ c.options.cancelAt, d < t)
include hd hlive

theorem run_of_cut_attempt (hnow : now < d) (hcut : d < (c.reply number now).1) (more : Nat) :
    c.run more number now = .abandon (c.attempt number now).1 d .deadlineExceeded := by
  rw [run_eq, CallOptions.interruption?_of_deadline hd hlive hnow hcut]

theorem run_of_cut_pause (hretry : (c.decision number now).retry = true)
    (hreply : (c.reply number now).1 < d) (hcut : d < c.resume number now) (more : Nat) :
    c.run more number now = .abandon (c.attempt number now).1 d .deadlineExceeded := by
  have hwaits : c.options.WaitsBeyond (c.reply number now).1 := by
    refine ⟨fun t ht => Nat.lt_trans hreply (hlive t ht), fun d' hd' => ?_⟩
    rw [hd] at hd'
    cases hd'
    exact hreply
  rw [run_eq, hwaits.interruption? now,
    following_pause hretry hwaits.isCancelled hwaits.isExpired,
    CallOptions.interruption?_of_deadline hd hlive hreply hcut]
  cases more <;> rfl

end Deadline

/-- A run that starts behind its deadline is one attempt, which has no time. -/
theorem run_of_expired (hd : c.options.deadline = some d)
    (hlive : c.options.isCancelled now = false) (hpast : d ≤ now) (more number : Nat) :
    c.run more number now =
      if (c.reply number now).1 = now then
        .settle (c.attempt number now).1 now (c.reply number now).2
      else .abandon (c.attempt number now).1 now .deadlineExceeded := by
  have hle := c.le_reply number now
  rw [run_eq, CallOptions.interruption?_of_expired hd hlive hpast]
  by_cases hat : (c.reply number now).1 = now
  · have hexp : c.options.isExpired (c.reply number now).1 = true := by
      rw [hat, CallOptions.isExpired, hd]
      exact decide_eq_true hpast
    rw [if_pos (Nat.le_of_eq hat), if_pos hat, following_stop (.inr hexp), hat]
    cases more <;> rfl
  · rw [if_neg fun h => hat (Nat.le_antisymm h hle), if_neg hat]

/-! ## The two calls -/

/-- A call that is tried again has attempts left. -/
theorem exists_more_of_retry (hmax : c.effectivePolicy.maxAttempts ≤ number + more)
    (hretry : (c.decision number now).retry = true) :
    ∃ fewer, more = fewer + 1 ∧ c.effectivePolicy.maxAttempts ≤ number + 1 + fewer := by
  cases more with
  | zero =>
    have hlast : c.effectivePolicy.maxAttempts ≤ number := hmax
    rw [decision_of_last hlast] at hretry
    cases hretry
  | succ fewer => exact ⟨fewer, rfl, by omega⟩

/-- The attempts of a caller who waits for ever, by what the policy says after the first. -/
theorem run_patient (now : Nat) (hmax : c.effectivePolicy.maxAttempts ≤ number + more) :
    ((c.decision number now).retry = false ∧
      c.patient.run more number now =
        .settle (c.wholeAttempt number now) (c.reply number now).1 (c.reply number now).2) ∨
    ((c.decision number now).retry = true ∧ ∃ fewer, more = fewer + 1 ∧
      c.effectivePolicy.maxAttempts ≤ number + 1 + fewer ∧
      c.patient.run more number now =
        (c.patient.run fewer (number + 1) (c.resume number now)).after
          (c.wholeAttempt number now)) := by
  cases hretry : (c.decision number now).retry with
  | false =>
    exact .inl ⟨rfl, run_of_stop (c := c.patient) (c.options.waitsBeyond_patient _) hretry more⟩
  | true =>
    obtain ⟨fewer, rfl, hfewer⟩ := exists_more_of_retry hmax hretry
    exact .inr ⟨rfl, fewer, rfl, hfewer,
      run_of_again (c := c.patient) (c.options.waitsBeyond_patient _) hretry fewer⟩

/-- A caller who waits for ever gets the first reply at least. -/
theorem reply_le_finish : ∀ (more number now : Nat),
    c.effectivePolicy.maxAttempts ≤ number + more →
    (c.reply number now).1 ≤ (c.patient.run more number now).finish := by
  intro more
  induction more with
  | zero =>
    intro number now hmax
    rcases run_patient now hmax with ⟨-, hrun⟩ | ⟨-, fewer, hfewer, -⟩
    · rw [hrun]
      exact Nat.le_refl _
    · cases hfewer
  | succ more ih =>
    intro number now hmax
    rcases run_patient now hmax with ⟨-, hrun⟩ | ⟨-, fewer, hfewer, hmax', hrun⟩
    · rw [hrun]
      exact Nat.le_refl _
    · cases hfewer
      rw [hrun]
      calc (c.reply number now).1
          ≤ c.resume number now := c.reply_le_resume number now
        _ ≤ (c.reply (number + 1) (c.resume number now)).1 := c.le_reply _ _
        _ ≤ _ := ih (number + 1) (c.resume number now) hmax'

/-- A caller who waits for ever, and whose call is tried again, waits beyond the pause. -/
theorem resume_le_finish (hmax : c.effectivePolicy.maxAttempts ≤ number + more)
    (hretry : (c.decision number now).retry = true) :
    c.resume number now ≤ (c.patient.run more number now).finish := by
  rcases run_patient now hmax with ⟨hstop, -⟩ | ⟨-, fewer, -, hmax', hrun⟩
  · rw [hstop] at hretry
    cases hretry
  · rw [hrun]
    exact Nat.le_trans (c.le_reply _ _) (reply_le_finish fewer _ _ hmax')

/-- Whether the caller has not given up when the call ends, at its deadline or before it. -/
def Persists (c : Call) (d : Nat) (free : Course) : Prop :=
  ∀ t ∈ c.options.cancelAt, min d free.finish < t

theorem waitsBeyond_of_persists {free : Course} {time : Nat} (hd : c.options.deadline = some d)
    (hlive : c.Persists d free) (hbefore : time < d) (hle : time ≤ free.finish) :
    c.options.WaitsBeyond time := by
  refine ⟨fun t ht => Nat.lt_of_le_of_lt (Nat.le_min.mpr ⟨Nat.le_of_lt hbefore, hle⟩)
    (hlive t ht), fun d' hd' => ?_⟩
  rw [hd] at hd'
  cases hd'
  exact hbefore

theorem lt_of_persists {free : Course} (hlive : c.Persists d free) (hlt : d < free.finish) :
    ∀ t ∈ c.options.cancelAt, d < t :=
  fun t ht => Nat.lt_of_le_of_lt (Nat.le_min.mpr ⟨Nat.le_refl _, Nat.le_of_lt hlt⟩) (hlive t ht)

/-- The attempts from the next one on end as the deadline has it. -/
def UnderLater (c : Call) (d more number : Nat) : Prop :=
  ∀ fewer start, more = fewer + 1 → c.effectivePolicy.maxAttempts ≤ number + 1 + fewer →
    start < d → d ∉ c.ends fewer (number + 1) start →
    c.Persists d (c.patient.run fewer (number + 1) start) →
    (c.patient.run fewer (number + 1) start).Under d (c.run fewer (number + 1) start)

/-- **The attempts from one on end as the deadline has it**, if those from the next one on do. -/
theorem under_step (hd : c.options.deadline = some d) (hlater : c.UnderLater d more number)
    (hmax : c.effectivePolicy.maxAttempts ≤ number + more) (hnow : now < d)
    (hends : d ∉ c.ends more number now)
    (hlive : c.Persists d (c.patient.run more number now)) :
    (c.patient.run more number now).Under d (c.run more number now) := by
  have hreply := reply_le_finish (c := c) more number now hmax
  rw [ends_eq, List.mem_cons, not_or] at hends
  obtain ⟨hne, hrest⟩ := hends
  rcases Nat.lt_or_gt_of_ne hne with hcut | hbefore
  · -- the deadline falls into the attempt
    have hlt := Nat.lt_of_lt_of_le hcut hreply
    rw [run_of_cut_attempt hd (lt_of_persists hlive hlt) hnow hcut]
    exact .expired hlt
  · rcases run_patient now hmax with ⟨hstop, hrun⟩ | ⟨hretry, fewer, rfl, hmax', hrun⟩
    · rw [hrun, run_of_stop (waitsBeyond_of_persists hd hlive hbefore hreply) hstop]
      exact .spared hbefore
    · have hresume := resume_le_finish hmax hretry
      rw [rest_of_retry hretry, List.mem_cons, not_or] at hrest
      obtain ⟨hne', hafter⟩ := hrest
      rcases Nat.lt_or_gt_of_ne hne' with hcut | hbefore'
      · -- the deadline falls into the pause
        have hlt := Nat.lt_of_lt_of_le hcut hresume
        rw [run_of_cut_pause hd (lt_of_persists hlive hlt) hretry hbefore hcut]
        exact .expired hlt
      · rw [run_of_again (waitsBeyond_of_persists hd hlive hbefore' hresume) hretry]
        rw [hrun] at hlive ⊢
        exact (hlater fewer _ rfl hmax' hbefore' hafter hlive).after _

theorem run_under (hd : c.options.deadline = some d) : ∀ (more number now : Nat),
    c.effectivePolicy.maxAttempts ≤ number + more → now < d → d ∉ c.ends more number now →
    c.Persists d (c.patient.run more number now) →
    (c.patient.run more number now).Under d (c.run more number now) :=
  attempts_from fun _ _ _ hlater => under_step hd hlater

/-- **A deadline leaves a course alone or ends it**, unless an attempt or a pause ends just then. -/
theorem course_under (hd : c.options.deadline = some d) (hnow : now < d)
    (hends : d ∉ c.allEnds now) (hlive : c.Persists d (c.patient.course now)) :
    (c.patient.course now).Under d (c.course now) := by
  have hmax : c.effectivePolicy.maxAttempts ≤ 1 + (c.effectivePolicy.maxAttempts - 1) := by omega
  exact run_under hd _ 1 now hmax hnow hends hlive

/-! ## Starts -/

theorem attempt_start (c : Call) (number now : Nat) : (c.attempt number now).1.start = now := by
  rw [attempt]
  cases c.tracer.inject (c.parent.child (c.tracer.spanId number)) c.request.headers with
  | error reason => rfl
  | ok headers =>
    simp only
    split <;> rfl

/-- An attempt is the first one, or one of those that follow it. -/
theorem start_cases {a : Attempt} (ha : a ∈ (c.run more number now).attempts) :
    a.start = now ∨ ∃ fewer time, more = fewer + 1 ∧ c.following number now = .again time ∧
      a ∈ (c.run fewer (number + 1) time).attempts := by
  have hstart := c.attempt_start number now
  rcases c.run_cases more number now with hlast | ⟨fewer, time, rfl, hagain, hrun⟩
  · rw [hlast] at ha
    exact .inl ((List.mem_singleton.mp ha) ▸ hstart)
  · rw [hrun] at ha
    rcases List.mem_cons.mp ha with rfl | hmem
    · exact .inl hstart
    · exact .inr ⟨fewer, time, rfl, hagain, hmem⟩

/-- Another attempt is made only before the deadline. -/
theorem lt_deadline_of_again {time : Nat} (hd : c.options.deadline = some d)
    (h : c.following number now = .again time) : time < d := by
  rw [following, next] at h
  split at h
  · cases h
  · split at h
    · cases h
    · split at h
      · cases h
      · rename_i hexp
        cases h
        rw [CallOptions.isExpired, hd] at hexp
        exact Nat.not_le.mp fun hle => hexp (decide_eq_true hle)

/-- **No attempt starts at the deadline or after it.** -/
theorem start_lt_deadline (hd : c.options.deadline = some d) : ∀ (more number now : Nat),
    now < d → ∀ a ∈ (c.run more number now).attempts, a.start < d := by
  refine attempts_from fun more number now hlater hnow a ha => ?_
  rcases start_cases ha with hstart | ⟨fewer, time, hfewer, hagain, hmem⟩
  · rwa [hstart]
  · exact hlater fewer time hfewer (lt_deadline_of_again hd hagain) a hmem

end Call

end ApiScaffold.Client
