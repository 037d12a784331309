import ApiScaffold.Client.Call
import Mathlib.Data.List.Chain

/-!
# Where the deadline meets a call

A call is a row of attempts and pauses.  `Call.ends` lists the moments at which they would end if
nobody cut them short, from the service, the policy and the tracer alone.  The deadline is met in
one of two ways.  It may fall on one of these moments, or behind all of them; then an attempt
ends before the patience of the caller does, and the call ends with what that attempt brought.
Or it falls between them, into an attempt or a pause, and the call is cut short
(`CallOptions.isCutShort`): its attempts are abandoned, and nobody gets their outcome.

One attempt or pause is a segment, and `CallOptions.Segment` says how it can end.  A deadline in
the first segment cuts the call short, one at its end does not, and a segment that ends before the
deadline can be taken off in front; these three carry the induction over the attempts.

* `segment_interruption`: a segment is given up by the caller, cut short by the deadline, or
  lasts to its end.
* `run_eq`: the attempts from one on, by what becomes of the first segment; `run_cases`: a run is
  one attempt, or one attempt in front of a run.
* `agrees_step`, `course_agrees`: a call that its caller does not give up has an outcome of its
  attempts exactly if it is not cut short.
-/

namespace ApiScaffold.Client

/-! ## Segments -/

namespace CallOptions

/-- Whether the deadline falls between the moments at which the parts of a call end, for a call
that starts at a moment. -/
def isCutShort (o : CallOptions) (start : Nat) (ends : List Nat) : Prop :=
  ∃ d ∈ o.deadline, (∃ t ∈ ends, max start d < t) ∧ max start d ∉ ends

instance (o : CallOptions) (start : Nat) (ends : List Nat) :
    Decidable (o.isCutShort start ends) :=
  inferInstanceAs (Decidable (∃ d ∈ o.deadline, (∃ t ∈ ends, max start d < t) ∧ max start d ∉ ends))

/-- The ways in which something that lasts from one moment to another can end. -/
inductive Segment (o : CallOptions) (start finish : Nat) : Option (Nat × CallError) → Prop
  /-- The caller gives up. -/
  | given {time : Nat} : Segment o start finish (some (time, .cancelled))
  /-- The deadline comes first. -/
  | cut {d : Nat} : d ∈ o.deadline → start < finish → d < finish →
      Segment o start finish (some (max start d, .deadlineExceeded))
  /-- It lasts to its end. -/
  | whole : (start < finish → o.isCancelled finish = false) →
      (∀ d ∈ o.deadline, start < finish → finish ≤ d) → Segment o start finish none

theorem isCancelled_of_filter {o : CallOptions} {finish : Nat}
    (h : o.cancelAt.filter (· ≤ finish) = none) : o.isCancelled finish = false := by
  rw [isCancelled]
  cases hc : o.cancelAt with
  | none => rfl
  | some c =>
    rw [hc, Option.filter_some_eq_none] at h
    simpa using h

/-- The deadline comes before an end, or it does not. -/
theorem expiry_cases (o : CallOptions) (start finish : Nat) :
    ((o.deadline.filter (· < finish)).map (max start) = none ∧ ∀ d ∈ o.deadline, finish ≤ d) ∨
      ∃ d ∈ o.deadline, d < finish ∧
        (o.deadline.filter (· < finish)).map (max start) = some (max start d) := by
  cases o.deadline with
  | none => exact .inl ⟨rfl, fun d hd => by cases hd⟩
  | some d =>
    by_cases hdf : d < finish
    · refine .inr ⟨d, rfl, hdf, ?_⟩
      rw [Option.filter_some, if_pos (decide_eq_true hdf), Option.map_some]
    · refine .inl ⟨?_, fun d' hd' => ?_⟩
      · rw [Option.filter_some, if_neg (by simpa using hdf), Option.map_none]
      · cases hd'
        exact Nat.not_lt.mp hdf

theorem segment_interruption (o : CallOptions) (start finish : Nat) :
    o.Segment start finish (o.interruption? start finish) := by
  rw [interruption?]
  by_cases hle : finish ≤ start
  · rw [if_pos hle]
    exact .whole (fun h => absurd h (Nat.not_lt.mpr hle))
      fun d _ h => absurd h (Nat.not_lt.mpr hle)
  · rw [if_neg hle]
    have hlt : start < finish := Nat.lt_of_not_le hle
    rcases o.expiry_cases start finish with ⟨hexpiry, hdeadline⟩ | ⟨d, hd, hdf, hexpiry⟩
    · rw [hexpiry]
      cases hc : o.cancelAt.filter (· ≤ finish) with
      | none => exact .whole (fun _ => isCancelled_of_filter hc) fun d hd _ => hdeadline d hd
      | some c => exact .given
    · rw [hexpiry]
      cases hc : o.cancelAt.filter (· ≤ finish) with
      | none => exact .cut hd hlt hdf
      | some c =>
        by_cases hcd : c ≤ max start d
        · simp only [if_pos hcd]
          exact .given
        · simp only [if_neg hcd]
          exact .cut hd hlt hdf

/-- Who has not given up at the start of a segment has not done so at its end, if it lasted. -/
theorem isCancelled_of_whole {o : CallOptions} {start finish : Nat} (hle : start ≤ finish)
    (hlive : o.isCancelled start = false)
    (hwhole : start < finish → o.isCancelled finish = false) : o.isCancelled finish = false := by
  rcases Nat.lt_or_eq_of_le hle with h | rfl
  · exact hwhole h
  · exact hlive

/-- A segment is not cut short before it starts. -/
theorem le_of_interruption {o : CallOptions} {start finish time : Nat} {e : CallError}
    (hlive : o.isCancelled start = false) (h : o.interruption? start finish = some (time, e)) :
    start ≤ time := by
  have hcancel : ∀ c ∈ o.cancelAt.filter (· ≤ finish), start ≤ c := by
    intro c hc
    have hc' : o.cancelAt = some c := (Option.filter_eq_some_iff.mp hc).1
    rw [isCancelled, hc'] at hlive
    exact Nat.le_of_lt (by simpa using hlive)
  have hexpiry : ∀ d ∈ (o.deadline.filter (· < finish)).map (max start), start ≤ d := by
    intro d hd
    obtain ⟨d', -, rfl⟩ := Option.map_eq_some_iff.mp hd
    exact Nat.le_max_left _ _
  rw [interruption?] at h
  split at h
  · cases h
  · simp only at h
    split at h
    · next c d hc hd =>
      split at h
      · cases h; exact hcancel _ hc
      · cases h; exact hexpiry _ hd
    · next c hc _ => cases h; exact hcancel _ hc
    · next d _ hd => cases h; exact hexpiry _ hd
    · cases h

/-- A deadline that falls into the first segment cuts the call short. -/
theorem isCutShort_of_cut {o : CallOptions} {start finish d : Nat} {ends : List Nat}
    (hd : d ∈ o.deadline) (hlt : start < finish) (hdf : d < finish)
    (hends : ∀ t ∈ ends, finish ≤ t) : o.isCutShort start (finish :: ends) := by
  have hmax : max start d < finish := Nat.max_lt.mpr ⟨hlt, hdf⟩
  refine ⟨d, hd, ⟨finish, List.mem_cons_self, hmax⟩, fun hmem => ?_⟩
  rcases List.mem_cons.mp hmem with h | h
  · exact Nat.lt_irrefl _ (h ▸ hmax)
  · exact Nat.lt_irrefl _ (Nat.lt_of_lt_of_le hmax (hends _ h))

/-- A call that ends with its first segment, or at its deadline, is not cut short. -/
theorem not_isCutShort_of_whole {o : CallOptions} {start finish : Nat} {ends : List Nat}
    (hle : start ≤ finish) (hwhole : ∀ d ∈ o.deadline, start < finish → finish ≤ d)
    (hlast : ends = [] ∨ o.isExpired finish = true) : ¬ o.isCutShort start (finish :: ends) := by
  rintro ⟨d, hd, ⟨t, ht, hlt⟩, hnot⟩
  have hfd : finish ≤ max start d := by
    rcases Nat.lt_or_eq_of_le hle with h | rfl
    · exact Nat.le_trans (hwhole d hd h) (Nat.le_max_right _ _)
    · exact Nat.le_max_left _ _
  rcases hlast with rfl | hexp
  · rw [List.mem_singleton.mp ht] at hlt
    exact absurd hlt (Nat.not_lt.mpr hfd)
  · -- the deadline falls on the end of the segment
    have hdf : d ≤ finish := by
      rw [isExpired, Option.mem_def.mp hd] at hexp
      exact of_decide_eq_true hexp
    have hmax : max start d = finish := Nat.le_antisymm (Nat.max_le.mpr ⟨hle, hdf⟩) hfd
    exact hnot (hmax ▸ List.mem_cons_self)

/-- A segment that ends before the deadline can be taken off in front. -/
theorem isCutShort_cons {o : CallOptions} {start finish : Nat} {ends : List Nat}
    (hle : start ≤ finish) (hexp : o.isExpired finish = false) :
    o.isCutShort start (finish :: ends) ↔ o.isCutShort finish ends := by
  refine exists_congr fun d => and_congr_right fun hd => ?_
  have hfd : finish < d := by
    rw [isExpired, Option.mem_def.mp hd] at hexp
    exact Nat.not_le.mp (of_decide_eq_false hexp)
  rw [Nat.max_eq_right (Nat.le_of_lt (Nat.lt_of_le_of_lt hle hfd)),
    Nat.max_eq_right (Nat.le_of_lt hfd)]
  refine and_congr ⟨?_, ?_⟩ ⟨?_, ?_⟩
  · rintro ⟨t, ht, hlt⟩
    rcases List.mem_cons.mp ht with rfl | ht
    · exact absurd hlt (Nat.not_lt.mpr (Nat.le_of_lt hfd))
    · exact ⟨t, ht, hlt⟩
  · rintro ⟨t, ht, hlt⟩
    exact ⟨t, List.mem_cons_of_mem _ ht, hlt⟩
  · exact fun h ht => h (List.mem_cons_of_mem _ ht)
  · intro h ht
    rcases List.mem_cons.mp ht with rfl | ht
    · exact absurd hfd (Nat.lt_irrefl _)
    · exact h ht

end CallOptions

/-- Whether the caller gets the outcome of the attempts, unless they were abandoned. -/
def Course.Faithful (c : Course) : Prop := c.settled = none ∨ c.settled = some c.outcome

namespace Call

/-! ## The parts of a call -/

/-- When an attempt ends that nobody cuts short, and with what. -/
def reply (c : Call) (number now : Nat) : Nat × Outcome :=
  match c.tracer.inject (c.parent.child (c.tracer.spanId number)) c.request.headers with
  | .error reason => (now, .error (.traceInjection reason))
  | .ok headers =>
    let reply := c.service number { c.request with headers }
    (now + reply.delay, reply.outcome)

/-- What the policy says after an attempt that nobody cuts short. -/
def decision (c : Call) (number now : Nat) : RetryDecision :=
  c.effectivePolicy.decide (c.reply number now).2 number

/-- When the pause after an attempt ends that nobody cuts short. -/
def resume (c : Call) (number now : Nat) : Nat :=
  (c.reply number now).1 + (c.decision number now).pause

/-- When the attempts from one on, and the pauses after them, end if nobody cuts them short. -/
def ends (c : Call) : Nat → Nat → Nat → List Nat
  | more, number, now =>
    (c.reply number now).1 ::
      if (c.decision number now).retry then
        c.resume number now ::
          match more with
          | 0 => []
          | more + 1 => c.ends more (number + 1) (c.resume number now)
      else []

/-- Whether the deadline falls into an attempt or a pause of a call. -/
def isCutShort (c : Call) (now : Nat) : Prop :=
  c.options.isCutShort now (c.ends (c.effectivePolicy.maxAttempts - 1) 1 now)

instance (c : Call) (now : Nat) : Decidable (c.isCutShort now) :=
  inferInstanceAs (Decidable (c.options.isCutShort _ _))

theorem le_reply (c : Call) (number now : Nat) : now ≤ (c.reply number now).1 := by
  rw [reply]
  split
  · exact Nat.le_refl _
  · exact Nat.le_add_right _ _

theorem reply_le_resume (c : Call) (number now : Nat) :
    (c.reply number now).1 ≤ c.resume number now := Nat.le_add_right _ _

/-- What ends after the first pause. -/
def later (c : Call) : Nat → Nat → Nat → List Nat
  | 0, _, _ => []
  | more + 1, number, now => c.ends more (number + 1) (c.resume number now)

/-- What ends after the first attempt. -/
def rest (c : Call) (more number now : Nat) : List Nat :=
  if (c.decision number now).retry then c.resume number now :: c.later more number now else []

theorem ends_eq (c : Call) (more number now : Nat) :
    c.ends more number now = (c.reply number now).1 :: c.rest more number now := by
  cases more with
  | zero => rw [ends]; rfl
  | succ more => rw [ends]; rfl

theorem rest_of_retry {c : Call} {number now : Nat} (h : (c.decision number now).retry = true)
    (more : Nat) : c.rest more number now = c.resume number now :: c.later more number now :=
  if_pos h

theorem rest_of_stop {c : Call} {number now : Nat} (h : (c.decision number now).retry = false)
    (more : Nat) : c.rest more number now = [] := by
  rw [rest, h]
  rfl

/-- Nothing ends before it starts. -/
theorem isChain_ends (c : Call) : ∀ (more number now : Nat),
    List.IsChain (· ≤ ·) (now :: c.ends more number now) := by
  intro more
  induction more with
  | zero =>
    intro number now
    rw [ends_eq, rest]
    refine .cons_cons (c.le_reply number now) ?_
    split
    · exact .cons_cons (c.reply_le_resume number now) (.singleton _)
    · exact .singleton _
  | succ more ih =>
    intro number now
    rw [ends_eq, rest]
    refine .cons_cons (c.le_reply number now) ?_
    split
    · exact .cons_cons (c.reply_le_resume number now) (ih (number + 1) _)
    · exact .singleton _

theorem reply_le_of_mem_rest {c : Call} {more number now t : Nat}
    (ht : t ∈ c.rest more number now) : (c.reply number now).1 ≤ t := by
  have h := c.isChain_ends more number now
  rw [ends_eq, List.isChain_iff_pairwise] at h
  exact List.rel_of_pairwise_cons h.of_cons ht

theorem resume_le_of_mem_later {c : Call} {more number now t : Nat}
    (ht : t ∈ c.later more number now) : c.resume number now ≤ t := by
  cases more with
  | zero => cases ht
  | succ more =>
    have h := c.isChain_ends more (number + 1) (c.resume number now)
    exact List.rel_of_pairwise_cons (List.isChain_iff_pairwise.mp h) ht

/-- An attempt is a segment that lasts until the reply. -/
theorem attempt_progress (c : Call) (number now : Nat) :
    (c.attempt number now).2 =
      match c.options.interruption? now (c.reply number now).1 with
      | some (time, e) => .abandoned time e
      | none => .ended (c.reply number now).1 (c.reply number now).2 := by
  rw [attempt, reply]
  cases hi : c.tracer.inject (c.parent.child (c.tracer.spanId number)) c.request.headers with
  | error reason =>
    have hnone : c.options.interruption? now now = none := by
      rw [CallOptions.interruption?, if_pos (Nat.le_refl _)]
    simp only [hnone]
  | ok headers =>
    cases hs : c.options.interruption? now
        (now + (c.service number { c.request with headers }).delay) with
    | none => simp only [hs]
    | some cut => simp only [hs]

/-- The course from an attempt on that nobody cut short, by what follows the attempt. -/
def follow (c : Call) (number now : Nat) (a : Attempt) : Nat → Next → Course
  | _, .stop time => .settle a time (c.reply number now).2
  | _, .abandoned time e => .abandon a time e
  | 0, .again _ => .settle a (c.reply number now).1 (c.reply number now).2
  | more + 1, .again time => (c.run more (number + 1) time).after a

/-- What follows an attempt that nobody cut short. -/
def following (c : Call) (number now : Nat) : Next :=
  c.next number (c.reply number now).1 (c.reply number now).2

theorem run_eq (c : Call) (more number now : Nat) :
    c.run more number now =
      match c.options.interruption? now (c.reply number now).1 with
      | some (time, e) => .abandon (c.attempt number now).1 time e
      | none => c.follow number now (c.attempt number now).1 more (c.following number now) := by
  have hprogress := c.attempt_progress number now
  rw [run]
  generalize c.attempt number now = attempted at hprogress ⊢
  obtain ⟨a, progress⟩ := attempted
  cases hs : c.options.interruption? now (c.reply number now).1 with
  | some cut =>
    rw [hs] at hprogress
    cases hprogress
    rfl
  | none =>
    rw [hs] at hprogress
    cases hprogress
    rw [following]
    simp only
    cases c.next number (c.reply number now).1 (c.reply number now).2 with
    | stop time => cases more <;> rfl
    | again time => cases more <;> rfl
    | abandoned time e => cases more <;> rfl

/-- A run is one attempt, or one attempt and the run of those that follow it. -/
theorem run_cases (c : Call) (more number now : Nat) :
    (c.run more number now).attempts = [(c.attempt number now).1] ∨
      ∃ fewer time, more = fewer + 1 ∧ c.following number now = .again time ∧
        c.run more number now =
          (c.run fewer (number + 1) time).after (c.attempt number now).1 := by
  rw [run_eq]
  generalize c.options.interruption? now (c.reply number now).1 = cut
  cases cut with
  | some cut => exact .inl rfl
  | none =>
    simp only
    cases c.following number now with
    | stop time => cases more <;> exact .inl rfl
    | abandoned time e => cases more <;> exact .inl rfl
    | again time =>
      cases more with
      | zero => exact .inl rfl
      | succ fewer => exact .inr ⟨fewer, time, rfl, rfl, rfl⟩

/-- What holds of the attempts from one on if it holds of those from the next one on, holds. -/
theorem attempts_from {P : Nat → Nat → Nat → Prop}
    (hstep : ∀ more number now,
      (∀ fewer time, more = fewer + 1 → P fewer (number + 1) time) → P more number now) :
    ∀ more number now, P more number now := by
  intro more
  induction more with
  | zero => intro number now; exact hstep 0 number now fun fewer time h => by cases h
  | succ more ih =>
    intro number now
    refine hstep (more + 1) number now fun fewer time h => ?_
    cases h
    exact ih (number + 1) time

/-- **The caller gets the outcome of the attempts, unless they were abandoned.** -/
theorem run_faithful (c : Call) : ∀ more number now, (c.run more number now).Faithful := by
  refine attempts_from fun more number now hlater => ?_
  rw [run_eq]
  cases c.options.interruption? now (c.reply number now).1 with
  | some cut => exact .inl rfl
  | none =>
    simp only
    cases c.following number now with
    | stop time => cases more <;> exact .inr rfl
    | abandoned time e => cases more <;> exact .inl rfl
    | again time =>
      cases more with
      | zero => exact .inr rfl
      | succ fewer => exact hlater fewer time rfl

/-- A call stops after an attempt if the policy has had enough, or the deadline has passed. -/
theorem following_stop {c : Call} {number now : Nat}
    (h : (c.decision number now).retry = false ∨
      c.options.isExpired (c.reply number now).1 = true) :
    c.following number now = .stop (c.reply number now).1 := by
  rw [following, next]
  refine if_pos ?_
  rcases h with h | h
  · rw [decision] at h
    rw [h]
    rfl
  · rw [h, Bool.or_true]

/-- Any other call goes into a pause, which is a segment. -/
theorem following_pause {c : Call} {number now : Nat}
    (hretry : (c.decision number now).retry = true)
    (hlive : c.options.isCancelled (c.reply number now).1 = false)
    (hexp : c.options.isExpired (c.reply number now).1 = false) :
    c.following number now =
      match c.options.interruption? (c.reply number now).1 (c.resume number now) with
      | some (time, e) => .abandoned time e
      | none =>
        if c.options.isExpired (c.resume number now) then .stop (c.resume number now)
        else .again (c.resume number now) := by
  rw [decision] at hretry
  rw [following, next, hretry, hlive, hexp]
  exact if_neg Bool.false_ne_true

/-- What follows an attempt, for a caller who had not given up when it ended. -/
inductive Next.Follows (o : CallOptions) (start : Nat) : Next → Prop
  | stop {time : Nat} : start ≤ time → Follows o start (.stop time)
  | abandoned {time : Nat} {e : CallError} : start ≤ time → Follows o start (.abandoned time e)
  | again {time : Nat} : start ≤ time → o.isCancelled time = false → Follows o start (.again time)

theorem follows_following {c : Call} {number now : Nat}
    (hlive : c.options.isCancelled (c.reply number now).1 = false) :
    Next.Follows c.options (c.reply number now).1 (c.following number now) := by
  have hle := c.reply_le_resume number now
  have hseg := c.options.segment_interruption (c.reply number now).1 (c.resume number now)
  cases hretry : (c.decision number now).retry with
  | false =>
    rw [following_stop (.inl hretry)]
    exact .stop (Nat.le_refl _)
  | true =>
    cases hexp : c.options.isExpired (c.reply number now).1 with
    | true =>
      rw [following_stop (.inr hexp)]
      exact .stop (Nat.le_refl _)
    | false =>
      rw [following_pause hretry hlive hexp]
      rcases hcut : c.options.interruption? (c.reply number now).1 (c.resume number now) with
        _ | ⟨time, e⟩
      · rw [hcut] at hseg
        cases hseg with
        | whole hcancel _ =>
          have hlive' := CallOptions.isCancelled_of_whole hle hlive hcancel
          cases c.options.isExpired (c.resume number now) with
          | true => exact .stop hle
          | false => exact .again hle hlive'
      · exact .abandoned (CallOptions.le_of_interruption hlive hcut)

/-- **A call does not end before it starts.** -/
theorem le_finish {c : Call} : ∀ more number now, c.options.isCancelled now = false →
    now ≤ (c.run more number now).finish := by
  refine attempts_from fun more number now hlater hlive => ?_
  have hle := c.le_reply number now
  have hseg := c.options.segment_interruption now (c.reply number now).1
  rw [run_eq]
  rcases hcut : c.options.interruption? now (c.reply number now).1 with _ | ⟨time, e⟩
  · rw [hcut] at hseg
    cases hseg with
    | whole hcancel _ =>
      have hfollows := follows_following (CallOptions.isCancelled_of_whole hle hlive hcancel)
      generalize c.following number now = next at hfollows
      cases hfollows with
      | stop hstop => cases more <;> exact Nat.le_trans hle hstop
      | abandoned hcut => cases more <;> exact Nat.le_trans hle hcut
      | again hagain hlive' =>
        cases more with
        | zero => exact hle
        | succ fewer => exact Nat.le_trans hle (Nat.le_trans hagain (hlater fewer _ rfl hlive'))
  · exact CallOptions.le_of_interruption hlive hcut

end Call

/-! ## The course -/

/-- What a course says about its attempts: they are abandoned if the call was cut short, and
otherwise their outcome is what the caller gets. -/
def Course.agrees (c : Course) (cut : Prop) : Prop :=
  (cut ∧ c.settled = none ∧ c.outcome = .error .deadlineExceeded) ∨
    (¬ cut ∧ c.settled = some c.outcome)

namespace Call

variable {c : Call} {more number now : Nat}

/-- The attempts from the next one on agree with the deadline, unless the caller gives up. -/
def AgreesLater (c : Call) (more number : Nat) : Prop :=
  ∀ fewer start, more = fewer + 1 → c.options.isCancelled start = false →
    (c.run fewer (number + 1) start).outcome ≠ .error .cancelled →
    (c.run fewer (number + 1) start).agrees
      (c.options.isCutShort start (c.ends fewer (number + 1) start))

/-- A pause, and what follows it, agrees with the deadline. -/
theorem agrees_pause (hlater : c.AgreesLater more number)
    (hretry : (c.decision number now).retry = true)
    (hlive : c.options.isCancelled (c.reply number now).1 = false)
    (hexp : c.options.isExpired (c.reply number now).1 = false) (a : Attempt)
    (hout : (c.follow number now a more (c.following number now)).outcome ≠ .error .cancelled) :
    (c.follow number now a more (c.following number now)).agrees
      (c.options.isCutShort (c.reply number now).1
        (c.resume number now :: c.later more number now)) := by
  have hle := c.reply_le_resume number now
  have hseg := c.options.segment_interruption (c.reply number now).1 (c.resume number now)
  rw [following_pause hretry hlive hexp] at hout ⊢
  generalize c.options.interruption? _ (c.resume number now) = cut at hseg hout ⊢
  cases hseg with
  | given => exact absurd (by cases more <;> rfl) hout
  | cut hd hlt hdf =>
    refine .inl ⟨CallOptions.isCutShort_of_cut hd hlt hdf fun t ht => ?_, ?_, ?_⟩
    · exact resume_le_of_mem_later ht
    · cases more <;> rfl
    · cases more <;> rfl
  | whole hcancel hwhole =>
    cases hexp' : c.options.isExpired (c.resume number now) with
    | true =>
      refine .inr ⟨CallOptions.not_isCutShort_of_whole hle hwhole (.inr hexp'), ?_⟩
      cases more <;> rfl
    | false =>
      simp only [hexp', Bool.false_eq_true, if_false] at hout ⊢
      cases more with
      | zero => exact .inr ⟨CallOptions.not_isCutShort_of_whole hle hwhole (.inl rfl), rfl⟩
      | succ fewer =>
        have hlive' := CallOptions.isCancelled_of_whole hle hlive hcancel
        rw [CallOptions.isCutShort_cons hle hexp']
        exact hlater fewer _ rfl hlive' hout

/-- **The attempts from one on agree with the deadline**, if those from the next one on do. -/
theorem agrees_step (hlater : c.AgreesLater more number)
    (hlive : c.options.isCancelled now = false)
    (hout : (c.run more number now).outcome ≠ .error .cancelled) :
    (c.run more number now).agrees (c.options.isCutShort now (c.ends more number now)) := by
  have hle := c.le_reply number now
  have hseg := c.options.segment_interruption now (c.reply number now).1
  have hends := c.ends_eq more number now
  rw [run_eq] at hout ⊢
  rw [hends]
  generalize c.options.interruption? now (c.reply number now).1 = cut at hseg hout ⊢
  cases hseg with
  | given => exact absurd rfl hout
  | cut hd hlt hdf =>
    refine .inl ⟨CallOptions.isCutShort_of_cut hd hlt hdf fun t ht => ?_, rfl, rfl⟩
    exact reply_le_of_mem_rest ht
  | whole hcancel hwhole =>
    have hlive' := CallOptions.isCancelled_of_whole hle hlive hcancel
    simp only at hout ⊢
    cases hexp : c.options.isExpired (c.reply number now).1 with
    | true =>
      rw [following_stop (.inr hexp)]
      refine .inr ⟨CallOptions.not_isCutShort_of_whole hle hwhole (.inr hexp), ?_⟩
      cases more <;> rfl
    | false =>
      cases hretry : (c.decision number now).retry with
      | true =>
        rw [rest_of_retry hretry, CallOptions.isCutShort_cons hle hexp]
        exact agrees_pause hlater hretry hlive' hexp _ hout
      | false =>
        rw [rest_of_stop hretry, following_stop (.inl hretry)]
        refine .inr ⟨CallOptions.not_isCutShort_of_whole hle hwhole (.inl rfl), ?_⟩
        cases more <;> rfl

theorem run_agrees : ∀ (more number now : Nat), c.options.isCancelled now = false →
    (c.run more number now).outcome ≠ .error .cancelled →
    (c.run more number now).agrees (c.options.isCutShort now (c.ends more number now)) :=
  attempts_from fun _ _ _ hlater => agrees_step hlater

/-- **A call that its caller does not give up has an outcome of its attempts, which the caller
gets, unless it is cut short; then the caller gets that the deadline has passed.** -/
theorem course_agrees (hlive : c.options.isCancelled now = false)
    (hout : (c.course now).outcome ≠ .error .cancelled) :
    (c.course now).agrees (c.isCutShort now) :=
  run_agrees _ 1 now hlive hout

end Call

end ApiScaffold.Client
