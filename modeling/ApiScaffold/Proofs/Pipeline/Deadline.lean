import ApiScaffold.Client.Course
import ApiScaffold.Proofs.Call.Attempts

/-!
# The deadline of a call

A pipeline fixes the deadline of a call before the call passes the circuit, and all attempts and
pauses run under it.  The same call, made by a caller who waits for ever through a pipeline that
sets no limit, is the measure of what the deadline changes.  That takes a deadline after the start
of the call.  One that has passed by then keeps nothing back: the first attempt goes out all the
same, and only what takes time is cut short.

* `bound_deadline`: the deadline is that of the caller, else the time that the pipeline gives.
* `execute_patient`: what becomes of an admitted call without a deadline.
* `deadline_bounds_call`: a call that would end before its deadline goes as if it had none, any
  other ends at its deadline, and no attempt starts at the deadline or after it.
* `expired_goes_out`: **a call whose deadline has passed makes one attempt**, and gets what is
  answered at once.
-/

namespace ApiScaffold.Client

/-- A course of one attempt sends what that attempt sends. -/
theorem Course.sent_of_single {c : Course} {a : Attempt} (h : c.attempts = [a]) :
    c.sent.map (·.sent) = a.sent.toList.map some := by
  rw [Course.sent, h]
  cases hsent : a.sent with
  | none =>
    rw [List.filter_cons_of_neg (by simp [hsent])]
    rfl
  | some request =>
    rw [List.filter_cons_of_pos (by simp [hsent]), List.filter_nil, List.map_singleton, hsent]
    rfl

namespace Pipeline

/-! ## A deadline to come -/

/-- The same pipeline, without a limit for calls that bring none. -/
def untimed (p : Pipeline) : Pipeline := { p with settings := { p.settings with timeout := 0 } }

/-- The deadline of a call: that of its caller, else the time that the pipeline gives. -/
def deadline? (p : Pipeline) (now : Nat) (call : Call) : Option Nat :=
  match call.options.deadline with
  | some d => some d
  | none => if p.settings.timeout = 0 then none else some (now + p.settings.timeout)

variable {p : Pipeline} {now D : Nat} {call : Call} {r r' : CircuitRegistry} {run : Running}

theorem bound_deadline (p : Pipeline) (now : Nat) (call : Call) :
    (p.boundCall now call).options.deadline = p.deadline? now call := by
  rw [boundCall, bound, deadline?]
  cases hd : call.options.deadline with
  | some d => exact hd
  | none =>
    by_cases ht : p.settings.timeout = 0
    · simp [ht, hd]
    · simp [ht]

theorem bound_cancelAt (p : Pipeline) (now : Nat) (call : Call) :
    (p.boundCall now call).options.cancelAt = call.options.cancelAt := by
  rw [boundCall, bound]
  split <;> rfl

theorem bound_patient (p : Pipeline) (now : Nat) (call : Call) :
    (p.boundCall now call).patient = call.patient := by
  rw [boundCall, bound]
  split <;> rfl

theorem bound_allEnds (p : Pipeline) (now : Nat) (call : Call) :
    (p.boundCall now call).allEnds now = call.allEnds now := by
  rw [← Call.allEnds_patient, bound_patient, Call.allEnds_patient]

/-- An admitted call is admitted without its deadline as well, and runs its course. -/
theorem execute_patient (hstart : p.start now call r = (.running run, r')) :
    (p.untimed.execute now call.patient r).1 = call.patient.course now := by
  have hfree := start_other hstart p.untimed call.patient rfl rfl rfl
  rw [execute, hfree]
  rfl

/-- **The deadline bounds the whole call.**  Let a call be admitted, with a deadline after its
start, and let its caller not give it up before it ends.  Beside it stands the same call without a
deadline, of which no attempt and no pause ends just at the deadline.  If that one ends before the
deadline, the call goes the same way: the same attempts at the same moments, and the same outcome.
If it ends later, the call ends at its deadline, and its caller gets that the deadline has passed.
No attempt starts at the deadline or after it. -/
theorem deadline_bounds_call (hstart : p.start now call r = (.running run, r'))
    (hD : p.deadline? now call = some D) (hnow : now < D) (hends : D ∉ call.allEnds now)
    (hlive : ∀ t ∈ call.options.cancelAt,
      min D (p.untimed.execute now call.patient r).1.finish < t) :
    let free := (p.untimed.execute now call.patient r).1
    let course := (p.execute now call r).1
    (free.finish < D → course = free) ∧
    (D < free.finish → course.outcome = .error .deadlineExceeded ∧ course.finish = D) ∧
    ∀ a ∈ course.attempts, a.start < D := by
  intro free course
  obtain ⟨-, -, hcourse, -⟩ := start_running hstart
  have hrun : course = (p.boundCall now call).course now := by
    rw [← hcourse]
    simp only [course, execute, hstart]
  have hdeadline := (p.bound_deadline now call).trans hD
  have hfree : free = (p.boundCall now call).patient.course now := by
    rw [bound_patient]
    exact execute_patient hstart
  have hpersists : (p.boundCall now call).Persists D
      ((p.boundCall now call).patient.course now) := by
    rw [Call.Persists, bound_cancelAt, ← hfree]
    exact hlive
  rw [← bound_allEnds p] at hends
  have hunder := Call.course_under hdeadline hnow hends hpersists
  rw [← hfree, ← hrun] at hunder
  refine ⟨hunder.eq_of_finish_lt, hunder.expired_of_lt_finish, ?_⟩
  rw [hrun]
  exact Call.start_lt_deadline hdeadline _ 1 now hnow

/-- The second attempt of one call ends before the deadline of its caller, and the call goes as if
it had none.  That of another call starts before the deadline that the pipeline gives and would end
after it; when its caller gives up, the call has ended. -/
theorem deadline_bounds_call_second_attempt :
    let late : Call := { hurriedCall 30000 with options := { cancelAt := some 60000 } }
    let course := (execute ⟨"c", { timeout := 50000 }⟩ 0 late {}).1
    (execute ⟨"c", {}⟩ 0 (hurriedCall 10000) {}).1 =
        (execute (untimed ⟨"c", {}⟩) 0 (hurriedCall 10000).patient {}).1 ∧
      course.outcome = .error .deadlineExceeded ∧ course.attempts.map (·.start) = [0, 40000] := by
  have hspared := @deadline_bounds_call ⟨"c", {}⟩ 0 50000 (hurriedCall 10000) {} _ _ rfl rfl
    (by decide) (by decide) (fun t ht => by cases ht)
  have hexpired := @deadline_bounds_call ⟨"c", { timeout := 50000 }⟩ 0 50000
    { hurriedCall 30000 with options := { cancelAt := some 60000 } } {} _ _ rfl rfl
    (by decide) (by decide) (fun t ht => by cases ht; decide)
  exact ⟨hspared.1 (by decide), (hexpired.2.1 (by decide)).1, by decide⟩

/-! ## A deadline that has passed -/

/-- A call that brings a deadline is made as it is. -/
theorem boundCall_of_deadline (p : Pipeline) (now : Nat) (hD : call.options.deadline = some D) :
    p.boundCall now call = call := by
  rw [boundCall, bound, hD]
  rfl

/-- What becomes of an admitted call whose deadline is not after its start. -/
theorem execute_of_expired (hstart : p.start now call r = (.running run, r'))
    (hD : call.options.deadline = some D) (hpast : D ≤ now) :
    (p.execute now call r).1 =
      if (call.reply 1 now).1 = now then .settle (call.attempt 1 now).1 now (call.reply 1 now).2
      else .abandon (call.attempt 1 now).1 now .deadlineExceeded := by
  obtain ⟨hlive, -, hcourse, -⟩ := start_running hstart
  rw [boundCall_of_deadline p now hD, Call.course, Call.run_of_expired hD hlive hpast] at hcourse
  rw [← hcourse, execute, hstart]

theorem attempts_of_expired (hstart : p.start now call r = (.running run, r'))
    (hD : call.options.deadline = some D) (hpast : D ≤ now) :
    (p.execute now call r).1.attempts = [(call.attempt 1 now).1] ∧
      (p.execute now call r).1.finish = now := by
  rw [execute_of_expired hstart hD hpast]
  split <;> exact ⟨rfl, rfl⟩

theorem outcome_of_expired (hstart : p.start now call r = (.running run, r'))
    (hD : call.options.deadline = some D) (hpast : D ≤ now) :
    (p.execute now call r).1.outcome =
      if (call.reply 1 now).1 = now then (call.reply 1 now).2 else .error .deadlineExceeded := by
  rw [execute_of_expired hstart hD hpast]
  split <;> rfl

/-- **A call whose deadline has passed still goes out, once.**  Let a call be admitted whose
deadline is not after its start.  It makes one attempt, at once, and ends with it.  If its span
cannot be written, nothing is sent, and the caller gets that.  Otherwise the service gets the
request; the caller gets what it answers if the answer takes no time, and else that the deadline
has passed.  So there is no such call of which nothing is sent and whose caller gets that the
deadline has passed. -/
theorem expired_goes_out (hstart : p.start now call r = (.running run, r'))
    (hD : call.options.deadline = some D) (hpast : D ≤ now) :
    let course := (p.execute now call r).1
    course.attempts.map (·.start) = [now] ∧ course.finish = now ∧
    (∀ reason, call.requestOf 1 = .error reason →
      course.sent = [] ∧ course.outcome = .error (.traceInjection reason)) ∧
    (∀ request, call.requestOf 1 = .ok request →
      course.sent.map (·.sent) = [some request] ∧
      course.outcome = if (call.service 1 request).delay = 0 then (call.service 1 request).outcome
        else .error .deadlineExceeded) ∧
    ¬(course.sent = [] ∧ course.outcome = .error .deadlineExceeded) := by
  intro course
  obtain ⟨hattempts, hfinish⟩ := attempts_of_expired hstart hD hpast
  have houtcome := outcome_of_expired hstart hD hpast
  have hrequests := Course.sent_of_single hattempts
  rw [Call.attempt_sent] at hrequests
  have hunsent : ∀ reason, call.requestOf 1 = .error reason →
      course.sent = [] ∧ course.outcome = .error (.traceInjection reason) := by
    intro reason hrequest
    rw [hrequest] at hrequests
    rw [Call.reply_of_unsent hrequest, if_pos rfl] at houtcome
    exact ⟨List.map_eq_nil_iff.mp hrequests, houtcome⟩
  have hsent : ∀ request, call.requestOf 1 = .ok request →
      course.sent.map (·.sent) = [some request] ∧
      course.outcome = if (call.service 1 request).delay = 0 then (call.service 1 request).outcome
        else .error .deadlineExceeded := by
    intro request hrequest
    rw [hrequest] at hrequests
    rw [Call.reply_of_sent hrequest] at houtcome
    simp only [Nat.add_eq_left] at houtcome
    exact ⟨hrequests, houtcome⟩
  refine ⟨?_, hfinish, hunsent, hsent, ?_⟩
  · rw [hattempts, List.map_singleton, Call.attempt_start]
  · rintro ⟨hnothing, hexceeded⟩
    cases hrequest : call.requestOf 1 with
    | error reason =>
      have hfault := (hunsent reason hrequest).2
      rw [hexceeded] at hfault
      cases hfault
    | ok request =>
      have hone := (hsent request hrequest).1
      rw [hnothing] at hone
      cases hone

/-- Of two calls that start at their deadline and behind it, one is answered at once by a server
error, which is not tried again, and one is cut short after it has been sent. -/
theorem expired_goes_out_hurried :
    (execute ⟨"c", {}⟩ 50000 (hurriedCall 0) {}).1.outcome = .ok { status := 500 } ∧
    let course := (execute ⟨"c", {}⟩ 60000 (hurriedCall 1) {}).1
    course.sent.map (·.sent) = [some (hurriedCall 1).request] ∧
      course.outcome = .error .deadlineExceeded := by
  have hanswered := @expired_goes_out ⟨"c", {}⟩ 50000 50000 (hurriedCall 0) {} _ _ rfl rfl
    (by decide)
  have hcut := @expired_goes_out ⟨"c", {}⟩ 60000 50000 (hurriedCall 1) {} _ _ rfl rfl (by decide)
  exact ⟨(hanswered.2.2.2.1 _ rfl).2, hcut.2.2.2.1 _ rfl⟩

/-- **Not every expired call is kept back.**  A call that starts behind its deadline reaches the
service. -/
theorem not_kept_back :
    ¬ ∀ (p : Pipeline) (now deadline : Nat) (call : Call) (r r' : CircuitRegistry) (run : Running),
      p.start now call r = (.running run, r') → call.options.cancelAt = none →
      call.options.deadline = some deadline → deadline ≤ now →
      (p.execute now call r).1.sent = [] ∧
        (p.execute now call r).1.outcome = .error .deadlineExceeded := by
  intro h
  have hkept := h (.mk "c" {}) 60000 50000 (hurriedCall 0) {} _ _ rfl rfl rfl (by decide)
  exact absurd hkept.1 (by decide)

end Pipeline

end ApiScaffold.Client
