import ApiScaffold.Proofs.Call.Patience
import ApiScaffold.Proofs.Pipeline.Spans
import Mathlib.Data.ENat.Lattice

/-!
# How many attempts a call makes

A shipped policy asks for another attempt exactly if the last outcome may be followed by a better
one and its budget is not used up (`decide_retry_iff`).  What an attempt ends with hangs on its
number and on the request of the call, not on the moment (`reply_snd`), so a service is a row of
outcomes, and the attempts of a patient caller are the beginning of that row.  The induction over
the attempts carries how far the count has come: it never passes the budget.

* `RetryPolicy.budget`: the attempts that a policy allows.
* `IsFinal`, `firstFinal`: the outcomes that end a call, and the first of them in a row.
* `exists_run`: a run ends with its last attempt, where the budget is used up or the outcome final.
* `attempts_exact`: **a call makes as many attempts as its budget and its outcomes say.**
-/

namespace ApiScaffold.Client

/-! ## Policies -/

/-- Whether an outcome is neither a server error nor a failure to send. -/
def IsFinal : Outcome → Prop
  | .ok response => ¬ (500 ≤ response.status ∧ response.status ≤ 599)
  | .error .request => False
  | .error (.connection _) => False
  | .error _ => True

theorem isRetryable_iff {outcome : Outcome} : isRetryable outcome = true ↔ ¬ IsFinal outcome := by
  cases outcome with
  | ok response =>
    simp only [isRetryable, Response.isServerError, Web.Status.isServerError, IsFinal, not_not,
      Bool.and_eq_true, decide_eq_true_eq]
  | error e => cases e <;> simp [isRetryable, CallError.isTransport, IsFinal]

/-- The attempts that a policy allows, at least one. -/
def RetryPolicy.budget : RetryPolicy → Nat
  | never => 1
  | once _ => 2
  | bounded n => max n 1
  | exponential n _ _ _ => max n 1
  | custom n _ => max n 1

namespace RetryPolicy

variable {p : RetryPolicy} {outcome : Outcome} {number : Nat}

theorem one_le_budget (p : RetryPolicy) : 1 ≤ p.budget := by
  cases p <;> simp [budget]

theorem budget_le {limit : Nat} (hlimit : 2 ≤ limit) (h : p.maxAttempts ≤ limit) :
    p.budget ≤ limit := by
  cases p <;> simp only [budget, maxAttempts] at h ⊢ <;> omega

theorem maxAttempts_le_budget (p : RetryPolicy) : p.maxAttempts ≤ p.budget := by
  cases p <;> simp [budget, maxAttempts]

theorem decideBounded_retry_iff {n pause : Nat} (hnumber : 1 ≤ number) :
    (decideBounded n pause outcome number).retry = true ↔
      number < max n 1 ∧ isRetryable outcome = true := by
  rw [decideBounded]
  cases isRetryable outcome with
  | false => simp [RetryDecision.stop]
  | true =>
    by_cases hn : n ≤ number
    · exact iff_of_false (by simp [hn, RetryDecision.stop]) (by omega)
    · exact iff_of_true (by simp [hn]) ⟨by omega, rfl⟩

/-- **A shipped policy asks for another attempt** exactly if the budget is not used up and the
outcome may be followed by a better one. -/
theorem decide_retry_iff (hp : p.IsShipped) (hnumber : 1 ≤ number) :
    (p.decide outcome number).retry = true ↔ number < p.budget ∧ isRetryable outcome = true := by
  cases p with
  | never =>
    simp only [decide, RetryDecision.stop, budget, Bool.false_eq_true, false_iff, not_and]
    omega
  | once pause =>
    rw [decide, budget]
    cases isRetryable outcome with
    | false => simp [RetryDecision.stop]
    | true =>
      by_cases htwo : 2 ≤ number
      · exact iff_of_false (by simp [htwo, RetryDecision.stop]) (by omega)
      · exact iff_of_true (by simp [htwo]) ⟨by omega, rfl⟩
  | bounded n => exact decideBounded_retry_iff hnumber
  | exponential n initial multiplier longest => exact decideBounded_retry_iff hnumber
  | custom n rule => exact hp.elim

end RetryPolicy

/-! ## The outcomes of a call -/

/-- The position of the first final outcome in a row that is counted from one, or infinity. -/
noncomputable def firstFinal (outcomes : Nat → Outcome) : ℕ∞ :=
  ⨅ (i : Nat) (_ : 1 ≤ i ∧ IsFinal (outcomes i)), (i : ℕ∞)

theorem firstFinal_le {outcomes : Nat → Outcome} {n : Nat} (hn : 1 ≤ n)
    (h : IsFinal (outcomes n)) : firstFinal outcomes ≤ n := iInf₂_le n ⟨hn, h⟩

theorem le_firstFinal {outcomes : Nat → Outcome} {n : Nat}
    (h : ∀ i, 1 ≤ i → i < n → ¬ IsFinal (outcomes i)) : (n : ℕ∞) ≤ firstFinal outcomes := by
  refine le_iInf₂ fun i ⟨hi, hfinal⟩ => ?_
  by_contra hlt
  exact h i hi (by exact_mod_cast not_le.mp hlt) hfinal

/-- The position at which a row ends, by what is known of the outcomes before it. -/
theorem eq_min_firstFinal {outcomes : Nat → Outcome} {n budget : Nat} (hn : 1 ≤ n)
    (hbefore : ∀ i, 1 ≤ i → i < n → ¬ IsFinal (outcomes i)) (hbudget : n ≤ budget)
    (hend : n = budget ∨ IsFinal (outcomes n)) :
    (n : ℕ∞) = min (budget : ℕ∞) (firstFinal outcomes) := by
  have hle := le_firstFinal hbefore
  rcases hend with rfl | hfinal
  · exact (min_eq_left hle).symm
  · have heq : (n : ℕ∞) = firstFinal outcomes := le_antisymm hle (firstFinal_le hn hfinal)
    rw [← heq, min_eq_right]
    exact_mod_cast hbudget

namespace Call

variable {c : Call} {more number now : Nat}

/-- The request that an attempt sends: that of the call, with the headers that the tracer makes of
its headers. -/
def requestOf (c : Call) (number : Nat) : Except String Request :=
  (c.tracer.inject (c.spanOf number) c.request.headers).map fun headers =>
    { c.request with headers }

/-- What an attempt ends with that nobody cuts short. -/
def outcomeOf (c : Call) (number : Nat) : Outcome :=
  match c.requestOf number with
  | .error reason => .error (.traceInjection reason)
  | .ok sent => (c.service number sent).outcome

/-- What an attempt ends with does not hang on the moment at which it starts. -/
theorem reply_snd (c : Call) (number now : Nat) : (c.reply number now).2 = c.outcomeOf number := by
  rw [reply, outcomeOf, requestOf, spanOf]
  cases c.tracer.inject (c.parent.child (c.tracer.spanId number)) c.request.headers <;> rfl

theorem reply_of_unsent {reason : String} (h : c.requestOf number = .error reason) (now : Nat) :
    c.reply number now = (now, .error (.traceInjection reason)) := by
  rw [requestOf, spanOf] at h
  rw [reply]
  cases hinject : c.tracer.inject (c.parent.child (c.tracer.spanId number)) c.request.headers with
  | error fault =>
    rw [hinject] at h
    cases h
    rfl
  | ok headers =>
    rw [hinject] at h
    cases h

theorem reply_of_sent {request : Request} (h : c.requestOf number = .ok request) (now : Nat) :
    c.reply number now =
      (now + (c.service number request).delay, (c.service number request).outcome) := by
  rw [requestOf, spanOf] at h
  rw [reply]
  cases hinject : c.tracer.inject (c.parent.child (c.tracer.spanId number)) c.request.headers with
  | error fault =>
    rw [hinject] at h
    cases h
  | ok headers =>
    rw [hinject] at h
    cases h
    rfl

theorem attempt_sent (c : Call) (number now : Nat) :
    (c.attempt number now).1.sent = (c.requestOf number).toOption := by
  rw [attempt, requestOf, spanOf]
  cases c.tracer.inject (c.parent.child (c.tracer.spanId number)) c.request.headers with
  | error reason => rfl
  | ok headers =>
    simp only
    split <;> rfl

theorem effectivePolicy_isShipped (hp : c.policy.IsShipped) : c.effectivePolicy.IsShipped := by
  rw [effectivePolicy]
  split
  · exact hp
  · exact trivial

theorem decision_retry_iff (hp : c.effectivePolicy.IsShipped) (hnumber : 1 ≤ number) (now : Nat) :
    (c.decision number now).retry = true ↔
      number < c.effectivePolicy.budget ∧ ¬ IsFinal (c.outcomeOf number) := by
  rw [decision, reply_snd, RetryPolicy.decide_retry_iff hp hnumber, isRetryable_iff]

/-- **A run ends with its last attempt**: each attempt before it may be followed by a better one,
and after it the budget is used up or its outcome is final. -/
theorem exists_run (hp : c.effectivePolicy.IsShipped) : ∀ more number now, 1 ≤ number →
    number ≤ c.effectivePolicy.budget → c.effectivePolicy.maxAttempts ≤ number + more →
    ∃ last, number ≤ last ∧ last ≤ c.effectivePolicy.budget ∧
      (∀ i, number ≤ i → i < last → ¬ IsFinal (c.outcomeOf i)) ∧
      (last = c.effectivePolicy.budget ∨ IsFinal (c.outcomeOf last)) ∧
      (c.patient.run more number now).attempts.length = last + 1 - number ∧
      (c.patient.run more number now).settled = some (c.outcomeOf last) ∧
      (c.patient.run more number now).outcome = c.outcomeOf last := by
  refine attempts_from fun more number now hlater hnumber hbudget hmax => ?_
  have hdecision := decision_retry_iff hp hnumber now
  rcases run_patient now hmax with ⟨hstop, hrun⟩ | ⟨hretry, fewer, hfewer, hmax', hrun⟩
  · -- this attempt is the last one
    refine ⟨number, Nat.le_refl _, hbudget, fun i hi hlt => absurd hlt (Nat.not_lt.mpr hi), ?_, ?_⟩
    · by_contra hend
      rw [not_or] at hend
      have hretry := hdecision.mpr ⟨Nat.lt_of_le_of_ne hbudget hend.1, hend.2⟩
      exact Bool.false_ne_true (hstop.symm.trans hretry)
    · rw [hrun, reply_snd]
      exact ⟨by simp [Course.settle], rfl, rfl⟩
  · obtain ⟨hleft, hfinal⟩ := hdecision.mp hretry
    obtain ⟨last, hle, hlast, hbefore, hend, hlength, hsettled, houtcome⟩ :=
      hlater fewer _ hfewer (Nat.le_add_left 1 number) hleft hmax'
    refine ⟨last, Nat.le_of_succ_le hle, hlast, fun i hi hlt => ?_, hend, ?_, ?_, ?_⟩
    · rcases Nat.eq_or_lt_of_le hi with rfl | hi
      · exact hfinal
      · exact hbefore i hi hlt
    · rw [hrun, Course.after, List.length_cons, hlength]
      omega
    · rw [hrun]
      exact hsettled
    · rw [hrun]
      exact houtcome

/-! ## The attempts of a call -/

theorem patient_eq (hdeadline : c.options.deadline = none) (hcancel : c.options.cancelAt = none) :
    c.patient = c := by
  obtain ⟨request, ⟨operation, deadline, cancelAt, parent⟩, policy, service, tracer⟩ := c
  cases hdeadline
  cases hcancel
  rfl

theorem budget_of_get (h : c.request.method = "GET") :
    c.effectivePolicy.budget = c.policy.budget := by
  rw [effectivePolicy, if_pos h]

theorem budget_of_other (h : c.request.method ≠ "GET") : c.effectivePolicy.budget = 1 := by
  rw [effectivePolicy, if_neg h, RetryPolicy.budget]

/-- **A call makes as many attempts as its budget and its outcomes say.**  Let the policy be a
shipped one, whose count fits 32 bits, and let the caller neither have a deadline nor give the call
up.  A request that is no `GET` is made once.  A `GET` is made until an outcome is final, at most as
often as the policy allows.  Every attempt is made with the request of the call, the caller gets the
outcome of the last one, and the number of that attempt, which is the greatest that is counted, fits
32 bits. -/
theorem attempts_exact (shipped : c.policy.IsShipped) (fits : c.policy.maxAttempts ≤ maxCount)
    (noDeadline : c.options.deadline = none) (noCancel : c.options.cancelAt = none) (now : Nat) :
    ∃ n, (c.course now).attempts.length = n ∧
      (c.request.method ≠ "GET" → n = 1) ∧
      (c.request.method = "GET" →
        (n : ℕ∞) = min (c.policy.budget : ℕ∞) (firstFinal c.outcomeOf)) ∧
      (∀ a number, (a, number) ∈ (c.course now).attempts.zipIdx 1 →
        a.sent = (c.requestOf number).toOption) ∧
      (c.course now).settled = some (c.outcomeOf n) ∧
      (c.course now).outcome = c.outcomeOf n ∧
      1 ≤ n ∧ n ≤ maxCount := by
  have hmax := c.effectivePolicy.maxAttempts_le_budget
  obtain ⟨n, hn, hbudget, hbefore, hend, hlength, hsettled, houtcome⟩ :=
    exists_run (effectivePolicy_isShipped shipped) (c.effectivePolicy.maxAttempts - 1) 1 now
      (Nat.le_refl 1) c.effectivePolicy.one_le_budget (by omega)
  rw [patient_eq noDeadline noCancel] at hlength hsettled houtcome
  have hcount : c.policy.budget ≤ maxCount := RetryPolicy.budget_le (by decide) fits
  refine ⟨n, by rw [course, hlength, Nat.add_sub_cancel], fun hother => ?_, fun hget => ?_, ?_,
    hsettled, houtcome, hn, ?_⟩
  · rw [budget_of_other hother] at hbudget
    exact Nat.le_antisymm hbudget hn
  · rw [← budget_of_get hget]
    exact eq_min_firstFinal hn hbefore hbudget hend
  · exact attempts_of_each (P := fun a number => a.sent = (c.requestOf number).toOption)
      c.attempt_sent _ 1 now
  · by_cases hget : c.request.method = "GET"
    · exact (budget_of_get hget ▸ hbudget).trans hcount
    · exact (budget_of_other hget ▸ hbudget).trans (by decide)

/-- A call that would succeed with its third attempt, and is allowed two. -/
def spentCall : Call :=
  { Pipeline.retriedCall none with
    policy := .ofMaxAttempts 2
    service := fun number _ => ⟨10, .ok { status := if number ≤ 2 then 503 else 200 }⟩ }

/-- The second server error is what the caller gets. -/
theorem attempts_exact_spent :
    (spentCall.course 0).attempts.length = 2 ∧
      (2 : ℕ∞) = min 2 (firstFinal spentCall.outcomeOf) ∧
      (spentCall.course 0).outcome = .ok { status := 503 } := by
  obtain ⟨n, hlength, -, hget, -, -, houtcome, -, -⟩ :=
    attempts_exact (c := spentCall) trivial (by decide) rfl rfl 0
  have hn : n = 2 := hlength.symm.trans rfl
  subst hn
  exact ⟨hlength, hget rfl, houtcome⟩

end Call

end ApiScaffold.Client
