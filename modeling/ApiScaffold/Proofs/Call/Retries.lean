import ApiScaffold.Package.Plan
import ApiScaffold.Proofs.Call.Attempts
import ApiScaffold.Proofs.Number.Digits
import Mathlib.Order.Monotone.Basic

/-!
# How often and after which pauses a client tries again

A generated client names its policy by an expression, and a policy counts all attempts where the
settings count those behind the first.  So the expression for so many retries builds a policy with
one attempt more (`budget_retryPolicyOf`), which is what a call makes if nothing else ends it.

Pauses grow by a factor that is capped by 32 bits, and the product is given up for the greatest
pause where it is no pause any more.  Neither cap shows: the second is hidden by the least of the
product and the greatest pause (`backoff_eq`), and the first is the least of the power and the cap,
so pauses never get shorter.

* `Builds`: what an expression builds.
* `length_run_le`: **no run makes more attempts than its policy allows**, however many may follow.
* `retries_made`: **a generated client makes as many retries as it is asked for.**
* `pauses_grow`: **pauses grow with the attempts up to the greatest one.**
-/

namespace ApiScaffold

namespace Client

/-! ## The bound on attempts -/

namespace Call

variable {c : Call} {more number now : Nat}

/-- Another attempt is made only if the policy asks for it. -/
theorem retry_of_again {time : Nat} (h : c.following number now = .again time) :
    (c.decision number now).retry = true := by
  cases hretry : (c.decision number now).retry with
  | false => rw [following_stop (.inl hretry)] at h; cases h
  | true => rfl

/-- **No run makes more attempts than its policy allows**, however many may follow. -/
theorem length_run_le : ∀ more number now, number ≤ c.effectivePolicy.budget →
    (c.run more number now).attempts.length + number ≤ c.effectivePolicy.budget + 1 := by
  refine attempts_from fun more number now hlater hnumber => ?_
  rcases c.run_cases more number now with hlast | ⟨fewer, time, hfewer, hagain, hrun⟩
  · rw [hlast, List.length_singleton]
    omega
  · have hleft : number < c.effectivePolicy.maxAttempts := by
      by_contra hend
      have hretry := retry_of_again hagain
      rw [decision_of_last (Nat.not_lt.mp hend)] at hretry
      cases hretry
    have hmax := c.effectivePolicy.maxAttempts_le_budget
    have hrest := hlater fewer time hfewer (by omega)
    rw [hrun, Course.after, List.length_cons]
    omega

/-- A bound on the attempts that may follow is never what ends a call, if it is no less than what
the policy allows. -/
theorem run_more : ∀ more number now, c.effectivePolicy.maxAttempts ≤ number + more →
    ∀ more', c.effectivePolicy.maxAttempts ≤ number + more' →
      c.run more' number now = c.run more number now := by
  refine attempts_from fun more number now hlater hmax more' hmax' => ?_
  rw [run_eq, run_eq]
  cases c.options.interruption? now (c.reply number now).1 with
  | some cut => rfl
  | none =>
    simp only
    cases hnext : c.following number now with
    | stop time => cases more <;> cases more' <;> rfl
    | abandoned time e => cases more <;> cases more' <;> rfl
    | again time =>
      have hretry := retry_of_again hnext
      obtain ⟨fewer, rfl, hfewer⟩ := exists_more_of_retry hmax hretry
      obtain ⟨fewer', rfl, hfewer'⟩ := exists_more_of_retry hmax' hretry
      rw [follow, follow, hlater fewer time rfl hfewer fewer' hfewer']

/-- A caller who waits for ever makes all attempts of a shipped policy if none of them ends with a
final outcome. -/
theorem length_course_of_retryable (hp : c.policy.IsShipped) (hget : c.request.method = "GET")
    (hdeadline : c.options.deadline = none) (hcancel : c.options.cancelAt = none)
    (hretryable : ∀ i, 1 ≤ i → i ≤ c.policy.budget → ¬ IsFinal (c.outcomeOf i)) (now : Nat) :
    (c.course now).attempts.length = c.policy.budget := by
  have hbudget := budget_of_get hget
  have hmax := c.effectivePolicy.maxAttempts_le_budget
  obtain ⟨last, hlast, hle, -, hend, hlength, -, -⟩ :=
    exists_run (effectivePolicy_isShipped hp) (c.effectivePolicy.maxAttempts - 1) 1 now
      (Nat.le_refl 1) c.effectivePolicy.one_le_budget (by omega)
  rw [patient_eq hdeadline hcancel, Nat.add_sub_cancel] at hlength
  rw [hbudget] at hle hend
  rw [course, hlength]
  exact hend.resolve_right (hretryable last hlast hle)

end Call

/-! ## Growing pauses -/

namespace RetryPolicy

variable {base second initial multiplier longest : Nat}

theorem cappedPower_eq (base exponent : Nat) :
    cappedPower base exponent = min (base ^ exponent) maxCount := by
  rw [cappedPower]
  split
  next hbase =>
    obtain rfl | rfl : base = 0 ∨ base = 1 := by omega
    · cases exponent with
      | zero => rfl
      | succ exponent => rw [Nat.zero_pow (Nat.succ_pos exponent)]; rfl
    · rw [Nat.one_pow]
      split <;> rfl
  next hbase =>
    split
    next hexponent =>
      have hcap : maxCount ≤ base ^ exponent :=
        calc maxCount ≤ 2 ^ 32 := by decide
          _ ≤ 2 ^ exponent := Nat.pow_le_pow_right (by omega) hexponent
          _ ≤ base ^ exponent := Nat.pow_le_pow_left (by omega) exponent
      exact (Nat.min_eq_right hcap).symm
    next => rfl

theorem cappedPower_mono (hbase : 1 ≤ base) : Monotone (cappedPower base) := by
  intro m n hle
  rw [cappedPower_eq, cappedPower_eq]
  exact min_le_min_right maxCount (Nat.pow_le_pow_right hbase hle)

/-- A product that is no pause any more is longer than the greatest pause. -/
theorem backoff_eq (hlongest : longest ≤ maxPause second) (attempt : Nat) :
    backoff second initial multiplier longest attempt =
      min (initial * cappedPower multiplier (attempt - 1)) longest := by
  rw [backoff]
  split
  next hover =>
    rw [Nat.min_self, Nat.min_eq_right (Nat.le_of_lt (Nat.lt_of_le_of_lt hlongest hover))]
  next => rfl

/-- **Pauses grow with the attempts up to the greatest one.**  Let the pauses of a policy be counted
in units of any length.  Whatever its first pause and the factor that it was given, no factor is
beyond 32 bits and no pause beyond the greatest one of the policy, none is shorter than one before
it, and as long as the power of the factor fits 32 bits the pause is exactly the first one times
that power, or the greatest one.  A factor of zero is one, and so is an attempt. -/
theorem pauses_grow (second n initial multiplier : Nat) (hlongest : longest ≤ maxPause second) :
    let p := ((growing second n initial).withMultiplier multiplier).withMaxPause longest
    (∀ attempt, cappedPower (max multiplier 1) (attempt - 1) ≤ maxCount ∧
      p.pause second attempt ≤ longest ∧ p.pause second attempt ≤ maxPause second) ∧
    Monotone (fun attempt => p.pause second attempt) ∧
    ∀ attempt, max multiplier 1 ^ (max attempt 1 - 1) ≤ maxCount →
      p.pause second attempt = min (initial * max multiplier 1 ^ (max attempt 1 - 1)) longest := by
  intro p
  have hpause : ∀ attempt, p.pause second attempt =
      min (initial * cappedPower (max multiplier 1) (attempt - 1)) longest :=
    backoff_eq hlongest
  refine ⟨fun attempt => ?_, fun m n hle => ?_, fun attempt hfits => ?_⟩
  · have hbound : p.pause second attempt ≤ longest := hpause attempt ▸ Nat.min_le_right _ _
    rw [cappedPower_eq]
    exact ⟨Nat.min_le_right _ _, hbound, hbound.trans hlongest⟩
  · have hpower := cappedPower_mono (Nat.le_max_right multiplier 1) (Nat.sub_le_sub_right hle 1)
    simp only [hpause]
    exact min_le_min_right longest (Nat.mul_le_mul_left initial hpower)
  · have hfirst : max attempt 1 - 1 = attempt - 1 := by omega
    rw [hfirst] at hfits ⊢
    rw [hpause, cappedPower_eq, Nat.min_eq_left hfits]

/-- Pauses of nanoseconds that double from a tenth of a second up to half of one. -/
theorem pauses_grow_doubled :
    500000000 ≤ maxPause 1000000000 ∧ max 2 1 ^ (max 3 1 - 1) ≤ maxCount ∧
      (((growing 1000000000 6 100000000).withMultiplier 2).withMaxPause 500000000).pause
        1000000000 3 = 400000000 := by
  have hlongest : 500000000 ≤ maxPause 1000000000 := by decide
  have hfits : max 2 1 ^ (max 3 1 - 1) ≤ maxCount := by decide
  exact ⟨hlongest, hfits, (pauses_grow 1000000000 6 100000000 2 hlongest).2.2 3 hfits⟩

end RetryPolicy

end Client

/-! ## The policy of a generated client -/

open Client (RetryPolicy Call maxCount)

/-- What an expression of a generated client builds. -/
inductive Builds : String → RetryPolicy → Prop
  | never : Builds "runtime::NoRetryPolicy" .never
  | once : Builds "runtime::SingleRetryPolicy::default()" (.once RetryPolicy.defaultPause)
  | bounded (n : Nat) (fits : n ≤ maxCount) :
    Builds s!"runtime::BoundedRetryPolicy::new({n})" (.ofMaxAttempts n)

namespace Builds

variable {text : String} {n : Nat} {p q : RetryPolicy}

theorem exists_text (h : Builds text p) :
    text = "runtime::NoRetryPolicy" ∧ p = .never ∨
      text = "runtime::SingleRetryPolicy::default()" ∧ p = .once RetryPolicy.defaultPause ∨
      ∃ n, text = s!"runtime::BoundedRetryPolicy::new({n})" ∧ p = .ofMaxAttempts n := by
  cases h with
  | never => exact .inl ⟨rfl, rfl⟩
  | once => exact .inr (.inl ⟨rfl, rfl⟩)
  | bounded n => exact .inr (.inr ⟨n, rfl, rfl⟩)

/-- The letter behind the word that they share tells the expressions apart. -/
theorem bounded_ne (h : text.toList.take 10 ≠ "runtime::B".toList) (n : Nat) :
    text ≠ s!"runtime::BoundedRetryPolicy::new({n})" := by
  rintro rfl
  refine h ?_
  rw [String.toList_append, String.toList_append, List.append_assoc,
    List.take_append_of_le_length (by decide)]
  rfl

theorem bounded_inj {m : Nat} (h : s!"runtime::BoundedRetryPolicy::new({m})" =
    s!"runtime::BoundedRetryPolicy::new({n})") : m = n :=
  Number.digits_injective ((String.append_right_inj _).mp ((String.append_left_inj _).mp h))

/-- An expression builds one policy only. -/
theorem unique (h : Builds text p) (h' : Builds text q) : q = p := by
  cases h with
  | never =>
    rcases h'.exists_text with ⟨-, hq⟩ | ⟨htext, -⟩ | ⟨m, htext, -⟩
    · exact hq
    · exact absurd htext (by decide)
    · exact absurd htext (bounded_ne (by decide) m)
  | once =>
    rcases h'.exists_text with ⟨htext, -⟩ | ⟨-, hq⟩ | ⟨m, htext, -⟩
    · exact absurd htext (by decide)
    · exact hq
    · exact absurd htext (bounded_ne (by decide) m)
  | bounded n fits =>
    rcases h'.exists_text with ⟨htext, -⟩ | ⟨htext, -⟩ | ⟨m, htext, hq⟩
    · exact absurd htext.symm (bounded_ne (by decide) n)
    · exact absurd htext.symm (bounded_ne (by decide) n)
    · rw [hq, bounded_inj htext]

end Builds

/-- The policy for so many retries beyond one. -/
theorem retryPolicyOf_of_two_le {n : Nat} (hn : 2 ≤ n) (fits : n < maxCount) :
    retryPolicyOf n = .ofMaxAttempts (n + 1) := by
  match n, hn with
  | n + 2, _ =>
    show RetryPolicy.bounded (min (n + 2 + 1) maxCount) = _
    rw [Nat.min_eq_left fits, RetryPolicy.ofMaxAttempts, Nat.max_eq_left (Nat.le_add_left 1 _)]

/-- The policy for so many retries allows one attempt more. -/
theorem budget_retryPolicyOf {n : Nat} (fits : n < maxCount) :
    (retryPolicyOf n).budget = n + 1 := by
  match n with
  | 0 => rfl
  | 1 => rfl
  | n + 2 =>
    rw [retryPolicyOf_of_two_le (Nat.le_add_left 2 n) fits, RetryPolicy.ofMaxAttempts,
      RetryPolicy.budget]
    omega

theorem isShipped_retryPolicyOf (n : Nat) : (retryPolicyOf n).IsShipped := by
  match n with
  | 0 => trivial
  | 1 => trivial
  | n + 2 => trivial

/-- **The expression for so many retries builds the policy for them.** -/
theorem builds_retryPolicyOf {n : Nat} (fits : n < maxCount) :
    Builds (writeRetryPolicy (retryPolicyOf n)) (retryPolicyOf n) := by
  match n with
  | 0 => exact .never
  | 1 => exact .once
  | n + 2 =>
    have hbuilds := Builds.bounded (n + 3) fits
    have hpolicy := retryPolicyOf_of_two_le (Nat.le_add_left 2 n) fits
    rw [RetryPolicy.ofMaxAttempts, Nat.max_eq_left (Nat.le_add_left 1 _)] at hbuilds hpolicy
    rw [hpolicy]
    exact hbuilds

/-- No call is tried more often than its policy allows. -/
theorem budget_effectivePolicy_le (c : Call) : c.effectivePolicy.budget ≤ c.policy.budget := by
  by_cases hget : c.request.method = "GET"
  · exact (Call.budget_of_get hget).le
  · exact (Call.budget_of_other hget).trans_le c.policy.one_le_budget

/-- **A generated client makes as many retries as it is asked for.**  The expression in its source
builds a policy.  With it no call makes more attempts than the first and so many more, whatever they
end with and however many its course would allow; and a `GET` makes exactly so many if each of them
ends with a server error and the caller neither has a deadline nor gives the call up. -/
theorem retries_made {plan : Plan} (fits : plan.client.retries < maxCount) :
    (∃ p, Builds plan.retryPolicy p) ∧
      ∀ p, Builds plan.retryPolicy p → ∀ c : Call, c.policy = p → ∀ now,
        (c.course now).attempts.length ≤ plan.client.retries + 1 ∧
        (∀ more, plan.client.retries ≤ more → c.run more 1 now = c.course now) ∧
        (c.request.method = "GET" → c.options.deadline = none → c.options.cancelAt = none →
          (∀ i, 1 ≤ i → i ≤ plan.client.retries + 1 →
            ∃ r, c.outcomeOf i = .ok r ∧ 500 ≤ r.status ∧ r.status ≤ 599) →
          (c.course now).attempts.length = plan.client.retries + 1) := by
  have hbudget := budget_retryPolicyOf fits
  have hbuilds := builds_retryPolicyOf fits
  refine ⟨⟨_, hbuilds⟩, fun p hp c hc now => ?_⟩
  obtain rfl := hbuilds.unique hp
  have hle := budget_effectivePolicy_le c
  have hmax := c.effectivePolicy.maxAttempts_le_budget
  rw [hc, hbudget] at hle
  refine ⟨?_, fun more hmore => ?_, fun hget hdeadline hcancel herrors => ?_⟩
  · have hlength := Call.length_run_le (c := c) (c.effectivePolicy.maxAttempts - 1) 1 now
      c.effectivePolicy.one_le_budget
    rw [Call.course]
    omega
  · exact Call.run_more _ 1 now (by omega) more (by omega)
  · rw [← hbudget, ← hc]
    refine Call.length_course_of_retryable (hc ▸ isShipped_retryPolicyOf _) hget hdeadline hcancel
      (fun i hi hlast => ?_) now
    rw [hc, hbudget] at hlast
    obtain ⟨r, hr, hstatus⟩ := herrors i hi hlast
    rw [hr]
    exact not_not.mpr hstatus

/-- A plan of a client that tries a call twice again. -/
def insistentPlan : Plan where
  package := "items"
  serviceName := "items"
  title := "Items"
  version := "1.0"
  description := []
  basePath := ""
  client := { retries := 2 }
  operations := []

/-- A call that fails for ever. -/
def failingCall : Call :=
  { Client.Pipeline.retriedCall none with
    policy := .ofMaxAttempts 3
    service := fun _ _ => ⟨10, .ok { status := 503 }⟩ }

/-- Two retries are three attempts. -/
theorem retries_made_insistent :
    insistentPlan.client.retries < maxCount ∧ Builds insistentPlan.retryPolicy failingCall.policy ∧
      (failingCall.course 0).attempts.length = 3 := by
  have fits : insistentPlan.client.retries < maxCount := by decide
  have hbuilds : Builds insistentPlan.retryPolicy failingCall.policy :=
    builds_retryPolicyOf fits
  refine ⟨fits, hbuilds, ((retries_made fits).2 _ hbuilds failingCall rfl 0).2.2 rfl rfl rfl ?_⟩
  intro i hi hlast
  have hlast : i ≤ 3 := hlast
  obtain rfl | rfl | rfl : i = 1 ∨ i = 2 ∨ i = 3 := by omega
  all_goals exact ⟨{ status := 503 }, rfl, by decide, by decide⟩

end ApiScaffold
