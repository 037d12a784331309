import ApiScaffold.Proofs.Pipeline.Count
import ApiScaffold.Proofs.Web.Header

/-!
# One span for each attempt

Every attempt of a call starts a span of its own and writes it into its own copy of the request.
What is shared is fixed before the first attempt: the span that all of them belong to.  So the
argument has one step and one induction.  The step (`attempt_of_writable`, `attempt_of_unwritable`)
says what one attempt shows; the induction (`attempts_of_each`) carries that through the run, with
the number of the attempt.  Whether a span can be written hangs on the identifier of the trace
alone, because the other parts of the header are digits, so either every attempt of a call reaches
the service or the first one ends the call.

* `Tracer.IsW3c`, `RetryPolicy.IsShipped`: the tracer and the policies that a client comes with.
* `run_answeredBy`: a run hangs on what the service answers to the requests that were sent, and on
  nothing else of it.
* `one_span_per_attempt`: **the spans of a call are those of its attempts, in one trace, and each
  attempt sends the request of the caller with its span.**
-/

namespace ApiScaffold.Client

/-! ## Tracers and policies -/

/-- The tracer that a client comes with: identifiers of hexadecimal digits, in the header. -/
structure Tracer.IsW3c (t : Tracer) : Prop where
  inject : t.inject = Client.inject
  root : SpanContext.isHex 32 t.root.traceId.toList = true
  spanId (number : Nat) : SpanContext.isHex 16 (t.spanId number).toList = true

/-- Whether a policy is not a rule of the caller's own. -/
def RetryPolicy.IsShipped : RetryPolicy → Prop
  | .custom _ _ => False
  | _ => True

/-- No shipped policy tries a failure again that is none of the connection. -/
theorem RetryPolicy.IsShipped.stop {p : RetryPolicy} (h : p.IsShipped) {outcome : Outcome}
    (hfinal : isRetryable outcome = false) (number : Nat) :
    (p.decide outcome number).retry = false := by
  cases p with
  | never => rfl
  | once pause => simp [RetryPolicy.decide, hfinal, RetryDecision.stop]
  | bounded n => simp [RetryPolicy.decide, RetryPolicy.decideBounded, hfinal, RetryDecision.stop]
  | exponential n initial multiplier longest =>
    simp [RetryPolicy.decide, RetryPolicy.decideBounded, hfinal, RetryDecision.stop]
  | custom n rule => exact h.elim

/-! ## The header of a span -/

/-- A request as another one, with the header of a span and no other value of it. -/
structure Request.Carries (sent original : Request) (span : SpanContext) : Prop where
  header : sent.headers.filter (·.1 = traceHeader) = [(traceHeader, span.header)]
  others : sent.headers.filter (·.1 ≠ traceHeader) =
    original.headers.filter (·.1 ≠ traceHeader)
  rest : { sent with headers := original.headers } = original

namespace SpanContext

theorem isHeaderChar_of_isHexDigit {c : Char} (h : isHexDigit c = true) :
    (c == '\t' || (' ' ≤ c && c != '\x7f')) = true := by
  have hspace : ' ' ≤ c := by
    simp only [isHexDigit, Text.isAsciiDigit, Bool.or_eq_true, Bool.and_eq_true,
      decide_eq_true_eq] at h
    rcases h with (hdigit | hlower) | hupper
    · exact Char.le_trans (by decide) hdigit.1
    · exact Char.le_trans (by decide) hlower.1
    · exact Char.le_trans (by decide) hupper.1
  have hdelete : c ≠ '\x7f' := by
    rintro rfl
    exact absurd h (by decide)
  simp [hspace, hdelete]

theorem isHeaderValue_of_isHex {n : Nat} {s : String} (h : isHex n s.toList = true) :
    Web.isHeaderValue s = true := by
  obtain ⟨-, hdigits⟩ := Bool.and_eq_true_iff.mp h
  refine List.all_eq_true.mpr fun c hc => ?_
  exact isHeaderChar_of_isHexDigit (List.all_eq_true.mp hdigits c hc)

/-- Whether a span can be written hangs on its trace. -/
theorem isHeaderValue_header {s : SpanContext} (h : isHex 16 s.spanId.toList = true) :
    Web.isHeaderValue s.header = Web.isHeaderValue s.traceId := by
  have hspan := isHeaderValue_of_isHex h
  have hversion : Web.isHeaderValue "00-" = true := rfl
  have hdash : Web.isHeaderValue "-" = true := rfl
  have hflags : Web.isHeaderValue (if s.sampled then "01" else "00") = true := by
    cases s.sampled <;> rfl
  simp only [header, toString, Web.isHeaderValue_append, hversion, hdash, hspan, hflags,
    Bool.true_and, Bool.and_true]

end SpanContext

namespace Call

variable {c : Call} {more number now : Nat}

/-- The span of an attempt. -/
def spanOf (c : Call) (number : Nat) : SpanContext := c.parent.child (c.tracer.spanId number)

theorem inject_spanOf (ht : c.tracer.IsW3c) (number : Nat) (headers : Web.Headers) :
    c.tracer.inject (c.spanOf number) headers =
      if Web.isHeaderValue c.parent.traceId then
        .ok (headers.insert traceHeader (c.spanOf number).header)
      else .error (injectFault Web.headerValueFault) := by
  have hheader : Web.isHeaderValue (c.spanOf number).header = Web.isHeaderValue c.parent.traceId :=
    SpanContext.isHeaderValue_header (s := c.spanOf number) (ht.spanId number)
  rw [ht.inject, Client.inject, hheader]

/-- Without a span of the caller, the spans can be written. -/
theorem isHeaderValue_of_root (ht : c.tracer.IsW3c) (hroot : c.options.parent = none) :
    Web.isHeaderValue c.parent.traceId = true := by
  rw [parent, hroot]
  exact SpanContext.isHeaderValue_of_isHex ht.root

/-! ## One attempt -/

theorem attempt_span (c : Call) (number now : Nat) :
    (c.attempt number now).1.name = c.spanName ∧
      (c.attempt number now).1.span = c.spanOf number := by
  rw [attempt]
  cases c.tracer.inject (c.parent.child (c.tracer.spanId number)) c.request.headers with
  | error reason => exact ⟨rfl, rfl⟩
  | ok headers =>
    simp only
    split <;> exact ⟨rfl, rfl⟩

/-- An attempt whose span can be written reaches the service with it. -/
theorem attempt_of_writable (ht : c.tracer.IsW3c)
    (hwritable : Web.isHeaderValue c.parent.traceId = true) (number now : Nat) :
    ∃ sent ∈ (c.attempt number now).1.sent, sent.Carries c.request (c.spanOf number) := by
  have hinject := inject_spanOf ht number c.request.headers
  rw [if_pos hwritable, spanOf] at hinject
  refine ⟨{ c.request with headers := c.request.headers.insert traceHeader (c.spanOf number).header },
    ?_, Web.Headers.filter_insert_self _, Web.Headers.filter_insert_other _, rfl⟩
  rw [attempt, hinject]
  simp only
  split <;> exact rfl

/-- An attempt whose span cannot be written never reaches the service. -/
theorem attempt_of_unwritable (ht : c.tracer.IsW3c)
    (hunwritable : Web.isHeaderValue c.parent.traceId = false) (number now : Nat) :
    (c.attempt number now).1.sent = none ∧ c.reply number now =
      (now, .error (.traceInjection (injectFault Web.headerValueFault))) := by
  have hinject := inject_spanOf ht number c.request.headers
  rw [hunwritable, if_neg Bool.false_ne_true, spanOf] at hinject
  rw [attempt, reply, hinject]
  exact ⟨rfl, rfl⟩

/-! ## The run -/

/-- What holds of an attempt alone, and of an attempt in front of others of which it holds, holds
of the attempts of every run. -/
theorem attempts_induction {P : Nat → List Attempt → Prop}
    (hlast : ∀ number now, P number [(c.attempt number now).1])
    (hmore : ∀ number now rest, P (number + 1) rest → P number ((c.attempt number now).1 :: rest)) :
    ∀ more number now, P number (c.run more number now).attempts := by
  refine attempts_from fun more number now hlater => ?_
  rcases c.run_cases more number now with halone | ⟨fewer, time, hfewer, -, hrun⟩
  · rw [halone]
    exact hlast number now
  · rw [hrun]
    exact hmore number now _ (hlater fewer time hfewer)

/-- **What holds of every attempt by itself holds of the attempts of a run**, by their numbers. -/
theorem attempts_of_each {P : Attempt → Nat → Prop}
    (heach : ∀ number now, P (c.attempt number now).1 number) (more number now : Nat) :
    ∀ a i, (a, i) ∈ (c.run more number now).attempts.zipIdx number → P a i := by
  refine attempts_induction (P := fun number attempts => ∀ a i, (a, i) ∈ attempts.zipIdx number →
    P a i) (fun number now a i hmem => ?_) (fun number now rest ih a i hmem => ?_) more number now
  · rw [List.zipIdx_singleton, List.mem_singleton] at hmem
    cases hmem
    exact heach number now
  · rw [List.zipIdx_cons, List.mem_cons] at hmem
    rcases hmem with hfirst | hrest
    · cases hfirst
      exact heach number now
    · exact ih a i hrest

/-- The same call to another service. -/
def answeredBy (c : Call) (service : Service) : Call := { c with service }

theorem attempt_answeredBy {service : Service}
    (hsame : ∀ sent ∈ (c.attempt number now).1.sent, service number sent = c.service number sent) :
    (c.answeredBy service).attempt number now = c.attempt number now := by
  have hspan : (c.answeredBy service).tracer.inject
      ((c.answeredBy service).parent.child ((c.answeredBy service).tracer.spanId number))
      (c.answeredBy service).request.headers =
    c.tracer.inject (c.parent.child (c.tracer.spanId number)) c.request.headers := rfl
  rw [attempt] at hsame
  rw [attempt, attempt, hspan]
  cases hinject : c.tracer.inject (c.parent.child (c.tracer.spanId number)) c.request.headers with
  | error reason => rfl
  | ok headers =>
    rw [hinject] at hsame
    have hreply : service number { c.request with headers } =
        c.service number { c.request with headers } := by
      refine hsame _ ?_
      simp only
      split <;> exact rfl
    simp only [answeredBy, hreply]
    rfl

/-- Whether a service answers the requests that some attempts sent, counted from a number on, as
the service of the call does. -/
def AnswersAlike (c : Call) (service : Service) (number : Nat) (attempts : List Attempt) : Prop :=
  ∀ a i, (a, i) ∈ attempts.zipIdx number → ∀ sent ∈ a.sent, service i sent = c.service i sent

theorem first_answeredBy {service : Service}
    (hsame : c.AnswersAlike service number (c.run more number now).attempts) :
    (c.answeredBy service).attempt number now = c.attempt number now := by
  refine attempt_answeredBy (hsame (c.attempt number now).1 number ?_)
  rcases c.run_cases more number now with halone | ⟨fewer, time, -, -, hrun⟩
  · rw [halone]
    exact List.mem_cons_self
  · rw [hrun]
    exact List.mem_cons_self

/-- **A run hangs on the answers to the requests that were sent**, and on nothing else of the
service. -/
theorem run_answeredBy {service : Service} : ∀ more number now,
    c.AnswersAlike service number (c.run more number now).attempts →
    (c.answeredBy service).run more number now = c.run more number now := by
  refine attempts_from fun more number now hlater hsame => ?_
  have hfirst := first_answeredBy hsame
  rw [run] at hsame
  rw [run, run, hfirst]
  generalize c.attempt number now = attempted at hsame
  obtain ⟨a, progress⟩ := attempted
  cases progress with
  | abandoned time e => rfl
  | ended time outcome =>
    have hnext : (c.answeredBy service).next number time outcome = c.next number time outcome := rfl
    simp only [hnext] at hsame ⊢
    cases hfollow : c.next number time outcome with
    | stop time => cases more <;> rfl
    | abandoned time e => cases more <;> rfl
    | again time =>
      rw [hfollow] at hsame
      cases more with
      | zero => rfl
      | succ fewer =>
        simp only
        rw [hlater fewer time rfl fun b i hmem => hsame b i (List.mem_cons_of_mem _ hmem)]

/-- A call whose span cannot be written ends with its first attempt. -/
theorem run_of_unwritable (ht : c.tracer.IsW3c) (hp : c.policy.IsShipped)
    (hunwritable : Web.isHeaderValue c.parent.traceId = false) (more number now : Nat) :
    c.run more number now = .settle (c.attempt number now).1 now
      (.error (.traceInjection (injectFault Web.headerValueFault))) := by
  obtain ⟨-, hreply⟩ := attempt_of_unwritable ht hunwritable number now
  have hshipped : c.effectivePolicy.IsShipped := by
    rw [effectivePolicy]
    split
    · exact hp
    · exact trivial
  have hstop : (c.decision number now).retry = false := by
    rw [decision, hreply]
    exact hshipped.stop rfl number
  have hwhole : c.options.interruption? now now = none := if_pos (Nat.le_refl now)
  rw [run_eq, following_stop (.inl hstop), hreply, hwhole]
  cases more <;> simp only [follow, hreply]

end Call

namespace Pipeline

/-- A pipeline sets the deadline of a call, and leaves its spans alone. -/
theorem boundCall_spans (p : Pipeline) (now : Nat) (call : Call) :
    (p.boundCall now call).parent = call.parent ∧
      (p.boundCall now call).spanName = call.spanName := by
  rw [boundCall, Call.parent, Call.spanName, bound]
  split <;> exact ⟨rfl, rfl⟩

/-- **One span for each attempt, and one trace for all of them.**  Let a call be admitted whose
tracer is that of a client.  Its attempts, counted from one, are named by the operation or by the
path, and the span of each is a new one below the parent: the span of the caller, or one that was
made for this call.  What the service answers matters only where an attempt sent it a request, so
the attempts are all that the service sees.  If the parent can be written, each attempt sends the
request of the caller with its own span in the header; without a span of the caller it can.  If it
cannot, and the policy is a shipped one, then one span is started, the service never gets a
request, and the caller gets that the span could not be written. -/
theorem one_span_per_attempt {p : Pipeline} {now : Nat} {call : Call} {r r' : CircuitRegistry}
    {run : Running} (hstart : p.start now call r = (.running run, r'))
    (ht : call.tracer.IsW3c) :
    let parent := call.options.parent.getD call.tracer.root
    let attempts := run.course.attempts
    attempts ≠ [] ∧
    (∀ a number, (a, number) ∈ attempts.zipIdx 1 →
      a.name = call.options.operation.getD call.request.url.pathText ∧
      a.span = parent.child (call.tracer.spanId number) ∧
      a.span.traceId = parent.traceId ∧
      (Web.isHeaderValue parent.traceId = true →
        ∃ sent ∈ a.sent, sent.Carries call.request a.span)) ∧
    (∀ service, call.AnswersAlike service 1 attempts →
      p.start now (call.answeredBy service) r = (.running run, r')) ∧
    (call.options.parent = none → Web.isHeaderValue parent.traceId = true) ∧
    (Web.isHeaderValue parent.traceId = false → call.policy.IsShipped →
      ∃ a, attempts = [a] ∧ a.sent = none ∧
        (p.execute now call r).1.outcome =
          .error (.traceInjection (injectFault Web.headerValueFault))) := by
  intro parent attempts
  let bound := p.boundCall now call
  have ht' : bound.tracer.IsW3c := ht
  obtain ⟨hparent, hname⟩ := p.boundCall_spans now call
  obtain ⟨hlive, -, hcourse, -⟩ := start_running hstart
  have hattempts : attempts = (bound.course now).attempts := congrArg Course.attempts hcourse
  refine ⟨?_, ?_, ?_, ?_, ?_⟩
  · rw [hattempts]
    exact Call.attempts_induction (P := fun _ attempts => attempts ≠ [])
      (fun _ _ => List.cons_ne_nil _ _) (fun _ _ _ _ => List.cons_ne_nil _ _) _ 1 now
  · intro a number hmem
    rw [hattempts] at hmem
    obtain ⟨hnamed, hspan⟩ := Call.attempts_of_each
      (P := fun a number => a.name = bound.spanName ∧ a.span = bound.spanOf number)
      bound.attempt_span _ 1 now a number hmem
    have hchild : a.span = parent.child (call.tracer.spanId number) := by
      rw [hspan, Call.spanOf, hparent]
      rfl
    refine ⟨hnamed.trans hname, hchild, by rw [hchild]; rfl, fun hwritable => ?_⟩
    rw [hspan]
    exact Call.attempts_of_each
      (P := fun a number => ∃ sent ∈ a.sent, sent.Carries bound.request (bound.spanOf number))
      (Call.attempt_of_writable ht' (hparent ▸ hwritable)) _ 1 now a number hmem
  · intro service hsame
    rw [hattempts] at hsame
    have hrun : (bound.answeredBy service).course now = bound.course now :=
      Call.run_answeredBy _ 1 now hsame
    rw [start_other hstart p (call.answeredBy service) rfl rfl hlive]
    show (Started.running { run with course := (bound.answeredBy service).course now }, r') = _
    rw [hrun, ← hcourse]
  · intro hnone
    exact Call.isHeaderValue_of_root (c := call) ht hnone
  · intro hunwritable hshipped
    have hrun : bound.course now = _ :=
      Call.run_of_unwritable ht' hshipped (hparent ▸ hunwritable) _ 1 now
    refine ⟨_, by rw [hattempts, hrun]; rfl, ?_, ?_⟩
    · exact (Call.attempt_of_unwritable ht' (hparent ▸ hunwritable) 1 now).1
    · rw [execute, hstart]
      show run.course.outcome = _
      rw [hcourse]
      exact congrArg Course.outcome hrun

/-- A call that is answered by a server error first, and whose request has a header of an earlier
span. -/
def retriedCall (parent : Option SpanContext) : Call where
  request :=
    { method := "GET"
      url := { scheme := .network "http" 80, authority := none, path := .segments ["items"] }
      headers := [(traceHeader, "stale"), ("accept", "*/*")] }
  options := { parent }
  policy := .bounded 3
  service number _ := ⟨10, .ok { status := if number = 1 then 503 else 200 }⟩
  tracer :=
    { root := ⟨"0af7651916cd43dd8448eb211c80319c", "b7ad6b7169203331", true⟩
      spanId := fun number => if number = 1 then "00f067aa0ba902b7" else "53995c3f42cd8ad8" }

theorem retriedCall_isW3c (parent : Option SpanContext) : (retriedCall parent).tracer.IsW3c := by
  refine ⟨rfl, ?_, fun number => ?_⟩
  · show SpanContext.isHex 32 "0af7651916cd43dd8448eb211c80319c".toList = true
    decide
  · show SpanContext.isHex 16 (if number = 1 then _ else _ : String).toList = true
    split <;> decide

/-- Two attempts under a trace of their own, and one attempt under a trace that cannot be
written. -/
theorem one_span_per_attempt_retried :
    (∃ run r', start ⟨"c", {}⟩ 0 (retriedCall none) {} = (.running run, r') ∧
      run.course.attempts.length = 2 ∧
      ∀ a number, (a, number) ∈ run.course.attempts.zipIdx 1 →
        a.name = "/items" ∧ ∃ sent ∈ a.sent, sent.Carries (retriedCall none).request a.span) ∧
    ∃ run r', start ⟨"c", {}⟩ 0 (retriedCall (some ⟨"0a\n", "0b", true⟩)) {} =
        (.running run, r') ∧
      ∃ a, run.course.attempts = [a] ∧ a.sent = none := by
  constructor
  · refine ⟨_, _, rfl, rfl, fun a number hmem => ?_⟩
    have hstart : start ⟨"c", {}⟩ 0 (retriedCall none) {} = (.running _, _) := rfl
    obtain ⟨-, hspans, -, hwritable, -⟩ := one_span_per_attempt hstart (retriedCall_isW3c none)
    obtain ⟨hname, -, -, hsent⟩ := hspans a number hmem
    exact ⟨hname, hsent (hwritable rfl)⟩
  · refine ⟨_, _, rfl, ?_⟩
    have hstart : start ⟨"c", {}⟩ 0 (retriedCall (some ⟨"0a\n", "0b", true⟩)) {} =
      (.running _, _) := rfl
    obtain ⟨-, -, -, -, hfailed⟩ := one_span_per_attempt hstart (retriedCall_isW3c _)
    obtain ⟨a, hattempts, hsent, -⟩ := hfailed rfl trivial
    exact ⟨a, hattempts, hsent⟩

end Pipeline

end ApiScaffold.Client
