import ApiScaffold.Client.Call

/-!
# What the course of a call shows

* `Course.sent`: the attempts that reached the service.
* `Course.sharesTrace`, `Course.hasDistinctSpans`, `Course.carriesSpans`, `Course.keepsParent`:
  how the spans of the attempts are related.
-/

namespace ApiScaffold.Client.Course

/-- The attempts that reached the service. -/
def sent (c : Course) : List Attempt := c.attempts.filter (·.sent.isSome)

/-- Whether all attempts belong to one trace. -/
def sharesTrace (c : Course) : Bool :=
  c.attempts.all fun a => c.attempts.all fun b => a.span.traceId == b.span.traceId

/-- Whether every attempt has a span of its own. -/
def hasDistinctSpans (c : Course) : Bool := decide (c.attempts.map (·.span.spanId)).Nodup

/-- Whether every request carries the span of its attempt. -/
def carriesSpans (c : Course) : Bool :=
  c.sent.all fun a => (a.sent.bind fun r => extract r.headers) == some a.span

/-- Whether the attempts belong to the trace of a span, sampled as it is. -/
def keepsParent (c : Course) (parent : SpanContext) : Bool :=
  c.attempts.all fun a => a.span.traceId == parent.traceId && a.span.sampled == parent.sampled

end ApiScaffold.Client.Course

namespace ApiScaffold.Client

/-- Whether the span of an attempt is a new one in the trace of another span. -/
def Attempt.isChildOf (a : Attempt) (parent : SpanContext) : Bool :=
  a.span.traceId == parent.traceId && a.span.spanId != parent.spanId

end ApiScaffold.Client
