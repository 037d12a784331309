import ApiScaffold.Client.Request
import ApiScaffold.Text.Hex

/-!
# Calls

A call makes one attempt after the other until one succeeds, the retry policy has had enough, or
the caller's patience ends.  What happens when is computed ahead, as the course of the call.

* `Service`: what a service answers to each attempt, and after which time.
* `Call.attempt`: one attempt under a span of its own.
* `Call.run`: the attempts from one on.
* `Course`: the attempts, and when and with what the call ends.

A pause or an attempt that takes no time is never cut short, and one that is ready at the very
moment of the deadline still counts; a caller who gives up comes first.
-/

namespace ApiScaffold.Client

open Web (Headers)

/-- What a service answers to an attempt, and after which time. -/
structure Reply where
  delay : Nat
  outcome : Outcome
  deriving Repr

/-- What a service answers to the attempts at a request, counted from one. -/
abbrev Service := Nat → Request → Reply

/-- How the attempts of a call are traced. -/
structure Tracer where
  /-- The span that a call starts from if the caller has none. -/
  root : SpanContext
  /-- The identifiers of the spans of the attempts. -/
  spanId : Nat → String
  /-- Writes a span into the headers. -/
  inject : SpanContext → Headers → Except String Headers := Client.inject

/-- A tracer whose identifiers are made from a number, different ones for different numbers. -/
def Tracer.numbered (number : Nat) : Tracer where
  root := ⟨Text.hexText 32 (number + 1), Text.hexText 16 1, true⟩
  spanId attempt := Text.hexText 16 (number * 4294967296 + attempt + 1)

/-- What a span records about its attempt. -/
inductive SpanRecord
  | status (code : Nat)
  | failure (text : String)
  deriving DecidableEq, Repr

def SpanRecord.ofOutcome : Outcome → SpanRecord
  | .ok r => status r.status
  | .error e => failure e.message

/-- An attempt, as its span shows it. -/
structure Attempt where
  /-- The moment at which it starts. -/
  start : Nat
  name : String
  span : SpanContext
  /-- The request that the service got, if it got one. -/
  sent : Option Request
  /-- What the span recorded, unless the attempt was abandoned. -/
  record : Option SpanRecord
  deriving DecidableEq, Repr

/-- How a call goes. -/
structure Course where
  attempts : List Attempt
  /-- The moment at which the call ends. -/
  finish : Nat
  /-- The outcome of the attempts, unless they were abandoned. -/
  settled : Option Outcome
  /-- What the caller gets. -/
  outcome : Outcome
  deriving Repr

namespace Course

/-- A call that ends before any attempt. -/
def immediate (now : Nat) (e : CallError) : Course := ⟨[], now, none, .error e⟩

/-- The course of attempts that end with an outcome. -/
def settle (a : Attempt) (finish : Nat) (outcome : Outcome) : Course :=
  ⟨[a], finish, some outcome, outcome⟩

/-- The course of attempts that are abandoned. -/
def abandon (a : Attempt) (finish : Nat) (e : CallError) : Course := ⟨[a], finish, none, .error e⟩

/-- A course with an attempt in front. -/
def after (a : Attempt) (c : Course) : Course := { c with attempts := a :: c.attempts }

end Course

/-- When and why something that lasts from one moment to another is cut short. -/
def CallOptions.interruption? (o : CallOptions) (start finish : Nat) : Option (Nat × CallError) :=
  if finish ≤ start then none
  else
    let expiry := (o.deadline.filter (· < finish)).map (max start)
    match o.cancelAt.filter (· ≤ finish), expiry with
    | some c, some d => if c ≤ d then some (c, .cancelled) else some (d, .deadlineExceeded)
    | some c, none => some (c, .cancelled)
    | none, some d => some (d, .deadlineExceeded)
    | none, none => none

/-- A call. -/
structure Call where
  request : Request
  options : CallOptions := {}
  policy : RetryPolicy
  service : Service
  tracer : Tracer

namespace Call

/-- The span that the attempts belong to. -/
def parent (c : Call) : SpanContext := c.options.parent.getD c.tracer.root

/-- The name of the spans: the operation, or the path where none is named. -/
def spanName (c : Call) : String := c.options.operation.getD c.request.url.pathText

/-- Only requests that change nothing are made again. -/
def effectivePolicy (c : Call) : RetryPolicy :=
  if c.request.method = "GET" then c.policy else .never

/-- How an attempt ends. -/
inductive Progress
  | ended (time : Nat) (outcome : Outcome)
  | abandoned (time : Nat) (error : CallError)

/-- One attempt, counted from one, that starts at a moment. -/
def attempt (c : Call) (number now : Nat) : Attempt × Progress :=
  let name := c.spanName
  let span := c.parent.child (c.tracer.spanId number)
  match c.tracer.inject span c.request.headers with
  | .error reason =>
    (⟨now, name, span, none, some (.failure reason)⟩, .ended now (.error (.traceInjection reason)))
  | .ok headers =>
    let sent := { c.request with headers }
    let reply := c.service number sent
    match c.options.interruption? now (now + reply.delay) with
    | some (time, e) => (⟨now, name, span, some sent, none⟩, .abandoned time e)
    | none =>
      (⟨now, name, span, some sent, some (.ofOutcome reply.outcome)⟩,
        .ended (now + reply.delay) reply.outcome)

/-- What follows an attempt. -/
inductive Next
  | stop (time : Nat)
  | again (time : Nat)
  | abandoned (time : Nat) (error : CallError)

/-- What follows an attempt that ended with an outcome. -/
def next (c : Call) (number now : Nat) (outcome : Outcome) : Next :=
  let decision := c.effectivePolicy.decide outcome number
  if !decision.retry || c.options.isCancelled now || c.options.isExpired now then .stop now
  else
    match c.options.interruption? now (now + decision.pause) with
    | some (time, e) => .abandoned time e
    | none =>
      if c.options.isExpired (now + decision.pause) then .stop (now + decision.pause)
      else .again (now + decision.pause)

/-- The course from an attempt on; `more` bounds the attempts that may follow it. -/
def run (c : Call) : Nat → Nat → Nat → Course
  | more, number, now =>
    match c.attempt number now with
    | (a, .abandoned time e) => .abandon a time e
    | (a, .ended time outcome) =>
      match c.next number time outcome, more with
      | .stop time, _ => .settle a time outcome
      | .abandoned time e, _ => .abandon a time e
      | .again _, 0 => .settle a time outcome
      | .again time, more + 1 => (c.run more (number + 1) time).after a

/-- The course of a call that starts at a moment. -/
def course (c : Call) (now : Nat) : Course := c.run (c.effectivePolicy.maxAttempts - 1) 1 now

end Call

end ApiScaffold.Client
