import ApiScaffold.Client.Error
import ApiScaffold.Web.Status

/-!
# Retries

A policy says after each attempt whether another one follows, and after which pause.

* `Response`, `Outcome`: what an attempt ends with.
* `isRetryable`: server errors and failures to send.
* `RetryPolicy.decide`: the decision after an attempt.
* `RetryPolicy.backoff`: pauses that grow by a factor up to a greatest one.

A client counts its pauses in microseconds; growing pauses are the same in any other unit.
-/

namespace ApiScaffold.Client

/-- A response of a service. -/
structure Response where
  status : Nat
  headers : List (String × String) := []
  body : List UInt8 := []
  deriving DecidableEq, Repr

/-- What an attempt ends with. -/
abbrev Outcome := Except CallError Response

def Response.isServerError (r : Response) : Bool := Web.Status.isServerError r.status

/-- Whether another attempt may end better. -/
def isRetryable : Outcome → Bool
  | .ok r => r.isServerError
  | .error e => e.isTransport

/-- The greatest number of 32 bits. -/
def maxCount : Nat := 4294967295

/-- How many of the units that a client counts its pauses in make a second. -/
def ticksPerSecond : Nat := 1000000

/-- The greatest pause, in units of which so many make a second: a whole number of seconds of 64
bits and the rest of a second. -/
def maxPause (second : Nat) : Nat := 18446744073709551616 * second - 1

/-- The decision after an attempt. -/
structure RetryDecision where
  retry : Bool
  remaining : Nat
  /-- The pause before the next attempt, in microseconds. -/
  pause : Nat
  deriving DecidableEq, Repr

/-- No other attempt. -/
def RetryDecision.stop : RetryDecision := ⟨false, 0, 0⟩

/-- When another attempt follows. -/
inductive RetryPolicy
  | never
  /-- Once, after a pause. -/
  | once (pause : Nat)
  /-- Up to so many attempts, without pauses. -/
  | bounded (maxAttempts : Nat)
  /-- Up to so many attempts, with growing pauses. -/
  | exponential (maxAttempts initial multiplier maxPause : Nat)
  /-- Up to so many attempts, by a rule of the caller's own.  A call that ends has made only
  finitely many, so the bound takes nothing from the rule. -/
  | custom (maxAttempts : Nat) (rule : Outcome → Nat → RetryDecision)

namespace RetryPolicy

/-- The pause before the one other attempt, where nothing else is said. -/
def defaultPause : Nat := 100000

/-- At least one attempt. -/
def ofMaxAttempts (n : Nat) : RetryPolicy := bounded (max n 1)

/-- Growing pauses, of at most ten seconds, each twice as long as the one before. -/
def growing (second maxAttempts initial : Nat) : RetryPolicy :=
  exponential (max maxAttempts 1) initial 2 (10 * second)

/-- The same in the units of a client. -/
def ofInitialPause (maxAttempts initial : Nat) : RetryPolicy :=
  growing ticksPerSecond maxAttempts initial

/-- The factor of the pauses; it is at least one. -/
def withMultiplier (multiplier : Nat) : RetryPolicy → RetryPolicy
  | exponential n initial _ longest => exponential n initial (max multiplier 1) longest
  | p => p

/-- The greatest pause. -/
def withMaxPause (longest : Nat) : RetryPolicy → RetryPolicy
  | exponential n initial multiplier _ => exponential n initial multiplier longest
  | p => p

/-- A power, or the greatest number of 32 bits if it exceeds that.  A power of a factor beyond
one exceeds it as soon as the exponent does not fit five bits. -/
def cappedPower (base exponent : Nat) : Nat :=
  if base ≤ 1 then (if exponent = 0 then 1 else base)
  else if 32 ≤ exponent then maxCount
  else min (Nat.pow base exponent) maxCount

/-- The pause after an attempt, counted from one. -/
def backoff (second initial multiplier longest attempt : Nat) : Nat :=
  let product := initial * cappedPower multiplier (attempt - 1)
  min (if maxPause second < product then longest else product) longest

/-- The pause after an attempt of a policy whose pauses grow; no pause for the others. -/
def pause (second attempt : Nat) : RetryPolicy → Nat
  | exponential _ initial multiplier longest => backoff second initial multiplier longest attempt
  | _ => 0

/-- The same in the units of a client. -/
def pauseAfter (attempt : Nat) (p : RetryPolicy) : Nat := p.pause ticksPerSecond attempt

/-- The decision of a policy that allows so many attempts. -/
def decideBounded (maxAttempts pause : Nat) (outcome : Outcome) (attempt : Nat) : RetryDecision :=
  if maxAttempts ≤ attempt || !isRetryable outcome then .stop
  else ⟨true, maxAttempts - attempt, pause⟩

/-- The decision after an attempt, counted from one. -/
def decide (outcome : Outcome) (attempt : Nat) : RetryPolicy → RetryDecision
  | never => .stop
  | once pause => if 2 ≤ attempt || !isRetryable outcome then .stop else ⟨true, 1, pause⟩
  | bounded n => decideBounded n 0 outcome attempt
  | exponential n initial multiplier longest =>
    decideBounded n (backoff ticksPerSecond initial multiplier longest attempt) outcome attempt
  | custom n rule => if n ≤ attempt then .stop else rule outcome attempt

/-- How many attempts a policy allows. -/
def maxAttempts : RetryPolicy → Nat
  | never => 1
  | once _ => 2
  | bounded n => n
  | exponential n _ _ _ => n
  | custom n _ => n

end RetryPolicy

end ApiScaffold.Client
