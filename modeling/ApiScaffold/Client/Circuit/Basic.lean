import ApiScaffold.Client.Error

/-!
# Circuits

A circuit admits the calls to one service as long as most of them succeed.  Every admitted call
holds a permit, and gives it back with its outcome or without one.

* `Circuit.tryAcquire`: a permit, or why there is none.
* `Circuit.record`: the outcome of a call, given back with its permit.
* `Circuit.release`: a permit given back without an outcome.
* `Circuit.readMetrics`: the numbers of a circuit at a moment.

A circuit that is closed counts the outcomes of the rolling window, and opens once enough of
them are failures.  An open circuit refuses all calls until the sleep window has passed; then it
is half open and admits a single trial, whose outcome closes it or opens it again.

Moments and spans of time are counted in microseconds.
-/

namespace ApiScaffold.Client

/-- The limits of a circuit. -/
structure CircuitSettings where
  /-- How many calls may hold a permit at once. -/
  maxConcurrent : Nat := 100
  /-- How many outcomes the rolling window must hold before failures are weighed. -/
  volume : Nat := 20
  /-- The percentage of failures beyond which the circuit opens. -/
  errorPercent : Nat := 90
  /-- How long an open circuit waits before a trial. -/
  sleepWindow : Nat := 5000000
  /-- The age beyond which an outcome no longer counts. -/
  rollingWindow : Nat := 10000000
  /-- Whether refused calls are only counted and admitted all the same. -/
  debug : Bool := false
  deriving DecidableEq, Repr

/-- Sets the percentage of failures, which is at most a hundred. -/
def CircuitSettings.withErrorPercent (percent : Nat) (s : CircuitSettings) : CircuitSettings :=
  { s with errorPercent := min percent 100 }

/-- Where a circuit stands. -/
inductive Phase
  | closed
  | opened (since : Nat)
  | halfOpen (trialInFlight : Bool)
  deriving DecidableEq, Repr

/-- Where a circuit stands, as it is shown. -/
inductive CircuitState
  | closed
  | opened
  | halfOpen
  deriving DecidableEq, Repr

def CircuitState.name : CircuitState → String
  | closed => "closed"
  | opened => "open"
  | halfOpen => "half-open"

def Phase.state : Phase → CircuitState
  | closed => .closed
  | opened _ => .opened
  | halfOpen _ => .halfOpen

/-- The outcome of a call and when it was recorded. -/
structure Mark where
  time : Nat
  success : Bool
  deriving DecidableEq, Repr

/-- A circuit. -/
structure Circuit where
  name : String
  settings : CircuitSettings
  phase : Phase := .closed
  /-- The outcomes that count, oldest first. -/
  window : List Mark := []
  /-- How many calls hold a permit. -/
  inFlight : Nat := 0
  /-- How many calls were refused. -/
  rejected : Nat := 0
  deriving DecidableEq, Repr

/-- What an admitted call holds. -/
structure Permit where
  /-- Whether the call is the trial of a half-open circuit. -/
  trial : Bool
  deriving DecidableEq, Repr

/-- The numbers of a circuit at a moment. -/
structure CircuitMetrics where
  state : CircuitState
  requests : Nat
  errors : Nat
  inFlight : Nat
  rejected : Nat
  deriving DecidableEq, Repr

namespace Circuit

def state (c : Circuit) : CircuitState := c.phase.state

/-- Whether an outcome is too old to count. -/
def isStale (c : Circuit) (now : Nat) (m : Mark) : Bool :=
  c.settings.rollingWindow < now - m.time

/-- Forgets the outcomes in front that are too old. -/
def prune (c : Circuit) (now : Nat) : Circuit :=
  { c with window := c.window.dropWhile (c.isStale now) }

/-- How many outcomes count. -/
def requests (c : Circuit) : Nat := c.window.length

/-- How many failures count. -/
def errors (c : Circuit) : Nat := c.window.countP fun m => !m.success

/-- Whether the outcomes that count open a closed circuit. -/
def isFailing (c : Circuit) : Bool :=
  c.settings.volume ≤ c.requests && 0 < c.requests
    && c.settings.errorPercent * c.requests < c.errors * 100

/-- Counts a refusal, which stands unless the circuit only counts. -/
def refuse (c : Circuit) (reason : Rejection) : Except Rejection Unit × Circuit :=
  (if c.settings.debug then .ok () else .error reason, { c with rejected := c.rejected + 1 })

/-- Lets a call in as far as the number of permits goes. -/
def reserve (c : Circuit) : Except Rejection Unit × Circuit :=
  if c.inFlight < c.settings.maxConcurrent then (.ok (), { c with inFlight := c.inFlight + 1 })
  else
    match c.refuse .maxConcurrency with
    | (.ok (), c) => (.ok (), { c with inFlight := c.inFlight + 1 })
    | (.error reason, c) => (.error reason, c)

/-- What the phase says about a call that comes in: it is admitted, as the trial or not, or it
is refused. -/
def verdict (c : Circuit) (now : Nat) : Except Rejection Permit :=
  match c.phase with
  | .closed => .ok ⟨false⟩
  | .opened since =>
    if c.settings.sleepWindow ≤ now - since then .ok ⟨true⟩ else .error .isOpen
  | .halfOpen true => .error .trialInFlight
  | .halfOpen false => .ok ⟨true⟩

/-- A permit, or why there is none. -/
def tryAcquire (c : Circuit) (now : Nat) : Except Rejection Permit × Circuit :=
  match c.reserve with
  | (.error reason, c) => (.error reason, c)
  | (.ok (), c) =>
    match c.verdict now with
    | .ok permit =>
      (.ok permit, if permit.trial then { c with phase := .halfOpen true } else c)
    | .error reason =>
      match c.refuse reason with
      | (.ok (), c) => (.ok ⟨false⟩, c)
      | (.error reason, c) => (.error reason, { c with inFlight := c.inFlight - 1 })

/-- The outcome of a trial closes the circuit, which forgets all outcomes, or opens it. -/
def recordTrial (c : Circuit) (now : Nat) (success : Bool) : Circuit :=
  if success then { c with phase := .closed, window := [] } else { c with phase := .opened now }

/-- Any other outcome joins the window, and may open the circuit if it is closed. -/
def recordCall (c : Circuit) (now : Nat) (success : Bool) : Circuit :=
  let c := prune { c with window := c.window ++ [⟨now, success⟩] } now
  if c.phase = .closed && c.isFailing then { c with phase := .opened now } else c

/-- Gives a permit back with the outcome of the call. -/
def record (c : Circuit) (now : Nat) (permit : Permit) (success : Bool) : Circuit :=
  let c := if permit.trial then c.recordTrial now success else c.recordCall now success
  { c with inFlight := c.inFlight - 1 }

/-- Gives a permit back without an outcome; the trial may then be another call. -/
def release (c : Circuit) (permit : Permit) : Circuit :=
  let phase :=
    match permit.trial, c.phase with
    | true, .halfOpen _ => .halfOpen false
    | _, phase => phase
  { c with phase, inFlight := c.inFlight - 1 }

/-- The numbers of a circuit, whose stale outcomes are forgotten. -/
def readMetrics (c : Circuit) (now : Nat) : CircuitMetrics × Circuit :=
  let c := c.prune now
  (⟨c.state, c.requests, c.errors, c.inFlight, c.rejected⟩, c)

end Circuit

end ApiScaffold.Client
