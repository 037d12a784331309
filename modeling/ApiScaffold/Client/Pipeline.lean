import ApiScaffold.Client.Call
import ApiScaffold.Client.Circuit.Name
import ApiScaffold.Client.Circuit.Bench
import ApiScaffold.Text.Quoted

/-!
# Pipelines

A pipeline sends the calls of a client to one place: each call passes the circuit of that place,
and gives its permit back when it ends.

* `Pipeline.build`: a pipeline with its circuit.
* `Pipeline.start`: a call that is refused at once or runs.
* `Running.settle`: a call that ends.
* `Pipeline.execute`: a call on its own; `executeAll`: calls side by side.
-/

namespace ApiScaffold.Client

/-- The settings of a client. -/
structure ClientSettings where
  /-- The time that a call has if its caller sets no deadline; no limit if zero. -/
  timeout : Nat := 5000000
  retry : RetryPolicy := .once RetryPolicy.defaultPause
  circuit : CircuitSettings := {}
  service : String := "service"

/-- A pipeline. -/
structure Pipeline where
  /-- The name of its circuit. -/
  circuit : String
  settings : ClientSettings

namespace Pipeline

/-- A pipeline to a place, with its circuit. -/
def build (baseUrl : String) (settings : ClientSettings) (r : CircuitRegistry) :
    Pipeline × CircuitRegistry :=
  let circuit := circuitName settings.service baseUrl
  (⟨circuit, settings⟩, (r.getOrCreate circuit settings.circuit).2)

/-- A number of a unit with the decimals behind it, without zeros at the end. -/
def decimalText (n : Nat) (digits : Nat) : String :=
  let part := toString (n % Nat.pow 10 digits)
  let decimals := List.replicate (digits - part.length) '0' ++ part.toList
  let decimals := Text.dropEndWhile (· == '0') decimals
  toString (n / Nat.pow 10 digits) ++ (if decimals.isEmpty then "" else "." ++ String.ofList decimals)

/-- A span of time in its greatest unit. -/
def timeText (n : Nat) : String :=
  if 1000000 ≤ n then decimalText n 6 ++ "s"
  else if 1000 ≤ n then decimalText n 3 ++ "ms"
  else if 1 ≤ n then toString n ++ "µs"
  else "0ns"

/-- A short description. -/
def description (p : Pipeline) : String :=
  "Pipeline \x7b circuit: " ++ Text.Quoted.encode p.circuit ++ ", timeout: "
    ++ timeText p.settings.timeout ++ " \x7d"

/-- The options of a call, with a deadline if the caller set none. -/
def bound (p : Pipeline) (now : Nat) (o : CallOptions) : CallOptions :=
  if o.deadline.isNone && p.settings.timeout ≠ 0 then
    { o with deadline := some (now + p.settings.timeout) }
  else o

end Pipeline

/-- A call that holds a permit until its course has ended. -/
structure Running where
  circuit : String
  permit : Permit
  course : Course
  deriving Repr

/-- Gives the permit of a call back to its circuit: with the outcome of the call, or without one
if the call was cancelled or abandoned. -/
def Running.giveBack (running : Running) (c : Circuit) : Circuit :=
  match running.course.settled with
  | none => c.release running.permit
  | some (.error .cancelled) => c.release running.permit
  | some (.error _) => c.record running.course.finish running.permit false
  | some (.ok response) =>
    c.record running.course.finish running.permit (!response.isServerError)

/-- Ends a call, which gives its permit back. -/
def Running.settle (running : Running) (r : CircuitRegistry) : CircuitRegistry :=
  r.update running.circuit running.giveBack

/-- A call that has ended, or that runs. -/
inductive Started
  | ended (course : Course)
  | running (call : Running)
  deriving Repr

/-- How a call that was started goes. -/
def Started.course : Started → Course
  | ended course => course
  | running call => call.course

namespace Pipeline

/-- Starts a call: one that was given up before never reaches the circuit. -/
def start (p : Pipeline) (now : Nat) (call : Call) (r : CircuitRegistry) :
    Started × CircuitRegistry :=
  if call.options.isCancelled now then (.ended (.immediate now .cancelled), r)
  else
    let (circuit, r) := r.getOrCreate p.circuit p.settings.circuit
    match circuit.tryAcquire now with
    | (.error reason, circuit) =>
      (.ended (.immediate now (.circuitOpen p.circuit reason)), r.insert circuit)
    | (.ok permit, circuit) =>
      let call := { call with options := p.bound now call.options }
      (.running ⟨p.circuit, permit, call.course now⟩, r.insert circuit)

/-- Starts calls one after the other at one moment; a call that takes no time ends before the
next one starts. -/
def startAll (now : Nat) :
    List (Pipeline × Call) → CircuitRegistry → List Started × CircuitRegistry
  | [], r => ([], r)
  | (p, call) :: rest, r =>
    let (started, r) := p.start now call r
    let r :=
      match started with
      | .running running => if running.course.finish = now then running.settle r else r
      | .ended _ => r
    let (more, r) := startAll now rest r
    (started :: more, r)

/-- The calls that are still running after a moment, in the order in which they end. -/
def pending (now : Nat) (started : List Started) : List Running :=
  (started.filterMap fun s =>
    match s with
    | .running running => if running.course.finish = now then none else some running
    | .ended _ => none).mergeSort fun a b => decide (a.course.finish ≤ b.course.finish)

/-- Calls side by side, all started at one moment: how each one goes, and the circuits at the
end. -/
def executeAll (now : Nat) (calls : List (Pipeline × Call)) (r : CircuitRegistry) :
    List Course × CircuitRegistry :=
  let (started, r) := startAll now calls r
  (started.map (·.course), (pending now started).foldl (fun r running => running.settle r) r)

/-- Calls side by side on a clock, which then shows the end of the last one. -/
def executeOn (b : Bench) (calls : List (Pipeline × Call)) : List Course × Bench :=
  let (courses, registry) := executeAll b.now calls b.registry
  (courses, { b with registry, now := courses.foldl (fun now c => max now c.finish) b.now })

/-- A call on its own: how it goes, and the circuits at the end. -/
def execute (p : Pipeline) (now : Nat) (call : Call) (r : CircuitRegistry) :
    Course × CircuitRegistry :=
  match p.start now call r with
  | (.ended course, r) => (course, r)
  | (.running running, r) => (running.course, running.settle r)

end Pipeline

end ApiScaffold.Client
