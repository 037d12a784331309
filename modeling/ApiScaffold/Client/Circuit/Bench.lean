import ApiScaffold.Client.Circuit.Registry

/-!
# Circuits on a clock

Circuits, a clock that stands still between two steps, and permits that are held under names.

* `Bench.acquire`, `Bench.record`, `Bench.drop`: what is done with permits.
* `Bench.burst`: calls that end at once, one after the other.
* `Bench.readMetrics`: the numbers of all circuits.
-/

namespace ApiScaffold.Client

/-- Circuits on a clock, and the permits that are held under names. -/
structure Bench where
  registry : CircuitRegistry := {}
  now : Nat := 0
  /-- The names, the circuits that the permits belong to, and the permits. -/
  permits : List (String × String × Permit) := []
  deriving Repr

namespace Bench

/-- A step of one circuit. -/
def update (b : Bench) (circuit : String) (step : Circuit → Circuit) : Bench :=
  { b with registry := b.registry.update circuit step }

/-- The permit of a name, which is then no longer held. -/
def take (b : Bench) (name : String) : Option (String × Permit) × Bench :=
  (b.permits.lookup name, { b with permits := b.permits.filter (·.1 != name) })

/-- Gives the permit of a name back without an outcome. -/
def drop (b : Bench) (name : String) : Bench :=
  match b.take name with
  | (some (circuit, permit), b) => b.update circuit (·.release permit)
  | (none, b) => b

/-- Gives the permit of a name back with an outcome. -/
def record (b : Bench) (name : String) (success : Bool) : Bench :=
  match b.take name with
  | (some (circuit, permit), b) => b.update circuit (·.record b.now permit success)
  | (none, b) => b

/-- Whether a permit is held under a name. -/
def holds (b : Bench) (name : String) : Bool := (b.permits.lookup name).isSome

/-- Asks a circuit for a permit and holds it under a name; one that was held under it is given
back afterwards.  There is no answer where there is no circuit. -/
def acquire (b : Bench) (circuit name : String) : Option (Except Rejection Permit) × Bench :=
  match b.registry.get? circuit with
  | none => (none, b)
  | some c =>
    match c.tryAcquire b.now with
    | (.error reason, c) => (some (.error reason), b.update circuit fun _ => c)
    | (.ok permit, c) =>
      let b := (b.update circuit fun _ => c).drop name
      (some (.ok permit), { b with permits := (name, circuit, permit) :: b.permits })

/-- One call that ends at once: the state of the circuit after it, or why it was refused. -/
def callOnce (b : Bench) (c : Circuit) (success : Bool) : Except Rejection Circuit × Bench :=
  match c.tryAcquire b.now with
  | (.error reason, c) => (.error reason, b.update c.name fun _ => c)
  | (.ok permit, c) =>
    let c := c.record b.now permit success
    (.ok c, b.update c.name fun _ => c)

/-- Calls of a circuit that end at once, one after the other. -/
def burst (b : Bench) (circuit : String) : List Bool → List (Except Rejection Circuit) × Bench
  | [] => ([], b)
  | success :: rest =>
    match b.registry.get? circuit with
    | none => ([], b)
    | some c =>
      let (result, b) := b.callOnce c success
      let (results, b) := burst b circuit rest
      (result :: results, b)

/-- The names and the numbers of all circuits. -/
def readMetrics (b : Bench) : List (String × CircuitMetrics) × Bench :=
  let (metrics, registry) := b.registry.readMetrics b.now
  (metrics, { b with registry })

end Bench

end ApiScaffold.Client
