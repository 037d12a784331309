import ApiScaffold.Client.Circuit.Basic

/-!
# Circuits by name

A registry holds the circuits of a client, in ascending order of their names.

* `CircuitRegistry.getOrCreate`: the circuit of a name, which keeps its settings once it exists.
* `CircuitRegistry.update`: a step of one circuit.
* `CircuitRegistry.readMetrics`: the numbers of all circuits.
-/

namespace ApiScaffold.Client

/-- Circuits in ascending order of their names. -/
structure CircuitRegistry where
  circuits : List Circuit := []
  deriving DecidableEq, Repr

namespace CircuitRegistry

/-- The names of the circuits. -/
def names (r : CircuitRegistry) : List String := r.circuits.map (·.name)

/-- The circuit of a name. -/
def get? (r : CircuitRegistry) (name : String) : Option Circuit :=
  r.circuits.find? (·.name == name)

/-- Puts a circuit in its place, or in the place of the one with its name. -/
def place (c : Circuit) : List Circuit → List Circuit
  | [] => [c]
  | d :: rest =>
    if c.name = d.name then c :: rest
    else if c.name < d.name then c :: d :: rest
    else d :: place c rest

/-- Puts a circuit into the registry. -/
def insert (r : CircuitRegistry) (c : Circuit) : CircuitRegistry := ⟨place c r.circuits⟩

/-- The circuit of a name, created with some settings if there is none. -/
def getOrCreate (r : CircuitRegistry) (name : String) (settings : CircuitSettings) :
    Circuit × CircuitRegistry :=
  match r.get? name with
  | some c => (c, r)
  | none =>
    let c : Circuit := { name, settings }
    (c, r.insert c)

/-- A step of the circuit of a name, if there is one. -/
def update (r : CircuitRegistry) (name : String) (step : Circuit → Circuit) : CircuitRegistry :=
  ⟨r.circuits.map fun c => if c.name = name then step c else c⟩

/-- The names and the numbers of all circuits. -/
def readMetrics (r : CircuitRegistry) (now : Nat) :
    List (String × CircuitMetrics) × CircuitRegistry :=
  (r.circuits.map fun c => (c.name, (c.readMetrics now).1),
    ⟨r.circuits.map fun c => (c.readMetrics now).2⟩)

end CircuitRegistry

end ApiScaffold.Client
