import ApiScaffold.Client.Circuit.Registry
import ApiScaffold.Proofs.Circuit.Operation

/-!
# The circuit of a name

A step of a registry happens under one name.  What is found there afterwards is what the step made,
and under every other name the same circuit is found as before.

* `get?_update`, `get?_insert`, `get?_readMetrics`: the circuit of a name after a step.
* `get?_update_of_ne`, `get?_insert_of_ne`: the circuits of the other names.
* `getOrCreate_cases`: a circuit that was there, or a new one.
-/

namespace ApiScaffold.Client.CircuitRegistry


theorem name_of_get? {r : CircuitRegistry} {name : String} {c : Circuit}
    (h : r.get? name = some c) : c.name = name :=
  eq_of_beq (List.find?_some (p := fun c : Circuit => c.name == name) h)

/-- A step that keeps the name of a circuit does not change where circuits are found. -/
theorem get?_update_any {r : CircuitRegistry} {name : String} {step : Circuit → Circuit}
    (hstep : ∀ c, (step c).name = c.name) (other : String) :
    (r.update name step).get? other =
      (r.get? other).map fun c => if c.name = name then step c else c := by
  have hname : ((fun c : Circuit => c.name == other) ∘
      fun c => if c.name = name then step c else c) = fun c => c.name == other := by
    funext c
    show ((if c.name = name then step c else c).name == other) = _
    split
    · rw [hstep]
    · rfl
  rw [update, get?, List.find?_map, hname]
  rfl

/-- A step that keeps the name of a circuit happens where the circuit is looked up. -/
theorem get?_update {r : CircuitRegistry} {name : String} {step : Circuit → Circuit}
    (hstep : ∀ c, (step c).name = c.name) :
    (r.update name step).get? name = (r.get? name).map step := by
  rw [get?_update_any hstep]
  refine Option.map_congr fun c hc => ?_
  rw [if_pos (name_of_get? hc)]

/-- A step of one circuit leaves those of other names alone. -/
theorem get?_update_of_ne {r : CircuitRegistry} {name other : String} {step : Circuit → Circuit}
    (hstep : ∀ c, (step c).name = c.name) (hne : other ≠ name) :
    (r.update name step).get? other = r.get? other := by
  rw [get?_update_any hstep]
  cases hc : r.get? other with
  | none => rfl
  | some c => rw [Option.map_some, if_neg (by rwa [name_of_get? hc])]

/-- A circuit that is put into a registry is found there. -/
theorem get?_insert (r : CircuitRegistry) (c : Circuit) :
    (r.insert c).get? c.name = some c := by
  rw [insert, get?]
  induction r.circuits with
  | nil => rw [place, List.find?_cons_of_pos (by simp)]
  | cons d rest ih =>
    rw [place]
    split
    · rw [List.find?_cons_of_pos (by simp)]
    · rename_i hne
      split
      · rw [List.find?_cons_of_pos (by simp)]
      · rw [List.find?_cons_of_neg (by simpa using fun h => hne h.symm)]
        exact ih

theorem name_getOrCreate (r : CircuitRegistry) (name : String) (settings : CircuitSettings) :
    (r.getOrCreate name settings).1.name = name := by
  rw [getOrCreate]
  cases h : r.get? name with
  | some c => exact name_of_get? h
  | none => rfl

theorem get?_insert_of_ne {r : CircuitRegistry} {c : Circuit} {other : String}
    (hne : other ≠ c.name) : (r.insert c).get? other = r.get? other := by
  have hskip : ¬ c.name = other := hne.symm
  rw [insert, get?, get?]
  induction r.circuits with
  | nil => rw [place, List.find?_cons_of_neg (by simpa using hskip)]
  | cons d rest ih =>
    rw [place]
    split
    · rename_i heq
      rw [List.find?_cons_of_neg (by simpa using hskip),
        List.find?_cons_of_neg (by simpa [← heq] using hskip)]
    · split
      · rw [List.find?_cons_of_neg (by simpa using hskip)]
      · rw [List.find?_cons, List.find?_cons, ih]

/-- Reading the metrics is a step of every circuit. -/
theorem get?_readMetrics (r : CircuitRegistry) (now : Nat) (name : String) :
    (r.readMetrics now).2.get? name = (r.get? name).map fun c => (c.readMetrics now).2 := by
  rw [readMetrics, get?, List.find?_map]
  rfl

/-- The circuit of a name was there, or is a new one. -/
theorem getOrCreate_cases (r : CircuitRegistry) (name : String) (settings : CircuitSettings) :
    (∃ c, r.get? name = some c ∧ r.getOrCreate name settings = (c, r)) ∨
      r.get? name = none ∧
        r.getOrCreate name settings = ({ name, settings }, r.insert { name, settings }) := by
  rw [getOrCreate]
  cases r.get? name with
  | some c => exact .inl ⟨c, rfl, rfl⟩
  | none => exact .inr ⟨rfl, rfl⟩

end ApiScaffold.Client.CircuitRegistry
