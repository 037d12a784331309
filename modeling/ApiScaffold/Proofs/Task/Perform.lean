import ApiScaffold.Task.Run

/-!
# Steps on a tree of files

A task is a chain of steps that may fail, over a tree that each of them may change.  What one step
leaves is what the next one finds; a step that fails ends the chain, and the tree stays as that
step left it.

* `Entry.perform`: what a step comes to, and the tree behind it.
* `perform_bind`, `perform_bind_ok`: two steps one after the other.
* `run_readText`, `run_load`: reading changes nothing, and depends only on the file that is read.
-/

namespace ApiScaffold

variable {ε α β : Type} {root root' : Entry}

/-- What a step on a tree comes to, and the tree behind it. -/
def Entry.perform (root : Entry) (step : ExceptT ε (StateM Entry) α) : Except ε α × Entry :=
  StateT.run step.run root

/-! ## One step after the other -/

theorem perform_given (x : Except ε α) :
    root.perform (ExceptT.mk (pure x) : ExceptT ε (StateM Entry) α) = (x, root) := rfl

theorem perform_lift (step : StateM Entry α) :
    root.perform (ExceptT.lift step : ExceptT ε (StateM Entry) α) =
      (.ok (step.run root).1, (step.run root).2) := rfl

theorem perform_bind (x : ExceptT ε (StateM Entry) α) (f : α → ExceptT ε (StateM Entry) β) :
    root.perform (x >>= f) =
      match root.perform x with
      | (.ok a, after) => after.perform (f a)
      | (.error e, after) => (.error e, after) := by
  have hbind : root.perform (x >>= f) =
      StateT.run (ExceptT.bindCont f (root.perform x).1) (root.perform x).2 := rfl
  rw [hbind]
  obtain ⟨outcome, after⟩ := root.perform x
  cases outcome with
  | ok a => rfl
  | error e => rfl

/-- Two steps succeed exactly if the first does, and the second does on the tree behind it. -/
theorem perform_bind_ok {x : ExceptT ε (StateM Entry) α} {f : α → ExceptT ε (StateM Entry) β}
    {b : β} : root.perform (x >>= f) = (.ok b, root') ↔
      ∃ a after, root.perform x = (.ok a, after) ∧ after.perform (f a) = (.ok b, root') := by
  rw [perform_bind]
  obtain ⟨outcome, after⟩ := root.perform x
  cases outcome with
  | ok a =>
    constructor
    · intro h
      exact ⟨a, after, rfl, h⟩
    · rintro ⟨a', after', hx, hf⟩
      cases hx
      exact hf
  | error e =>
    constructor
    · intro h
      cases h
    · rintro ⟨a, after', hx, -⟩
      cases hx

theorem perform_asTask (wrap : ε → TaskError) (step : ExceptT ε (StateM Entry) α) :
    root.perform (asTask wrap step) =
      ((root.perform step).1.mapError wrap, (root.perform step).2) := rfl

theorem perform_attempt (action path : String) (step : StateM Entry (Except FileFault Unit)) :
    root.perform (attempt action path step) =
      ((step.run root).1.mapError fun fault => { action, path, fault }, (step.run root).2) := rfl

/-! ## Reading -/

variable {around : Surroundings} {source : String}

theorem run_readText (path : String) : ((Access.inTree around).readText path).run root =
    ((root.read around.home path).bind Access.textOf, root) := rfl

/-- The document of a source, where the tree holds the files. -/
def Entry.loaded (around : Surroundings) (source : String) (root : Entry) :
    Except GenerationError Document := ((load (.inTree around) source).run root).1

theorem run_loadFromUrl (hurl : isUrl source = true) :
    (loadFromUrl (.inTree around) source).run root =
      (match around.fetch source with
        | .ok response => documentOfResponse source response
        | .error text => .error
            (.load s!"Failed to fetch Swagger document from {source}: {text}"), root) := by
  have hfetch : (Access.inTree around).fetch source = pure (around.fetch source) := rfl
  rw [loadFromUrl, if_pos hurl, hfetch, pure_bind]
  cases around.fetch source with
  | ok response => rfl
  | error text => rfl

theorem run_loadFromFile : (loadFromFile (.inTree around) source).run root =
    (match (root.read around.home source).bind Access.textOf with
      | .ok content => readDocument source none content
      | .error fault => .error (.load s!"Failed to read {source}: {fault.message}"), root) := by
  rw [loadFromFile, StateT.run_bind, run_readText]
  cases (root.read around.home source).bind Access.textOf with
  | ok content => rfl
  | error fault => rfl

/-- **Loading a document changes nothing.** -/
theorem run_load : (load (.inTree around) source).run root =
    (root.loaded around source, root) := by
  refine Prod.ext rfl ?_
  rw [load]
  by_cases hurl : isUrl source = true
  · rw [if_pos hurl, run_loadFromUrl hurl]
  · rw [if_neg hurl, run_loadFromFile]

theorem loaded_of_file (hurl : isUrl source = false) : root.loaded around source =
    match (root.read around.home source).bind Access.textOf with
    | .ok content => readDocument source none content
    | .error fault => .error (.load s!"Failed to read {source}: {fault.message}") := by
  rw [Entry.loaded, load, if_neg (by rw [hurl]; exact Bool.false_ne_true), run_loadFromFile]

/-- A document that is no URL's depends on nothing but the file at its path. -/
theorem loaded_congr (h : isUrl source = false →
    root'.read around.home source = root.read around.home source) :
    root'.loaded around source = root.loaded around source := by
  cases hurl : isUrl source with
  | true => rw [Entry.loaded, Entry.loaded, load, if_pos hurl, run_loadFromUrl hurl,
      run_loadFromUrl hurl]
  | false => rw [loaded_of_file hurl, loaded_of_file hurl, h hurl]

end ApiScaffold
