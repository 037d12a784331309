import ApiScaffold.Proofs.Circuit.Watch

/-!
# Reading a circuit

The numbers of a circuit are read at a price: what is too old by then is forgotten.  So two runs
that differ in their readings alone hold different windows, and what has to be shown is that no
later operation sees the difference.

The reason is that forgetting early is forgetting in vain.  Whatever an operation makes of the
window, it forgets first what is too old by its own time, and what was too old before is too old
then (`prune_prune`).  `Watch.fresh` is a circuit under watch that has just forgotten all it may.
Two of them that agree in this answer every operation alike (`answer_fresh`) and agree in it
afterwards (`fresh_perform`); a reading leaves it as it is (`fresh_reading`).  The induction over
the two scripts carries nothing else.

* `Watch.Line`: a line of two scripts side by side, an operation of both or a reading of one.
* `Watch.log`, `Watch.sharedLog`: what a script shows, and what the lines that both have show in it.
* `readings_unseen`: **the operations that two scripts share show the same in both.**
-/

namespace ApiScaffold.Client

namespace Circuit

variable {now later : Nat}

/-! ## Forgetting twice -/

/-- What is dropped for a stronger reason first is dropped in vain. -/
theorem dropWhile_dropWhile_of_imp {α : Type} {p q : α → Bool}
    (h : ∀ a, p a = true → q a = true) (l : List α) :
    (l.dropWhile p).dropWhile q = l.dropWhile q := by
  induction l with
  | nil => rfl
  | cons a l ih =>
    cases hp : p a with
    | true => rw [List.dropWhile_cons_of_pos hp, List.dropWhile_cons_of_pos (h a hp), ih]
    | false => rw [List.dropWhile_cons_of_neg (by simp [hp])]

/-- **Forgetting early is forgetting in vain**, because what is too old stays so. -/
theorem prune_prune (c : Circuit) (hle : now ≤ later) :
    (c.prune now).prune later = c.prune later := by
  have hstale : ∀ m, c.isStale now m = true → c.isStale later m = true := by
    intro m hm
    have hold : c.settings.rollingWindow < now - m.time := of_decide_eq_true hm
    exact decide_eq_true (Nat.lt_of_lt_of_le hold (Nat.sub_le_sub_right hle _))
  have hwindow := dropWhile_dropWhile_of_imp hstale c.window
  exact congrArg (fun window => { c with window }) hwindow

/-- A window takes in an outcome of now whether or not it has forgotten first. -/
theorem joined_prune (c : Circuit) (now : Nat) (success : Bool) :
    (c.prune now).joined now success = c.joined now success := by
  have hfresh : ¬ c.isStale now ⟨now, success⟩ = true := by
    rw [isStale, decide_eq_true_iff, Nat.sub_self]
    exact Nat.not_lt_zero _
  have hstays : [Mark.mk now success].dropWhile (c.isStale now) = [Mark.mk now success] :=
    List.dropWhile_cons_of_neg hfresh
  have hwindow : (c.window.dropWhile (c.isStale now) ++ [Mark.mk now success]).dropWhile
      (c.isStale now) = (c.window ++ [Mark.mk now success]).dropWhile (c.isStale now) := by
    rw [List.dropWhile_append, List.dropWhile_append, dropWhile_dropWhile_of_imp fun _ => id]
  exact congrArg (fun window => { c with window }) hwindow

/-! ## Operations on a circuit that has forgotten -/

theorem tryAcquire_prune (c : Circuit) (now : Nat) :
    (c.prune now).tryAcquire now = ((c.tryAcquire now).1, (c.tryAcquire now).2.prune now) := by
  have hafter : (c.tryAcquire now).2.reframed (c.prune now).window 0
      = (c.tryAcquire now).2.prune now := by
    have h := c.tryAcquire_acquisition now
    generalize c.tryAcquire now = r at h ⊢
    cases h <;> rfl
  rw [← hafter]
  exact c.tryAcquire_reframed now 0 (c.prune now).window

theorem record_prune (c : Circuit) (now : Nat) (permit : Permit) (success : Bool) :
    ((c.prune now).record now permit success).prune now
      = (c.record now permit success).prune now := by
  obtain ⟨trial⟩ := permit
  cases trial with
  | true =>
    cases success with
    | true => rfl
    | false => exact prune_prune (c.record now ⟨true⟩ false) (Nat.le_refl now)
  | false =>
    -- the outcome of a call looks at the window only once it has joined it
    have hcall : ∀ c : Circuit, c.recordCall now success =
        if (c.joined now success).phase = .closed && (c.joined now success).isFailing then
          { c.joined now success with phase := .opened now }
        else c.joined now success := fun _ => rfl
    have hsame : (c.prune now).recordCall now success = c.recordCall now success := by
      rw [hcall, hcall, joined_prune]
    exact congrArg (fun c : Circuit => prune { c with inFlight := c.inFlight - 1 } now) hsame

theorem readMetrics_prune (c : Circuit) (now : Nat) :
    (c.prune now).readMetrics now = c.readMetrics now := by
  rw [readMetrics, c.prune_prune (Nat.le_refl now)]
  rfl

end Circuit

namespace Watch

/-! ## One operation -/

/-- What is done to a circuit: an event happens, or its state is looked at. -/
inductive Operation
  | event (e : Event)
  | readState
  deriving DecidableEq, Repr

/-- Whether an operation only reads a circuit. -/
def Operation.isReading : Operation → Bool
  | event .readMetrics => true
  | readState => true
  | _ => false

/-- What an operation answers. -/
inductive Answer
  | nothing
  | permit (answer : Except Rejection Permit)
  | metrics (metrics : CircuitMetrics)
  | state (state : CircuitState)

/-- The answer of an operation: that to a request for a permit, or what is read. -/
def answer (w : Watch) : Operation → Answer
  | .event .acquire => .permit (w.circuit.tryAcquire w.now).1
  | .event .readMetrics => .metrics (w.circuit.readMetrics w.now).1
  | .readState => .state w.circuit.state
  | .event _ => .nothing

/-- What an operation does. -/
def perform (w : Watch) : Operation → Watch
  | .event e => w.step e
  | .readState => w

/-- A circuit under watch that has just forgotten what is too old. -/
def fresh (w : Watch) : Watch := { w with circuit := w.circuit.prune w.now }

variable {v w : Watch}

/-- **No answer depends on what is too old.** -/
theorem answer_fresh (w : Watch) (o : Operation) : w.fresh.answer o = w.answer o := by
  cases o with
  | readState => rfl
  | event e =>
    cases e with
    | acquire => exact congrArg (fun r => Answer.permit r.1) (w.circuit.tryAcquire_prune w.now)
    | readMetrics => exact congrArg (fun r => Answer.metrics r.1) (w.circuit.readMetrics_prune w.now)
    | _ => rfl

theorem fresh_fresh (w : Watch) : w.fresh.fresh = w.fresh :=
  congrArg (fun circuit => { w with circuit }) (w.circuit.prune_prune (Nat.le_refl w.now))

/-- Circuits that differ in what is too old are reached alike. -/
theorem fresh_moveTo {c d : Circuit} (h : c.prune w.now = d.prune w.now) :
    (w.fresh.moveTo c).fresh = (w.moveTo d).fresh := by
  have hstate : (c.prune w.now).state = (d.prune w.now).state := congrArg Circuit.state h
  change c.state = d.state at hstate
  have hopening : (w.fresh.moveTo c).opening = (w.moveTo d).opening := by
    rw [moveTo, moveTo, hstate]
    rfl
  calc (w.fresh.moveTo c).fresh
      = { w with circuit := c.prune w.now, opening := (w.fresh.moveTo c).opening } := rfl
    _ = { w with circuit := d.prune w.now, opening := (w.moveTo d).opening } := by
        rw [h, hopening]
    _ = (w.moveTo d).fresh := rfl

/-- **No event keeps what was too old before it.** -/
theorem fresh_step (w : Watch) (e : Event) : (w.fresh.step e).fresh = (w.step e).fresh := by
  cases e with
  | acquire =>
    have hacquire : w.fresh.circuit.tryAcquire w.fresh.now = _ := w.circuit.tryAcquire_prune w.now
    rw [step, step, hacquire]
    generalize w.circuit.tryAcquire w.now = r
    obtain ⟨answer, c⟩ := r
    have hmove := fresh_moveTo (c.prune_prune (Nat.le_refl w.now))
    cases answer with
    | ok permit =>
      exact congrArg (fun w' => { w' with permits := w.permits ++ [some permit] }) hmove
    | error reason => exact hmove
  | record k success =>
    cases hp : w.permit? k with
    | none => rw [step_record_none hp, step_record_none (w := w.fresh) hp, fresh_fresh]
    | some p =>
      rw [step_record hp, step_record (w := w.fresh) hp]
      have hmove := fresh_moveTo (w.circuit.record_prune w.now p success)
      exact congrArg (fun w' => (w'.giveBack k).note ⟨⟨w.now, success⟩, p.trial⟩) hmove
  | drop k =>
    cases hp : w.permit? k with
    | none => rw [step_drop_none hp, step_drop_none (w := w.fresh) hp, fresh_fresh]
    | some p =>
      rw [step_drop hp, step_drop (w := w.fresh) hp]
      have hmove := fresh_moveTo ((w.circuit.release p).prune_prune (Nat.le_refl w.now))
      exact congrArg (fun w' => w'.giveBack k) hmove
  | readMetrics =>
    exact fresh_moveTo ((w.circuit.prune w.now).prune_prune (Nat.le_refl w.now))
  | advance span =>
    have hlater := w.circuit.prune_prune (Nat.le_add_right w.now span)
    exact congrArg (fun circuit => { w with circuit, now := w.now + span }) hlater

theorem fresh_perform (h : v.fresh = w.fresh) (o : Operation) :
    (v.perform o).fresh = (w.perform o).fresh := by
  cases o with
  | readState => exact h
  | event e =>
    calc (v.step e).fresh
        = (v.fresh.step e).fresh := (v.fresh_step e).symm
      _ = (w.fresh.step e).fresh := by rw [h]
      _ = (w.step e).fresh := w.fresh_step e

/-- **A reading forgets what may be forgotten, and nothing else.** -/
theorem fresh_reading {o : Operation} (h : o.isReading = true) (w : Watch) :
    (w.perform o).fresh = w.fresh := by
  cases o with
  | readState => rfl
  | event e =>
    cases e with
    | readMetrics =>
      have hopening : (w.moveTo w.fresh.circuit).opening = w.opening :=
        moveTo_opening_of_state_eq rfl
      have hsame : w.moveTo w.fresh.circuit = w.fresh :=
        congrArg (fun opening => { w.fresh with opening }) hopening
      exact (congrArg fresh hsame).trans w.fresh_fresh
    | _ => cases h

/-! ## Two scripts -/

/-- One of two scripts that stand side by side. -/
inductive Side
  | left
  | right
  deriving DecidableEq, Repr

/-- A line of two scripts: an operation of both, or a reading of one. -/
inductive Line
  | shared (o : Operation)
  | only (side : Side) (o : Operation) (reads : o.isReading = true)
  deriving DecidableEq

namespace Line

def operation : Line → Operation
  | shared o => o
  | only _ o _ => o

def isShared : Line → Bool
  | shared _ => true
  | only _ _ _ => false

/-- Whether a line belongs to the script of a side. -/
def isOn (side : Side) : Line → Bool
  | shared _ => true
  | only s _ _ => s == side

end Line

/-- What is seen of a line that is carried out: the answer, and where the circuit then stands. -/
structure Sight where
  line : Line
  answer : Answer
  phase : Phase

/-- What is seen of a script. -/
def log (w : Watch) : List Line → List Sight
  | [] => []
  | line :: script =>
    let after := w.perform line.operation
    ⟨line, w.answer line.operation, after.circuit.phase⟩ :: after.log script

/-- What the operations of both scripts show in one of them. -/
def sharedLog (w : Watch) (side : Side) (lines : List Line) : List Sight :=
  (w.log (lines.filter (·.isOn side))).filter (·.line.isShared)

/-- A shared line shows what it shows, and the rest of both scripts follows. -/
theorem sharedLog_shared (w : Watch) (side : Side) (o : Operation) (lines : List Line) :
    w.sharedLog side (.shared o :: lines) =
      ⟨.shared o, w.answer o, (w.perform o).circuit.phase⟩
        :: (w.perform o).sharedLog side lines := rfl

/-- A reading of one script only shows nothing, and the other script goes on without it. -/
theorem sharedLog_only (w : Watch) (side s : Side) {o : Operation} (reads : o.isReading = true)
    (lines : List Line) :
    w.sharedLog side (.only s o reads :: lines) =
      (if s = side then w.perform o else w).sharedLog side lines := by
  by_cases hside : s = side
  · have hon : (Line.only s o reads).isOn side = true := beq_iff_eq.mpr hside
    rw [sharedLog, List.filter_cons_of_pos hon, if_pos hside]
    rfl
  · have hoff : ¬ (Line.only s o reads).isOn side = true := fun h => hside (beq_iff_eq.mp h)
    rw [sharedLog, List.filter_cons_of_neg hoff, if_neg hside]
    rfl

/-- What two circuits show that differ in what is too old. -/
theorem sharedLog_eq (lines : List Line) : ∀ v w : Watch, v.fresh = w.fresh →
    v.sharedLog .left lines = w.sharedLog .right lines := by
  induction lines with
  | nil => intro v w _; rfl
  | cons line lines ih =>
    intro v w h
    cases line with
    | shared o =>
      have hafter := fresh_perform h o
      have hanswer : v.answer o = w.answer o := by rw [← answer_fresh, h, answer_fresh]
      have hphase : (v.perform o).fresh.circuit.phase = (w.perform o).fresh.circuit.phase := by
        rw [hafter]
      change (v.perform o).circuit.phase = (w.perform o).circuit.phase at hphase
      rw [sharedLog_shared, sharedLog_shared, hanswer, hphase, ih _ _ hafter]
    | only side o reads =>
      rw [sharedLog_only, sharedLog_only]
      cases side with
      | left => exact ih _ _ ((fresh_reading reads v).trans h)
      | right => exact ih _ _ (h.trans (fresh_reading reads w).symm)

/-- **Reading a circuit leaves no trace.**  Two scripts that differ only in where the metrics and
the state are read show the same in all that they share: each request for a permit is answered
alike, with the same reason or the same permit, the circuit stands at the same phase after each
operation, and the readings that both scripts have show the same numbers. -/
theorem readings_unseen (w : Watch) (lines : List Line) :
    w.sharedLog .left lines = w.sharedLog .right lines :=
  sharedLog_eq lines w w rfl

/-- A reading does forget an outcome that a script without it keeps. -/
example :
    let w := (start "c" { volume := 3, rollingWindow := 20 } 0).run
      [.acquire, .record 0 false, .advance 30]
    w.circuit.window = [⟨0, false⟩] ∧ (w.perform (.event .readMetrics)).circuit.window = [] := by
  decide

end Watch

end ApiScaffold.Client
