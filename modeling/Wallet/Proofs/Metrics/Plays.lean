import Mathlib.Data.List.Perm.Basic
import Wallet.Flow.Payment
import Wallet.Proofs.Metrics.Marks
import Wallet.Proofs.Saga.Enact

/-!
# The marks of plays

How often the undoing actions of a saga are invoked shows nowhere. So a saga is played that counts
it: its undoing actions add one to a number that nothing else sees. It plays as the saga itself does
(`counted_play`), and what it leaves is told by its outcomes and by that number (`leaves_play`).
-/

namespace Wallet

/-- Conducts a play beside which a number is kept. -/
def Conductor.lifted {m : Type → Type} [Monad m] (conductor : Conductor m) :
    Conductor (StateT Nat m) where
  clocks := StateT.lift conductor.clocks
  hasEnded c := StateT.lift (conductor.hasEnded c)
  count metric := StateT.lift (conductor.count metric)
  sample metric := StateT.lift (conductor.sample metric)
  record saga outcomes := StateT.lift (conductor.record saga outcomes)

namespace Saga

/-! ## Counting -/

section

variable {ε : Type} {m : Type → Type} [Monad m]

/-- An undoing action that is counted when it is invoked. -/
def countedAction (action : Action ε m) : Action ε (StateT Nat m) := fun c => do
  modify (· + 1)
  StateT.lift (action c)

def countedStep (step : Step ε m) : Step ε (StateT Nat m) where
  name := step.name
  forward := step.forward.map fun action c => StateT.lift (action c)
  compensate := step.compensate.map countedAction
  options := step.options

/-- The saga whose undoing actions are counted. -/
def counted (saga : Saga ε m) : Saga ε (StateT Nat m) := ⟨saga.name, saga.steps.map countedStep⟩

/-! ### Counting changes nothing -/

variable {α β : Type}

/-- But for the number that it keeps, a program does what the other one does. -/
def Keeps (x : StateT Nat m α) (y : m α) : Prop := ∀ n, Prod.fst <$> x.run n = y

variable [LawfulMonad m] [ToString ε] {conductor : Conductor m}

omit [ToString ε] in
theorem keeps_pure (a : α) : Keeps (pure a) (pure a : m α) := fun n => by
  rw [StateT.run_pure, map_pure]

omit [ToString ε] in
theorem keeps_lift (x : m α) : Keeps (StateT.lift x) x := fun n => by
  rw [StateT.run_lift, ← bind_pure_comp, bind_assoc]
  simp only [pure_bind, bind_pure]

omit [ToString ε] in
theorem Keeps.bind {x : StateT Nat m α} {y : m α} {f : α → StateT Nat m β} {g : α → m β}
    (hx : Keeps x y) (hf : ∀ a, Keeps (f a) (g a)) : Keeps (x >>= f) (y >>= g) := fun n => by
  calc Prod.fst <$> (x >>= f).run n
      = x.run n >>= fun r => Prod.fst <$> (f r.1).run r.2 := by rw [StateT.run_bind, map_bind]
    _ = x.run n >>= fun r => g r.1 := bind_congr fun r => hf r.1 r.2
    _ = y >>= g := by rw [← hx n, bind_map_left]

omit [ToString ε] in
theorem keeps_countedAction (action : Action ε m) (c : Context) :
    Keeps (countedAction action c) (action c) := fun n => by
  unfold countedAction
  rw [StateT.run_bind, StateT.run_modify, pure_bind]
  exact keeps_lift (action c) (n + 1)

omit [ToString ε] in
theorem keeps_runForward (step : Step ε m) (c : Context) :
    Keeps ((countedStep step).runForward c) (step.runForward c) := by
  unfold Step.runForward
  cases hforward : step.forward with
  | none => simpa [countedStep, hforward] using keeps_pure _
  | some action => simpa [countedStep, hforward] using keeps_lift (action c)

theorem keeps_attempt (operation : Context) (step : Step ε m) :
    Keeps (attempt conductor.lifted operation (countedStep step))
      (attempt conductor operation step) :=
  (keeps_lift conductor.clocks).bind fun _ => (keeps_runForward step operation).bind fun _ =>
    (keeps_lift conductor.clocks).bind fun _ => keeps_pure _

theorem keeps_advance (operation : Context) (steps : List (Step ε m)) :
    Keeps (advance conductor.lifted operation (steps.map countedStep))
      (advance conductor operation steps) := by
  induction steps with
  | nil => exact keeps_pure _
  | cons step rest ih =>
      rw [List.map_cons]
      refine (keeps_lift (conductor.hasEnded operation)).bind fun ended => ?_
      cases ended with
      | true => exact keeps_pure _
      | false =>
          refine (keeps_attempt operation step).bind fun r => ?_
          obtain ⟨outcome, result⟩ := r
          cases result with
          | error e => exact keeps_pure _
          | ok _ => exact ih.bind fun _ => keeps_pure _

theorem keeps_undo (name : String) (compensation : Context) (step : Step ε m) :
    Keeps (undo conductor.lifted name compensation (countedStep step))
      (undo conductor name compensation step) := by
  obtain ⟨stepName, forward, compensate, options⟩ := step
  cases compensate with
  | none => exact keeps_pure _
  | some action =>
      refine (keeps_lift (conductor.hasEnded compensation)).bind fun ended => ?_
      cases ended with
      | true => exact (keeps_lift (conductor.count _)).bind fun _ => keeps_pure _
      | false =>
          refine (keeps_lift (conductor.count _)).bind fun _ => ?_
          refine (keeps_countedAction action compensation).bind fun result => ?_
          cases result with
          | ok _ => exact keeps_pure _
          | error e => exact (keeps_lift (conductor.count _)).bind fun _ => keeps_pure _

theorem keeps_unwind (name : String) (compensation : Context) (steps : List (Step ε m))
    (outcomes : List StepOutcome) :
    Keeps (unwind conductor.lifted name compensation ((steps.map countedStep).zip outcomes))
      (unwind conductor name compensation (steps.zip outcomes)) := by
  induction steps generalizing outcomes with
  | nil => exact keeps_pure _
  | cons step rest ih =>
      cases outcomes with
      | nil => exact keeps_pure _
      | cons outcome outcomes =>
          exact (ih outcomes).bind fun _ =>
            (keeps_undo name compensation step).bind fun _ => keeps_pure _

theorem keeps_enact (saga : Saga ε m) (operation compensation : Context) :
    Keeps (saga.counted.enact conductor.lifted operation compensation)
      (saga.enact conductor operation compensation) := by
  refine (keeps_lift (conductor.count _)).bind fun _ => ?_
  refine (keeps_advance operation saga.steps).bind fun r => ?_
  obtain ⟨attempted, error⟩ := r
  cases error with
  | none => exact (keeps_lift (conductor.count _)).bind fun _ => keeps_pure _
  | some e =>
      exact (keeps_unwind saga.name compensation saga.steps attempted).bind fun _ =>
        (keeps_lift (conductor.count _)).bind fun _ => keeps_pure _

/-- A saga plays as it does when its undoing actions are counted. -/
theorem counted_play (saga : Saga ε m) (operation compensation : Context) :
    Keeps (saga.counted.play conductor.lifted operation compensation)
      (saga.play conductor operation compensation) := by
  rw [play_eq_enact, play_eq_enact]
  exact (keeps_enact saga operation compensation).bind fun _ =>
    (keeps_lift (conductor.record _ _)).bind fun _ =>
      (keeps_lift (conductor.sample _)).bind fun _ => keeps_pure _

end

end Saga

/-! ## What plays leave -/

/-- No call of the action leaves a mark, whatever the context and the state. -/
def Action.Spares {ε τ : Type} (action : Action ε (StateT τ Program)) : Prop :=
  ∀ c s, ((action c).run s).Spares

def Step.Spares {ε τ : Type} (step : Step ε (StateT τ Program)) : Prop :=
  ∀ action, step.forward = some action ∨ step.compensate = some action → Action.Spares action

namespace Saga

/-- No action of the saga leaves a mark of its own. -/
def Spares {ε τ : Type} (saga : Saga ε (StateT τ Program)) : Prop :=
  ∀ step ∈ saga.steps, step.Spares

/-- Conducts a play through the collaborators, whatever state its actions share. -/
def conductor (τ : Type) : Conductor (StateT τ Program) where
  clocks := StateT.lift (.request .clocks)
  hasEnded c := StateT.lift (.request (.hasEnded c))
  count metric := StateT.lift (.count metric)
  sample metric := StateT.lift (.request (.sample metric))
  record saga outcomes := StateT.lift (.request (.record saga outcomes))

/-- The mark of an undoing action that is invoked. -/
def undoMark (saga : String) : Mark := .counted (metric "saga_compensations_total" saga)

/-- The mark of an attempted step that could not be undone. -/
def failureMark (saga : String) : Mark := .counted (metric "saga_compensation_failures" saga)

/-- The marks of undoing, where `k` actions were invoked and `f` steps could not be undone. -/
def undoMarks (saga : String) (k f : Nat) : List Mark :=
  List.replicate k (undoMark saga) ++ List.replicate f (failureMark saga)

theorem undoMarks_add (saga : String) (k j f g : Nat) :
    (undoMarks saga k f ++ undoMarks saga j g).Perm (undoMarks saga (k + j) (f + g)) := by
  unfold undoMarks
  rw [List.replicate_add, List.replicate_add, List.append_assoc, List.append_assoc]
  refine .append_left _ ?_
  rw [← List.append_assoc, ← List.append_assoc]
  exact .append_right _ List.perm_append_comm

/-- The marks that every play leaves: that it has begun, and how it has ended. -/
def verdictMarks (saga : String) (completed : Bool) : List Mark :=
  [.counted (metric "saga_executions_total" saga),
    .counted (metric (if completed then "saga_completed" else "saga_failed") saga)]

/-- The marks of a play that has invoked `k` undoing actions. -/
def playMarks (saga : String) (completed : Bool) (outcomes : List StepOutcome) (k : Nat) :
    List Mark :=
  verdictMarks saga completed ++
    undoMarks saga k (outcomes.countP StepOutcome.compensationFailed) ++
    [.recorded saga outcomes, .sampled (metric "saga_duration_seconds" saga)]

variable {ε τ α β : Type}

/-- However its calls are answered, the program ends with a value, has added to its number, and has
left marks, that satisfy `Q`. -/
def Marked (x : StateT Nat (StateT τ Program) α) (Q : α → Nat → List Mark → Prop) : Prop :=
  ∀ n s, ((x.run n).run s).Marks fun r ms => ∃ k, r.1.2 = n + k ∧ Q r.1.1 k ms

theorem Marked.mono {x : StateT Nat (StateT τ Program) α} {Q R : α → Nat → List Mark → Prop}
    (h : Marked x Q) (hQR : ∀ a k ms, Q a k ms → R a k ms) : Marked x R := fun n s =>
  (h n s).mono fun _ _ ⟨k, hk, hQ⟩ => ⟨k, hk, hQR _ _ _ hQ⟩

theorem marked_pure {a : α} {Q : α → Nat → List Mark → Prop} (h : Q a 0 []) :
    Marked (pure a : StateT Nat (StateT τ Program) α) Q := fun _ _ => ⟨0, rfl, h⟩

theorem Marked.bind {x : StateT Nat (StateT τ Program) α}
    {f : α → StateT Nat (StateT τ Program) β} {Q : β → Nat → List Mark → Prop}
    (h : Marked x fun a k ms => Marked (f a) fun b j ns => Q b (k + j) (ms ++ ns)) :
    Marked (x >>= f) Q := by
  intro n s
  rw [StateT.run_bind, StateT.run_bind, Program.marks_bind]
  refine (h n s).mono ?_
  rintro ⟨⟨a, _⟩, t⟩ ms ⟨k, rfl, hf⟩
  refine (hf (n + k) t).mono ?_
  rintro _ ns ⟨j, hj, hQ⟩
  exact ⟨k + j, hj.trans (Nat.add_assoc n k j), hQ⟩

theorem marked_call {c : Call} {Q : c.Answer → Nat → List Mark → Prop}
    (h : ∀ x, Q x 0 c.mark?.toList) :
    Marked (StateT.lift (StateT.lift (Program.request c) : StateT τ Program c.Answer)) Q :=
  fun n s x => by
  refine ⟨0, rfl, ?_⟩
  rw [List.append_nil]
  exact h x

theorem marked_count {metric : Metric} {Q : Unit → Nat → List Mark → Prop}
    (hname : metric.name ∈ Mark.names) (h : Q () 0 [.counted metric]) :
    Marked ((conductor τ).lifted.count metric) Q := by
  refine marked_call (c := .count metric) fun _ => ?_
  rw [Call.mark?, if_pos hname]
  exact h

theorem marked_action {action : Action ε (StateT τ Program)} (hspares : Action.Spares action)
    (c : Context) {Q : Except ε Unit → Nat → List Mark → Prop} (h : ∀ r, Q r 0 []) :
    Marked (StateT.lift (action c)) Q := by
  intro n s
  rw [StateT.run_lift, StateT.run_bind, Program.marks_bind]
  refine (hspares c s).marks.mono ?_
  rintro r _ rfl
  exact ⟨0, rfl, h r.1⟩

theorem marked_countedAction {action : Action ε (StateT τ Program)} (hspares : Action.Spares action)
    (c : Context) {Q : Except ε Unit → Nat → List Mark → Prop} (h : ∀ r, Q r 1 []) :
    Marked (countedAction action c) Q := by
  refine .bind fun n _ => ⟨1, rfl, ?_⟩
  exact marked_action hspares c h

variable [ToString ε] {step : Step ε (StateT τ Program)} {steps : List (Step ε (StateT τ Program))}
  {name : String} {operation compensation : Context}

/-- Attempting a step leaves no mark and undoes nothing. -/
theorem marked_attempt (h : step.Spares) :
    Marked (attempt (conductor τ).lifted operation (countedStep step))
      fun x k ms => k = 0 ∧ ms = [] ∧ x.1.compensation = none := by
  refine .bind (marked_call fun started => .bind ?_)
  have hforward {Q : Except ε Unit → Nat → List Mark → Prop} (hQ : ∀ r, Q r 0 []) :
      Marked ((countedStep step).runForward operation) Q := by
    unfold Step.runForward
    cases hstep : step.forward with
    | none => simpa [countedStep, hstep] using marked_pure (hQ _)
    | some action =>
        simpa [countedStep, hstep] using marked_action (h action (.inl hstep)) operation hQ
  exact hforward fun r => .bind (marked_call fun ended => marked_pure ⟨rfl, rfl, rfl⟩)

/-- Neither does attempting the steps. -/
theorem marked_advance (h : ∀ step ∈ steps, step.Spares) :
    Marked (advance (conductor τ).lifted operation (steps.map countedStep))
      fun x k ms => k = 0 ∧ ms = [] ∧ ∀ o ∈ x.1, o.compensation = none := by
  induction steps with
  | nil => exact marked_pure ⟨rfl, rfl, by simp⟩
  | cons step rest ih =>
      rw [List.map_cons]
      refine .bind (marked_call fun ended => ?_)
      change Bool at ended
      cases ended with
      | true => exact marked_pure ⟨rfl, rfl, by simp⟩
      | false =>
          refine .bind ((marked_attempt (h step (.head _))).mono ?_)
          rintro ⟨outcome, result⟩ _ _ ⟨rfl, rfl, hnone⟩
          cases result with
          | error e => exact marked_pure ⟨rfl, rfl, by simpa using hnone⟩
          | ok _ =>
              refine .bind ((ih fun step hstep => h step (.tail _ hstep)).mono ?_)
              rintro ⟨outcomes, error⟩ _ _ ⟨rfl, rfl, hrest⟩
              exact marked_pure ⟨rfl, rfl, by simpa using ⟨hnone, hrest⟩⟩

/-- Undoing a step leaves a mark if its action is invoked, and one if it could not be undone. -/
theorem marked_undo (h : step.Spares) (o : StepOutcome) :
    Marked (undo (conductor τ).lifted name compensation (countedStep step)) fun status k ms =>
      ms = undoMarks name k
        ([{ o with compensation := some status }].countP StepOutcome.compensationFailed) := by
  unfold undo
  cases hstep : step.compensate with
  | none => simpa [countedStep, hstep] using marked_pure rfl
  | some action =>
      simp only [countedStep, hstep, Option.map_some]
      refine .bind (marked_call fun ended => ?_)
      change Bool at ended
      cases ended with
      | true => exact .bind (marked_count (by simp [metric, Mark.names]) (marked_pure rfl))
      | false =>
          refine .bind (marked_count (by simp [metric, Mark.names]) ?_)
          refine .bind (marked_countedAction (h action (.inr hstep)) compensation fun result => ?_)
          cases result with
          | ok _ => exact marked_pure rfl
          | error e => exact .bind (marked_count (by simp [metric, Mark.names]) (marked_pure rfl))

/-- So does undoing attempted steps, all together. -/
theorem marked_unwind {attempted : List StepOutcome} (h : ∀ step ∈ steps, step.Spares) :
    Marked (unwind (conductor τ).lifted name compensation ((steps.map countedStep).zip attempted))
      fun undone k ms =>
        ms.Perm (undoMarks name k (undone.countP StepOutcome.compensationFailed)) := by
  induction steps generalizing attempted with
  | nil => exact marked_pure (.refl _)
  | cons step rest ih =>
      cases attempted with
      | nil => exact marked_pure (.refl _)
      | cons o attempted =>
          refine .bind ((ih fun step hstep => h step (.tail _ hstep)).mono ?_)
          intro undone k ms hrest
          refine .bind ((marked_undo (h step (.head _)) o).mono ?_)
          rintro status j _ rfl
          have hcount (o : StepOutcome) : (o :: undone).countP StepOutcome.compensationFailed =
              undone.countP StepOutcome.compensationFailed +
                [o].countP StepOutcome.compensationFailed := by
            rw [← List.singleton_append, List.countP_append, Nat.add_comm]
          refine marked_pure ?_
          rw [List.append_nil, hcount]
          exact (hrest.append_right _).trans (undoMarks_add ..)

theorem marked_enact {saga : Saga ε (StateT τ Program)} (h : saga.Spares) :
    Marked (saga.counted.enact (conductor τ).lifted operation compensation) fun x k ms =>
      x.sagaName = saga.name ∧ ms.Perm (verdictMarks saga.name x.error.isNone ++
        undoMarks saga.name k (x.steps.countP StepOutcome.compensationFailed)) := by
  refine .bind (marked_count (by simp [metric, Mark.names]) (.bind ?_))
  refine (marked_advance h).mono ?_
  rintro ⟨attempted, error⟩ _ _ ⟨rfl, rfl, hnone⟩
  cases error with
  | none =>
      refine .bind (marked_count (by simp [metric, Mark.names]) (marked_pure ⟨rfl, ?_⟩))
      have hundone : attempted.countP StepOutcome.compensationFailed = 0 :=
        List.countP_eq_zero.mpr fun o ho => by simp [StepOutcome.compensationFailed, hnone o ho]
      rw [hundone]
      exact .refl _
  | some e =>
      refine .bind ((marked_unwind h).mono ?_)
      intro undone k ms hundone
      refine .bind (marked_count (by simp [metric, Mark.names]) (marked_pure ⟨rfl, ?_⟩))
      simp only [Nat.zero_add, Nat.add_zero]
      exact .cons _ ((List.perm_append_singleton _ ms).trans (.cons _ hundone))

/-- What a play leaves is told by its outcomes and by how many undoing actions it has invoked. -/
theorem marked_play {saga : Saga ε (StateT τ Program)} (h : saga.Spares) :
    Marked (saga.counted.play (conductor τ).lifted operation compensation) fun x k ms =>
      ms.Perm (playMarks saga.name x.error.isNone x.steps k) := by
  rw [play_eq_enact]
  refine .bind ((marked_enact h).mono ?_)
  rintro x k ms ⟨hname, hms⟩
  refine .bind (marked_call fun _ => .bind (marked_call fun _ => marked_pure ?_))
  rw [hname]
  exact hms.append_right _

end Saga

end Wallet
