import Wallet.Saga.Play

/-!
# Plays that are cut in two

Attempting steps and then more steps is attempting them all, and what a play does after that depends on
what came of the attempts only. So a play can be cut in two between any two of its steps.
-/

namespace Wallet.Saga

variable {ε : Type} {m : Type → Type} [Monad m] [ToString ε]

/-- What a play does once its steps have been attempted. -/
def conclude (conductor : Conductor m) (saga : Saga ε m) (compensation : Context)
    (x : List StepOutcome × Option (ExecutionError ε)) : m (Execution ε) := do
  let (state, outcomes) ← match x.2 with
    | none => do
        conductor.count (metric "saga_completed" saga.name)
        pure (SagaState.completed, x.1)
    | some _ => do
        let undone ← unwind conductor saga.name compensation (saga.steps.zip x.1)
        conductor.count (metric "saga_failed" saga.name)
        pure (unwoundState undone, undone)
  conductor.record saga.name outcomes
  conductor.sample (metric "saga_duration_seconds" saga.name)
  pure ⟨saga.name, state, outcomes, x.2⟩

theorem play_eq_conclude (conductor : Conductor m) (saga : Saga ε m)
    (operation compensation : Context) :
    saga.play conductor operation compensation = (do
      conductor.count (metric "saga_executions_total" saga.name)
      let x ← advance conductor operation saga.steps
      saga.conclude conductor compensation x) :=
  rfl

/-- Attempts more steps if the first ones went through. -/
def proceed (conductor : Conductor m) (operation : Context) (later : List (Step ε m))
    (x : List StepOutcome × Option (ExecutionError ε)) :
    m (List StepOutcome × Option (ExecutionError ε)) :=
  match x.2 with
  | some _ => pure x
  | none => do
      let (outcomes, error) ← advance conductor operation later
      pure (x.1 ++ outcomes, error)

theorem advance_append [LawfulMonad m] (conductor : Conductor m) (operation : Context)
    (first later : List (Step ε m)) :
    advance conductor operation (first ++ later) =
      advance conductor operation first >>= proceed conductor operation later := by
  induction first with
  | nil => simp [advance, proceed]
  | cons step rest ih =>
      -- the two sides part only where the first steps have all gone through
      rw [List.cons_append]
      unfold advance
      rw [ih]
      simp only [bind_assoc]
      congr 1
      funext ended
      cases ended with
      | true => simp [proceed]
      | false =>
          simp only [Bool.false_eq_true, if_false, bind_assoc]
          congr 1
          funext x
          obtain ⟨outcome, result⟩ := x
          cases result with
          | error e => simp [proceed]
          | ok _ =>
              simp only [bind_assoc, pure_bind]
              congr 1
              funext y
              obtain ⟨outcomes, error⟩ := y
              cases error with
              | some e => simp [proceed]
              | none => simp [proceed]

/-- A play whose steps are cut in two. -/
theorem play_eq_of_append [LawfulMonad m] {saga : Saga ε m} {first later : List (Step ε m)}
    (hsteps : saga.steps = first ++ later) (conductor : Conductor m)
    (operation compensation : Context) :
    saga.play conductor operation compensation = (do
      conductor.count (metric "saga_executions_total" saga.name)
      let x ← advance conductor operation first
      let y ← proceed conductor operation later x
      saga.conclude conductor compensation y) := by
  rw [play_eq_conclude, hsteps, advance_append]
  simp only [bind_assoc]

end Wallet.Saga
