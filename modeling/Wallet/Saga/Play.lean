import Wallet.Metrics
import Wallet.Saga.Basic
import Wallet.Saga.Outcome

/-!
# Playing a saga

The steps run in order under the operation context until one fails or the context has ended before
one. Then every attempted step, the failed one included, is undone in reverse order under the
compensation context. An error of an undoing action is recorded and never raised.

The actions run in any monad; what playing itself needs of it is a `Conductor`.
-/

namespace Wallet

/-- What playing a saga needs besides the actions. -/
structure Conductor (m : Type → Type) where
  clocks : m Reading
  hasEnded : Context → m Bool
  count : Metric → m Unit
  sample : Metric → m Unit
  record : String → List StepOutcome → m Unit

namespace Saga

/-- A metric of one saga. -/
def metric (name saga : String) : Metric := ⟨name, [("saga", saga)]⟩

/-- Why nothing is undone any more once the compensation context has ended. -/
def budgetExhausted : String := "compensation context ended"

variable {ε : Type} {m : Type → Type} [Monad m] [ToString ε]

def forwardStatus : Except ε Unit → ForwardStatus
  | .ok () => .succeeded
  | .error e => .failed (toString e)

/-- Runs the action of a step and notes what came of it. -/
def attempt (conductor : Conductor m) (operation : Context) (step : Step ε m) :
    m (StepOutcome × Except ε Unit) := do
  let started ← conductor.clocks
  let result ← step.runForward operation
  let ended ← conductor.clocks
  pure (⟨step.name, forwardStatus result, none, started.civil, ended.since started, step.options⟩,
    result)

/-- Attempts the steps in order up to the first that fails or finds the context ended. -/
def advance (conductor : Conductor m) (operation : Context) :
    List (Step ε m) → m (List StepOutcome × Option (ExecutionError ε))
  | [] => pure ([], none)
  | step :: rest => do
      if ← conductor.hasEnded operation then
        pure ([], some (.cancelled step.name))
      else
        let (outcome, result) ← attempt conductor operation step
        match result with
        | .error e => pure ([outcome], some (.failed step.name e))
        | .ok () => do
            let (outcomes, error) ← advance conductor operation rest
            pure (outcome :: outcomes, error)

/-- Undoes one step, if it can be undone and there is still time. -/
def undo (conductor : Conductor m) (saga : String) (compensation : Context) (step : Step ε m) :
    m CompensationStatus :=
  match step.compensate with
  | none => pure .notRequired
  | some action => do
      if ← conductor.hasEnded compensation then
        conductor.count (metric "saga_compensation_failures" saga)
        pure (.failed budgetExhausted)
      else
        conductor.count (metric "saga_compensations_total" saga)
        match ← action compensation with
        | .ok () => pure .compensated
        | .error e => do
            conductor.count (metric "saga_compensation_failures" saga)
            pure (.failed (toString e))

/-- Undoes attempted steps, the last one first. -/
def unwind (conductor : Conductor m) (saga : String) (compensation : Context) :
    List (Step ε m × StepOutcome) → m (List StepOutcome)
  | [] => pure []
  | (step, outcome) :: rest => do
      let undone ← unwind conductor saga compensation rest
      let status ← undo conductor saga compensation step
      pure ({ outcome with compensation := some status } :: undone)

/-- The state in which undoing ends. -/
def unwoundState (outcomes : List StepOutcome) : SagaState :=
  if outcomes.any StepOutcome.compensationFailed then .partiallyCompensated else .compensated

/-- Plays a saga. -/
def play (conductor : Conductor m) (saga : Saga ε m) (operation compensation : Context) :
    m (Execution ε) := do
  conductor.count (metric "saga_executions_total" saga.name)
  let (attempted, error) ← advance conductor operation saga.steps
  let (state, outcomes) ← match error with
    | none => do
        conductor.count (metric "saga_completed" saga.name)
        pure (SagaState.completed, attempted)
    | some _ => do
        let undone ← unwind conductor saga.name compensation (saga.steps.zip attempted)
        conductor.count (metric "saga_failed" saga.name)
        pure (unwoundState undone, undone)
  conductor.record saga.name outcomes
  conductor.sample (metric "saga_duration_seconds" saga.name)
  pure ⟨saga.name, state, outcomes, error⟩

end Saga

end Wallet
