import Wallet.Saga.Step
import Wallet.Text.Blank

/-!
# Sagas

A saga is a named list of steps. Every step in it has a name that is not blank and differs from all
other names, and an action; a step that would break this is refused.
-/

namespace Wallet

/-- Why a step is refused. -/
inductive SagaError where
  | emptyStepName (saga : String)
  | missingForward (saga step : String)
  | duplicateStep (saga step : String)
deriving DecidableEq

def SagaError.message : SagaError → String
  | .emptyStepName saga => s!"Saga '{saga}': step name must not be empty"
  | .missingForward saga step => s!"Saga '{saga}': step '{step}' has no forward action"
  | .duplicateStep saga step => s!"Saga '{saga}': step '{step}' was added twice"

/-- A saga: its name and its steps in order. -/
structure Saga (ε : Type) (m : Type → Type) where
  name : String
  steps : List (Step ε m)

namespace Saga

variable {ε : Type} {m : Type → Type}

def named (name : String) : Saga ε m := ⟨name, []⟩

/-- The names of the steps in order. -/
def stepNames (s : Saga ε m) : List String := s.steps.map Step.name

/-- Appends a step, unless it has no name, no action, or the name of another step. -/
def add (s : Saga ε m) (step : Step ε m) : Except SagaError (Saga ε m) :=
  if Text.allBlank step.name then .error (.emptyStepName s.name)
  else if !step.hasForward then .error (.missingForward s.name step.name)
  else if step.name ∈ s.stepNames then .error (.duplicateStep s.name step.name)
  else .ok { s with steps := s.steps ++ [step] }

/-- Appends steps up to the first that is refused. -/
def addAll (s : Saga ε m) : List (Step ε m) → Except SagaError (Saga ε m)
  | [] => .ok s
  | step :: rest =>
      match s.add step with
      | .ok s => s.addAll rest
      | .error e => .error e

end Saga

end Wallet
