import Wallet.Json.Basic

/-!
# States of a saga
-/

namespace Wallet

/-- How far a saga has got. -/
inductive SagaState where
  | notStarted
  | running
  | compensating
  | completed
  /-- Everything attempted was undone. -/
  | compensated
  /-- Something attempted could not be undone. -/
  | partiallyCompensated
deriving DecidableEq, Inhabited, Repr

namespace SagaState

def all : List SagaState :=
  [.notStarted, .running, .compensating, .completed, .compensated, .partiallyCompensated]

def name : SagaState → String
  | .notStarted => "not_started"
  | .running => "running"
  | .compensating => "compensating"
  | .completed => "completed"
  | .compensated => "compensated"
  | .partiallyCompensated => "partially_compensated"

def canCompensate : SagaState → Bool
  | .running => true
  | _ => false

def isTerminal : SagaState → Bool
  | .completed | .compensated | .partiallyCompensated => true
  | _ => false

instance : JsonForm SagaState := ⟨fun s => .str s.name, Json.ofName? all name⟩

end SagaState

end Wallet
