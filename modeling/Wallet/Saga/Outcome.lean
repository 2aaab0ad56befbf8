import Wallet.Saga.State
import Wallet.Saga.Step
import Wallet.Time.Timestamp

/-!
# Outcomes of steps and sagas

What became of each attempted step, and of the saga as a whole.
-/

namespace Wallet

open Json

/-- What came of the action of a step. -/
inductive ForwardStatus where
  | succeeded
  | failed (error : String)
deriving DecidableEq

/-- What came of undoing a step. -/
inductive CompensationStatus where
  /-- There was nothing to undo. -/
  | notRequired
  | compensated
  | failed (error : String)
deriving DecidableEq

/-- A status by its tag: those with nothing else in them, and the one that holds an error. The tag
stands under `status` in an object, whatever else that holds, or in the first place of an array. -/
def Json.tagged? {α : Type} (plain : List (String × α)) (failed : String → α) : Json → Option α
  | .obj fields =>
      match fields.lookup "status" with
      | some (.str "failed") => ((fields.lookup "error").bind ofJson?).map failed
      | some (.str tag) => plain.lookup tag
      | _ => none
  | .arr [.str "failed", .str error] => some (failed error)
  | .arr [.str tag] => plain.lookup tag
  | _ => none

instance : JsonForm ForwardStatus where
  toJson
    | .succeeded => .obj [("status", .str "succeeded")]
    | .failed error => .obj [("status", .str "failed"), ("error", .str error)]
  ofJson? := Json.tagged? [("succeeded", .succeeded)] .failed

instance : JsonForm CompensationStatus where
  toJson
    | .notRequired => .obj [("status", .str "not_required")]
    | .compensated => .obj [("status", .str "compensated")]
    | .failed error => .obj [("status", .str "failed"), ("error", .str error)]
  ofJson? := Json.tagged? [("not_required", .notRequired), ("compensated", .compensated)] .failed

/-- What the clocks show at one moment. -/
structure Reading where
  civil : Timestamp
  /-- The monotonic clock, in nanoseconds. -/
  monotonic : Nat
deriving DecidableEq

/-- The length of time from one reading to another. It is measured on the monotonic clock, for the civil
one may be set. -/
def Reading.since (later earlier : Reading) : Duration :=
  (Duration.ofNanos? (later.monotonic - earlier.monotonic)).getD .zero

/-- The record of one attempted step. -/
structure StepOutcome where
  step : String
  forward : ForwardStatus
  /-- Absent unless the saga was undone. -/
  compensation : Option CompensationStatus
  startedAt : Timestamp
  duration : Duration
  options : StepOptions
deriving DecidableEq

namespace StepOutcome

def succeeded (o : StepOutcome) : Bool := o.forward == .succeeded

def isCompensated (o : StepOutcome) : Bool := o.compensation == some .compensated

def compensationFailed (o : StepOutcome) : Bool :=
  match o.compensation with
  | some (.failed _) => true
  | _ => false

instance : JsonForm StepOutcome where
  toJson o := .obj [("step", toJson o.step), ("forward", toJson o.forward),
    ("compensation", toJson o.compensation), ("started_at", toJson o.startedAt),
    ("duration", toJson o.duration), ("options", toJson o.options)]
  ofJson? j := do
    let fields ← record?
      ["step", "forward", "compensation", "started_at", "duration", "options"] 0 j
    some {
      step := ← need fields "step"
      forward := ← need fields "forward"
      compensation := ← optional fields "compensation"
      startedAt := ← need fields "started_at"
      duration := ← need fields "duration"
      options := ← need fields "options" }

end StepOutcome

/-- The one error a saga ends with. -/
inductive ExecutionError (ε : Type) where
  /-- The action of the step failed. -/
  | failed (step : String) (error : ε)
  /-- The operation context had ended before the step. -/
  | cancelled (step : String)

namespace ExecutionError

/-- The step at which the saga stopped. -/
def stepName {ε : Type} : ExecutionError ε → String
  | .failed step _ | .cancelled step => step

def domainError? {ε : Type} : ExecutionError ε → Option ε
  | .failed _ error => some error
  | .cancelled _ => none

def message {ε : Type} [ToString ε] : ExecutionError ε → String
  | .failed _ error => toString error
  | .cancelled step => s!"Operation cancelled before step '{step}'"

end ExecutionError

/-- What playing a saga came to. -/
structure Execution (ε : Type) where
  sagaName : String
  state : SagaState
  /-- The attempted steps in order. -/
  steps : List StepOutcome
  error : Option (ExecutionError ε)

namespace Execution

def isSuccess {ε : Type} (x : Execution ε) : Bool := x.error.isNone

/-- The names of the steps that were undone. -/
def compensatedSteps {ε : Type} (x : Execution ε) : List String :=
  (x.steps.filter StepOutcome.isCompensated).map StepOutcome.step

end Execution

end Wallet
