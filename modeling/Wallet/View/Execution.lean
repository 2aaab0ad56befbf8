import Wallet.Metrics
import Wallet.Saga.Log

/-!
# Views of sagas

What is shown of contexts, of what became of sagas and their steps, of events and of metrics. No
view holds a time of the civil clock.
-/

namespace Wallet

open Json

/-- The view of something that may be absent. -/
def optionView {α : Type} (view : α → Json) : Option α → Json
  | none => .null
  | some a => view a

/-- A context at a point of the timeline; what remains of it is given in milliseconds. -/
def Context.view (c : Context) (t : Timeline) : Json := .obj [
  ("is_done", .bool (c.isDone t)), ("is_cancelled", .bool (c.isCancelled t)),
  ("remaining_ms", optionView (fun n => nat (n / 1000000)) (c.remaining t)),
  ("has_deadline", .bool c.deadline.isSome)]

def failureView (error : String) : Json := .obj [("failed", .str error)]

def ForwardStatus.view : ForwardStatus → Json
  | .succeeded => .str "succeeded"
  | .failed error => failureView error

def CompensationStatus.view : CompensationStatus → Json
  | .notRequired => .str "not_required"
  | .compensated => .str "compensated"
  | .failed error => failureView error

def StepOutcome.view (o : StepOutcome) : Json := .obj [("step", .str o.step),
  ("forward", o.forward.view), ("compensation", optionView CompensationStatus.view o.compensation)]

def ExecutionRecord.view (r : ExecutionRecord) : Json := .obj [
  ("saga_name", .str r.sagaName), ("steps", .arr (r.outcomes.map StepOutcome.view))]

/-- An error with the error of the step in it, if a step failed. -/
def ExecutionError.view {ε : Type} [ToString ε] (domain : ε → Json) (e : ExecutionError ε) : Json :=
  .obj [("kind", .str (if e.domainError?.isSome then "Step" else "Cancelled")),
    ("step", .str e.stepName), ("message", .str e.message),
    ("domain", optionView domain e.domainError?)]

/-- The fields of the view of an execution. -/
def Execution.fields {ε : Type} [ToString ε] (domain : ε → Json) (x : Execution ε) :
    List (String × Json) := [
  ("saga_name", .str x.sagaName), ("state", toJson x.state), ("is_success", .bool x.isSuccess),
  ("steps", .arr (x.steps.map StepOutcome.view)), ("compensated_steps", toJson x.compensatedSteps),
  ("error", optionView (ExecutionError.view domain) x.error)]

def EventLevel.name : EventLevel → String
  | .info => "INFO"
  | .warning => "WARN"
  | .error => "ERROR"

def LogEvent.view (e : LogEvent) : Json :=
  .obj (("level", .str e.level.name) :: ("message", .str e.message) :: e.fields)

/-- A metric by its name and, between braces, its labels. -/
def Metric.shown (m : Metric) : String :=
  if m.labels.isEmpty then m.name
  else m.name ++ "\x7b" ++ ",".intercalate (m.labels.map fun l => l.1 ++ "=" ++ l.2) ++ "\x7d"

/-- All counters and numbers of samples that have been touched. -/
def Metrics.view (m : Metrics) : Json :=
  .obj ((m.counters.rows ++ m.samples.rows).map fun row => (row.1.shown, nat row.2))

end Wallet
