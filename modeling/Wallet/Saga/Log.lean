import Wallet.Saga.Outcome

/-!
# Execution logs

Every play of a saga is recorded once with its attempted steps. A log sends a record to its sinks in
order: the memory, the event stream, or another log.
-/

namespace Wallet

open Json

/-- One play as the memory keeps it. -/
structure ExecutionRecord where
  sagaName : String
  outcomes : List StepOutcome
  recordedAt : Timestamp
deriving DecidableEq

instance : JsonForm ExecutionRecord where
  toJson r := .obj [("saga_name", toJson r.sagaName), ("outcomes", toJson r.outcomes),
    ("recorded_at", toJson r.recordedAt)]
  ofJson? j := do
    let fields ← record? ["saga_name", "outcomes", "recorded_at"] 0 j
    some ⟨← need fields "saga_name", ← need fields "outcomes", ← need fields "recorded_at"⟩

/-- How grave an event is. -/
inductive EventLevel where
  | info
  | warning
  | error
deriving DecidableEq, Repr

/-- An event of the event stream with its fields. -/
structure LogEvent where
  level : EventLevel
  message : String
  fields : List (String × Json)

/-- Where a log sends its records. -/
inductive Sink where
  | memory
  | events
  | fanout (sinks : List Sink)

/-- The memory and the event stream of a process. -/
structure ExecutionLog where
  records : List ExecutionRecord
  events : List LogEvent

namespace ExecutionLog

def empty : ExecutionLog := ⟨[], []⟩

instance : Inhabited ExecutionLog := ⟨empty⟩

/-- The last record of a saga. -/
def lastFor (log : ExecutionLog) (saga : String) : Option ExecutionRecord :=
  log.records.reverse.find? fun r => r.sagaName == saga

def compensationWord : Option CompensationStatus → String
  | none => "none"
  | some .notRequired => "not_required"
  | some .compensated => "compensated"
  | some (.failed _) => "failed"

/-- The event of a step, and a second one if it could not be undone. -/
def stepEvents (saga : String) (o : StepOutcome) : List LogEvent :=
  let place := [("saga", Json.str saga), ("step", .str o.step)]
  let common := place ++ [("duration_ms", nat (o.duration.toMillis % bound64)),
    ("compensation", .str (compensationWord o.compensation))]
  let first : LogEvent := match o.forward with
    | .succeeded => ⟨.info, "saga step succeeded", common⟩
    | .failed error => ⟨.warning, "saga step failed", common ++ [("error", .str error)]⟩
  match o.compensation with
  | some (.failed error) =>
      [first, ⟨.error, "compensation failed", place ++ [("error", .str error)]⟩]
  | _ => [first]

mutual

/-- Sends the record of a play to a sink. -/
def send (log : ExecutionLog) (r : ExecutionRecord) : Sink → ExecutionLog
  | .memory => { log with records := log.records ++ [r] }
  | .events => { log with events := log.events ++ r.outcomes.flatMap (stepEvents r.sagaName) }
  | .fanout sinks => log.sendAll r sinks

/-- Sends the record of a play to all sinks in order. -/
def sendAll (log : ExecutionLog) (r : ExecutionRecord) : List Sink → ExecutionLog
  | [] => log
  | sink :: rest => (log.send r sink).sendAll r rest

end

end ExecutionLog

end Wallet
