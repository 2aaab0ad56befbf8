import Wallet.Pool.Basic
import Wallet.Program
import Wallet.Saga.Log

/-!
# Services in memory

All collaborators of a process, with its clocks, and how they answer each call. The civil clock goes
forward with every reading. A notification handed to the pool waits there as an accepted job until
the jobs are run.
-/

namespace Wallet

/-- All collaborators of a process. -/
structure Services where
  orders : OrderStore
  ledger : Ledger
  promotion : Promotion
  bank : Bank
  notifier : Notifier
  pool : Pool
  /-- The jobs that the pool has accepted and that have not been started. -/
  jobs : List Notification
  sinks : List Sink
  log : ExecutionLog
  metrics : Metrics
  /-- The last reading of the civil clock. -/
  clock : Timestamp
  timeline : Timeline
  /-- How many identifiers have been made. -/
  serial : Nat

namespace Services

/-- Empty services with a pool, a log and a clock. -/
def start (pool : Pool) (sinks : List Sink) (clock : Timestamp) : Services :=
  ⟨.empty, .empty, .empty, .empty, .empty, pool, [], sinks, .empty, .empty, clock, .start, 0⟩

instance : Inhabited Services := ⟨start default [] default⟩

/-- Reads the civil clock. -/
def readClock (s : Services) : Timestamp × Services :=
  (s.clock.tick, { s with clock := s.clock.tick })

/-- Makes an identifier. -/
def makeId (s : Services) : Uuid × Services :=
  (.stamped (s.clock.secs.toNat * 1000 + s.clock.nanos / 1000000) s.serial,
    { s with serial := s.serial + 1 })

/-- The metric that counts the jobs of a name that the pool has accepted or refused. -/
def poolMetric (accepted : Bool) (job : String) : Metric :=
  ⟨if accepted then "worker_pool_jobs_submitted" else "worker_pool_jobs_rejected", [("job", job)]⟩

/-- Takes a slot of the pool for a job and says whether there was one. -/
def takeSlot (s : Services) (job : String) : Bool × Services :=
  match s.pool.submit? with
  | some pool => (true, { s with pool := pool, metrics := s.metrics.count (poolMetric true job) })
  | none => (false, { s with metrics := s.metrics.count (poolMetric false job) })

/-- Hands the delivery of a notification to the pool, which drops it if no slot is free. -/
def submitJob (s : Services) (n : Notification) : Services :=
  match s.takeSlot "notify" with
  | (true, s) => { s with jobs := s.jobs ++ [n] }
  | (false, s) => s

def recordPlay (s : Services) (saga : String) (outcomes : List StepOutcome) : Services :=
  let (now, s) := s.readClock
  { s with log := s.log.sendAll ⟨saga, outcomes, now⟩ s.sinks }

/-- Answers a call. -/
def answer : (c : Call) → Services → c.Answer × Services
  | .orders r, s =>
      let (now, s) := s.readClock
      let (a, orders) := s.orders.serve now r
      (a, { s with orders := orders })
  | .ledger r, s =>
      let (now, s) := s.readClock
      let (a, ledger) := s.ledger.serve now r
      (a, { s with ledger := ledger })
  | .promotion r, s =>
      let (a, promotion) := s.promotion.serve r
      (a, { s with promotion := promotion })
  | .bank r, s =>
      let (a, bank) := s.bank.serve r
      (a, { s with bank := bank })
  | .deliver n, s => (.ok (), { s with notifier := s.notifier.deliver n })
  | .submit n, s => ((), s.submitJob n)
  | .now, s => s.readClock
  | .clocks, s =>
      let (now, s) := s.readClock
      (⟨now, s.timeline.now⟩, s)
  | .freshOrderId, s => let (id, s) := s.makeId; (⟨id⟩, s)
  | .freshTransactionId, s => let (id, s) := s.makeId; (⟨id⟩, s)
  | .budget d, s => (Context.background.timeout s.timeline d, s)
  | .hasEnded c, s => (c.isDone s.timeline, s)
  | .count m, s => ((), { s with metrics := s.metrics.count m })
  | .sample m, s => ((), { s with metrics := s.metrics.sample m })
  | .record saga outcomes, s => ((), s.recordPlay saga outcomes)

/-- Runs a program on the services. -/
def run {α : Type} (p : Program α) (s : Services) : α × Services := p.run answer s

/-- Runs one job of the pool. -/
def runJob (s : Services) (n : Notification) : Services :=
  let s := (s.run (Program.delivery n)).2
  { s with pool := s.pool.finish }

/-- Runs the jobs the pool has accepted, in their order. -/
def runJobs (s : Services) : Services := s.jobs.foldl runJob { s with jobs := [] }

end Services

end Wallet
