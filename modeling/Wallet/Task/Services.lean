import Wallet.Reconciliation.Scheduler
import Wallet.Saga.Play
import Wallet.Services
import Wallet.Task.Basic

/-!
# Tasks over services

The services as part of the state that tasks share: sleeping, waiting for the worker pool, the jobs
of the pool, and the scheduler of sweeps. How calls are answered is a parameter, so that whoever
runs the tasks can watch the calls or refuse some.
-/

namespace Wallet

/-- A state that holds the services of a process. -/
class HasServices (σ : Type) where
  services : σ → Services
  setServices : Services → σ → σ

namespace Turn

open HasServices

variable {σ : Type} [HasServices σ]

/-- How the calls of a program are answered. -/
abbrev Answering (σ : Type) : Type := (c : Call) → Turn σ c.Answer

/-- The reading of the monotonic clock. -/
def clock (s : σ) : Nat := (services s).timeline.now

def changeServices (f : Services → Services) : Turn σ Unit :=
  change fun s => setServices (f (services s)) s

/-- Lets the services answer a call themselves. -/
def direct : Answering σ := fun c => do
  let (a, next) := Services.answer c (services (← state))
  change (setServices next)
  pure a

/-- Sets the monotonic clock. -/
def moveClock (now : Nat) (s : σ) : σ :=
  setServices { services s with timeline := (services s).timeline.setNow now } s

/-- Plays a saga whose actions are turns of a task. -/
def conductor (answering : Answering σ) : Conductor (Turn σ) where
  clocks := answering .clocks
  hasEnded c := answering (.hasEnded c)
  count metric := answering (.count metric)
  sample metric := answering (.sample metric)
  record saga outcomes := answering (.record saga outcomes)

def sleepUntil (instant : Nat) : Turn σ Unit :=
  await (fun s => decide (instant ≤ clock s)) (some instant)

/-- Waits until a context has ended or an instant has come. -/
def awaitEnd (c : Context) (instant : Nat) : Turn σ Unit :=
  await (fun s => c.isDone (services s).timeline || decide (instant ≤ clock s))
    (some (Context.earlier c.deadline instant))

/-- Waits until every job of the pool is finished. -/
def awaitIdle : Turn σ Unit := do
  let (ticket, pool) := (services (← state)).pool.startWait
  changeServices fun s => { s with pool := pool }
  await (fun s => (services s).pool.isIdleFor ticket) none
  changeServices fun s => { s with pool := s.pool.stopWait ticket }

/-- The job that delivers a notification and gives back its slot. -/
def delivery (answering : Answering σ) (n : Notification) : Turn σ Unit := do
  (Program.delivery n).interpret answering
  changeServices fun s => { s with pool := s.pool.finish }

/-- The rounds of a scheduler until its shutdown context ends. `fuel` bounds their number. -/
def rounds (answering : Answering σ) (r : Reconciler) (shutdown : Context) :
    Nat → Scheduler → Turn σ Unit
  | 0, _ => pure ()
  | fuel + 1, scheduler => do
      awaitEnd shutdown scheduler.nextTick
      let s ← state
      if shutdown.isDone (services s).timeline then pure ()
      else
        (Scheduler.sweep r).interpret answering
        rounds answering r shutdown fuel (scheduler.tick (clock s))

/-- The task of a scheduler. The first sweep starts at once. -/
def schedule (answering : Answering σ) (r : Reconciler) (shutdown : Context) (interval : Duration)
    (fuel : Nat) : Turn σ Unit := do
  rounds answering r shutdown fuel (.start interval (clock (← state)))

end Turn

end Wallet
