import Wallet.Reconciliation.Sweep
import Wallet.Saga.Context

/-!
# The scheduler

A scheduler sweeps once when it starts and then at every tick, until its shutdown context ends.
Ticks are an interval apart; a sweep that takes so long that the next tick has gone by delays the
ticks after it.
-/

namespace Wallet

/-- The times of a scheduler, in nanoseconds of the monotonic clock. -/
structure Scheduler where
  interval : Nat
  nextTick : Nat
deriving DecidableEq

namespace Scheduler

/-- No interval is shorter than a second. -/
def minInterval : Duration := .ofSecs 1 (by decide)

/-- The interval that is used for one that was asked for. -/
def intervalOf (d : Duration) : Duration := Duration.longest d minInterval

/-- The scheduler that starts now. -/
def start (interval : Duration) (now : Nat) : Scheduler := ⟨interval.toNanos, now⟩

/-- A tick up to this late, in nanoseconds, counts as on time. -/
def tolerance : Nat := 5000000

/-- The next tick after the one that is handled now. -/
def tick (s : Scheduler) (now : Nat) : Scheduler :=
  { s with nextTick :=
      if s.nextTick + tolerance < now then now + s.interval else s.nextTick + s.interval }

/-- The metric that counts the sweeps that were given up. -/
def failuresMetric : Metric := ⟨"reconciliation_sweep_failures", []⟩

/-- The sweep of one tick. -/
def sweep (r : Reconciler) : Program Unit := do
  match ← r.sweep with
  | .ok _ => pure ()
  | .error _ => Program.count failuresMetric

end Scheduler

end Wallet
