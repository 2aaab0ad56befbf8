import Wallet.Proofs.Metrics.Flow

/-!
# Metrics in balance

Whatever becomes of the plays and sweeps of a process, its metrics agree with each other, with its
log, and with what has really been done.
-/

namespace Wallet

open Saga (metric)
open Reconciler (sweepFairly)

/-- What a process shows of its plays and sweeps agrees with what has been done. -/
structure World.Balanced (w : World) (d : Score) : Prop where
  played : ∀ saga,
    w.services.metrics.counter (metric "saga_executions_total" saga) = d.plays saga
  ended : ∀ saga, w.services.metrics.counter (metric "saga_executions_total" saga) =
    w.services.metrics.counter (metric "saga_completed" saga) +
      w.services.metrics.counter (metric "saga_failed" saga)
  timed : ∀ saga, w.services.metrics.sampleCount (metric "saga_duration_seconds" saga) =
    w.services.metrics.counter (metric "saga_executions_total" saga)
  /-- The log was told of every play. -/
  told : ∀ saga, (w.told saga).length =
    w.services.metrics.counter (metric "saga_executions_total" saga)
  /-- Every memory that the log sends its records to holds what the log was told. -/
  remembered : ∀ saga, w.services.log.outcomesOf saga =
    (w.told saga).flatMap (List.replicate (Sink.memoriesOf w.services.sinks))
  undone : ∀ saga,
    w.services.metrics.counter (metric "saga_compensations_total" saga) = d.undone saga
  failures : ∀ saga, w.services.metrics.counter (metric "saga_compensation_failures" saga) =
    (w.told saga).flatten.countP StepOutcome.compensationFailed
  swept : w.services.metrics.counter Reconciler.sweepsMetric = d.sweeps
  reconciled : w.services.metrics.total "reconciliation_orders_resolved" +
    w.services.metrics.total "reconciliation_errors" = (d.reports.map SweepReport.examined).sum

/-- **In balance.** After any plays and sweeps of a process, whatever has come of each of them and
whatever else was done in between: of every saga as many plays are counted as were begun, as have
ended one way or the other, as were timed, and as the log has been told of; as many compensations as
undoing actions were invoked; and as many failures as the log has outcomes of steps that could not
be undone. All sweeps are counted, also those that were given up, and every order that a sweep has
examined is counted as resolved in some way or as an error. -/
theorem Lived.balanced {w : World} {d : Score} (h : Lived d w) : w.Balanced d := by
  obtain ⟨hfits, pool, sinks, clock, hgains⟩ := h.fits
  have hcounter (what saga : String) (hname : what ∈ Mark.names) :
      w.services.metrics.counter (metric what saga) =
        w.marks.count (.counted (metric what saga)) :=
    (hgains.counters (metric what saga) hname).trans (Nat.zero_add _)
  have htotal (name : String) (hname : name ∈ Mark.names) :
      w.services.metrics.total name = w.marks.countP (Mark.countsUnder name) :=
    (hgains.totals name hname).trans (Nat.zero_add _)
  have hplayed (saga : String) :
      w.services.metrics.counter (metric "saga_executions_total" saga) = d.plays saga :=
    (hcounter _ saga (by simp [Mark.names])).trans (hfits.begun saga)
  constructor
  case played => exact hplayed
  case ended =>
    intro saga
    rw [hplayed, hcounter "saga_completed" saga (by simp [Mark.names]),
      hcounter "saga_failed" saga (by simp [Mark.names]), hfits.ended]
  case timed =>
    intro saga
    have hname : (metric "saga_duration_seconds" saga).name ∈ Mark.names := by
      simp [metric, Mark.names]
    rw [hplayed, ← hfits.timed]
    exact (hgains.samples _ hname).trans (Nat.zero_add _)
  case told => exact fun saga => (hfits.recorded saga).trans (hplayed saga).symm
  case remembered =>
    intro saga
    rw [hgains.memory, hgains.sinks]
    rfl
  case undone =>
    exact fun saga => (hcounter _ saga (by simp [Mark.names])).trans (hfits.undone saga)
  case failures =>
    exact fun saga => (hcounter _ saga (by simp [Mark.names])).trans (hfits.failures saga)
  case swept =>
    have hname : Reconciler.sweepsMetric.name ∈ Mark.names := by
      simp [Reconciler.sweepsMetric, Mark.names]
    exact (hgains.counters _ hname).trans ((Nat.zero_add _).trans hfits.swept)
  case reconciled =>
    rw [htotal _ (by simp [Mark.names]), htotal _ (by simp [Mark.names])]
    exact hfits.reconciled

/-- Moments so early that what is begun then is overdue at a fair moment. -/
def early (code : String) : List Moment :=
  List.replicate 100
    { Moment.fair code with clock := (Timestamp.ofParts? (-1000) 0).getD default }

/-- One cash-in fails, and when it is undone a collaborator cannot be reached. Another one waits for
its password until it is overdue. One sweep finds it, and the next one is given up. -/
theorem Lived.balanced_inTrouble : ∃ w d, Lived d w ∧ w.Balanced d ∧ d.plays "cash_in" = 2 ∧
    d.undone "cash_in" = 2 ∧ d.sweeps = 2 ∧ (d.reports.map SweepReport.examined).sum = 1 ∧
      (w.services.log.outcomesOf "cash_in").flatten.countP StepOutcome.compensationFailed = 1 := by
  let job : Reconciler := ⟨.standard, .standard⟩
  have hcheck : (World.visit .standard [(payIn, (calm "400").set 29 .down), (payIn, early "103")]
      (.start .standard [.memory] default)).any (fun w₁ =>
        (sweepFairly job "200" w₁).any fun swept =>
          (job.sweep.follow (List.replicate 3 .down) swept.2).any fun last =>
            let m := last.2.services.metrics
            decide (m.counter (metric "saga_executions_total" "cash_in") = 2) &&
              decide (m.counter (metric "saga_compensations_total" "cash_in") = 2) &&
              decide (m.counter Reconciler.sweepsMetric = 2) &&
              decide (m.total "reconciliation_orders_resolved" +
                m.total "reconciliation_errors" = 1) &&
              decide ((last.2.services.log.outcomesOf "cash_in").flatten.countP
                StepOutcome.compensationFailed = 1)) = true := by
    decide +kernel
  obtain ⟨w₁, hvisited, hw₁⟩ := (Option.any_eq_true _ _).mp hcheck
  obtain ⟨⟨⟨candidates, report⟩, w₂⟩, hfairly, hw₂⟩ := (Option.any_eq_true _ _).mp hw₁
  obtain ⟨⟨result, w⟩, hlast, hw⟩ := (Option.any_eq_true _ _).mp hw₂
  simp only [Bool.and_eq_true, decide_eq_true_eq] at hw
  obtain ⟨⟨⟨⟨hplays, hundone⟩, hsweeps⟩, hexamined⟩, hfailures⟩ := hw
  obtain ⟨d₁, hlived₁⟩ := ((Reachable.start .standard [.memory] default).of_visit hvisited).lived
  have hlived₂ := hlived₁.did (.sweep (Reconciler.swept_of_sweepFairly hfairly))
  have hlived := hlived₂.did (did_sweep (Program.yields_of_follow hlast))
  have hbalanced := hlived.balanced
  exact ⟨w, _, hlived, hbalanced, (hbalanced.played _).symm.trans hplays,
    (hbalanced.undone _).symm.trans hundone, hbalanced.swept.symm.trans hsweeps,
    hbalanced.reconciled.symm.trans hexamined, hfailures⟩

end Wallet
