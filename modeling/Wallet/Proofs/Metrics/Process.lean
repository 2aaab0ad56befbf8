import Wallet.Proofs.Metrics.Plays
import Wallet.Proofs.Metrics.Sweeps

/-!
# What has been done in a process

In one process sagas are played and sweeps are carried out, one after the other, and anything else
may happen in between. `Score` counts what has been done, and `Score.Fits` says of marks that they
are those of a score. Both are put together one after the other, so what holds of one play or sweep
(`Did.fits`) holds of all that a process has lived through (`Lived.fits`).
-/

namespace Wallet

open Saga (metric undoMark failureMark undoMarks verdictMarks playMarks)
open Reconciler (sweepMark resultMark)

/-- What plays and sweeps have done. -/
structure Score where
  /-- How often a saga of a name was played. -/
  plays : String → Nat
  /-- How often an undoing action of a saga of a name was invoked. -/
  undone : String → Nat
  /-- How often a sweep was begun. -/
  sweeps : Nat
  /-- What the sweeps have returned that were not given up. -/
  reports : List SweepReport

namespace Score

def nothing : Score := ⟨fun _ => 0, fun _ => 0, 0, []⟩

/-- A play that has invoked `k` undoing actions. -/
def play (saga : String) (k : Nat) : Score :=
  ⟨fun name => if name = saga then 1 else 0, fun name => if name = saga then k else 0, 0, []⟩

/-- A sweep, with its report unless it was given up. -/
def sweep (report : Option SweepReport) : Score := ⟨fun _ => 0, fun _ => 0, 1, report.toList⟩

/-- What is done first and what is done then. -/
instance : Add Score where
  add d e := ⟨fun saga => d.plays saga + e.plays saga, fun saga => d.undone saga + e.undone saga,
    d.sweeps + e.sweeps, d.reports ++ e.reports⟩

/-- The marks are those of what was done. -/
structure Fits (d : Score) (ms : List Mark) : Prop where
  begun : ∀ saga, ms.count (.counted (metric "saga_executions_total" saga)) = d.plays saga
  ended : ∀ saga, ms.count (.counted (metric "saga_completed" saga)) +
    ms.count (.counted (metric "saga_failed" saga)) = d.plays saga
  timed : ∀ saga, ms.count (.sampled (metric "saga_duration_seconds" saga)) = d.plays saga
  recorded : ∀ saga, (ms.filterMap (Mark.recordOf? saga)).length = d.plays saga
  undone : ∀ saga, ms.count (undoMark saga) = d.undone saga
  failures : ∀ saga, ms.count (failureMark saga) =
    (ms.filterMap (Mark.recordOf? saga)).flatten.countP StepOutcome.compensationFailed
  swept : ms.count sweepMark = d.sweeps
  reconciled : ms.countP (Mark.countsUnder "reconciliation_orders_resolved") +
    ms.countP (Mark.countsUnder "reconciliation_errors") =
      (d.reports.map SweepReport.examined).sum

variable {d e : Score} {ms ns : List Mark}

theorem fits_nothing : nothing.Fits [] := by constructor <;> simp [nothing]

theorem Fits.add (h : d.Fits ms) (h' : e.Fits ns) : (d + e).Fits (ms ++ ns) where
  begun saga := by
    rw [List.count_append, h.begun, h'.begun]
    rfl
  ended saga := by
    have hfirst := h.ended saga
    have hthen := h'.ended saga
    simp only [List.count_append]
    show _ = d.plays saga + e.plays saga
    omega
  timed saga := by
    rw [List.count_append, h.timed, h'.timed]
    rfl
  recorded saga := by
    rw [List.filterMap_append, List.length_append, h.recorded, h'.recorded]
    rfl
  undone saga := by
    rw [List.count_append, h.undone, h'.undone]
    rfl
  failures saga := by
    rw [List.count_append, h.failures, h'.failures, List.filterMap_append, List.flatten_append,
      List.countP_append]
  swept := by
    rw [List.count_append, h.swept, h'.swept]
    rfl
  reconciled := by
    have hfirst := h.reconciled
    have hthen := h'.reconciled
    simp only [List.countP_append]
    show _ = ((d.reports ++ e.reports).map SweepReport.examined).sum
    rw [List.map_append, List.sum_append]
    omega

/-- In which sequence the marks are left makes no difference. -/
theorem Fits.perm (h : d.Fits ms) (hms : ms.Perm ns) : d.Fits ns where
  begun saga := hms.count_eq _ ▸ h.begun saga
  ended saga := hms.count_eq _ ▸ hms.count_eq _ ▸ h.ended saga
  timed saga := hms.count_eq _ ▸ h.timed saga
  recorded saga := (hms.filterMap _).length_eq ▸ h.recorded saga
  undone saga := hms.count_eq _ ▸ h.undone saga
  failures saga := by
    rw [← hms.count_eq, h.failures saga, (hms.filterMap _).flatten.countP_eq]
  swept := hms.count_eq _ ▸ h.swept
  reconciled := hms.countP_eq _ ▸ hms.countP_eq _ ▸ h.reconciled

section

variable {saga name : String} {completed : Bool} {outcomes : List StepOutcome} {k : Nat}

theorem metric_inj {what what' : String} :
    metric what saga = metric what' name ↔ what = what' ∧ saga = name := by
  simp [metric]

/-- How often a play counts what, of the sagas of a name. -/
theorem count_playMarks (what name : String) :
    (playMarks saga completed outcomes k).count (.counted (metric what name)) =
      if saga = name then
        (if "saga_executions_total" = what then 1 else 0) +
          (if (if completed then "saga_completed" else "saga_failed") = what then 1 else 0) +
          (if "saga_compensations_total" = what then k else 0) +
          (if "saga_compensation_failures" = what then
            outcomes.countP StepOutcome.compensationFailed else 0)
      else 0 := by
  by_cases hname : saga = name
  · simp only [playMarks, verdictMarks, undoMarks, undoMark, failureMark, List.count_append,
      List.count_cons, List.count_nil, List.count_replicate, beq_iff_eq, Mark.counted.injEq,
      metric_inj, hname, and_true, if_true, reduceCtorEq, if_false]
    omega
  · simp [playMarks, verdictMarks, undoMarks, undoMark, failureMark, List.count_replicate,
      metric_inj, hname]

theorem recordOf?_playMarks (name : String) :
    (playMarks saga completed outcomes k).filterMap (Mark.recordOf? name) =
      if saga = name then [outcomes] else [] := by
  simp only [playMarks, verdictMarks, undoMarks, undoMark, failureMark, List.filterMap_append,
    List.filterMap_cons, List.filterMap_nil, List.filterMap_replicate, Mark.recordOf?_counted,
    Mark.recordOf?_sampled, Mark.recordOf?_recorded, List.nil_append]
  by_cases hname : saga = name <;> simp only [hname, if_true, if_false]

theorem fits_play : (play saga k).Fits (playMarks saga completed outcomes k) := by
  constructor
  case begun =>
    intro name
    rw [count_playMarks]
    cases completed <;> simp [play, eq_comm]
  case ended =>
    intro name
    rw [count_playMarks, count_playMarks]
    cases completed <;> simp [play, eq_comm]
  case timed =>
    intro name
    simp [play, playMarks, verdictMarks, undoMarks, undoMark, failureMark, metric_inj,
      List.count_cons, List.count_replicate]
    simp only [eq_comm]
  case recorded =>
    intro name
    rw [recordOf?_playMarks, apply_ite List.length]
    simp [play, eq_comm]
  case undone =>
    intro name
    rw [undoMark, count_playMarks]
    cases completed <;> simp [play, eq_comm]
  case failures =>
    intro name
    rw [failureMark, count_playMarks, recordOf?_playMarks]
    by_cases hname : saga = name <;> cases completed <;> simp [hname]
  case swept =>
    have hother (what : String) : metric what saga ≠ Reconciler.sweepsMetric := by
      simp [metric, Reconciler.sweepsMetric]
    simp [play, playMarks, verdictMarks, undoMarks, undoMark, failureMark, sweepMark, hother,
      List.count_replicate]
  case reconciled =>
    cases completed <;> simp [play, playMarks, verdictMarks, undoMarks, undoMark, failureMark,
      List.countP_replicate, metric]

/-- Every order that is done with is counted as resolved or as an error. -/
theorem countP_resultMark (results : List (Except ServiceError Resolution)) :
    (results.map resultMark).countP (Mark.countsUnder "reconciliation_orders_resolved") +
      (results.map resultMark).countP (Mark.countsUnder "reconciliation_errors") =
        results.length := by
  induction results with
  | nil => rfl
  | cons x rest ih =>
      rw [List.map_cons, List.countP_cons, List.countP_cons, List.length_cons]
      rcases x with e | resolution
      · have herror : resultMark (.error e) = .counted ⟨"reconciliation_errors", []⟩ := rfl
        simp only [herror, Mark.countsUnder_counted, beq_iff_eq, String.reduceEq, if_true, if_false]
        omega
      · have hresolved : resultMark (.ok resolution) =
          .counted ⟨"reconciliation_orders_resolved", [("outcome", resolution.name)]⟩ := rfl
        simp only [hresolved, Mark.countsUnder_counted, beq_iff_eq, String.reduceEq, if_true,
          if_false]
        omega

/-- A sweep leaves its own mark, and one for every order that it has examined. -/
theorem fits_sweep {report : Option SweepReport} {results : List (Except ServiceError Resolution)}
    (hlength : results.length = (report.toList.map SweepReport.examined).sum) :
    (sweep report).Fits (sweepMark :: results.map resultMark) := by
  have hresult (x : Except ServiceError Resolution) (what saga : String) :
      resultMark x ≠ .counted (metric what saga) := by
    rcases x with e | resolution <;> simp [resultMark, Reconciler.resultMetric, metric]
  have hsaga (what saga : String) :
      (sweepMark :: results.map resultMark).count (.counted (metric what saga)) = 0 := by
    refine List.count_eq_zero.mpr fun hmem => ?_
    rcases List.mem_cons.mp hmem with hmark | hmark
    · simp [sweepMark, Reconciler.sweepsMetric, metric] at hmark
    · obtain ⟨x, _, hx⟩ := List.mem_map.mp hmark
      exact hresult x what saga hx
  have hrecord (saga : String) :
      (sweepMark :: results.map resultMark).filterMap (Mark.recordOf? saga) = [] := by
    refine List.filterMap_eq_nil_iff.mpr fun mark hmem => ?_
    rcases List.mem_cons.mp hmem with rfl | hmark
    · rfl
    · obtain ⟨x, _, rfl⟩ := List.mem_map.mp hmark
      rfl
  constructor
  case begun | undone => exact hsaga _
  case ended => exact fun saga => by rw [hsaga, hsaga]; rfl
  case timed =>
    refine fun saga => List.count_eq_zero.mpr fun hmem => ?_
    simp [sweepMark, resultMark] at hmem
  case recorded => exact fun saga => by rw [hrecord]; rfl
  case failures => exact fun saga => by rw [failureMark, hsaga, hrecord]; rfl
  case swept =>
    have hnone : (results.map resultMark).count sweepMark = 0 := by
      refine List.count_eq_zero.mpr fun hmem => ?_
      obtain ⟨x, _, hx⟩ := List.mem_map.mp hmem
      rcases x with e | resolution <;>
        simp [resultMark, sweepMark, Reconciler.resultMetric, Reconciler.sweepsMetric] at hx
    rw [List.count_cons_self, hnone]
    rfl
  case reconciled =>
    have hbegun (name : String) (hname : "reconciliation_sweeps_total" ≠ name) :
        (sweepMark :: results.map resultMark).countP (Mark.countsUnder name) =
          (results.map resultMark).countP (Mark.countsUnder name) :=
      List.countP_cons_of_neg (by simpa [sweepMark, Reconciler.sweepsMetric] using hname)
    rw [hbegun _ (by decide), hbegun _ (by decide), countP_resultMark, hlength]
    rfl

end

end Score

/-! ## Processes -/

/-- From a world something leads to a later one: a play, a sweep, or what leaves no mark. Here the
undoing actions of a play are counted, and several orders may be at work in a sweep at a time; every
run of a play and of a sweep is one of these (`did_play`, `did_sweep`). -/
inductive Did : World → Score → World → Prop
  | play {ε τ : Type} [ToString ε] {w w' : World} {saga : Saga ε (StateT τ Program)}
      {operation compensation : Context} {s s' : τ} {x : Execution ε} {k : Nat} :
      saga.Spares →
      (((saga.counted.play (Saga.conductor τ).lifted operation compensation).run 0).run s).Yields w
        ((x, k), s') w' →
      Did w (.play saga.name k) w'
  | sweep {r : Reconciler} {now : Timestamp} {candidates : List Order} {report : SweepReport}
      {w w' : World} : Reconciler.Swept r now candidates w report w' →
      Did w (.sweep (some report)) w'
  | aborted {r : Reconciler} {e : ReconciliationError} {w w' : World} :
      r.sweep.Yields w (.error e) w' → Did w (.sweep none) w'
  | other {α : Type} {x : Program α} {a : α} {w w' : World} : x.Spares → x.Yields w a w' →
      Did w .nothing w'

/-- What has been done in a process from its start to a world. -/
inductive Lived : Score → World → Prop
  | start (pool : Pool) (sinks : List Sink) (clock : Timestamp) :
      Lived .nothing (.start pool sinks clock)
  | did {d e : Score} {w w' : World} : Lived d w → Did w e w' → Lived (d + e) w'

theorem Program.yields_map {α β : Type} {x : Program α} {f : α → β} {w w' : World} {b : β} :
    (f <$> x).Yields w b w' ↔ ∃ a, x.Yields w a w' ∧ f a = b := by
  rw [← bind_pure_comp, yields_bind]
  constructor
  · rintro ⟨a, _, hrun, rfl, rfl⟩
    exact ⟨a, hrun, rfl⟩
  · rintro ⟨a, hrun, rfl⟩
    exact ⟨a, w', hrun, rfl, rfl⟩

section

variable {w w' : World}

/-- However a saga is played, its undoing actions have been invoked some number of times. -/
theorem did_play {ε τ : Type} [ToString ε] {saga : Saga ε (StateT τ Program)}
    {operation compensation : Context} {s s' : τ} {x : Execution ε} (hspares : saga.Spares)
    (hrun : ((saga.play (Saga.conductor τ) operation compensation).run s).Yields w (x, s') w') :
    ∃ k, Did w (.play saga.name k) w' := by
  rw [← Saga.counted_play saga operation compensation 0, StateT.run_map] at hrun
  obtain ⟨⟨⟨y, k⟩, t⟩, hcounted, heq⟩ := Program.yields_map.mp hrun
  cases heq
  exact ⟨k, .play hspares hcounted⟩

theorem did_sweep {r : Reconciler} {result : Except ReconciliationError SweepReport}
    (hrun : r.sweep.Yields w result w') : Did w (.sweep result.toOption) w' := by
  rcases result with e | report
  · exact .aborted hrun
  · obtain ⟨now, candidates, hswept⟩ := Reconciler.swept_of_yields hrun
    exact .sweep hswept

/-! ## In balance -/

/-- Whatever was done is told by the marks that it has left. -/
theorem Did.fits {e : Score} (h : Did w e w') : ∃ ms, e.Fits ms ∧ w.Gains w' ms := by
  cases h with
  | play hspares hrun =>
      obtain ⟨ms, ⟨k, hk, hms⟩, hgains⟩ := (Saga.marked_play hspares 0 _).sound hrun
      rw [Nat.zero_add] at hk
      cases hk
      exact ⟨ms, Score.fits_play.perm hms.symm, hgains⟩
  | sweep hswept =>
      obtain ⟨results, hlength, hgains⟩ := hswept.gains
      exact ⟨_, Score.fits_sweep (by simpa using hlength), hgains⟩
  | aborted hrun =>
      have hfits : (Score.sweep none).Fits (sweepMark :: [].map resultMark) := Score.fits_sweep rfl
      exact ⟨_, hfits, Reconciler.sweep_gains_of_error hrun⟩
  | other hspares hrun => exact ⟨[], Score.fits_nothing, hspares.gains hrun⟩

/-- A world in which metrics and memories hold the marks of all that was done. -/
theorem Lived.fits {d : Score} (h : Lived d w) : d.Fits w.marks ∧
    ∃ pool sinks clock, (World.start pool sinks clock).Gains w w.marks := by
  induction h with
  | start pool sinks clock => exact ⟨Score.fits_nothing, pool, sinks, clock, .refl _⟩
  | did _ hdid ih =>
      obtain ⟨hfits, pool, sinks, clock, hgains⟩ := ih
      obtain ⟨ms, hdone, hgained⟩ := hdid.fits
      rw [hgained.history]
      exact ⟨hfits.add hdone, pool, sinks, clock, hgains.trans hgained⟩

end

end Wallet
