import Mathlib.Algebra.GroupWithZero.Nat
import Mathlib.Data.List.Basic
import Wallet.Proofs.World.Run

/-!
# Marks

What plays and sweeps leave behind in a process for whoever watches it: counts and samples under
names that they keep to themselves, and the records of plays. Each is the mark of a call.

* `World.Gains` says that metrics and memories have gained just the marks of the calls between two
  worlds; it holds for every call, whatever surrounds it (`gains_answer`).
* `Program.Marks` says which marks a program leaves, however its calls are answered; its rules
  follow the program, and `Marks.sound` carries what it shows over to worlds.
-/

namespace Wallet

/-- What a call leaves behind. -/
inductive Mark where
  | counted (m : Metric)
  | sampled (m : Metric)
  | recorded (saga : String) (outcomes : List StepOutcome)
deriving DecidableEq

namespace Mark

/-- The names under which plays and sweeps count and sample. -/
def names : List String :=
  ["saga_executions_total", "saga_completed", "saga_failed", "saga_compensations_total",
    "saga_compensation_failures", "saga_duration_seconds", "reconciliation_sweeps_total",
    "reconciliation_orders_resolved", "reconciliation_errors"]

/-- Whether something is counted under a name, whatever its labels. -/
def countsUnder (name : String) : Mark → Bool
  | counted m => m.name == name
  | _ => false

/-- What the log is told of a play of a saga. -/
def recordOf? (saga : String) : Mark → Option (List StepOutcome)
  | recorded name outcomes => if name = saga then some outcomes else none
  | _ => none

section

variable (saga name : String) (m : Metric) (outcomes : List StepOutcome)

@[simp] theorem recordOf?_counted : recordOf? saga (.counted m) = none := rfl

@[simp] theorem recordOf?_sampled : recordOf? saga (.sampled m) = none := rfl

@[simp] theorem recordOf?_recorded : recordOf? saga (.recorded name outcomes) =
    if name = saga then some outcomes else none := rfl

@[simp] theorem countsUnder_counted : countsUnder name (.counted m) = (m.name == name) := rfl

@[simp] theorem countsUnder_sampled : countsUnder name (.sampled m) = false := rfl

@[simp] theorem countsUnder_recorded : countsUnder name (.recorded saga outcomes) = false := rfl

end

end Mark

/-- The mark of a call. What is counted or sampled under any other name is none. -/
def Call.mark? : Call → Option Mark
  | .count m => if m.name ∈ Mark.names then some (.counted m) else none
  | .sample m => if m.name ∈ Mark.names then some (.sampled m) else none
  | .record saga outcomes => some (.recorded saga outcomes)
  | _ => none

/-! ## What metrics and memory hold -/

namespace Metrics

variable (m : Metrics) (metric other : Metric)

/-- All that is counted under a name, whatever the labels. -/
def total (name : String) : Nat :=
  (m.counters.rows.map fun row => if row.1.name = name then row.2 else 0).sum

theorem counter_count : (m.count metric).counter other =
    m.counter other + if metric = other then 1 else 0 := by
  unfold count counter
  rw [Table.get?_put]
  by_cases heq : metric = other
  · simp [heq]
  · simp [heq, Ne.symm heq]

theorem sampleCount_sample : (m.sample metric).sampleCount other =
    m.sampleCount other + if metric = other then 1 else 0 := by
  unfold sample sampleCount
  rw [Table.get?_put]
  by_cases heq : metric = other
  · simp [heq]
  · simp [heq, Ne.symm heq]

theorem total_count (name : String) : (m.count metric).total name =
    m.total name + if metric.name = name then 1 else 0 := by
  have hsum := ((m.counters.perm_put metric (m.counter metric + 1)).map fun row : Metric × Nat =>
    if row.1.name = name then row.2 else 0).sum_nat
  rw [List.map_append, List.sum_append, List.map_cons, List.sum_cons] at hsum
  change (m.count metric).total name + _ = _ + m.total name at hsum
  unfold counter at hsum
  generalize m.counters.get? metric = old at hsum
  cases old with
  | none => simpa [Nat.add_comm] using hsum
  | some b =>
      by_cases heq : metric.name = name
      · simp [heq] at hsum ⊢
        omega
      · simpa [heq] using hsum

/-! ### What a call does to the metrics -/

/-- The metrics after a call. A notification that is handed to the pool is counted as accepted or
refused. -/
def after (m : Metrics) (accepted : Bool) : Call → Metrics
  | .count metric => m.count metric
  | .sample metric => m.sample metric
  | .submit _ => m.count (Services.poolMetric accepted "notify")
  | _ => m

theorem poolMetric_not_mem (accepted : Bool) (job : String) :
    (Services.poolMetric accepted job).name ∉ Mark.names := by
  cases accepted <;> simp [Services.poolMetric, Mark.names]

variable {metric}

theorem counter_after (accepted : Bool) (c : Call) (hname : metric.name ∈ Mark.names) :
    (m.after accepted c).counter metric =
      m.counter metric + c.mark?.toList.count (.counted metric) := by
  cases c with
  | count other =>
      rw [after, counter_count, Call.mark?]
      by_cases heq : other = metric
      · simp [heq, hname]
      · rw [if_neg heq]
        split <;> simp [heq]
  | sample other =>
      rw [after, Call.mark?]
      split <;> simp [counter, sample]
  | submit n =>
      have hother : Services.poolMetric accepted "notify" ≠ metric := fun heq =>
        poolMetric_not_mem accepted "notify" (heq ▸ hname)
      rw [after, counter_count, if_neg hother]
      rfl
  | _ => simp [after, Call.mark?]

theorem sampleCount_after (accepted : Bool) (c : Call) (hname : metric.name ∈ Mark.names) :
    (m.after accepted c).sampleCount metric =
      m.sampleCount metric + c.mark?.toList.count (.sampled metric) := by
  cases c with
  | sample other =>
      rw [after, sampleCount_sample, Call.mark?]
      by_cases heq : other = metric
      · simp [heq, hname]
      · rw [if_neg heq]
        split <;> simp [heq]
  | count other =>
      rw [after, Call.mark?]
      split <;> simp [sampleCount, count]
  | _ => simp [after, Call.mark?, sampleCount, count]

theorem total_after (accepted : Bool) (c : Call) {name : String} (hname : name ∈ Mark.names) :
    (m.after accepted c).total name =
      m.total name + c.mark?.toList.countP (Mark.countsUnder name) := by
  cases c with
  | count other =>
      rw [after, total_count, Call.mark?]
      by_cases heq : other.name = name
      · simp [heq, hname]
      · rw [if_neg heq]
        split <;> simp [heq]
  | sample other =>
      rw [after, Call.mark?]
      split <;> simp [total, sample]
  | submit n =>
      have hother : (Services.poolMetric accepted "notify").name ≠ name := fun heq =>
        poolMetric_not_mem accepted "notify" (heq ▸ hname)
      rw [after, total_count, if_neg hother]
      rfl
  | _ => simp [after, Call.mark?]

end Metrics

/-! ## Memories -/

mutual

/-- How many memories a record reaches that is sent to a sink. -/
def Sink.memories : Sink → Nat
  | .memory => 1
  | .events => 0
  | .fanout sinks => Sink.memoriesOf sinks

/-- How many memories a record reaches that is sent to all sinks. -/
def Sink.memoriesOf : List Sink → Nat
  | [] => 0
  | sink :: rest => sink.memories + Sink.memoriesOf rest

end

namespace ExecutionLog

mutual

theorem records_send (log : ExecutionLog) (r : ExecutionRecord) (sink : Sink) :
    (log.send r sink).records = log.records ++ List.replicate sink.memories r := by
  cases sink with
  | memory => rfl
  | events => simp [send, Sink.memories]
  | fanout sinks => exact records_sendAll log r sinks

/-- A record is kept once for each memory that it reaches. -/
theorem records_sendAll (log : ExecutionLog) (r : ExecutionRecord) (sinks : List Sink) :
    (log.sendAll r sinks).records = log.records ++ List.replicate (Sink.memoriesOf sinks) r := by
  cases sinks with
  | nil => simp [sendAll, Sink.memoriesOf]
  | cons sink rest =>
      rw [sendAll, records_sendAll, records_send, Sink.memoriesOf, List.replicate_add,
        List.append_assoc]

end

/-- The outcomes that the memory has of the plays of a saga. -/
def outcomesOf (log : ExecutionLog) (saga : String) : List (List StepOutcome) :=
  (log.records.filter fun r => r.sagaName = saga).map ExecutionRecord.outcomes

/-- The log after a call. -/
def after (log : ExecutionLog) (now : Timestamp) (sinks : List Sink) : Call → ExecutionLog
  | .record saga outcomes => log.sendAll ⟨saga, outcomes, now⟩ sinks
  | _ => log

theorem outcomesOf_after (log : ExecutionLog) (now : Timestamp) (sinks : List Sink) (c : Call)
    (saga : String) : (log.after now sinks c).outcomesOf saga = log.outcomesOf saga ++
      (c.mark?.toList.filterMap (Mark.recordOf? saga)).flatMap
        (List.replicate (Sink.memoriesOf sinks)) := by
  cases c with
  | record name outcomes =>
      unfold after outcomesOf
      rw [records_sendAll, List.filter_append, List.map_append, List.filter_replicate]
      by_cases heq : name = saga <;> simp [Call.mark?, heq]
  | count metric | sample metric =>
      simp only [after, Call.mark?]
      split <;> simp
  | _ => simp [after, Call.mark?]

end ExecutionLog

/-! ## Worlds -/

namespace World

/-- The marks of all calls so far. -/
def marks (w : World) : List Mark := w.history.filterMap fun e => e.call.mark?

/-- What the log was told of the plays of a saga. -/
def told (w : World) (saga : String) : List (List StepOutcome) :=
  w.marks.filterMap (Mark.recordOf? saga)

/-- From one world to a later one there are marks, and metrics and memories have gained just these.
-/
structure Gains (w w' : World) (ms : List Mark) : Prop where
  history : w'.marks = w.marks ++ ms
  counters : ∀ metric, metric.name ∈ Mark.names → w'.services.metrics.counter metric =
    w.services.metrics.counter metric + ms.count (.counted metric)
  samples : ∀ metric, metric.name ∈ Mark.names → w'.services.metrics.sampleCount metric =
    w.services.metrics.sampleCount metric + ms.count (.sampled metric)
  totals : ∀ name ∈ Mark.names, w'.services.metrics.total name =
    w.services.metrics.total name + ms.countP (Mark.countsUnder name)
  memory : ∀ saga, w'.services.log.outcomesOf saga = w.services.log.outcomesOf saga ++
    (ms.filterMap (Mark.recordOf? saga)).flatMap
      (List.replicate (Sink.memoriesOf w.services.sinks))
  sinks : w'.services.sinks = w.services.sinks

variable {w w₁ w' : World} {ms ns : List Mark}

theorem Gains.refl (w : World) : w.Gains w [] := by
  constructor <;> simp

theorem Gains.trans (h : w.Gains w₁ ms) (h' : w₁.Gains w' ns) : w.Gains w' (ms ++ ns) where
  history := by rw [h'.history, h.history, List.append_assoc]
  counters metric hname := by
    rw [h'.counters metric hname, h.counters metric hname, List.count_append, Nat.add_assoc]
  samples metric hname := by
    rw [h'.samples metric hname, h.samples metric hname, List.count_append, Nat.add_assoc]
  totals name hname := by
    rw [h'.totals name hname, h.totals name hname, List.countP_append, Nat.add_assoc]
  memory saga := by
    rw [h'.memory saga, h.memory saga, h.sinks, List.filterMap_append, List.flatMap_append,
      List.append_assoc]
  sinks := h'.sinks.trans h.sinks

/-! ### One call -/

/-- What a call does to metrics, log and sinks. -/
structure Meters (s s' : Services) (c : Call) : Prop where
  metrics : ∃ accepted, s'.metrics = s.metrics.after accepted c
  log : ∃ now, s'.log = s.log.after now s.sinks c
  sinks : s'.sinks = s.sinks

theorem serve_meters (s : Services) (m : Moment) (c : Call) : Meters s (s.serve m c).2 c := by
  unfold Services.serve
  split
  · next hrefusal =>
      obtain ⟨what, _, hx⟩ := Option.bind_eq_some_iff.mp hrefusal
      cases c <;> first | exact ⟨⟨false, rfl⟩, ⟨m.clock, rfl⟩, rfl⟩ | cases hx
  · cases c with
    | submit n =>
        show Meters s ((s.amid m).submitJob n) (.submit n)
        unfold Services.submitJob Services.takeSlot
        cases (s.amid m).pool.submit? with
        | none => exact ⟨⟨false, rfl⟩, ⟨m.clock, rfl⟩, rfl⟩
        | some pool => exact ⟨⟨true, rfl⟩, ⟨m.clock, rfl⟩, rfl⟩
    | _ => exact ⟨⟨false, rfl⟩, ⟨m.clock.tick, rfl⟩, rfl⟩

/-- Whatever is called and however it is answered, the gain is the mark of the call. -/
theorem gains_answer (w : World) (m : Moment) (c : Call) :
    w.Gains (w.answer m c).2 c.mark?.toList := by
  obtain ⟨⟨accepted, hmetrics⟩, ⟨now, hlog⟩, hsinks⟩ := serve_meters w.services m c
  change (w.answer m c).2.services.metrics = _ at hmetrics
  change (w.answer m c).2.services.log = _ at hlog
  refine ⟨List.filterMap_append, ?_, ?_, ?_, ?_, hsinks⟩
  · intro metric hname
    rw [hmetrics, Metrics.counter_after _ accepted c hname]
  · intro metric hname
    rw [hmetrics, Metrics.sampleCount_after _ accepted c hname]
  · intro name hname
    rw [hmetrics, Metrics.total_after _ accepted c hname]
  · intro saga
    rw [hlog, ExecutionLog.outcomesOf_after]

end World

/-! ## Programs -/

namespace Program

variable {α β : Type}

/-- However its calls are answered, the program ends with a value and has left marks that satisfy
`Q`. -/
def Marks : Program α → (α → List Mark → Prop) → Prop
  | .done a, Q => Q a []
  | .call c next, Q => ∀ x, (next x).Marks fun a ms => Q a (c.mark?.toList ++ ms)

theorem Marks.mono {x : Program α} {Q R : α → List Mark → Prop} (h : x.Marks Q)
    (hQR : ∀ a ms, Q a ms → R a ms) : x.Marks R := by
  induction x generalizing Q R with
  | done a => exact hQR a [] h
  | call c next ih => exact fun x => ih x (h x) fun a ms => hQR a _

theorem marks_bind (x : Program α) (f : α → Program β) (Q : β → List Mark → Prop) :
    (x >>= f).Marks Q ↔ x.Marks fun a ms => (f a).Marks fun b ns => Q b (ms ++ ns) := by
  induction x generalizing Q with
  | done a => exact Iff.rfl
  | call c next ih =>
      refine forall_congr' fun x => (ih x _).trans ?_
      simp only [List.append_assoc]

/-- What a program leaves however it is answered is what a world gains from a run of it. -/
theorem Marks.sound {x : Program α} {w w' : World} {a : α} {Q : α → List Mark → Prop}
    (h : x.Marks Q) (hrun : x.Yields w a w') : ∃ ms, Q a ms ∧ w.Gains w' ms := by
  induction x generalizing w Q with
  | done b =>
      obtain ⟨rfl, rfl⟩ := hrun
      exact ⟨[], h, .refl _⟩
  | call c next ih =>
      obtain ⟨m, _, hrest⟩ := hrun
      obtain ⟨ms, hQ, hgains⟩ := ih _ (h _) hrest
      exact ⟨_, hQ, (w.gains_answer m c).trans hgains⟩

/-- No call of the program leaves a mark. -/
def Spares : Program α → Prop
  | .done _ => True
  | .call c next => c.mark? = none ∧ ∀ x, (next x).Spares

theorem spares_request {c : Call} (hc : c.mark? = none) : (request c).Spares :=
  ⟨hc, fun _ => trivial⟩

theorem spares_bind {x : Program α} {f : α → Program β} (hx : x.Spares) (hf : ∀ a, (f a).Spares) :
    (x >>= f).Spares := by
  induction x with
  | done a => exact hf a
  | call c next ih => exact ⟨hx.1, fun x => ih x (hx.2 x)⟩

theorem Spares.marks {x : Program α} (h : x.Spares) : x.Marks fun _ ms => ms = [] := by
  induction x with
  | done a => rfl
  | call c next ih =>
      intro x
      rw [h.1]
      exact ih x (h.2 x)

theorem Spares.gains {x : Program α} {w w' : World} {a : α} (h : x.Spares)
    (hrun : x.Yields w a w') : w.Gains w' [] := by
  obtain ⟨_, rfl, hgains⟩ := h.marks.sound hrun
  exact hgains

end Program

end Wallet
