import Wallet.Proofs.Reconciliation.Evidence
import Wallet.Proofs.Store.Overdue

/-!
# Sweeps in a world

A sweep lists overdue orders and has several of them at work at a time (`Swept`). Whatever the others
do meanwhile, the work on an order can do one thing only to the order store: write its own order as
resolved, at its very end, and report that (`Resolving`).
-/

namespace Wallet

/-- A program that files no order, whatever it is answered. -/
def Program.Mute {α : Type} : Program α → Prop
  | .done _ => True
  | .call c next => (∀ x, (Event.mk c x).filed? = none) ∧ ∀ x, (next x).Mute

namespace Reconciler

variable {r : Reconciler} {o o' : Order} {α β : Type}

/-! ## The shape of the work -/

/-- What is reported of an order that was to be written. -/
def afterWrite (resolution : Resolution) : Except ServiceError Order → Except ServiceError Resolution
  | .ok _ => .ok resolution
  | .error e => unwritten e

/-- Work on an order that may write it once, as resolved, and then ends with the report of that. -/
inductive Resolving (o : Order) : Program (Except ServiceError Resolution) → Prop
  | left {x : Except ServiceError Resolution} : Unreported x → Resolving o (.done x)
  | call {c : Call} {next : c.Answer → Program (Except ServiceError Resolution)} :
      (∀ x, (Event.mk c x).filed? = none) → (∀ x, Resolving o (next x)) → Resolving o (.call c next)
  | write {o' : Order} {resolution : Resolution}
      {next : Except ServiceError Order → Program (Except ServiceError Resolution)} :
      o.Resolves o' → resolution.status? = some o'.status →
      (∀ x, next x = .done (afterWrite resolution x)) →
      Resolving o (.call (.orders (.replace o')) next)

theorem mute_bind {x : ReconcileM α} {f : α → ReconcileM β} (hx : x.run.Mute)
    (hf : ∀ a, (f a).run.Mute) : (x >>= f).run.Mute := by
  show (x.run >>= _).Mute
  generalize x.run = p at hx ⊢
  induction p with
  | done y =>
      rcases y with e | a
      · trivial
      · exact hf a
  | call c next ih => exact ⟨hx.1, fun answer => ih answer (hx.2 answer)⟩

/-- A part that files nothing may stand before the rest of the work. -/
theorem Resolving.bind {x : ReconcileM α} {f : α → ReconcileM Resolution} (hx : x.run.Mute)
    (hf : ∀ a, Resolving o (f a).run) : Resolving o (x >>= f).run := by
  show Resolving o (x.run >>= _)
  generalize x.run = p at hx ⊢
  induction p with
  | done y =>
      rcases y with e | a
      · exact .left (unreported_error e)
      · exact hf a
  | call c next ih => exact .call hx.1 fun answer => ih answer (hx.2 answer)

theorem mute_now : now.run.Mute := ⟨fun _ => rfl, fun _ => trivial⟩

theorem mute_ledger (request : Ledger.Request) : (ask (.ledger request)).run.Mute :=
  ⟨fun _ => rfl, fun _ => trivial⟩

theorem mute_linked (o : Order) : (linked o).run.Mute := by
  unfold linked
  cases o.transactionId with
  | none => trivial
  | some id => exact mute_bind (mute_ledger _) fun _ => trivial

theorem mute_inquire (r : Reconciler) (o : Order) : (r.inquire o).run.Mute := by
  refine mute_bind ⟨fun _ => rfl, fun _ => trivial⟩ fun response => ?_
  cases (r.classifiers.classify o.provider response.code).kind with
  | pending => trivial
  | success | failure | needsAuth => exact mute_bind (mute_linked o) fun _ => trivial

/-- Deciding files nothing. -/
theorem mute_consider (r : Reconciler) (o : Order) : (r.consider o).run.Mute := by
  unfold consider
  split
  · trivial
  split
  · exact mute_inquire r o
  refine mute_bind (mute_linked o) fun record => ?_
  split
  · exact mute_inquire r o
  · trivial

theorem resolving_accept {change : Except OrderError Order} {f : Order → ReconcileM Resolution}
    (h : ∀ o', change = .ok o' → Resolving o (f o').run) : Resolving o (accept change >>= f).run := by
  cases change with
  | error e => exact .left (unreported_error _)
  | ok changed => exact h changed rfl

theorem resolving_write {resolution : Resolution} (hresolves : o.Resolves o')
    (hstatus : resolution.status? = some o'.status) : Resolving o (write o' resolution).run := by
  refine .write hresolves hstatus fun x => ?_
  rcases x with e | _
  · cases e <;> rfl
  · rfl

theorem resolving_conclude (ending : Ending) : Resolving o (r.conclude o ending).run := by
  cases ending with
  | settled success reason =>
      refine .bind mute_now fun _ => resolving_accept fun settled hsettled => ?_
      refine .bind mute_now fun _ => resolving_write (.retrieved hsettled) ?_
      obtain ⟨_, rfl⟩ := Order.settle_ok hsettled
      cases success <;> rfl
  | finished =>
      refine .bind mute_now fun _ => resolving_accept fun settled hsettled => ?_
      refine resolving_write (.settled hsettled) ?_
      obtain ⟨_, rfl⟩ := Order.settle_ok hsettled
      rfl
  | expired =>
      refine .bind mute_now fun _ => resolving_accept fun expired hexpired => ?_
      refine resolving_write (.expired hexpired) ?_
      obtain ⟨_, rfl⟩ := Order.expire_ok hexpired
      rfl

theorem resolving_carryOut (decision : Option Decision) : Resolving o (r.carryOut o decision).run := by
  cases decision with
  | none => exact .left unreported_skipped
  | some d =>
      simp only [carryOut]
      cases d.request with
      | none => exact resolving_conclude d.ending
      | some request => exact .bind (mute_ledger request) fun _ => resolving_conclude d.ending

/-- The work on an order has this shape. -/
theorem reconcile_resolving (r : Reconciler) (o : Order) : Resolving o (r.reconcile o).run := by
  rw [reconcile_eq]
  exact .bind (mute_consider r o) resolving_carryOut

/-! ## Runs of a sweep -/

/-- How the workers of a sweep may get from works that are left, a world and a report to the world and
the report with which the sweep ends. One of the first works, as many as the limit says, makes its next
call, or is done and noted. -/
inductive Clears (limit : Nat) : List (Program (Except ServiceError Resolution)) → World →
    SweepReport → World → SweepReport → Prop
  | done (w : World) (report : SweepReport) : Clears limit [] w report w report
  | note {before after : List (Program (Except ServiceError Resolution))}
      {result : Except ServiceError Resolution} {w w' : World} {report report' : SweepReport}
      (m : Moment) : before.length < limit →
      Clears limit (before ++ after) (w.answer m (.count (resultMetric result))).2
        (report.note result) w' report' →
      Clears limit (before ++ .done result :: after) w report w' report'
  | call {before after : List (Program (Except ServiceError Resolution))} {c : Call}
      {next : c.Answer → Program (Except ServiceError Resolution)} {w w' : World}
      {report report' : SweepReport} (m : Moment) : before.length < limit → w.Fresh m c →
      Clears limit (before ++ next (w.answer m c).1 :: after) (w.answer m c).2 report w' report' →
      Clears limit (before ++ .call c next :: after) w report w' report'

/-- The first part of a sweep: what it takes for the present, and the orders that it is given. -/
def listing (r : Reconciler) : Program (Timestamp × Except ServiceError (List Order)) := do
  Program.count sweepsMetric
  let now ← Program.now
  let found ← Program.orders (.findExpired now r.config.batchLimit)
  pure (now, found)

/-- The second part of a sweep: it reconciles the orders that it was given. -/
def handling (r : Reconciler) :
    Except ServiceError (List Order) → Program (Except ReconciliationError SweepReport)
  | .error e => pure (.error (.store e))
  | .ok candidates => do
      let report := { SweepReport.empty with examined := candidates.length }
      pure (.ok (← r.reconcileAll candidates report))

theorem sweep_eq (r : Reconciler) : r.sweep = r.listing >>= fun listed => r.handling listed.2 := by
  unfold sweep listing
  simp only [bind_assoc, pure_bind]
  refine bind_congr fun _ => bind_congr fun _ => bind_congr fun found => ?_
  cases found <;> rfl

/-- A sweep has listed candidates at an instant, reconciled them, and comes to a report. Every run of
`sweep` that returns a report is such a sweep (`swept_of_yields`); here several orders may be at work
at a time, as many as the configuration says. -/
def Swept (r : Reconciler) (now : Timestamp) (candidates : List Order) (w : World)
    (report : SweepReport) (w' : World) : Prop :=
  ∃ opened, r.listing.Yields w (now, .ok candidates) opened ∧
    Clears (max 1 r.config.concurrency) (candidates.map fun o => (r.reconcile o).run) opened
      { SweepReport.empty with examined := candidates.length } w' report

section

variable {limit : Nat} {w w₁ w' : World} {report report' : SweepReport} {candidates : List Order}
  {now : Timestamp}

/-- The first work may go on to its end before any other call is made. -/
theorem Clears.first {x : Program (Except ServiceError Resolution)}
    {result : Except ServiceError Resolution}
    {rest : List (Program (Except ServiceError Resolution))} {m : Moment} (hlimit : 0 < limit)
    (hrun : x.Yields w result w₁)
    (h : Clears limit rest (w₁.answer m (.count (resultMetric result))).2 (report.note result) w'
      report') : Clears limit (x :: rest) w report w' report' := by
  induction x generalizing w with
  | done a =>
      obtain ⟨rfl, rfl⟩ := hrun
      show Clears limit ([] ++ .done result :: rest) w₁ report w' report'
      exact .note m hlimit h
  | call c next ih =>
      obtain ⟨m₁, hfresh, hrest⟩ := hrun
      show Clears limit ([] ++ .call c next :: rest) w report w' report'
      exact .call m₁ hlimit hfresh (ih _ hrest)

/-- Orders may be reconciled one after the other. -/
theorem reconcileAll_clears (hlimit : 0 < limit)
    (hrun : (r.reconcileAll candidates report).Yields w report' w') :
    Clears limit (candidates.map fun o => (r.reconcile o).run) w report w' report' := by
  induction candidates generalizing w report with
  | nil =>
      obtain ⟨rfl, rfl⟩ := hrun
      exact .done _ _
  | cons o rest ih =>
      unfold reconcileAll at hrun
      obtain ⟨result, w₁, hone, m, _, hrest⟩ := Program.yields_bind.mp hrun
      exact .first hlimit hone (ih hrest)

/-- Every sweep that returns a report is one in this sense. -/
theorem swept_of_yields (hrun : r.sweep.Yields w (.ok report) w') :
    ∃ now candidates, Swept r now candidates w report w' := by
  rw [sweep_eq] at hrun
  obtain ⟨⟨now, found⟩, opened, hlisting, hhandling⟩ := Program.yields_bind.mp hrun
  rcases found with e | candidates
  · cases hhandling.1
  obtain ⟨_, _, hall, hreport, rfl⟩ := Program.yields_bind.mp hhandling
  cases hreport
  exact ⟨now, candidates, opened, hlisting, reconcileAll_clears (by omega) hall⟩

/-- A sweep that returns no report was refused its listing, and did nothing else. -/
theorem listing_of_aborted {e : ReconciliationError} (hrun : r.sweep.Yields w (.error e) w') :
    ∃ now e', r.listing.Yields w (now, .error e') w' := by
  rw [sweep_eq] at hrun
  obtain ⟨⟨now, found⟩, opened, hlisting, hhandling⟩ := Program.yields_bind.mp hrun
  rcases found with e' | candidates
  · obtain ⟨_, rfl⟩ := hhandling
    exact ⟨now, e', hlisting⟩
  · obtain ⟨_, _, _, hreport, _⟩ := Program.yields_bind.mp hhandling
    cases hreport

/-- Listing changes no order, and what it finds is the batch of the store. -/
theorem listing_yields {opened : World} {found : Except ServiceError (List Order)}
    (h : r.listing.Yields w (now, found) opened) :
    (∀ candidates, found = .ok candidates →
      candidates = w.services.orders.batch now r.config.batchLimit) ∧
      opened.services.orders = w.services.orders := by
  obtain ⟨m₁, _, m₂, _, m₃, _, hanswer, rfl⟩ := h
  have hcounted : (w.answer m₁ (.count sweepsMetric)).2.services.orders = w.services.orders :=
    World.answer_orders rfl
  have hread : ((w.answer m₁ (.count sweepsMetric)).2.answer m₂ .now).2.services.orders =
      w.services.orders := (World.answer_orders rfl).trans hcounted
  obtain ⟨rfl, hfound⟩ := Prod.mk.inj hanswer
  refine ⟨fun candidates hlisted => ?_, (World.answer_orders rfl).trans hread⟩
  rw [World.answer_findExpired (hfound.symm.trans hlisted), hread]

/-! ### Sweeps that are carried out -/

/-- The instant that a fair moment shows. -/
def fairInstant : Timestamp := (default : Timestamp).tick

/-- The world in which a sweep has listed its orders, if all collaborators can be reached. -/
def opened (r : Reconciler) (code : String) (w : World) : World :=
  let counted := (w.answer (.fair code) (.count sweepsMetric)).2
  let read := (counted.answer (.fair code) .now).2
  (read.answer (.fair code) (.orders (.findExpired fairInstant r.config.batchLimit))).2

theorem listing_fair {code : String} (hup : w.services.orders.unavailable = false) :
    r.listing.Yields w (fairInstant, .ok (w.services.orders.batch fairInstant r.config.batchLimit))
      (opened r code w) := by
  refine ⟨.fair code, trivial, .fair code, trivial, .fair code, trivial, ?_, rfl⟩
  exact congrArg (Prod.mk fairInstant) (OrderStore.findExpired_eq hup).symm

/-- A sweep that reaches all collaborators, on a store that has its orders in the sequence of their
creation: what it lists, what it reports, and the world that it leaves. -/
def sweepFairly (r : Reconciler) (code : String) (w : World) :
    Option ((List Order × SweepReport) × World) :=
  let stored := w.services.orders.orders.values
  let candidates := (stored.filter (OrderStore.isOverdue fairInstant)).take r.config.batchLimit
  if w.services.orders.unavailable = false ∧ stored.Pairwise fun a b => OrderId.le a.id b.id then
    ((r.reconcileAll candidates { SweepReport.empty with examined := candidates.length }).follow
      (List.replicate 20 (.fair code)) (opened r code w)).map fun x => ((candidates, x.1), x.2)
  else none

theorem swept_of_sweepFairly {code : String}
    (h : sweepFairly r code w = some ((candidates, report), w')) :
    Swept r fairInstant candidates w report w' := by
  unfold sweepFairly at h
  simp only at h
  split at h
  · next hstore =>
      obtain ⟨hup, hsorted⟩ := hstore
      obtain ⟨⟨_, _⟩, hfollow, heq⟩ := Option.map_eq_some_iff.mp h
      cases heq
      refine ⟨opened r code w, ?_, reconcileAll_clears (by omega) (Program.yields_of_follow hfollow)⟩
      rw [← OrderStore.batch_of_sorted hsorted]
      exact listing_fair hup
  · cases h

end

end Reconciler

end Wallet
