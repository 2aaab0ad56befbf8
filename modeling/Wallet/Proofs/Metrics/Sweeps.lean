import Wallet.Proofs.Metrics.Marks
import Wallet.Proofs.Reconciliation.Sweeping

/-!
# The marks of sweeps

The work on an order leaves no mark (`spares_reconcile`). So a sweep leaves the mark of having begun
and, unless it is given up, one mark for every order that it was given, in whatever sequence the
orders are done with (`Swept.gains`).
-/

namespace Wallet

namespace Reconciler

open Program (spares_request spares_bind)

variable {α β : Type} {r : Reconciler} {o : Order}

/-! ## The work on an order -/

theorem spares_part_bind {x : ReconcileM α} {f : α → ReconcileM β} (hx : x.run.Spares)
    (hf : ∀ a, (f a).run.Spares) : (x >>= f).run.Spares := by
  refine spares_bind hx fun y => ?_
  rcases y with e | a
  · trivial
  · exact hf a

theorem spares_now : now.run.Spares := spares_bind (spares_request rfl) fun _ => trivial

theorem spares_ledger (request : Ledger.Request) : (ask (.ledger request)).run.Spares :=
  spares_request rfl

theorem spares_linked (o : Order) : (linked o).run.Spares := by
  unfold linked
  cases o.transactionId with
  | none => trivial
  | some id => exact spares_part_bind (spares_ledger _) fun _ => trivial

theorem spares_write (o : Order) (resolution : Resolution) : (write o resolution).run.Spares := by
  refine spares_bind (spares_request rfl) fun answer => ?_
  rcases answer with e | _
  · cases e <;> trivial
  · trivial

theorem spares_settle (o : Order) (success : Bool) (reason : Option String) :
    (settle o success reason).run.Spares :=
  spares_part_bind spares_now fun _ => spares_part_bind trivial fun _ =>
    spares_part_bind spares_now fun _ => spares_write _ _

theorem spares_inquire (r : Reconciler) (o : Order) : (r.inquire o).run.Spares := by
  refine spares_part_bind (spares_request rfl) fun response => ?_
  cases (r.classifiers.classify o.provider response.code).kind with
  | pending => trivial
  | success | failure | needsAuth => exact spares_part_bind (spares_linked o) fun _ => trivial

theorem spares_consider (r : Reconciler) (o : Order) : (r.consider o).run.Spares := by
  unfold consider
  split
  · trivial
  split
  · exact spares_inquire r o
  refine spares_part_bind (spares_linked o) fun record => ?_
  split
  · exact spares_inquire r o
  · trivial

theorem spares_conclude (r : Reconciler) (o : Order) (ending : Ending) :
    (r.conclude o ending).run.Spares := by
  cases ending with
  | settled success reason => exact spares_settle o success reason
  | finished | expired =>
      exact spares_part_bind spares_now fun _ => spares_part_bind trivial fun _ => spares_write _ _

/-- The work on an order leaves no mark. -/
theorem spares_reconcile (r : Reconciler) (o : Order) : (r.reconcile o).run.Spares := by
  rw [reconcile_eq]
  refine spares_part_bind (spares_consider r o) fun decision => ?_
  cases decision with
  | none => trivial
  | some d =>
      simp only [carryOut]
      cases d.request with
      | none => exact spares_conclude r o d.ending
      | some request =>
          exact spares_part_bind (spares_ledger request) fun _ => spares_conclude r o d.ending

/-! ## Sweeps -/

variable {limit : Nat} {w w' : World} {report report' : SweepReport}

/-- The mark that is left when an order is done with. -/
def resultMark (x : Except ServiceError Resolution) : Mark := .counted (resultMetric x)

theorem resultMetric_mem (x : Except ServiceError Resolution) :
    (resultMetric x).name ∈ Mark.names := by
  rcases x with e | resolution <;> simp [resultMetric, Mark.names]

theorem mark?_result (x : Except ServiceError Resolution) :
    (Call.count (resultMetric x)).mark? = some (resultMark x) := if_pos (resultMetric_mem x)

theorem examined_note (x : Except ServiceError Resolution) :
    (report.note x).examined = report.examined := by
  rcases x with e | resolution
  · rfl
  · cases resolution <;> rfl

/-- However the calls of the workers are interleaved, each work leaves the mark of its result. -/
theorem Clears.gains {works : List (Program (Except ServiceError Resolution))}
    (h : Clears limit works w report w' report') (hspares : ∀ x ∈ works, x.Spares) :
    report'.examined = report.examined ∧
      ∃ results : List (Except ServiceError Resolution),
        results.length = works.length ∧ w.Gains w' (results.map resultMark) := by
  induction h with
  | done w report => exact ⟨rfl, [], rfl, .refl w⟩
  | @note before after result w _ _ _ m _ _ ih =>
      obtain ⟨hexamined, results, hlength, hgains⟩ := ih fun x hx => by
        refine hspares x ?_
        simp only [List.mem_append, List.mem_cons] at hx ⊢
        exact hx.imp_right .inr
      refine ⟨hexamined.trans (examined_note result), result :: results, ?_, ?_⟩
      · simp only [List.length_append, List.length_cons] at hlength ⊢
        omega
      · have hfirst := w.gains_answer m (.count (resultMetric result))
        rw [mark?_result] at hfirst
        exact hfirst.trans hgains
  | @call before after c next w _ _ _ m _ _ _ ih =>
      obtain ⟨hc, hnext⟩ := hspares (.call c next) (by simp)
      obtain ⟨hexamined, results, hlength, hgains⟩ := ih fun x hx => by
        simp only [List.mem_append, List.mem_cons] at hx
        rcases hx with hx | rfl | hx
        · exact hspares x (by simp [hx])
        · exact hnext _
        · exact hspares x (by simp [hx])
      refine ⟨hexamined, results, by simpa using hlength, ?_⟩
      have hfirst := w.gains_answer m c
      rw [hc] at hfirst
      exact hfirst.trans hgains

/-- The mark with which a sweep begins. -/
def sweepMark : Mark := .counted sweepsMetric

/-- A sweep marks that it has begun before anything can go wrong. -/
theorem listing_gains {found : Timestamp × Except ServiceError (List Order)}
    (h : r.listing.Yields w found w') : w.Gains w' [sweepMark] := by
  have hmarks : r.listing.Marks fun _ ms => ms = [sweepMark] := fun _ _ _ => rfl
  obtain ⟨_, rfl, hgains⟩ := hmarks.sound h
  exact hgains

/-- A sweep that returns a report leaves a mark for every order that it has examined. -/
theorem Swept.gains {now : Timestamp} {candidates : List Order}
    (h : Swept r now candidates w report w') : ∃ results : List (Except ServiceError Resolution),
      results.length = report.examined ∧ w.Gains w' (sweepMark :: results.map resultMark) := by
  obtain ⟨opened, hlisting, hclears⟩ := h
  obtain ⟨hexamined, results, hlength, hgains⟩ := hclears.gains fun x hx => by
    obtain ⟨o, _, rfl⟩ := List.mem_map.mp hx
    exact spares_reconcile r o
  refine ⟨results, ?_, (listing_gains hlisting).trans hgains⟩
  rw [hlength, List.length_map, hexamined]

/-- A sweep that cannot list its orders leaves no other mark. -/
theorem sweep_gains_of_error {e : ReconciliationError} (h : r.sweep.Yields w (.error e) w') :
    w.Gains w' [sweepMark] := by
  obtain ⟨_, _, hlisting⟩ := listing_of_aborted h
  exact listing_gains hlisting

end Reconciler

end Wallet
