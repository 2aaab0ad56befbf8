import Wallet.Program
import Wallet.Provider.Classifier
import Wallet.Reconciliation.Config
import Wallet.Reconciliation.Report

/-!
# Sweeps

A sweep resolves unresolved orders past their deadline, one after the other. An order about which
the bank has to be asked, and an order whose ledger record is on hold, is settled as the bank says;
any other order expires. An order is written last and only if its stored status gives way, so
whoever resolves it first wins, and an order about which a call fails stays as it is.
-/

namespace Wallet

/-- What reconciling uses besides the collaborators. -/
structure Reconciler where
  classifiers : ClassifierRegistry
  config : ReconciliationConfig

/-- A part of reconciling one order; a call that fails ends it. -/
abbrev ReconcileM : Type → Type := ExceptT ServiceError Program

namespace Reconciler

/-- Makes a request; its refusal ends the work on the order. -/
def ask {α : Type} (p : Program (Except ServiceError α)) : ReconcileM α := ExceptT.mk p

/-- A change of an order; when the order refuses it the work on the order ends. -/
def accept (change : Except OrderError Order) : ReconcileM Order :=
  ExceptT.mk (pure (change.mapError .ofOrderError))

/-- Reads the civil clock. -/
def now : ReconcileM Timestamp := ExceptT.lift .now

/-- Writes a resolved order. An order that somebody else has resolved meanwhile is skipped. -/
def write (o : Order) (resolution : Resolution) : ReconcileM Resolution :=
  ExceptT.mk do
    match ← Program.orders (.replace o) with
    | .ok _ => pure (.ok resolution)
    | .error (.conflict _) => pure (.ok .skipped)
    | .error e => pure (.error e)

/-- The ledger record an order is linked to. -/
def linked (o : Order) : ReconcileM (Option Transaction) :=
  match o.transactionId with
  | none => pure none
  | some id => do some <$> ask (.ledger (.find id))

/-- Settles the order once its ledger record is settled. -/
def settle (o : Order) (success : Bool) (reason : Option String) : ReconcileM Resolution := do
  let settled ← accept (o.settle success reason (← now))
  write (settled.markRetrieved (← now)) (if success then .succeeded else .failed)

/-- Settles an order that the bank says has succeeded. Without a ledger record that can be finished
there is nothing to be done. -/
def resolveSuccess (o : Order) : ReconcileM Resolution := do
  match ← linked o with
  | none => pure .skipped
  | some t =>
      match t.status with
      | .finish => settle o true none
      | .failed => pure .skipped
      | .processing | .pending => do
          let _ ← ask (.ledger (.confirm t.id))
          settle o true none

/-- Settles an order that the bank says has failed. -/
def resolveFailure (o : Order) (reason : String) : ReconcileM Resolution := do
  match ← linked o with
  | none => settle o false (some reason)
  | some t =>
      match t.status with
      | .failed => settle o false (some reason)
      | .finish => pure .skipped
      | .processing | .pending => do
          let _ ← ask (.ledger
            (if t.isCancellable then .cancel t.id reason else .fail t.id reason))
          settle o false (some reason)

/-- Asks the bank and settles the order as it says, if it knows. -/
def retrieve (r : Reconciler) (o : Order) : ReconcileM Resolution := do
  let response ← ask (.bank (.retrieveStatus o.id o.bankTraceId))
  match (r.classifiers.classify o.provider response.code).kind with
  | .success => resolveSuccess o
  | .failure | .needsAuth => resolveFailure o response.reason
  | .pending => pure .skipped

/-- Writes an order as expired. -/
def writeExpired (r : Reconciler) (o : Order) : ReconcileM Resolution := do
  write (← accept (o.expire r.config.expiredReason (← now))) .expired

/-- Expires an order and withdraws its ledger record. If the record is finished only the write of
the order was lost; if it is on hold the bank has to be asked. -/
def expire (r : Reconciler) (o : Order) : ReconcileM Resolution := do
  match ← linked o with
  | none => r.writeExpired o
  | some t =>
      match t.status with
      | .finish => do write (← accept (o.settle true none (← now))) .succeeded
      | .pending => r.retrieve o
      | .processing | .failed => do
          if t.isCancellable then
            let _ ← ask (.ledger (.cancel t.id r.config.expiredReason))
            r.writeExpired o
          else r.writeExpired o

/-- Reconciles one order. -/
def reconcile (r : Reconciler) (o : Order) : ReconcileM Resolution :=
  if !o.isUnresolved then pure .skipped
  else if r.config.requiresRetrieval o && !o.isRetrieved then r.retrieve o
  else r.expire o

/-! ## Whole sweeps -/

def sweepsMetric : Metric := ⟨"reconciliation_sweeps_total", []⟩

/-- The metric that counts what came of one order. -/
def resultMetric : Except ServiceError Resolution → Metric
  | .ok resolution => ⟨"reconciliation_orders_resolved", [("outcome", resolution.name)]⟩
  | .error _ => ⟨"reconciliation_errors", []⟩

/-- Reconciles orders one after the other. -/
def reconcileAll (r : Reconciler) : List Order → SweepReport → Program SweepReport
  | [], report => pure report
  | o :: rest, report => do
      let result ← (r.reconcile o).run
      Program.count (resultMetric result)
      r.reconcileAll rest (report.note result)

/-- Lists overdue orders and reconciles them. -/
def sweep (r : Reconciler) : Program (Except ReconciliationError SweepReport) := do
  Program.count sweepsMetric
  let now ← Program.now
  match ← Program.orders (.findExpired now r.config.batchLimit) with
  | .error e => pure (.error (.store e))
  | .ok candidates => do
      let report := { SweepReport.empty with examined := candidates.length }
      pure (.ok (← r.reconcileAll candidates report))

end Reconciler

end Wallet
