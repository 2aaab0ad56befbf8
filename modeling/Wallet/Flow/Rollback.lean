import Wallet.Flow.Forward

/-!
# Undoing the steps of the flows

An undoing action reads the stored order and ledger record again before it writes, so it never
changes what somebody else has resolved. A parked order is left alone. Once the bank has moved the
money the order is completed instead of undone.
-/

namespace Wallet.Flow

open StepM

/-- Parks an order whose ledger record was not confirmed; that it is parked is no error here. -/
def parkQuietly (reason : String) : StepM Unit :=
  tryCatch (park reason) fun
    | .pending _ => pure ()
    | e => throw e

/-- Replaces the stored order and tells the user. If somebody else has resolved the order meanwhile
there is nothing left to do. -/
def writeResolved (o : Order) (kind : NotificationKind) (message : String) : StepM Unit := do
  match ← perform (.orders (.replace o)) with
  | .ok o => do
      notify o kind message
      keep o
  | .error (.conflict _) => pure ()
  | .error e => throw (.service e)

/-- Ends an order whose money the bank has moved. -/
def settleOrder (id : OrderId) : StepM Unit := do
  let current ← stored id
  if current.isTerminal then pure ()
  else
    let settled ← accept (current.settle true none (← perform .now))
    writeResolved settled .orderSucceeded "order completed"

/-- Confirms the ledger record of an order whose money the bank has moved, and ends the order. -/
def completeOrder : StepM Unit := do
  let order ← order
  let id ← transactionId
  let record ← ask (.ledger (.find id))
  if record.status = .finish then settleOrder order.id
  else match ← perform (.ledger (.confirm id)) with
    | .ok _ => settleOrder order.id
    | .error e => parkQuietly (unconfirmed e)

/-- Fails the order, unless it is resolved. -/
def failOrder : StepM Unit := do
  let state ← get
  if state.parked || state.retryAllowed then pure ()
  else if state.bankSucceeded then completeOrder
  else match state.order with
    | none => pure ()
    | some order => do
        match ← ask (.orders (.find order.id)) with
        | none => pure ()
        | some current => do
            match current.failUnlessResolved? state.rollbackReason (← perform .now) with
            | none => pure ()
            | some failed => writeResolved failed .orderFailed state.rollbackReason

/-- Takes back the usage of the voucher. It goes by the trace id, so a usage that the promotion
service has recorded before it failed is taken back too. -/
def reverseVoucher : StepM Unit := do
  let state ← get
  let hasVoucher := (state.request.bind PaymentRequest.voucherCode).isSome
  if state.parked || state.bankSucceeded || !hasVoucher then pure ()
  else match state.order with
    | none => pure ()
    | some order => ask (.promotion (.reverse (voucherTrace order)))

/-- Cancels a ledger record that is still initial. -/
def cancelIfInitial (id : TransactionId) : StepM Unit := do
  let current ← ask (.ledger (.find id))
  if current.isCancellable then
    let _ ← ask (.ledger (.cancel id (← get).rollbackReason))

/-- Cancels the ledger record of the order, unless the bank has moved the money. -/
def cancelLedger : StepM Unit := do
  let state ← get
  if state.parked || state.retryAllowed || state.bankSucceeded then pure ()
  else match state.transactionId? with
    | none => pure ()
    | some id => cancelIfInitial id

/-- Undoes the entering of a one-time password that cannot be entered again. -/
def abortOtp : StepM Unit := do
  let state ← get
  if state.parked || state.retryAllowed then pure ()
  else if state.bankSucceeded then completeOrder
  else
    match state.transactionId? with
    | none => pure ()
    | some id => cancelIfInitial id
    failOrder

end Wallet.Flow
