import Wallet.Flow.State

/-!
# Parking an order

When nobody knows whether the bank has moved the money, the ledger record is put on hold and the
order marked as verifying; both are resolved when the order is reconciled. Parking always ends with
the error that says so, or with the error that kept the order from being parked.
-/

namespace Wallet.Flow

open StepM

/-- The stored version of an order that has to be there. -/
def stored (id : OrderId) : StepM Order := do
  match ← ask (.orders (.find id)) with
  | some o => pure o
  | none => throw (.service (OrderStore.missing id))

/-- Puts the ledger record on hold, if there is one; that this failed is of no consequence. -/
def hold (id : Option TransactionId) : StepM Unit :=
  match id with
  | some id => do
      let _ ← perform (.ledger (.setPending id))
  | none => pure ()

/-- Parks the order. -/
def park (reason : String) : StepM Unit := do
  modify fun s => { s with parked := true }
  let order ← order
  hold order.transactionId
  let current ← stored order.id
  if !current.isVerifying && !current.isTerminal then
    let verifying ← accept (current.markVerifying reason (← perform .now))
    let verifying ← ask (.orders (.replace verifying))
    notify verifying .orderVerifying reason
    keep verifying
  throw (.pending order.id)

/-- Why an order is parked that the ledger did not confirm. -/
def unconfirmed (e : ServiceError) : String := s!"ledger confirmation failed: {e.message}"

end Wallet.Flow
