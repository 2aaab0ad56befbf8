import Wallet.Id
import Wallet.Money
import Wallet.Time.Timestamp
import Wallet.Transaction.Status

/-!
# Ledger records

A record of the ledger moves the money of one order. It can be cancelled only while it is initial;
once resolved it can only be confirmed or failed.
-/

namespace Wallet

/-- Why a ledger record refuses a change. -/
inductive TransactionError where
  | notCancellable (state : TransactionState)
  | invalidTransition (source target : TransactionStatus)
deriving DecidableEq

def TransactionError.message : TransactionError → String
  | .notCancellable state => s!"Transaction cannot be cancelled in {state} state"
  | .invalidTransition source target =>
      s!"Invalid transaction transition: cannot move from {source} to {target}"

/-- A record of the ledger. -/
structure Transaction where
  id : TransactionId
  orderId : OrderId
  state : TransactionState
  status : TransactionStatus
  amount : Money
  fee : Money
  discount : Money
  payerId : Option UserId
  payeeId : Option UserId
  bankTraceId : Option String
  failReason : Option String
  createdAt : Timestamp
  updatedAt : Timestamp
deriving DecidableEq

namespace Transaction

/-- A new record without fee, discount, payer and payee. -/
def create (id : TransactionId) (now : Timestamp) (orderId : OrderId) (amount : Money) :
    Transaction where
  id := id
  orderId := orderId
  state := .initial
  status := .processing
  amount := amount
  fee := .zero
  discount := .zero
  payerId := none
  payeeId := none
  bankTraceId := none
  failReason := none
  createdAt := now
  updatedAt := now

/-- What remains of amount and fee after the discount, at least nothing. -/
def netAmount (t : Transaction) : Except Crash Money :=
  (t.amount.add t.fee).map fun gross => gross.subFloor t.discount

def isCancellable (t : Transaction) : Bool := t.state == .initial

/-- A step of the status table. It resolves the record. -/
def moveTo (t : Transaction) (next : TransactionStatus) (now : Timestamp) :
    Except TransactionError Transaction :=
  if t.status.canTransitionTo next then
    .ok { t with status := next, state := .resolved, updatedAt := now }
  else .error (.invalidTransition t.status next)

def confirm (t : Transaction) (now : Timestamp) : Except TransactionError Transaction :=
  t.moveTo .finish now

def setPending (t : Transaction) (now : Timestamp) : Except TransactionError Transaction :=
  t.moveTo .pending now

def fail (t : Transaction) (reason : String) (now : Timestamp) :
    Except TransactionError Transaction :=
  (t.moveTo .failed now).map fun t => { t with failReason := some reason }

/-- Fails a record that is still initial. -/
def cancel (t : Transaction) (reason : String) (now : Timestamp) :
    Except TransactionError Transaction :=
  if t.isCancellable then t.fail reason now else .error (.notCancellable t.state)

def setBankTraceId (t : Transaction) (traceId : String) (now : Timestamp) : Transaction :=
  { t with bankTraceId := some traceId, updatedAt := now }

end Transaction

end Wallet
