import Wallet.Order.Basic
import Wallet.Transaction.Basic

/-!
# Errors of collaborators

Why a collaborator did not do what it was asked. An order or a ledger record that refuses a change
is a conflict, except that an expired order is an error of its own.
-/

namespace Wallet

/-- An error that a collaborator answers with. -/
inductive ServiceError where
  /-- There is no such record. -/
  | notFound (entity id : String)
  /-- The collaborator refused. -/
  | rejected (reason : String)
  /-- A conditional write did not match what was stored. -/
  | conflict (reason : String)
  /-- The deadline of the order has passed. -/
  | expired (id : OrderId)
  /-- The collaborator could not be reached. -/
  | unavailable (what : String)
deriving DecidableEq

namespace ServiceError

def message : ServiceError → String
  | .notFound entity id => s!"{entity} not found: {id}"
  | .rejected reason => reason
  | .conflict reason => s!"Conflict: {reason}"
  | .expired id => s!"Order {id} has expired"
  | .unavailable what => s!"Service unavailable: {what}"

def ofOrderError : OrderError → ServiceError
  | .expired id => .expired id
  | e => .conflict e.message

def ofTransactionError (e : TransactionError) : ServiceError := .conflict e.message

end ServiceError

/-- What an operation answers and what it leaves behind. An error leaves everything as it was. -/
def settled {σ α : Type} (s : σ) : Except ServiceError (α × σ) → Except ServiceError α × σ
  | .ok (a, next) => (.ok a, next)
  | .error e => (.error e, s)

end Wallet
