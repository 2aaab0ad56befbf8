import Wallet.Service.Error
import Wallet.Table
import Wallet.Transaction.Form

/-!
# The ledger

Records by identifier. A record is changed only by its own transitions, so a settled one stays as
it is. The ledger can be told to refuse new records, to fail every cancellation, or to be
unreachable.
-/

namespace Wallet

open Json

/-- The records of the ledger and the number of confirmations and cancellations so far. -/
structure Ledger where
  records : Table TransactionId Transaction
  rejectInit : Option String
  failOnCancel : Bool
  unavailable : Bool
  cancels : Nat
  confirms : Nat

namespace Ledger

def empty : Ledger := ⟨.empty, none, false, false, 0, 0⟩

instance : Inhabited Ledger := ⟨empty⟩

/-- What an unreachable ledger answers. -/
def down : ServiceError := .unavailable "ledger"

def missing (id : TransactionId) : ServiceError := .notFound "Transaction" (toString id)

def get? (l : Ledger) (id : TransactionId) : Option Transaction := l.records.get? id

/-- Puts a record into the ledger whatever is stored there. -/
def insert (l : Ledger) (t : Transaction) : Ledger := { l with records := l.records.put t.id t }

/-- Registers a record. -/
def init (l : Ledger) (t : Transaction) : Except ServiceError (Transaction × Ledger) :=
  if l.unavailable then .error down
  else match l.rejectInit with
    | some reason => .error (.rejected reason)
    | none => .ok (t, l.insert t)

/-- Changes a stored record by a transition of its own. -/
def change (l : Ledger) (id : TransactionId)
    (transition : Transaction → Except TransactionError Transaction) :
    Except ServiceError (Transaction × Ledger) :=
  match l.get? id with
  | none => .error (missing id)
  | some t =>
      match transition t with
      | .ok t => .ok (t, { l with records := l.records.put id t })
      | .error e => .error (.ofTransactionError e)

def confirm (l : Ledger) (id : TransactionId) (now : Timestamp) :
    Except ServiceError (Transaction × Ledger) :=
  if l.unavailable then .error down
  else (l.change id fun t => t.confirm now).map fun r =>
    (r.1, { r.2 with confirms := r.2.confirms + 1 })

def cancel (l : Ledger) (id : TransactionId) (reason : String) (now : Timestamp) :
    Except ServiceError (Transaction × Ledger) :=
  if l.unavailable then .error down
  else if l.failOnCancel then .error (.unavailable "ledger cancel")
  else (l.change id fun t => t.cancel reason now).map fun r =>
    (r.1, { r.2 with cancels := r.2.cancels + 1 })

/-- Puts a record on hold. -/
def setPending (l : Ledger) (id : TransactionId) (now : Timestamp) :
    Except ServiceError (Transaction × Ledger) :=
  if l.unavailable then .error down else l.change id fun t => t.setPending now

def fail (l : Ledger) (id : TransactionId) (reason : String) (now : Timestamp) :
    Except ServiceError (Transaction × Ledger) :=
  if l.unavailable then .error down else l.change id fun t => t.fail reason now

def find (l : Ledger) (id : TransactionId) : Except ServiceError Transaction :=
  if l.unavailable then .error down
  else match l.get? id with
    | some t => .ok t
    | none => .error (missing id)

/-! ## Requests -/

/-- A request to the ledger. -/
inductive Request where
  | init (t : Transaction)
  | confirm (id : TransactionId)
  | cancel (id : TransactionId) (reason : String)
  | setPending (id : TransactionId)
  | fail (id : TransactionId) (reason : String)
  | find (id : TransactionId)

/-- The request of a name, with what it needs from the fields of a record. -/
def Request.ofFields? (fields : List (String × Json)) : String → Option Request
  | "init" => (need fields "txn").map .init
  | "confirm" => (need fields "id").map .confirm
  | "cancel" => do some (.cancel (← need fields "id") (← need fields "reason"))
  | "set_pending" => (need fields "id").map .setPending
  | "fail" => do some (.fail (← need fields "id") (← need fields "reason"))
  | "find" => (need fields "id").map .find
  | _ => none

/-- Serves a request at an instant. -/
def serve (l : Ledger) (now : Timestamp) : Request → Except ServiceError Transaction × Ledger
  | .init t => settled l (l.init t)
  | .confirm id => settled l (l.confirm id now)
  | .cancel id reason => settled l (l.cancel id reason now)
  | .setPending id => settled l (l.setPending id now)
  | .fail id reason => settled l (l.fail id reason now)
  | .find id => (l.find id, l)

end Ledger

end Wallet
