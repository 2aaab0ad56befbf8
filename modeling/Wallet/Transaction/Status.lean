import Wallet.Json.Basic

/-!
# States and statuses of ledger records

A record is initial until the ledger resolves it. Its status goes from processing, perhaps through
pending, to finish or failed.
-/

namespace Wallet

/-- Whether a record may still be cancelled. -/
inductive TransactionState where
  | initial
  | resolved
deriving DecidableEq, Inhabited, Repr

namespace TransactionState

def name : TransactionState → String
  | .initial => "INITIAL"
  | .resolved => "RESOLVED"

instance : ToString TransactionState := ⟨name⟩

instance : JsonForm TransactionState :=
  ⟨fun s => .str s.name, Json.ofName? [.initial, .resolved] name⟩

end TransactionState

/-- The status of a ledger record. -/
inductive TransactionStatus where
  | processing
  | pending
  | finish
  | failed
deriving DecidableEq, Inhabited, Repr

namespace TransactionStatus

def name : TransactionStatus → String
  | .processing => "PROCESSING"
  | .pending => "PENDING"
  | .finish => "FINISH"
  | .failed => "FAILED"

def canTransitionTo : TransactionStatus → TransactionStatus → Bool
  | .processing, .pending | .processing, .finish | .processing, .failed => true
  | .pending, .finish | .pending, .failed => true
  | _, _ => false

def isFinal : TransactionStatus → Bool
  | .finish | .failed => true
  | _ => false

instance : ToString TransactionStatus := ⟨name⟩

instance : JsonForm TransactionStatus :=
  ⟨fun s => .str s.name, Json.ofName? [.processing, .pending, .finish, .failed] name⟩

end TransactionStatus

end Wallet
