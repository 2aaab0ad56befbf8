import Wallet.Transaction.Basic

/-!
# Changes of ledger records as data

Every change that a ledger record makes of itself, as a value.
-/

namespace Wallet

open Json

/-- A change of a ledger record. -/
inductive TransactionChange where
  | confirm
  | setPending
  | fail (reason : String)
  | cancel (reason : String)
  | setBankTraceId (traceId : String)
deriving DecidableEq

/-- Makes a change. -/
def Transaction.apply (t : Transaction) (now : Timestamp) :
    TransactionChange → Except TransactionError Transaction
  | .confirm => t.confirm now
  | .setPending => t.setPending now
  | .fail reason => t.fail reason now
  | .cancel reason => t.cancel reason now
  | .setBankTraceId traceId => .ok (t.setBankTraceId traceId now)

/-- The change of a name, with what it needs from the fields of a record. -/
def TransactionChange.ofFields? (fields : List (String × Json)) : String → Option TransactionChange
  | "confirm" => some .confirm
  | "set_pending" => some .setPending
  | "fail" => (need fields "reason").map .fail
  | "cancel" => (need fields "reason").map .cancel
  | "set_bank_trace_id" => (need fields "trace_id").map .setBankTraceId
  | _ => none

end Wallet
