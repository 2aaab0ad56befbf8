import Wallet.Order.Basic

/-!
# Changes of orders as data

Every change that an order makes of itself, as a value. Applying one gives the changed order or the
error with which the order refuses it.
-/

namespace Wallet

open Json

/-- A change of an order. -/
inductive OrderChange where
  | startProcessing
  | succeed
  | fail (reason : String)
  | cancel (reason : String)
  | markVerifying (reason : String)
  | settle (success : Bool) (reason : Option String)
  | expire (reason : String)
  | markAwaitingOtp
  | markRetrieved
  | linkTransaction (id : TransactionId)
  | setBankTraceId (traceId : String)
deriving DecidableEq

/-- Makes a change. -/
def Order.apply (o : Order) (now : Timestamp) : OrderChange → Except OrderError Order
  | .startProcessing => o.startProcessing now
  | .succeed => o.succeed now
  | .fail reason => o.fail reason now
  | .cancel reason => o.cancel reason now
  | .markVerifying reason => o.markVerifying reason now
  | .settle success reason => o.settle success reason now
  | .expire reason => o.expire reason now
  | .markAwaitingOtp => o.markAwaitingOtp now
  | .markRetrieved => .ok (o.markRetrieved now)
  | .linkTransaction id => o.linkTransaction id now
  | .setBankTraceId traceId => .ok (o.setBankTraceId traceId now)

/-- The change of a name, with what it needs from the fields of a record. -/
def OrderChange.ofFields? (fields : List (String × Json)) : String → Option OrderChange
  | "start_processing" => some .startProcessing
  | "succeed" => some .succeed
  | "fail" => (need fields "reason").map .fail
  | "cancel" => (need fields "reason").map .cancel
  | "mark_verifying" => (need fields "reason").map .markVerifying
  | "settle" => do some (.settle (← need fields "success") (← optional fields "reason"))
  | "expire" => (need fields "reason").map .expire
  | "mark_awaiting_otp" => some .markAwaitingOtp
  | "mark_retrieved" => some .markRetrieved
  | "link_transaction" => (need fields "id").map .linkTransaction
  | "set_bank_trace_id" => (need fields "trace_id").map .setBankTraceId
  | _ => none

end Wallet
