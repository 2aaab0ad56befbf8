import Wallet.Order.Basic

/-!
# The JSON form of orders

A stored order without `awaiting_otp` is one that does not wait for a one-time password.
-/

namespace Wallet.Order

open Json

def fieldNames : List String :=
  ["id", "user_id", "amount", "order_type", "sub_type", "source_of_fund", "provider", "status",
    "transaction_id", "bank_trace_id", "created_at", "updated_at", "expired_at", "fail_reason",
    "is_expired", "is_retrieved", "awaiting_otp"]

instance : JsonForm Order where
  toJson o := .obj [
    ("id", toJson o.id), ("user_id", toJson o.userId), ("amount", toJson o.amount),
    ("order_type", toJson o.type), ("sub_type", toJson o.subType),
    ("source_of_fund", toJson o.sourceOfFund), ("provider", toJson o.provider),
    ("status", toJson o.status), ("transaction_id", toJson o.transactionId),
    ("bank_trace_id", toJson o.bankTraceId), ("created_at", toJson o.createdAt),
    ("updated_at", toJson o.updatedAt), ("expired_at", toJson o.expiredAt),
    ("fail_reason", toJson o.failReason), ("is_expired", toJson o.isExpired),
    ("is_retrieved", toJson o.isRetrieved), ("awaiting_otp", toJson o.awaitingOtp)]
  ofJson? j := do
    let fields ← record? fieldNames 1 j
    let awaitingOtp ← match fields.lookup "awaiting_otp" with
      | none => some false
      | some b => ofJson? b
    some {
      id := ← need fields "id"
      userId := ← need fields "user_id"
      amount := ← need fields "amount"
      type := ← need fields "order_type"
      subType := ← optional fields "sub_type"
      sourceOfFund := ← need fields "source_of_fund"
      provider := ← optional fields "provider"
      status := ← need fields "status"
      transactionId := ← optional fields "transaction_id"
      bankTraceId := ← optional fields "bank_trace_id"
      createdAt := ← need fields "created_at"
      updatedAt := ← need fields "updated_at"
      expiredAt := ← need fields "expired_at"
      failReason := ← optional fields "fail_reason"
      isExpired := ← need fields "is_expired"
      isRetrieved := ← need fields "is_retrieved"
      awaitingOtp := awaitingOtp }

end Wallet.Order
