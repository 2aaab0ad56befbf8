import Wallet.Transaction.Basic

/-!
# The JSON form of ledger records
-/

namespace Wallet.Transaction

open Json

def fieldNames : List String :=
  ["id", "order_id", "state", "status", "amount", "fee", "discount", "payer_id", "payee_id",
    "bank_trace_id", "fail_reason", "created_at", "updated_at"]

instance : JsonForm Transaction where
  toJson t := .obj [
    ("id", toJson t.id), ("order_id", toJson t.orderId), ("state", toJson t.state),
    ("status", toJson t.status), ("amount", toJson t.amount), ("fee", toJson t.fee),
    ("discount", toJson t.discount), ("payer_id", toJson t.payerId),
    ("payee_id", toJson t.payeeId), ("bank_trace_id", toJson t.bankTraceId),
    ("fail_reason", toJson t.failReason), ("created_at", toJson t.createdAt),
    ("updated_at", toJson t.updatedAt)]
  ofJson? j := do
    let fields ← record? fieldNames 0 j
    some {
      id := ← need fields "id"
      orderId := ← need fields "order_id"
      state := ← need fields "state"
      status := ← need fields "status"
      amount := ← need fields "amount"
      fee := ← need fields "fee"
      discount := ← need fields "discount"
      payerId := ← optional fields "payer_id"
      payeeId := ← optional fields "payee_id"
      bankTraceId := ← optional fields "bank_trace_id"
      failReason := ← optional fields "fail_reason"
      createdAt := ← need fields "created_at"
      updatedAt := ← need fields "updated_at" }

end Wallet.Transaction
