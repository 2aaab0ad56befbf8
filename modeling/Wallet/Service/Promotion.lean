import Wallet.Service.Error
import Wallet.Table

/-!
# Promotions

Vouchers by code and their usages by trace id. A usage takes the value of the voucher off, at most
the amount of the order; reversing a usage that is not there changes nothing.
-/

namespace Wallet

open Json

/-- What a voucher took off an amount. -/
structure Discount where
  voucherCode : String
  amount : Money
  traceId : String
deriving DecidableEq

instance : JsonForm Discount where
  toJson d := .obj [("voucher_code", toJson d.voucherCode), ("amount", toJson d.amount),
    ("trace_id", toJson d.traceId)]
  ofJson? j := do
    let fields ← record? ["voucher_code", "amount", "trace_id"] 0 j
    some ⟨← need fields "voucher_code", ← need fields "amount", ← need fields "trace_id"⟩

/-- Vouchers, their usages, and the number of usages reversed. -/
structure Promotion where
  vouchers : Table String Money
  usages : Table String Discount
  reversed : Nat

namespace Promotion

def empty : Promotion := ⟨.empty, .empty, 0⟩

instance : Inhabited Promotion := ⟨empty⟩

def addVoucher (p : Promotion) (code : String) (value : Money) : Promotion :=
  { p with vouchers := p.vouchers.put code value }

/-- Uses a voucher for an amount. -/
def useVoucher (p : Promotion) (code traceId : String) (amount : Money) :
    Except ServiceError (Discount × Promotion) :=
  match p.vouchers.get? code with
  | none => .error (.rejected s!"voucher {code} is not valid")
  | some value =>
      let discount : Discount := ⟨code, value.least amount, traceId⟩
      .ok (discount, { p with usages := p.usages.put traceId discount })

/-- Takes back the usage under a trace id, if there is one. -/
def reverse (p : Promotion) (traceId : String) : Promotion :=
  match p.usages.get? traceId with
  | none => p
  | some _ => { p with usages := p.usages.erase traceId, reversed := p.reversed + 1 }

/-- A request to the promotion service. -/
inductive Request where
  | useVoucher (code : String) (user : UserId) (traceId : String) (amount : Money)
  | reverse (traceId : String)

/-- What a request yields when it does not fail. -/
abbrev Request.Result : Request → Type
  | .useVoucher _ _ _ _ => Discount
  | .reverse _ => Unit

/-- Serves a request. -/
def serve (p : Promotion) : (r : Request) → Except ServiceError r.Result × Promotion
  | .useVoucher code _ traceId amount => settled p (p.useVoucher code traceId amount)
  | .reverse traceId => (.ok (), p.reverse traceId)

end Promotion

end Wallet
