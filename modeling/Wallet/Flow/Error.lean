import Wallet.Provider.Code
import Wallet.Service.Error

/-!
# Errors of flows

Why a step of a flow failed. The message of each is meant for the user.
-/

namespace Wallet

/-- The error of a step of a flow. -/
inductive FlowError where
  | service (e : ServiceError)
  | order (e : OrderError)
  | transaction (e : TransactionError)
  | invalidRequest (reason : String)
  /-- The bank refused for certain. -/
  | bankRejected (code : StatusCode) (reason : String)
  /-- The outcome is unknown; the order is parked until it is reconciled. -/
  | pending (id : OrderId)
  | otpRejected (reason : String)
  | voucherRejected (reason : String)
deriving DecidableEq

namespace FlowError

def message : FlowError → String
  | .service e => e.message
  | .order e => e.message
  | .transaction e => e.message
  | .invalidRequest reason => reason
  | .bankRejected _ reason => reason
  | .pending id => s!"Order {id} is being verified with the bank"
  | .otpRejected reason => reason
  | .voucherRejected reason => reason

instance : ToString FlowError := ⟨message⟩

def isPending : FlowError → Bool
  | .pending _ => true
  | _ => false

/-- A voucher that is refused is not taken for any other refusal. -/
def ofVoucherError : ServiceError → FlowError
  | .rejected reason => .voucherRejected reason
  | e => .service e

end FlowError

end Wallet
