import Wallet.Order.Type
import Wallet.Service.Bank

/-!
# Requests that start flows

What a user asks for, and the kinds of flows that move money.
-/

namespace Wallet

open Json

/-- What the caller of a flow has to do next. -/
inductive NextAction where
  | none
  /-- Enter the one-time password that the bank has sent. -/
  | enterOtp
deriving DecidableEq, Repr

namespace NextAction

def name : NextAction → String
  | .none => "none"
  | .enterOtp => "enter_otp"

instance : JsonForm NextAction :=
  ⟨fun a => .str a.name, Json.ofName? [NextAction.none, .enterOtp] name⟩

end NextAction

/-- A user's request to move money. -/
structure PaymentRequest where
  userId : UserId
  amount : Money
  provider : ProviderCode
  voucherCode : Option String
  sourceOfFund : SourceOfFund
  /-- The account that a transfer goes to. -/
  destination : Option String
deriving DecidableEq

instance : JsonForm PaymentRequest where
  toJson r := .obj [("user_id", toJson r.userId), ("amount", toJson r.amount),
    ("provider", toJson r.provider), ("voucher_code", toJson r.voucherCode),
    ("source_of_fund", toJson r.sourceOfFund), ("destination", toJson r.destination)]
  ofJson? j := do
    let fields ← record?
      ["user_id", "amount", "provider", "voucher_code", "source_of_fund", "destination"] 0 j
    some {
      userId := ← need fields "user_id"
      amount := ← need fields "amount"
      provider := ← need fields "provider"
      voucherCode := ← optional fields "voucher_code"
      sourceOfFund := ← need fields "source_of_fund"
      destination := ← optional fields "destination" }

/-- The flows that start with a request. -/
inductive FlowKind where
  | cashIn
  | cashOut
  | interBankTransfer
  | refund
deriving DecidableEq, Repr

namespace FlowKind

/-- The name of the saga. -/
def name : FlowKind → String
  | .cashIn => "cash_in"
  | .cashOut => "cash_out"
  | .interBankTransfer => "inter_bank_transfer"
  | .refund => "refund"

def orderType : FlowKind → OrderType
  | .cashIn => .cashIn
  | .cashOut => .cashOut
  | .interBankTransfer => .interBankTransfer
  | .refund => .refund

/-- The call that moves the money. -/
def bankCall : FlowKind → BankRequest → Bank.Request
  | .cashIn => .cashIn
  | .cashOut => .cashOut
  | .interBankTransfer => .transfer
  | .refund => .refund

/-- Only a cash-in can go on with a one-time password. -/
def otpAllowed : FlowKind → Bool
  | .cashIn => true
  | _ => false

/-- Whether the user receives the money. -/
def creditsUser : FlowKind → Bool
  | .cashIn | .refund => true
  | _ => false

end FlowKind

end Wallet
