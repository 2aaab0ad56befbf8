import Wallet.Json.Basic

/-!
# What an order is for

The financial intent of an order and where its money comes from.
-/

namespace Wallet

/-- The intent of an order. -/
inductive OrderType where
  | cashIn
  | cashOut
  | cardPurchase
  | billPayment
  | interBankTransfer
  | virtualAccountCredit
  | refund
deriving DecidableEq, Repr

namespace OrderType

def all : List OrderType :=
  [.cashIn, .cashOut, .cardPurchase, .billPayment, .interBankTransfer, .virtualAccountCredit,
    .refund]

def name : OrderType → String
  | .cashIn => "CASH_IN"
  | .cashOut => "CASH_OUT"
  | .cardPurchase => "CARD_PURCHASE"
  | .billPayment => "BILL_PAYMENT"
  | .interBankTransfer => "INTER_BANK_TRANSFER"
  | .virtualAccountCredit => "VIRTUAL_ACCOUNT_CREDIT"
  | .refund => "REFUND"

instance : JsonForm OrderType := ⟨fun t => .str t.name, Json.ofName? all name⟩

end OrderType

/-- Where the money of an order comes from. -/
inductive SourceOfFund where
  | wallet
  | linkedBank
  | virtualAccount
deriving DecidableEq, Inhabited, Repr

namespace SourceOfFund

def name : SourceOfFund → String
  | .wallet => "WALLET"
  | .linkedBank => "LINKED_BANK"
  | .virtualAccount => "VIRTUAL_ACCOUNT"

instance : JsonForm SourceOfFund :=
  ⟨fun s => .str s.name, Json.ofName? [.wallet, .linkedBank, .virtualAccount] name⟩

end SourceOfFund

end Wallet
