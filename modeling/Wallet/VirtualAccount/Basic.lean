import Wallet.Service.Error

/-!
# Virtual accounts

Accounts that a partner bank keeps for users of the wallet.
-/

namespace Wallet

open Json

/-- A partner bank that keeps virtual accounts. -/
inductive VaProvider where
  | bidv
  | vpbank
deriving DecidableEq, Repr

namespace VaProvider

def all : List VaProvider := [.bidv, .vpbank]

def name : VaProvider → String
  | .bidv => "BIDV"
  | .vpbank => "VPBANK"

def code (p : VaProvider) : ProviderCode := .of p.name

/-- What the account numbers of the bank start with. -/
def accountStart : VaProvider → String
  | .bidv => "963"
  | .vpbank => "VP"

/-- The bank that a provider code names. -/
def ofCode (code : ProviderCode) : Except ServiceError VaProvider :=
  match all.find? fun p => p.name == code.text with
  | some p => .ok p
  | none => .error (.notFound "VirtualAccountProvider" code.text)

instance : JsonForm VaProvider := ⟨fun p => .str p.name, Json.ofName? all name⟩

end VaProvider

/-- Whether an account can be used. -/
inductive VaStatus where
  | active
  | closed
deriving DecidableEq, Repr

namespace VaStatus

def name : VaStatus → String
  | .active => "ACTIVE"
  | .closed => "CLOSED"

instance : JsonForm VaStatus := ⟨fun s => .str s.name, Json.ofName? [.active, .closed] name⟩

end VaStatus

/-- A virtual account. -/
structure VirtualAccount where
  accountNumber : String
  userId : UserId
  holderName : String
  provider : VaProvider
  status : VaStatus
deriving DecidableEq

instance : JsonForm VirtualAccount where
  toJson a := .obj [("account_number", toJson a.accountNumber), ("user_id", toJson a.userId),
    ("holder_name", toJson a.holderName), ("provider", toJson a.provider),
    ("status", toJson a.status)]
  ofJson? j := do
    let fields ← record? ["account_number", "user_id", "holder_name", "provider", "status"] 0 j
    some {
      accountNumber := ← need fields "account_number"
      userId := ← need fields "user_id"
      holderName := ← need fields "holder_name"
      provider := ← need fields "provider"
      status := ← need fields "status" }

/-- A request for a new account. -/
structure VaRequest where
  userId : UserId
  holderName : String
deriving DecidableEq

instance : JsonForm VaRequest where
  toJson r := .obj [("user_id", toJson r.userId), ("holder_name", toJson r.holderName)]
  ofJson? j := do
    let fields ← record? ["user_id", "holder_name"] 0 j
    some ⟨← need fields "user_id", ← need fields "holder_name"⟩

end Wallet
