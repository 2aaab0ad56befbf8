import Wallet.Provider.Response
import Wallet.Table
import Wallet.VirtualAccount.Basic

/-!
# Gateways to virtual accounts

The gateway of one partner bank. It numbers the accounts it makes. A scripted code is the answer to
the next request, whatever that is, and nothing else happens then.
-/

namespace Wallet

open Json

/-- What a gateway answers: the bank's answer, and the account if it has one to show. -/
structure VaResponse where
  response : ProviderResponse
  account : Option VirtualAccount
deriving DecidableEq

/-- The gateway of one partner bank. -/
structure VaGateway where
  provider : VaProvider
  accounts : Table String VirtualAccount
  /-- How many accounts have been made. -/
  made : Nat
  nextCode : Option String

namespace VaGateway

def create (p : VaProvider) : VaGateway := ⟨p, .empty, 0, none⟩

def script (g : VaGateway) (code : String) : VaGateway := { g with nextCode := some code }

def account? (g : VaGateway) (number : String) : Option VirtualAccount := g.accounts.get? number

/-- The number of the `n`th account. -/
def accountNumber (p : VaProvider) (n : Nat) : String := p.accountStart ++ Text.padded 7 n

def plain (code : String) : ProviderResponse := .ofCode (.of code)

def refusal (code message : String) : ProviderResponse := ⟨.of code, none, some message⟩

/-- A request to a gateway. -/
inductive Request where
  | create (r : VaRequest)
  | update (number holder : String)
  | close (number : String)
  | reopen (number : String)
  | detail (number : String)

/-- The request of a name, with what it needs from the fields of a record. -/
def Request.ofFields? (fields : List (String × Json)) : String → Option Request
  | "create" => do some (.create ⟨← need fields "user_id", ← need fields "holder"⟩)
  | "update" => do some (.update (← need fields "account") (← need fields "holder"))
  | "close" => (need fields "account").map .close
  | "reopen" => (need fields "account").map .reopen
  | "detail" => (need fields "account").map .detail
  | _ => none

/-- Makes an account. -/
def makeAccount (g : VaGateway) (r : VaRequest) : VaResponse × VaGateway :=
  let number := accountNumber g.provider (g.made + 1)
  let account : VirtualAccount := ⟨number, r.userId, r.holderName, g.provider, .active⟩
  (⟨plain "201", some account⟩,
    { g with accounts := g.accounts.put number account, made := g.made + 1 })

/-- Changes an account, or says why it does not. -/
def change (g : VaGateway) (number : String)
    (f : VirtualAccount → Except ProviderResponse VirtualAccount) : VaResponse × VaGateway :=
  match g.account? number with
  | none => (⟨refusal "404" "account not found", none⟩, g)
  | some account =>
      match f account with
      | .ok changed =>
          (⟨plain "200", some changed⟩, { g with accounts := g.accounts.put number changed })
      | .error response => (⟨response, some account⟩, g)

def reopened (a : VirtualAccount) : Except ProviderResponse VirtualAccount :=
  match a.status with
  | .closed => .ok { a with status := .active }
  | .active => .error (refusal "409" "account is already active")

/-- Serves a request for which no code is scripted. -/
def handle (g : VaGateway) : Request → VaResponse × VaGateway
  | .create r => g.makeAccount r
  | .update number holder => g.change number fun a => .ok { a with holderName := holder }
  | .close number => g.change number fun a => .ok { a with status := .closed }
  | .reopen number => g.change number reopened
  | .detail number => g.change number .ok

/-- Serves a request. -/
def serve (g : VaGateway) (r : Request) : VaResponse × VaGateway :=
  match g.nextCode with
  | some code => (⟨plain code, none⟩, { g with nextCode := none })
  | none => g.handle r

end VaGateway

end Wallet
