import Wallet.Provider.Response
import Wallet.Service.Error

/-!
# The bank gateway

Calls to a bank. Answers are scripted per operation and used up in order; without a script the bank
agrees with code 200. Every call that reaches the bank is counted, and its number is the trace id of
an answer that has none of its own. Numbers have 32 bits: a bank is good for 4294967295 calls, and this
is about banks that have not been called more often.
-/

namespace Wallet

open Json

/-- What a bank can be asked to do. -/
inductive BankOperation where
  | cashIn
  | cashOut
  | transfer
  | verifyOtp
  | retrieveStatus
  | refund
deriving DecidableEq, Inhabited, Repr

namespace BankOperation

def all : List BankOperation := [.cashIn, .cashOut, .transfer, .verifyOtp, .retrieveStatus, .refund]

def name : BankOperation → String
  | .cashIn => "cash_in"
  | .cashOut => "cash_out"
  | .transfer => "transfer"
  | .verifyOtp => "verify_otp"
  | .retrieveStatus => "retrieve_status"
  | .refund => "refund"

instance : JsonForm BankOperation := ⟨fun o => .str o.name, Json.ofName? all name⟩

end BankOperation

/-- A request that moves money. -/
structure BankRequest where
  orderId : OrderId
  userId : UserId
  amount : Money
  provider : ProviderCode
  destination : Option String
deriving DecidableEq

instance : JsonForm BankRequest where
  toJson r := .obj [("order_id", toJson r.orderId), ("user_id", toJson r.userId),
    ("amount", toJson r.amount), ("provider", toJson r.provider),
    ("destination", toJson r.destination)]
  ofJson? j := do
    let fields ← record? ["order_id", "user_id", "amount", "provider", "destination"] 0 j
    some {
      orderId := ← need fields "order_id"
      userId := ← need fields "user_id"
      amount := ← need fields "amount"
      provider := ← need fields "provider"
      destination := ← optional fields "destination" }

/-- The answers still scripted, oldest first, and the calls made so far. -/
structure Bank where
  scripts : List (BankOperation × Except ServiceError ProviderResponse)
  calls : List (BankOperation × OrderId)

namespace Bank

def empty : Bank := ⟨[], []⟩

instance : Inhabited Bank := ⟨empty⟩

def script (b : Bank) (operation : BankOperation) (answer : Except ServiceError ProviderResponse) :
    Bank :=
  { b with scripts := b.scripts ++ [(operation, answer)] }

/-- The number of calls of one operation. -/
def count (b : Bank) (operation : BankOperation) : Nat :=
  (b.calls.filter fun c => c.1 = operation).length

/-- The trace id of the `n`th call. -/
def traceId (n : Nat) : String := s!"BANK-{Text.padded 6 n}"

/-- Answers a call that reached the bank. -/
def answer (b : Bank) (operation : BankOperation) (id : OrderId) :
    Except ServiceError ProviderResponse × Bank :=
  let calls := b.calls ++ [(operation, id)]
  let trace := some (traceId calls.length)
  match b.scripts.find? fun s => s.1 = operation with
  | none => (.ok ⟨.of "200", trace, none⟩, { b with calls := calls })
  | some (_, scripted) =>
      (scripted.map fun r => { r with traceId := r.traceId <|> trace },
        ⟨b.scripts.eraseP fun s => s.1 = operation, calls⟩)

/-- A request to the bank. -/
inductive Request where
  | cashIn (r : BankRequest)
  | cashOut (r : BankRequest)
  | transfer (r : BankRequest)
  | refund (r : BankRequest)
  | verifyOtp (id : OrderId) (otp : String)
  | retrieveStatus (id : OrderId) (traceId : Option String)

/-- The request of an operation, for an operation that moves money with all it needs. -/
def Request.ofOperation (r : BankRequest) : BankOperation → Request
  | .cashIn => .cashIn r
  | .cashOut => .cashOut r
  | .transfer => .transfer r
  | .verifyOtp => .verifyOtp r.orderId ""
  | .retrieveStatus => .retrieveStatus r.orderId none
  | .refund => .refund r

/-- What is missing from a transfer to nowhere. -/
def noDestination : String := "transfer requires a destination account"

/-- Serves a request. A transfer without a destination does not reach the bank. -/
def serve (b : Bank) : Request → Except ServiceError ProviderResponse × Bank
  | .cashIn r => b.answer .cashIn r.orderId
  | .cashOut r => b.answer .cashOut r.orderId
  | .transfer r =>
      if r.destination.isNone then (.error (.rejected noDestination), b)
      else b.answer .transfer r.orderId
  | .refund r => b.answer .refund r.orderId
  | .verifyOtp id _ => b.answer .verifyOtp id
  | .retrieveStatus id _ => b.answer .retrieveStatus id

end Bank

end Wallet
