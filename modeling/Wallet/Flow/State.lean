import Wallet.Flow.Config
import Wallet.Flow.Error
import Wallet.Flow.Request
import Wallet.Program
import Wallet.Provider.Classifier

/-!
# The state of a flow

What the steps of one flow share, and the monad they run in: calls to collaborators over that state.
A step that fails keeps what it has changed in the state.
-/

namespace Wallet

/-- What every flow of a process uses besides the collaborators. -/
structure FlowSettings where
  classifiers : ClassifierRegistry
  config : FlowConfig

/-- What the steps of one flow share. -/
structure FlowState where
  kind : FlowKind
  /-- Absent when an order is resumed. -/
  request : Option PaymentRequest
  /-- The order that is resumed. -/
  resume : Option OrderId
  order : Option Order
  discount : Option Discount
  /-- What the bank's answer was classified as. -/
  outcome : Option Outcome
  /-- The order waits to be reconciled; undoing the flow leaves it alone. -/
  parked : Bool
  awaitingOtp : Bool
  /-- A wrong one-time password was entered and another may be. -/
  retryAllowed : Bool
  /-- The first error of any action. -/
  failureReason : Option String

namespace FlowState

def blank (kind : FlowKind) : FlowState :=
  ⟨kind, none, none, none, none, none, false, false, false, none⟩

def starting (kind : FlowKind) (request : PaymentRequest) : FlowState :=
  { blank kind with request := some request }

def resuming (kind : FlowKind) (id : OrderId) : FlowState := { blank kind with resume := some id }

/-- The bank has moved the money; undoing has to complete the order now. -/
def bankSucceeded (s : FlowState) : Bool := s.outcome == some .success

/-- The reason written on what is undone. -/
def rollbackReason (s : FlowState) : String := s.failureReason.getD "rolled back"

/-- The ledger record linked to the order. -/
def transactionId? (s : FlowState) : Option TransactionId := s.order.bind Order.transactionId

end FlowState

/-- Calls to collaborators over the state of a flow. -/
abbrev FlowM : Type → Type := StateT FlowState Program

/-- A part of a step: it ends with a value or an error, and keeps the state in both cases. -/
abbrev StepM : Type → Type := ExceptT FlowError FlowM

namespace StepM

/-- Makes calls whose answers cannot fail the step. -/
def perform {α : Type} (p : Program α) : StepM α := ExceptT.lift (StateT.lift p)

/-- Makes a request; its refusal fails the step. -/
def ask {α : Type} (p : Program (Except ServiceError α)) : StepM α :=
  ExceptT.mk do
    let answer ← StateT.lift p
    pure (answer.mapError .service)

/-- A change of an order; when the order refuses it the step fails. -/
def accept (change : Except OrderError Order) : StepM Order :=
  ExceptT.mk (pure (change.mapError .order))

/-- What the user asked for. -/
def request : StepM PaymentRequest := do
  match (← get).request with
  | some r => pure r
  | none => throw (.invalidRequest "no payment request")

/-- The order of the flow. -/
def order : StepM Order := do
  match (← get).order with
  | some o => pure o
  | none => throw (.invalidRequest "order was not created")

/-- The ledger record linked to the order of the flow. -/
def transactionId : StepM TransactionId := do
  match (← order).transactionId with
  | some id => pure id
  | none => throw (.invalidRequest "order has no ledger record")

/-- Goes on with an order as it was stored. -/
def keep (o : Order) : StepM Unit := modify fun s => { s with order := some o }

/-- Replaces the stored order and goes on with it. -/
def store (o : Order) : StepM Unit := do keep (← ask (.orders (.replace o)))

/-- Hands a notification about an order to the worker pool. -/
def notify (o : Order) (kind : NotificationKind) (message : String) : StepM Unit :=
  perform (.submit ⟨o.userId, o.id, kind, message⟩)

end StepM

end Wallet
