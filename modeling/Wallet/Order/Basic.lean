import Wallet.Id
import Wallet.Money
import Wallet.Order.Status
import Wallet.Order.Type
import Wallet.Provider.Code
import Wallet.Time.Timestamp

/-!
# Orders

An order is a request to move money and the record of how far it got. Each change takes the time at
which it happens and either gives the changed order or an error; an error leaves the order as it is.
-/

namespace Wallet

/-- Why an order refuses a change. -/
inductive OrderError where
  | invalidTransition (source target : OrderStatus)
  | alreadyLinked (existing : TransactionId)
  | expired (id : OrderId)
deriving DecidableEq

def OrderError.message : OrderError → String
  | .invalidTransition source target =>
      s!"Invalid status transition: cannot move order from {source} to {target}"
  | .alreadyLinked existing => s!"Order is already linked to transaction {existing}"
  | .expired id => s!"Order {id} has expired"

/-- An order of a user. -/
structure Order where
  id : OrderId
  userId : UserId
  amount : Money
  type : OrderType
  subType : Option String
  sourceOfFund : SourceOfFund
  provider : Option ProviderCode
  status : OrderStatus
  transactionId : Option TransactionId
  bankTraceId : Option String
  createdAt : Timestamp
  updatedAt : Timestamp
  expiredAt : Timestamp
  failReason : Option String
  isExpired : Bool
  isRetrieved : Bool
  awaitingOtp : Bool
deriving DecidableEq

namespace Order

/-- A new order: pending, linked to nothing, paid from the wallet. -/
def create (id : OrderId) (now : Timestamp) (userId : UserId) (type : OrderType) (amount : Money)
    (expiredAt : Timestamp) : Order where
  id := id
  userId := userId
  amount := amount
  type := type
  subType := none
  sourceOfFund := .wallet
  provider := none
  status := .pending
  transactionId := none
  bankTraceId := none
  createdAt := now
  updatedAt := now
  expiredAt := expiredAt
  failReason := none
  isExpired := false
  isRetrieved := false
  awaitingOtp := false

def isVerifying (o : Order) : Bool := o.status == .verifying

def isTerminal (o : Order) : Bool := o.status.isTerminal

def isUnresolved (o : Order) : Bool := o.status.isUnresolved

/-- Whether the deadline has passed; at the deadline itself it has not. -/
def isPastDeadline (o : Order) (now : Timestamp) : Bool := o.expiredAt.before now

/-! ## Changes of status -/

/-- A step of the status table. It ends the wait for a one-time password. -/
def transition (o : Order) (next : OrderStatus) (now : Timestamp) : Except OrderError Order :=
  if o.status.canTransitionTo next then
    .ok { o with status := next, awaitingOtp := false, updatedAt := now }
  else .error (.invalidTransition o.status next)

/-- A step of the status table that records why. -/
def transitionFor (o : Order) (next : OrderStatus) (reason : String) (now : Timestamp) :
    Except OrderError Order :=
  (o.transition next now).map fun o => { o with failReason := some reason }

def startProcessing (o : Order) (now : Timestamp) : Except OrderError Order :=
  o.transition .processing now

def succeed (o : Order) (now : Timestamp) : Except OrderError Order := o.transition .success now

def fail (o : Order) (reason : String) (now : Timestamp) : Except OrderError Order :=
  o.transitionFor .failed reason now

def cancel (o : Order) (reason : String) (now : Timestamp) : Except OrderError Order :=
  o.transitionFor .cancelled reason now

/-- Parks the order until its outcome is known. -/
def markVerifying (o : Order) (reason : String) (now : Timestamp) : Except OrderError Order :=
  o.transitionFor .verifying reason now

/-- The failed order, unless it is verifying or resolved already. -/
def failUnlessResolved? (o : Order) (reason : String) (now : Timestamp) : Option Order :=
  if o.isVerifying || o.isTerminal then none else (o.fail reason now).toOption

/-- Resolves an order from any unresolved status once its outcome is known for certain. -/
def settle (o : Order) (success : Bool) (reason : Option String) (now : Timestamp) :
    Except OrderError Order :=
  let next : OrderStatus := if success then .success else .failed
  if o.status.isUnresolved then
    .ok { o with
      status := next
      awaitingOtp := false
      updatedAt := now
      failReason := if success then o.failReason else reason }
  else .error (.invalidTransition o.status next)

/-- Fails an unresolved order because its deadline has passed. -/
def expire (o : Order) (reason : String) (now : Timestamp) : Except OrderError Order :=
  (o.settle false (some reason) now).map fun o => { o with isExpired := true }

/-! ## Other changes -/

/-- Records that the bank waits for a one-time password; only a processing order can wait. -/
def markAwaitingOtp (o : Order) (now : Timestamp) : Except OrderError Order :=
  if o.status = .processing then .ok { o with awaitingOtp := true, updatedAt := now }
  else .error (.invalidTransition o.status .processing)

/-- Records that the bank was asked for the outcome. -/
def markRetrieved (o : Order) (now : Timestamp) : Order :=
  { o with isRetrieved := true, updatedAt := now }

/-- Links the order to its ledger record, once and for all. -/
def linkTransaction (o : Order) (id : TransactionId) (now : Timestamp) : Except OrderError Order :=
  match o.transactionId with
  | some existing =>
      if existing = id then .ok { o with transactionId := some id, updatedAt := now }
      else .error (.alreadyLinked existing)
  | none => .ok { o with transactionId := some id, updatedAt := now }

def setBankTraceId (o : Order) (traceId : String) (now : Timestamp) : Order :=
  { o with bankTraceId := some traceId, updatedAt := now }

end Order

end Wallet
