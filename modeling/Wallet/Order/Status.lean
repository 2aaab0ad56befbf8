import Wallet.Json.Basic

/-!
# Order statuses

The life of an order: pending, then processing, then perhaps verifying, then one of three terminal
statuses. `canTransitionTo` says which steps an order takes itself; `acceptsOverwrite` says which
status a store lets replace which, and only looks at how far along both are.
-/

namespace Wallet

/-- The status of an order. -/
inductive OrderStatus where
  | pending
  | processing
  | success
  | failed
  | cancelled
  | verifying
deriving DecidableEq, Inhabited, Repr

namespace OrderStatus

def all : List OrderStatus := [.pending, .processing, .success, .failed, .cancelled, .verifying]

def name : OrderStatus → String
  | .pending => "PENDING"
  | .processing => "PROCESSING"
  | .success => "SUCCESS"
  | .failed => "FAILED"
  | .cancelled => "CANCELLED"
  | .verifying => "VERIFYING"

/-- The steps an order takes. -/
def canTransitionTo : OrderStatus → OrderStatus → Bool
  | .pending, .processing | .pending, .failed | .pending, .cancelled => true
  | .processing, .success | .processing, .failed | .processing, .cancelled => true
  | .processing, .verifying => true
  | .verifying, .success | .verifying, .failed => true
  | _, _ => false

/-- How far along an order is. -/
def rank : OrderStatus → Nat
  | .pending => 0
  | .processing => 1
  | .verifying => 2
  | .success | .failed | .cancelled => 3

/-- A resolved order; it never changes its status again. -/
def isTerminal : OrderStatus → Bool
  | .success | .failed | .cancelled => true
  | _ => false

def isUnresolved : OrderStatus → Bool
  | .pending | .processing | .verifying => true
  | _ => false

/-- A stored status gives way to itself and, unless terminal, to a status further along. -/
def acceptsOverwrite (stored next : OrderStatus) : Bool :=
  stored == next || (!stored.isTerminal && decide (stored.rank < next.rank))

instance : ToString OrderStatus := ⟨name⟩

instance : JsonForm OrderStatus := ⟨fun s => .str s.name, Json.ofName? all name⟩

end OrderStatus

end Wallet
