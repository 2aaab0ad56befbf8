import Wallet.Service.Error
import Wallet.Table

/-!
# The order store

Orders by identifier. A write that replaces an order is conditional on the stored status: it may
only stay or go forward. Each operation gives what it answers and the store it leaves, or an error
and no store.
-/

namespace Wallet

/-- The stored orders, with the number of replacements so far. -/
structure OrderStore where
  orders : Table OrderId Order
  unavailable : Bool
  writes : Nat

namespace OrderStore

def empty : OrderStore := ⟨.empty, false, 0⟩

instance : Inhabited OrderStore := ⟨empty⟩

/-- What an unreachable store answers. -/
def down : ServiceError := .unavailable "order store"

def missing (id : OrderId) : ServiceError := .notFound "Order" (toString id)

def get? (s : OrderStore) (id : OrderId) : Option Order := s.orders.get? id

/-- Puts an order into the store whatever is stored there. -/
def insert (s : OrderStore) (o : Order) : OrderStore := { s with orders := s.orders.put o.id o }

/-- Stores a new order. -/
def create (s : OrderStore) (o : Order) : Except ServiceError (Order × OrderStore) :=
  if s.unavailable then .error down
  else match s.get? o.id with
    | some _ => .error (.conflict s!"order {o.id} already exists")
    | none => .ok (o, s.insert o)

/-- Replaces the stored order if its status gives way to the new one. -/
def overwrite (s : OrderStore) (stored o : Order) : Except ServiceError (Order × OrderStore) :=
  if stored.status.acceptsOverwrite o.status then
    .ok (o, { s.insert o with writes := s.writes + 1 })
  else
    .error (.conflict s!"order {o.id} is {stored.status}, refusing to write {o.status}")

/-- Replaces an order. -/
def replace (s : OrderStore) (o : Order) : Except ServiceError (Order × OrderStore) :=
  if s.unavailable then .error down
  else match s.get? o.id with
    | none => .error (missing o.id)
    | some stored => s.overwrite stored o

/-- Replaces an order unless the deadline of the stored one has passed. -/
def process (s : OrderStore) (o : Order) (now : Timestamp) :
    Except ServiceError (Order × OrderStore) :=
  if s.unavailable then .error down
  else match s.get? o.id with
    | none => .error (missing o.id)
    | some stored =>
        if stored.isPastDeadline now then .error (.expired o.id) else s.overwrite stored o

def find (s : OrderStore) (id : OrderId) : Except ServiceError (Option Order) :=
  if s.unavailable then .error down else .ok (s.get? id)

/-- Whether an order is unresolved and past its deadline. -/
def isOverdue (now : Timestamp) (o : Order) : Bool := o.isUnresolved && o.isPastDeadline now

/-- The first `limit` overdue orders in the sequence of their creation. -/
def findExpired (s : OrderStore) (now : Timestamp) (limit : Nat) :
    Except ServiceError (List Order) :=
  if s.unavailable then .error down
  else
    let overdue := s.orders.values.filter (isOverdue now)
    .ok ((overdue.mergeSort fun a b => OrderId.le a.id b.id).take limit)

/-! ## Requests -/

/-- A request to the order store. -/
inductive Request where
  | create (o : Order)
  | replace (o : Order)
  | process (o : Order)
  | find (id : OrderId)
  | findExpired (now : Timestamp) (limit : Nat)

/-- What a request yields when it does not fail. -/
abbrev Request.Result : Request → Type
  | .create _ | .replace _ | .process _ => Order
  | .find _ => Option Order
  | .findExpired _ _ => List Order

/-- Serves a request at an instant. -/
def serve (s : OrderStore) (now : Timestamp) :
    (r : Request) → Except ServiceError r.Result × OrderStore
  | .create o => settled s (s.create o)
  | .replace o => settled s (s.replace o)
  | .process o => settled s (s.process o now)
  | .find id => (s.find id, s)
  | .findExpired now limit => (s.findExpired now limit, s)

end OrderStore

end Wallet
