import Wallet.Order.Form
import Wallet.Transaction.Form

/-!
# Views of orders and ledger records

An order or a ledger record is shown as in its JSON form, without the times.
-/

namespace Wallet

/-- The fields of an object without those of some names. -/
def Json.without (names : List String) : Json → List (String × Json)
  | .obj fields => fields.filter fun f => !names.contains f.1
  | _ => []

def Order.view (o : Order) : Json :=
  .obj ((toJson o).without ["created_at", "updated_at", "expired_at"])

/-- Whether an order has succeeded, has failed, waits to be reconciled, or is resolved. -/
def Order.statusView (o : Order) : Json := .obj [
  ("is_success", .bool (o.status == .success)), ("is_failed", .bool (o.status == .failed)),
  ("is_verifying", .bool o.isVerifying), ("is_terminal", .bool o.isTerminal)]

/-- A ledger record is shown with whether it can be cancelled. -/
def Transaction.view (t : Transaction) : Json :=
  .obj ((toJson t).without ["created_at", "updated_at"] ++
    [("is_cancellable", .bool t.isCancellable)])

end Wallet
