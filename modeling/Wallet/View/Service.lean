import Wallet.Reconciliation.Report
import Wallet.Services
import Wallet.View.Execution

/-!
# Views of collaborators

The names of calls, and what is shown of the state of each collaborator.
-/

namespace Wallet

open Json

/-- The name of a request to the order store. -/
def OrderStore.Request.name : OrderStore.Request → String
  | .create _ => "create"
  | .replace _ => "replace_by_id"
  | .process _ => "processing_by_id"
  | .find _ => "find_by_id"
  | .findExpired _ _ => "find_expired"

def Ledger.Request.name : Ledger.Request → String
  | .init _ => "init"
  | .confirm _ => "confirm"
  | .cancel _ _ => "cancel"
  | .setPending _ => "set_pending"
  | .fail _ _ => "fail"
  | .find _ => "find_by_id"

def Promotion.Request.name : Promotion.Request → String
  | .useVoucher _ _ _ _ => "use_voucher"
  | .reverse _ => "reverse_voucher"

def Bank.Request.name : Bank.Request → String
  | .cashIn _ => "cash_in"
  | .cashOut _ => "cash_out"
  | .transfer _ => "transfer"
  | .refund _ => "refund"
  | .verifyOtp _ _ => "verify_otp"
  | .retrieveStatus _ _ => "retrieve_order_status"

/-- The name of a call to a collaborator; other calls have none. -/
def Call.name? : Call → Option String
  | .orders r => some ("orders." ++ r.name)
  | .ledger r => some ("ledger." ++ r.name)
  | .promotion r => some ("promotion." ++ r.name)
  | .bank r => some ("bank." ++ r.name)
  | .deliver _ => some "notifier.notify"
  | _ => none

def OrderStore.view (s : OrderStore) : Json :=
  .obj [("orders", nat s.orders.size), ("writes", nat s.writes)]

def Ledger.view (l : Ledger) : Json := .obj [("transactions", nat l.records.size),
  ("cancels", nat l.cancels), ("confirms", nat l.confirms)]

def Promotion.view (p : Promotion) : Json :=
  .obj [("active", nat p.usages.size), ("reversed", nat p.reversed)]

/-- The number of all calls and of the calls of each operation. -/
def Bank.view (b : Bank) : Json := .obj (("total", nat b.calls.length) ::
  BankOperation.all.map fun o => (o.name, nat (b.count o)))

def Pool.view (p : Pool) : Json :=
  .obj [("available", nat p.available), ("max", nat p.capacity)]

def ExecutionLog.view (log : ExecutionLog) : Json :=
  .arr (log.records.map ExecutionRecord.view)

/-- What is shown under the name of a topic. -/
def Services.inspect? (s : Services) : String → Option Json
  | "orders.counts" => some s.orders.view
  | "ledger.counts" => some s.ledger.view
  | "promotion.counts" => some s.promotion.view
  | "bank.counts" => some s.bank.view
  | "notifier.sent" => some (toJson s.notifier.sent)
  | "pool.state" => some s.pool.view
  | "log.records" => some s.log.view
  | "metrics" => some s.metrics.view
  | _ => none

/-- The lifetime of an order in seconds: its whole milliseconds and half a second more, without the
fraction. An order that lasts as long as there is time has none. -/
def Order.lifetimeView (o : Order) : Json :=
  if o.expiredAt = .last then .str "max"
  else .int (((o.expiredAt.nanosSince o.createdAt).tdiv 1000000 + 500).tdiv 1000)

/-- A report with the number of orders whose status changed. -/
def SweepReport.fields (r : SweepReport) : Except Crash (List (String × Json)) := do
  return [("examined", nat r.examined), ("succeeded", nat r.succeeded), ("failed", nat r.failed),
    ("expired", nat r.expired), ("skipped", nat r.skipped), ("errors", nat r.errors),
    ("resolved", nat (← r.resolved))]

/-- A classified answer; what came along with it stands under a name of its own. -/
def Classified.fields {α : Type} (c : Classified α) : List (String × Json) :=
  [("outcome", toJson c.outcome), ("reason", .str c.response.reason),
    ("response", toJson c.response)]

/-- What a code was classified as. -/
def Outcome.view (code : StatusCode) (o : Outcome) : Json := .obj [("code", toJson code),
  ("outcome", toJson o), ("kind", toJson o.kind), ("display", .str o.name)]

end Wallet
