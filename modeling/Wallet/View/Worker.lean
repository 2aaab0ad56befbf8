import Wallet.Json.Reader
import Wallet.Worker.Http

/-!
# Views of a worker
-/

namespace Wallet

open Json

/-- All settings, and the settings of the parts made from them. -/
def Settings.view (s : Settings) : Json := .obj [
  ("host", .str s.host), ("port", nat s.port), ("addr", .str s.address),
  ("log_level", .str s.logLevel), ("log_format", .str s.logFormat.name),
  ("worker_pool_size", nat s.workerPoolSize),
  ("compensation_timeout", toJson s.compensationTimeout), ("order_ttl", toJson s.orderTtl),
  ("reconcile_interval", toJson s.reconcileInterval),
  ("reconcile_batch_limit", nat s.reconcileBatchLimit),
  ("reconcile_providers", toJson s.reconcileProviders), ("va_provider", toJson s.vaProvider),
  ("flow_config", toJson s.flowConfig), ("pool_config", toJson s.poolConfig),
  ("reconciliation_config", toJson s.reconciliationConfig)]

/-- The body of a response: a JSON value, the lines of an exposition in order, or the text. -/
def HttpResponse.bodyView (r : HttpResponse) : Json :=
  match r.contentType with
  | some "application/json" => (parse? r.body).getD (.str r.body)
  | some _ =>
      let lines := (r.body.splitOn "\n").filter fun line => !line.isEmpty
      toJson (lines.mergeSort fun a b => decide (a ≤ b))
  | none => .str r.body

def HttpResponse.view (r : HttpResponse) : Json := .obj [("status", nat r.status),
  ("content_type", toJson r.contentType), ("allow", toJson r.allow), ("body", r.bodyView)]

end Wallet
