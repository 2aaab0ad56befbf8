import Wallet.Json.Writer
import Wallet.Worker.Process

/-!
# The HTTP interface of a worker

Three routes: the health of the process, its metrics, and a sweep on request. A known path with a
wrong method is told the methods it has; `HEAD` is answered like `GET` without a body.
-/

namespace Wallet

open Json

/-- A response to an HTTP request. -/
structure HttpResponse where
  status : Nat
  contentType : Option String
  allow : Option String
  body : String
deriving DecidableEq

namespace HttpResponse

def empty (status : Nat) : HttpResponse := ⟨status, none, none, ""⟩

def notFound : HttpResponse := empty 404

def methodNotAllowed (allow : String) : HttpResponse := { empty 405 with allow := some allow }

def json (status : Nat) (body : Json) : HttpResponse :=
  ⟨status, some "application/json", none, body.render⟩

def text (contentType body : String) : HttpResponse := ⟨200, some contentType, none, body⟩

def withoutBody (r : HttpResponse) : HttpResponse := { r with body := "" }

end HttpResponse

/-- An error of a route. -/
inductive ApiError where
  /-- A collaborator cannot be reached; the request may be tried again. -/
  | unavailable (message : String)
  | internal (message : String)
deriving DecidableEq

namespace ApiError

def ofReconciliationError (e : ReconciliationError) : ApiError :=
  match e with
  | .store (.unavailable _) => .unavailable e.message
  | .store _ => .internal e.message

def body (message : String) : Json := .obj [("error", .str message)]

def response : ApiError → HttpResponse
  | .unavailable message => .json 503 (body message)
  | .internal message => .json 500 (body message)

end ApiError

namespace Worker

/-- The media type of the exposition of metrics. -/
def expositionType : String := "text/plain; version=0.0.4; charset=utf-8"

def health (w : Worker) : Json := .obj [
  ("status", .str "ok"), ("pool_available", nat w.services.pool.available),
  ("pool_capacity", nat w.services.pool.capacity), ("va_provider", toJson w.vaProvider)]

def runSweep (w : Worker) : HttpResponse × Worker :=
  match w.run w.reconciler.sweep with
  | (.ok report, w) => (.json 200 (toJson report), w)
  | (.error e, w) => ((ApiError.ofReconciliationError e).response, w)

/-- Answers a request for something that is only read. -/
def answerGet (method : String) (r : HttpResponse) : HttpResponse :=
  if method = "GET" then r
  else if method = "HEAD" then r.withoutBody
  else .methodNotAllowed "GET,HEAD"

/-- A character of the name of a scheme. -/
def isSchemeChar (c : Char) : Bool := c.isAlphanum || c == '+' || c == '-' || c == '.'

/-- Whether a character ends the path of a target. -/
def endsPath (c : Char) : Bool := c == '?' || c == '#'

/-- A target without its scheme and authority, where it has them. -/
def localPart (target : List Char) : List Char :=
  match target.dropWhile isSchemeChar with
  | ':' :: '/' :: '/' :: rest => rest.dropWhile fun c => c != '/' && !endsPath c
  | _ => target

/-- The path of a target: what stands between the authority and a query or a fragment. -/
def pathOf (target : String) : String :=
  String.ofList ((localPart target.toList).takeWhile fun c => !endsPath c)

example : pathOf "http://user@host:80/health?x#y" = "/health" := by cbv

example : pathOf "/health?http://host/metrics" = "/health" := by cbv

/-- Answers a request. -/
def serve (w : Worker) (method target : String) : HttpResponse × Worker :=
  let path := pathOf target
  if path = "/health" then (answerGet method (.json 200 w.health), w)
  else if path = "/metrics" then
    (answerGet method (.text expositionType w.services.metrics.exposition), w)
  else if path = "/reconciliation/run" then
    if method = "POST" then w.runSweep else (.methodNotAllowed "POST", w)
  else (.notFound, w)

end Worker

end Wallet
