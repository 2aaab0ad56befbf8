import Wallet.Flow.Config
import Wallet.Pool.Basic
import Wallet.Provider.Code
import Wallet.Reconciliation.Config
import Wallet.Text.Numeral
import Wallet.Text.Quoted

/-!
# Settings of the worker

The settings of a worker process are looked up by key. A value that cannot be read counts as absent,
and an absent value is the standard one.
-/

namespace Wallet

/-- How log lines are written. -/
inductive LogFormat where
  | text
  | json
deriving DecidableEq, Repr

namespace LogFormat

def name : LogFormat → String
  | .text => "text"
  | .json => "json"

/-- The format a word names; blanks around it and the case of ASCII letters do not matter. -/
def ofText (s : String) : Except String LogFormat :=
  let word := (Text.trim s).toLower
  if word = "text" then .ok .text
  else if word = "json" then .ok .json
  else .error s!"unknown log format {Text.quoted word}"

end LogFormat

/-- The settings of a worker process. -/
structure Settings where
  host : String
  port : Nat
  logLevel : String
  logFormat : LogFormat
  workerPoolSize : Nat
  compensationTimeout : Duration
  orderTtl : Duration
  reconcileInterval : Duration
  reconcileBatchLimit : Nat
  reconcileProviders : List ProviderCode
  vaProvider : Option ProviderCode

namespace Settings

open Json (bound64)

def standard : Settings where
  host := "0.0.0.0"
  port := 3000
  logLevel := "info"
  logFormat := .text
  workerPoolSize := PoolConfig.standard.maxConcurrent
  compensationTimeout := FlowConfig.standard.compensationTimeout
  orderTtl := FlowConfig.standard.orderTtl
  reconcileInterval := ReconciliationConfig.standard.interval
  reconcileBatchLimit := ReconciliationConfig.standard.batchLimit
  reconcileProviders := []
  vaProvider := none

/-- A number of 64 bits, with blanks around it. -/
def number? (s : String) : Option Nat := Text.unsigned? bound64 (Text.trim s)

/-- A number of seconds. -/
def seconds? (s : String) : Option Duration := (number? s).bind fun n => Duration.ofParts? n 0

/-- A positive number of seconds. -/
def positiveSeconds? (s : String) : Option Duration :=
  (seconds? s).bind fun d => if 0 < d.secs then some d else none

/-- A number of 16 bits, with blanks around it. -/
def port? (s : String) : Option Nat := Text.unsigned? 65536 (Text.trim s)

/-- A provider code that is not blank. -/
def provider? (s : String) : Option ProviderCode :=
  if Text.allBlank s then none else some (.of s)

/-- The provider codes between commas, without blank ones. -/
def providers (s : String) : List ProviderCode :=
  (Text.splitCommas s.toList).filterMap fun piece => provider? (String.ofList piece)

/-- The settings that a lookup gives. -/
def ofLookup (lookup : String → Option String) : Settings where
  host := (lookup "HOST").getD standard.host
  port := ((lookup "PORT").bind port?).getD standard.port
  logLevel := (lookup "RUST_LOG").getD standard.logLevel
  logFormat := ((lookup "LOG_FORMAT").bind fun s => (LogFormat.ofText s).toOption).getD
    standard.logFormat
  workerPoolSize := ((lookup "WORKER_POOL_SIZE").bind number?).getD standard.workerPoolSize
  compensationTimeout :=
    ((lookup "COMPENSATION_TIMEOUT_SECS").bind seconds?).getD standard.compensationTimeout
  orderTtl := ((lookup "ORDER_TTL_SECS").bind seconds?).getD standard.orderTtl
  reconcileInterval :=
    ((lookup "RECONCILE_INTERVAL_SECS").bind positiveSeconds?).getD standard.reconcileInterval
  reconcileBatchLimit :=
    ((lookup "RECONCILE_BATCH_LIMIT").bind number?).getD standard.reconcileBatchLimit
  reconcileProviders := ((lookup "RECONCILE_PROVIDERS").map providers).getD []
  vaProvider := (lookup "VA_PROVIDER").bind provider?

/-- The address to listen on. -/
def address (s : Settings) : String := s!"{s.host}:{s.port}"

def flowConfig (s : Settings) : FlowConfig := ⟨s.orderTtl, s.compensationTimeout⟩

def poolConfig (s : Settings) : PoolConfig := ⟨s.workerPoolSize⟩

def reconciliationConfig (s : Settings) : ReconciliationConfig :=
  { ReconciliationConfig.standard with
    interval := s.reconcileInterval
    batchLimit := s.reconcileBatchLimit
    retrievalProviders := s.reconcileProviders }

end Settings

end Wallet
