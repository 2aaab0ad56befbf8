import Wallet.Order.Basic

/-!
# Settings of reconciliation
-/

namespace Wallet

open Json

/-- How orders are reconciled. The providers are a set; their order and repetition do not matter. -/
structure ReconciliationConfig where
  interval : Duration
  batchLimit : Nat
  concurrency : Nat
  /-- The providers whose calls cannot always be confirmed at once. -/
  retrievalProviders : List ProviderCode
  /-- The reason written on orders that have expired. -/
  expiredReason : String

namespace ReconciliationConfig

/-- A sweep a minute over at most five hundred orders. -/
def standard : ReconciliationConfig := ⟨.ofSecs 60 (by decide), 500, 8, [], "order expired"⟩

def withRetrievalProvider (c : ReconciliationConfig) (p : ProviderCode) : ReconciliationConfig :=
  { c with retrievalProviders := c.retrievalProviders ++ [p] }

/-- Whether the bank has to be asked before an order is resolved: always when nobody knows what it
did, and otherwise when the order's provider is one of those that have to be asked. -/
def requiresRetrieval (c : ReconciliationConfig) (o : Order) : Bool :=
  o.isVerifying || o.provider.any fun p => c.retrievalProviders.contains p

/-- The providers in the order of their bytes, each once. -/
def sortedProviders (c : ReconciliationConfig) : List ProviderCode :=
  (c.retrievalProviders.mergeSort fun a b => decide (a.text ≤ b.text)).eraseReps

instance : JsonForm ReconciliationConfig where
  toJson c := .obj [("interval", toJson c.interval), ("batch_limit", nat c.batchLimit),
    ("concurrency", nat c.concurrency), ("retrieval_providers", toJson c.sortedProviders),
    ("expired_reason", toJson c.expiredReason)]
  ofJson? j := do
    let fields ← record?
      ["interval", "batch_limit", "concurrency", "retrieval_providers", "expired_reason"] 0 j
    some {
      interval := ← need fields "interval"
      batchLimit := ← (← fields.lookup "batch_limit").natBelow? bound64
      concurrency := ← (← fields.lookup "concurrency").natBelow? bound64
      retrievalProviders := ← need fields "retrieval_providers"
      expiredReason := ← need fields "expired_reason" }

end ReconciliationConfig

end Wallet
