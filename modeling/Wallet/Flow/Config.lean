import Wallet.Time.Timestamp

/-!
# Settings of flows
-/

namespace Wallet

open Json

/-- How long an order may stay unresolved, and how long undoing a flow may take. -/
structure FlowConfig where
  orderTtl : Duration
  compensationTimeout : Duration
deriving DecidableEq

namespace FlowConfig

/-- A quarter of an hour for an order, half a minute for undoing. -/
def standard : FlowConfig := ⟨.ofSecs 900 (by decide), .ofSecs 30 (by decide)⟩

/-- The deadline of an order made at `now`: the last instant, if the time to live is longer than any
signed length of time, or if the deadline would be after the last instant. -/
def deadlineFrom (c : FlowConfig) (now : Timestamp) : Timestamp :=
  (c.orderTtl.signed?.bind now.add?).getD .last

instance : JsonForm FlowConfig where
  toJson c := .obj [("order_ttl", toJson c.orderTtl),
    ("compensation_timeout", toJson c.compensationTimeout)]
  ofJson? j := do
    let fields ← record? ["order_ttl", "compensation_timeout"] 0 j
    some ⟨← need fields "order_ttl", ← need fields "compensation_timeout"⟩

end FlowConfig

end Wallet
