import Wallet.Service.Error

/-!
# Reports of reconciliation

What became of one order, and the counts of a whole sweep.
-/

namespace Wallet

open Json

/-- What was done with one order. -/
inductive Resolution where
  | succeeded
  | failed
  /-- The order failed because its deadline had passed. -/
  | expired
  /-- The order was left to a later sweep. -/
  | skipped
deriving DecidableEq, Repr

namespace Resolution

def name : Resolution → String
  | .succeeded => "succeeded"
  | .failed => "failed"
  | .expired => "expired"
  | .skipped => "skipped"

instance : JsonForm Resolution :=
  ⟨fun r => .str r.name, Json.ofName? [.succeeded, .failed, .expired, .skipped] name⟩

end Resolution

/-- The counts of one sweep. -/
structure SweepReport where
  examined : Nat
  succeeded : Nat
  failed : Nat
  expired : Nat
  skipped : Nat
  /-- The orders left alone because a call failed. -/
  errors : Nat
deriving DecidableEq

namespace SweepReport

def empty : SweepReport := ⟨0, 0, 0, 0, 0, 0⟩

/-- Counts what came of one order. -/
def note (r : SweepReport) : Except ServiceError Resolution → SweepReport
  | .ok .succeeded => { r with succeeded := r.succeeded + 1 }
  | .ok .failed => { r with failed := r.failed + 1 }
  | .ok .expired => { r with expired := r.expired + 1 }
  | .ok .skipped => { r with skipped := r.skipped + 1 }
  | .error _ => { r with errors := r.errors + 1 }

/-- The number of orders whose status changed, or a crash where it does not fit 64 bits. -/
def resolved (r : SweepReport) : Except Crash Nat :=
  let total := r.succeeded + r.failed + r.expired
  if total < bound64 then .ok total else .error .addOverflow

instance : JsonForm SweepReport where
  toJson r := .obj [("examined", nat r.examined), ("succeeded", nat r.succeeded),
    ("failed", nat r.failed), ("expired", nat r.expired), ("skipped", nat r.skipped),
    ("errors", nat r.errors)]
  ofJson? j := do
    let fields ← record? ["examined", "succeeded", "failed", "expired", "skipped", "errors"] 0 j
    let field (key : String) : Option Nat := (fields.lookup key).bind fun n => n.natBelow? bound64
    some ⟨← field "examined", ← field "succeeded", ← field "failed", ← field "expired",
      ← field "skipped", ← field "errors"⟩

end SweepReport

/-- Why a whole sweep was given up: the orders could not be listed. -/
inductive ReconciliationError where
  | store (e : ServiceError)
deriving DecidableEq

def ReconciliationError.message : ReconciliationError → String
  | .store e => s!"Order store error: {e.message}"

end Wallet
