import Wallet.Crash
import Wallet.Json.Basic

/-!
# Money

An amount in minor units of the one currency of the wallet. Amounts are integers of 64 bits with a
sign; the bounds are part of the type, so arithmetic is exact or refused, never wrapped.
-/

namespace Wallet

/-- An amount of money in minor units. -/
structure Money where
  minor : Int
  min_le : -9223372036854775808 ≤ minor
  le_max : minor ≤ 9223372036854775807
deriving DecidableEq

namespace Money

/-- The amount of `n` minor units, if it fits. -/
def ofInt? (n : Int) : Option Money :=
  if h : -9223372036854775808 ≤ n ∧ n ≤ 9223372036854775807 then some ⟨n, h.1, h.2⟩ else none

def zero : Money := ⟨0, by decide, by decide⟩

instance : Inhabited Money := ⟨zero⟩

def isPositive (a : Money) : Bool := decide (0 < a.minor)

def isZero (a : Money) : Bool := decide (a.minor = 0)

def checkedAdd (a b : Money) : Option Money := ofInt? (a.minor + b.minor)

def checkedSub (a b : Money) : Option Money := ofInt? (a.minor - b.minor)

/-- The sum, or a crash where it does not fit. -/
def add (a b : Money) : Except Crash Money :=
  match a.checkedAdd b with
  | some c => .ok c
  | none => .error .addOverflow

/-- The difference, or a crash where it does not fit. -/
def sub (a b : Money) : Except Crash Money :=
  match a.checkedSub b with
  | some c => .ok c
  | none => .error .subOverflow

/-- The difference, but never below zero and never above the largest amount. -/
def subFloor (a b : Money) : Money :=
  ⟨max 0 (min 9223372036854775807 (a.minor - b.minor)), by omega, by omega⟩

/-- The smaller of two amounts. -/
def least (a b : Money) : Money := if a.minor ≤ b.minor then a else b

instance : Ord Money := ⟨fun a b => compare a.minor b.minor⟩

instance : ToString Money := ⟨fun a => toString a.minor⟩

/-- An amount is written as an integer. -/
instance : JsonForm Money where
  toJson a := .int a.minor
  ofJson? j := (j.intWithin? (-9223372036854775808) 9223372036854775807).bind ofInt?

end Money

end Wallet
