import Wallet.Json.Basic
import Wallet.Text.Numeral

/-!
# Durations

A length of time in whole seconds and nanoseconds. The seconds have 64 bits; the nanoseconds stay
below one second.
-/

namespace Wallet

open Json

/-- A length of time. -/
structure Duration where
  secs : Nat
  nanos : Nat
  secs_lt : secs < bound64
  nanos_lt : nanos < 1000000000
deriving DecidableEq

namespace Duration

/-- `secs` seconds and `nanos` nanoseconds, whole seconds carried, if that fits. -/
def ofParts? (secs nanos : Nat) : Option Duration :=
  if h : secs + nanos / 1000000000 < bound64 then
    some ⟨secs + nanos / 1000000000, nanos % 1000000000, h, Nat.mod_lt _ (by decide)⟩
  else none

def zero : Duration := ⟨0, 0, by decide, by decide⟩

instance : Inhabited Duration := ⟨zero⟩

/-- A whole number of seconds below the bound. -/
def ofSecs (n : Nat) (h : n < bound64) : Duration := ⟨n, 0, h, by decide⟩

/-- A number of milliseconds of 64 bits. -/
def ofMillis? (ms : Nat) : Option Duration := ofParts? (ms / 1000) (ms % 1000 * 1000000)

def toNanos (d : Duration) : Nat := d.secs * 1000000000 + d.nanos

/-- The whole milliseconds in a duration. -/
def toMillis (d : Duration) : Nat := d.secs * 1000 + d.nanos / 1000000

/-- The length from one count of nanoseconds to a later one, if it fits. -/
def ofNanos? (n : Nat) : Option Duration := ofParts? (n / 1000000000) (n % 1000000000)

instance : LE Duration := ⟨fun a b => a.toNanos ≤ b.toNanos⟩

/-- The nanoseconds of the longest signed length of time, which is 2^63 - 1 milliseconds. -/
def signedLimit : Nat := 9223372036854775807000000

/-- The duration as a signed length of time, if there is one of that length. -/
def signed? (d : Duration) : Option Duration := if d.toNanos ≤ signedLimit then some d else none

/-- The longer of two durations. -/
def longest (a b : Duration) : Duration := if a.toNanos ≤ b.toNanos then b else a

instance : JsonForm Duration where
  toJson d := .obj [("secs", nat d.secs), ("nanos", nat d.nanos)]
  ofJson? j := do
    let fields ← record? ["secs", "nanos"] 0 j
    if fields.all fun f => f.1 == "secs" || f.1 == "nanos" then
      ofParts? (← (← fields.lookup "secs").natBelow? bound64)
        (← (← fields.lookup "nanos").natBelow? bound32)
    else none

/-- A fraction of `width` digits behind a point, without trailing zeros; nothing when it is zero. -/
def fraction (width n : Nat) : String :=
  if n = 0 then ""
  else
    let digits := (Text.padded width n).toList
    String.ofList ('.' :: (digits.reverse.dropWhile (· == '0')).reverse)

/-- The length in the largest unit of which it holds at least one. -/
def shown (d : Duration) : String :=
  if 0 < d.secs then s!"{d.secs}{fraction 9 d.nanos}s"
  else if 1000000 ≤ d.nanos then s!"{d.nanos / 1000000}{fraction 6 (d.nanos % 1000000)}ms"
  else if 1000 ≤ d.nanos then s!"{d.nanos / 1000}{fraction 3 (d.nanos % 1000)}µs"
  else s!"{d.nanos}ns"

end Duration

end Wallet
