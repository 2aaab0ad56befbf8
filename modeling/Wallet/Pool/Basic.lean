import Wallet.Crash
import Wallet.Json.Basic

/-!
# The worker pool

A pool has a fixed number of slots. A job takes a slot when it is submitted and gives it back when
it is finished; without a free slot it is refused. Whoever waits for the pool to be idle collects
free slots until it holds all of them, and no job is accepted for a slot so collected.
-/

namespace Wallet

open Json

/-- The settings of a pool. -/
structure PoolConfig where
  maxConcurrent : Nat
deriving DecidableEq

namespace PoolConfig

def standard : PoolConfig := ⟨32⟩

instance : JsonForm PoolConfig where
  toJson c := .obj [("max_concurrent", nat c.maxConcurrent)]
  ofJson? j := do
    let fields ← record? ["max_concurrent"] 0 j
    some ⟨← (← fields.lookup "max_concurrent").natBelow? bound64⟩

end PoolConfig

/-- Someone who waits for a pool to be idle, with the slots it still has to collect. -/
structure Waiter where
  ticket : Nat
  missing : Nat
deriving DecidableEq

/-- A pool: its size, its free slots, and those who wait, the first of them first. -/
structure Pool where
  capacity : Nat
  free : Nat
  waiters : List Waiter
  tickets : Nat
deriving DecidableEq

namespace Pool

/-- A pool has at least one slot, and no more than can be counted. -/
def create (c : PoolConfig) : Except Crash Pool :=
  let capacity := max c.maxConcurrent 1
  if capacity ≤ maxPermits then .ok ⟨capacity, capacity, [], 0⟩ else .error .poolTooLarge

/-- The pool of the standard size. -/
def standard : Pool := ⟨32, 32, [], 0⟩

instance : Inhabited Pool := ⟨standard⟩

/-- The free slots. -/
def available (p : Pool) : Nat := p.free

/-- Takes a slot for a job, if one is free. -/
def submit? (p : Pool) : Option Pool :=
  if 0 < p.free then some { p with free := p.free - 1 } else none

/-! ## Waiting for idleness -/

/-- The slots that someone who waits has to hold at once: all, but no more than 32 bits count. -/
def needed (p : Pool) : Nat := min p.capacity 4294967295

/-- Hands `n` slots to the waiters in their order; what they do not need becomes free. -/
def handOut : Nat → List Waiter → List Waiter × Nat
  | n, [] => ([], n)
  | n, w :: ws =>
      let (ws, left) := handOut (n - w.missing) ws
      ({ w with missing := w.missing - n } :: ws, left)

/-- Gives back `n` slots. -/
def release (p : Pool) (n : Nat) : Pool :=
  let (waiters, left) := handOut n p.waiters
  { p with waiters := waiters, free := p.free + left }

/-- A job gives back its slot. -/
def finish (p : Pool) : Pool := p.release 1

/-- Starts to wait, and gives the ticket of the waiter. -/
def startWait (p : Pool) : Nat × Pool :=
  (p.tickets, { p with
    free := p.free - p.needed
    waiters := p.waiters ++ [⟨p.tickets, p.needed - p.free⟩]
    tickets := p.tickets + 1 })

/-- Whether a waiter holds all slots it needs. -/
def isIdleFor (p : Pool) (ticket : Nat) : Bool :=
  p.waiters.any fun w => w.ticket == ticket && w.missing == 0

/-- Ends a wait and gives back the slots collected in it. -/
def stopWait (p : Pool) (ticket : Nat) : Pool :=
  match p.waiters.find? fun w => w.ticket == ticket with
  | none => p
  | some w =>
      { p with waiters := p.waiters.filter fun v => v.ticket != ticket }.release
        (p.needed - w.missing)

end Pool

end Wallet
