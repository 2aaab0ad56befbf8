import Wallet.Crash
import Wallet.Time.Duration

/-!
# Contexts

A context ends when its cancel handle fires or its deadline passes. A context is a value: copies end
together. What it depends on is the timeline: the monotonic clock, in nanoseconds, and the state of
every handle given out so far.
-/

namespace Wallet

/-- The state of a cancel handle. A handle that has fired stays so, also when it is dropped. -/
inductive HandleState where
  | live
  | fired
  | dropped
deriving DecidableEq, Repr

/-- The reading of the monotonic clock and the cancel handles by number. -/
structure Timeline where
  now : Nat
  handles : List HandleState
deriving DecidableEq, Repr

namespace Timeline

def start : Timeline := ⟨0, []⟩

instance : Inhabited Timeline := ⟨start⟩

/-- The last reading of the monotonic clock in seconds. -/
def lastSecond : Nat := 9223372036854775807

def advance (t : Timeline) (nanos : Nat) : Timeline := { t with now := t.now + nanos }

def setNow (t : Timeline) (now : Nat) : Timeline := { t with now := now }

/-- Gives out a new handle. -/
def openHandle (t : Timeline) : Nat × Timeline :=
  (t.handles.length, { t with handles := t.handles ++ [.live] })

/-- Fires a handle, unless it was dropped. -/
def fire (t : Timeline) (handle : Nat) : Timeline :=
  { t with handles := t.handles.modify handle fun s => if s = .dropped then s else .fired }

/-- Drops a handle; if it has not fired it never will. -/
def drop (t : Timeline) (handle : Nat) : Timeline :=
  { t with handles := t.handles.modify handle fun s => if s = .fired then s else .dropped }

def hasFired (t : Timeline) (handle : Nat) : Bool := t.handles[handle]? == some .fired

end Timeline

/-- A cancellation scope: the handle that cancels it and the instant at which it expires. -/
structure Context where
  handle : Option Nat
  deadline : Option Nat
deriving DecidableEq, Repr

namespace Context

/-- The context that never ends. -/
def background : Context := ⟨none, none⟩

instance : Inhabited Context := ⟨background⟩

/-- The context that a handle cancels. -/
def cancellable (handle : Nat) : Context := ⟨some handle, none⟩

/-- The earlier of a deadline, if there is one, and an instant. -/
def earlier (deadline : Option Nat) (instant : Nat) : Nat :=
  match deadline with
  | none => instant
  | some d => min d instant

/-- Ends the context after `d` at the latest. A timeout never moves a deadline back. -/
def timeout (c : Context) (t : Timeline) (d : Duration) : Except Crash Context :=
  if (t.now + d.toNanos) / 1000000000 ≤ Timeline.lastSecond then
    .ok { c with deadline := some (earlier c.deadline (t.now + d.toNanos)) }
  else .error .deadlineTooFar

/-- Ends the context after each of some durations at the latest. -/
def timeouts (c : Context) (t : Timeline) (ds : List Duration) : Except Crash Context :=
  ds.foldlM (fun c d => c.timeout t d) c

def isCancelled (c : Context) (t : Timeline) : Bool := c.handle.any t.hasFired

/-- Whether the context has ended. -/
def isDone (c : Context) (t : Timeline) : Bool :=
  c.isCancelled t || c.deadline.any fun d => decide (d ≤ t.now)

/-- The nanoseconds left before the deadline. -/
def remaining (c : Context) (t : Timeline) : Option Nat := c.deadline.map fun d => d - t.now

end Context

end Wallet
