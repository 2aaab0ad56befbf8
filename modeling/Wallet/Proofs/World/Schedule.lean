import Wallet.Services

/-!
# Schedules

What surrounds the calls of a process, one occasion for each call: the readings of its clocks, the
state of the worker pool, the identifier that is made if one is asked for, what the bank answers, and
whether the collaborator fails. A collaborator that fails was not reached, or it has done what it was
asked and the answer was lost. Along a schedule a program runs in one way only.
-/

namespace Wallet

/-- How a collaborator fails a call. -/
structure Fault where
  error : ServiceError
  /-- The call was served before its answer was lost. -/
  served : Bool

/-- What surrounds one call. -/
structure Occasion where
  /-- The last reading of the civil clock. -/
  clock : Timestamp
  timeline : Timeline
  pool : Pool
  /-- The identifier that is made. -/
  id : Uuid
  /-- What the bank answers. -/
  response : Except ServiceError ProviderResponse
  fault : Option Fault

/-- Nothing goes wrong, and the bank answers with a code. -/
def Occasion.fair (id : Uuid) (code : String) : Occasion where
  clock := default
  timeline := .start
  pool := .standard
  id := id
  response := .ok ⟨⟨code⟩, some "BANK-000001", none⟩
  fault := none

/-- What the clocks show who reads them both. -/
def Occasion.reading (t : Occasion) : Reading := ⟨t.clock.tick, t.timeline.now⟩

namespace Services

/-- The services as a call finds them. -/
def around (v : Services) (t : Occasion) : Services :=
  { v with clock := t.clock, timeline := t.timeline, pool := t.pool }

/-- Answers a call that reaches its collaborator. -/
def meet (v : Services) (t : Occasion) : (c : Call) → c.Answer × Services
  | .bank _ => (t.response, v.around t)
  | .freshOrderId => (⟨t.id⟩, v.around t)
  | .freshTransactionId => (⟨t.id⟩, v.around t)
  | c => answer c (v.around t)

/-- Answers a call, or fails it. -/
def undergo (v : Services) (t : Occasion) (c : Call) : c.Answer × Services :=
  match t.fault with
  | none => v.meet t c
  | some fault =>
      match c.refusal? fault.error with
      | none => v.meet t c
      | some refusal => (refusal, if fault.served then (v.meet t c).2 else v.around t)

end Services

/-- The occasions of all calls in their order. -/
abbrev Schedule := Nat → Occasion

namespace Schedule

/-- Answers the next call: the number of calls so far and the services, and what becomes of them. -/
def answer (schedule : Schedule) (c : Call) (p : Nat × Services) : c.Answer × (Nat × Services) :=
  let (x, v) := p.2.undergo (schedule p.1) c
  (x, p.1 + 1, v)

/-- Runs a program along the schedule. -/
def run {α : Type} (schedule : Schedule) (x : Program α) (p : Nat × Services) :
    α × (Nat × Services) :=
  x.run schedule.answer p

variable {α β : Type} {schedule : Schedule}

theorem run_done (a : α) (p : Nat × Services) : schedule.run (.done a) p = (a, p) := rfl

theorem run_call (c : Call) (next : c.Answer → Program α) (p : Nat × Services) :
    schedule.run (.call c next) p =
      schedule.run (next (p.2.undergo (schedule p.1) c).1)
        (p.1 + 1, (p.2.undergo (schedule p.1) c).2) :=
  rfl

theorem run_bind (x : Program α) (f : α → Program β) (p : Nat × Services) :
    schedule.run (x >>= f) p = schedule.run (f (schedule.run x p).1) (schedule.run x p).2 :=
  Program.run_bind schedule.answer x f p

end Schedule

end Wallet
