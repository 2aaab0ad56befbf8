/-!
# Tasks of one thread

A task runs until it waits for a condition on the shared state, and is never interrupted before.
One task is the main one. While it waits, all tasks that are ready run, each in its turn; a task
that waits again, or has just been started, goes to the end. When nothing is ready the clock moves
to the next instant a task waits for, and there the main task goes first.
-/

namespace Wallet

/-- A task that has ended, or waits until the state is `ready`; `alarm` is the instant at which it
will be, should nothing else happen before. -/
inductive Task (σ : Type) where
  | ended
  | wait (ready : σ → Bool) (alarm : Option Nat) (next : σ → Task σ × σ)

/-- What a task does up to its end: it reads and changes the state, and may wait in between. -/
def Turn (σ α : Type) : Type := (α → σ → Task σ × σ) → σ → Task σ × σ

namespace Turn

variable {σ α : Type}

instance : Monad (Turn σ) where
  pure a := fun next => next a
  bind x f := fun next => x fun a => f a next

instance : Inhabited (Turn σ α) := ⟨fun _ s => (.ended, s)⟩

/-- The state. -/
def state : Turn σ σ := fun next s => next s s

/-- Changes the state. -/
def change (f : σ → σ) : Turn σ Unit := fun next s => next () (f s)

/-- Ends the task at once. -/
def stop (f : σ → σ) : Turn σ α := fun _ s => (.ended, f s)

/-- Waits for a condition; when it holds already the task goes on without a pause. -/
def await (ready : σ → Bool) (alarm : Option Nat) : Turn σ Unit := fun next s =>
  if ready s then next () s else (.wait ready alarm (next ()), s)

/-- Lets whatever else is ready go first. -/
def pause : Turn σ Unit := fun next s => (.wait (fun _ => true) none (next ()), s)

/-- The task that does this when its turn comes. -/
def task (x : Turn σ Unit) : Task σ := .wait (fun _ => true) none (x fun _ s => (.ended, s))

end Turn

/-- What running tasks has to know of the state: how its clock moves on, and the tasks just
started. -/
structure Stage (σ : Type) where
  moveClock : Nat → σ → σ
  started : σ → List (Task σ) × σ

namespace Task

variable {σ : Type}

def isReady (s : σ) : Task σ → Bool
  | ended => false
  | wait ready _ _ => ready s

/-- The instant a task waits for. -/
def alarm? : Task σ → Option Nat
  | ended => none
  | wait _ alarm _ => alarm

def resume (s : σ) : Task σ → Task σ × σ
  | ended => (ended, s)
  | wait _ _ next => next s

/-- The tasks without the first ready one, and that one. -/
def takeReady (s : σ) : List (Task σ) → Option (Task σ × List (Task σ))
  | [] => none
  | t :: rest =>
      if t.isReady s then some (t, rest)
      else (takeReady s rest).map fun r => (r.1, t :: r.2)

/-- A task that goes on, as a list. -/
def still : Task σ → List (Task σ)
  | ended => []
  | t => [t]

/-- Moves the clock to the next instant that any of the tasks waits for. -/
def skipAhead (stage : Stage σ) (tasks : List (Task σ)) (s : σ) : σ :=
  match (tasks.filterMap alarm?).min? with
  | some t => stage.moveClock t s
  | none => s

/-- Runs the main task to its end, or until nothing can happen any more. `fuel` bounds the number
of turns. -/
def run (stage : Stage σ) : Nat → Task σ → List (Task σ) → σ → σ
  | 0, _, _, s => s
  | _, ended, _, s => s
  | fuel + 1, main, others, s =>
      match takeReady s others with
      | some (t, rest) =>
          let (t, s) := t.resume s
          let (started, s) := stage.started s
          run stage fuel main (rest ++ started ++ t.still) s
      | none =>
          let s := if main.isReady s then s else skipAhead stage (main :: others) s
          if main.isReady s then
            let (main, s) := main.resume s
            let (started, s) := stage.started s
            run stage fuel main (others ++ started) s
          else if others.any (isReady s) then run stage fuel main others s
          else s

end Task

end Wallet
