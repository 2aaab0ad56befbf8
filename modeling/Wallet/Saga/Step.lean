import Wallet.Saga.Context
import Wallet.Text.Quoted

/-!
# Steps

A named pair of actions: one that does something and one that undoes it. Actions run in a monad `m`
under a context and fail with an error of type `ε`.
-/

namespace Wallet

open Json

/-- Options that a step carries into the log. They are recorded, not enforced. -/
structure StepOptions where
  timeout : Option Duration
  maxAttempts : Option Nat
deriving DecidableEq, Inhabited

namespace StepOptions

def none : StepOptions := ⟨.none, .none⟩

instance : JsonForm StepOptions where
  toJson o := .obj [("timeout", toJson o.timeout),
    ("max_attempts", (o.maxAttempts.map nat).getD .null)]
  ofJson? j := do
    let fields ← record? ["timeout", "max_attempts"] 0 j
    let maxAttempts ← match fields.lookup "max_attempts" with
      | .none | some .null => some .none
      | some n => (n.natBelow? bound32).map some
    some ⟨← optional fields "timeout", maxAttempts⟩

def shownOption : Option String → String
  | .none => "None"
  | some s => s!"Some({s})"

/-- The options as a message shows them. -/
def shown (o : StepOptions) : String :=
  "StepOptions \x7b timeout: " ++ shownOption (o.timeout.map Duration.shown) ++
    ", max_attempts: " ++ shownOption (o.maxAttempts.map toString) ++ " \x7d"

end StepOptions

/-- What a step does under a context. -/
abbrev Action (ε : Type) (m : Type → Type) : Type := Context → m (Except ε Unit)

/-- A step of a saga. -/
structure Step (ε : Type) (m : Type → Type) where
  name : String
  forward : Option (Action ε m)
  compensate : Option (Action ε m)
  options : StepOptions

namespace Step

variable {ε : Type} {m : Type → Type}

/-- A step without actions. -/
def named (name : String) : Step ε m := ⟨name, none, none, .none⟩

def hasForward (s : Step ε m) : Bool := s.forward.isSome

def hasCompensation (s : Step ε m) : Bool := s.compensate.isSome

/-- Runs the action of a step; without one the step succeeds. -/
def runForward [Monad m] (s : Step ε m) (c : Context) : m (Except ε Unit) :=
  match s.forward with
  | some action => action c
  | none => pure (.ok ())

/-- The step as a message shows it. -/
def shown (s : Step ε m) : String :=
  "Step \x7b name: " ++ Text.quoted s.name ++ ", forward: " ++ toString s.hasForward ++
    ", compensate: " ++ toString s.hasCompensation ++ ", options: " ++ s.options.shown ++ " \x7d"

end Step

end Wallet
