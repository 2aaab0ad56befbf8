import Mathlib.Data.List.Basic
import Wallet.Saga.Play

/-!
# Watching a play

The actions of a saga may do anything to the world they run in: fail, move its clocks, or end either
context. So a play is watched from outside: every action notes that it is called, and the notes are
kept beside the world, where no action sees them. Watching changes nothing (`watched_play`).
-/

namespace Wallet.Saga

/-- A call of an action of the step of an index, under a context. -/
inductive Invocation where
  | forward (index : Nat) (context : Context)
  | compensate (index : Nat) (context : Context)
deriving DecidableEq

/-- A world with clocks, as far as a play looks at it. -/
class Clocked (σ : Type) where
  clock : σ → Timestamp
  timeline : σ → Timeline

/-- A world and the actions called in it so far. -/
structure Watched (σ : Type) where
  world : σ
  invoked : List Invocation

variable {ε σ : Type}

/-- An action that notes its call. -/
def noted (note : Context → Invocation) (action : Action ε (StateM σ)) :
    Action ε (StateM (Watched σ)) := fun c w =>
  let (result, world) := (action c).run w.world
  (result, ⟨world, w.invoked ++ [note c]⟩)

theorem run_noted (note : Context → Invocation) (action : Action ε (StateM σ)) (c : Context)
    (w : Watched σ) : (noted note action c).run w =
      (((action c).run w.world).1, ⟨((action c).run w.world).2, w.invoked ++ [note c]⟩) := rfl

def watchedStep (i : Nat) (step : Step ε (StateM σ)) : Step ε (StateM (Watched σ)) :=
  ⟨step.name, step.forward.map (noted (.forward i)),
    step.compensate.map (noted (.compensate i)), step.options⟩

/-- The steps of a saga from the `n`th on, watched. -/
theorem mapIdx_watchedStep_cons (step : Step ε (StateM σ)) (rest : List (Step ε (StateM σ)))
    (n : Nat) : ((step :: rest).mapIdx fun i => watchedStep (i + n)) =
      watchedStep n step :: rest.mapIdx fun i => watchedStep (i + (n + 1)) := by
  rw [List.mapIdx_cons, Nat.zero_add]
  refine congrArg (fun f => watchedStep n step :: rest.mapIdx f) ?_
  funext i
  rw [Nat.add_right_comm, Nat.add_assoc]

/-- The saga whose actions note their calls. -/
def watched (saga : Saga ε (StateM σ)) : Saga ε (StateM (Watched σ)) :=
  ⟨saga.name, saga.steps.mapIdx watchedStep⟩

variable [Clocked σ]

def ended (c : Context) (s : σ) : Bool := c.isDone (Clocked.timeline s)

/-- Reads the clocks of a world, and does nothing else. -/
def clockwork : Conductor (StateM σ) where
  clocks s := (⟨Clocked.clock s, (Clocked.timeline s).now⟩, s)
  hasEnded c s := (ended c s, s)
  count _ := pure ()
  sample _ := pure ()
  record _ _ := pure ()

/-- Reads the clocks of the world. Metrics and records are kept where no action sees them. -/
def watcher : Conductor (StateM (Watched σ)) where
  clocks w := (⟨Clocked.clock w.world, (Clocked.timeline w.world).now⟩, w)
  hasEnded c w := (ended c w.world, w)
  count _ := pure ()
  sample _ := pure ()
  record _ _ := pure ()

theorem watcher_count {β : Type} (metric : Metric) (f : Unit → StateM (Watched σ) β) :
    watcher.count metric >>= f = f () := rfl

/-! ## Watching changes nothing -/

/-- The watched program ends as the other one does, and only adds notes. -/
def Shadows {α : Type} (x : StateM (Watched σ) α) (y : StateM σ α) : Prop :=
  ∀ s calls, ∃ more, x.run ⟨s, calls⟩ = ((y.run s).1, ⟨(y.run s).2, calls ++ more⟩)

section

variable {α β : Type}

omit [Clocked σ] in
theorem Shadows.pure (a : α) : Shadows (σ := σ) (Pure.pure a) (Pure.pure a) := by
  intro s calls
  refine ⟨[], ?_⟩
  rw [List.append_nil]
  rfl

omit [Clocked σ] in
theorem Shadows.bind {x : StateM (Watched σ) α} {y : StateM σ α} {f : α → StateM (Watched σ) β}
    {g : α → StateM σ β} (hx : Shadows x y) (hf : ∀ a, Shadows (f a) (g a)) :
    Shadows (x >>= f) (y >>= g) := by
  intro s calls
  obtain ⟨first, hfirst⟩ := hx s calls
  obtain ⟨second, hsecond⟩ := hf (y.run s).1 (y.run s).2 (calls ++ first)
  refine ⟨first ++ second, ?_⟩
  rw [StateT.run_bind, hfirst]
  refine hsecond.trans ?_
  rw [List.append_assoc]
  rfl

theorem shadows_clocks : Shadows (σ := σ) watcher.clocks clockwork.clocks := by
  intro s calls
  refine ⟨[], ?_⟩
  rw [List.append_nil]
  rfl

theorem shadows_hasEnded (c : Context) :
    Shadows (σ := σ) (watcher.hasEnded c) (clockwork.hasEnded c) := by
  intro s calls
  refine ⟨[], ?_⟩
  rw [List.append_nil]
  rfl

omit [Clocked σ] in
theorem shadows_noted (note : Context → Invocation) (action : Action ε (StateM σ)) (c : Context) :
    Shadows (noted note action c) (action c) :=
  fun s calls => ⟨[note c], run_noted note action c ⟨s, calls⟩⟩

end

omit [Clocked σ] in
theorem shadows_runForward (n : Nat) (step : Step ε (StateM σ)) (c : Context) :
    Shadows ((watchedStep n step).runForward c) (step.runForward c) := by
  obtain ⟨name, forward, compensate, options⟩ := step
  cases forward with
  | none => exact .pure _
  | some action => exact shadows_noted _ action c

variable [ToString ε]

theorem shadows_attempt (n : Nat) (step : Step ε (StateM σ)) (operation : Context) :
    Shadows (attempt watcher operation (watchedStep n step)) (attempt clockwork operation step) :=
  shadows_clocks.bind fun _ => (shadows_runForward n step operation).bind fun _ =>
    shadows_clocks.bind fun _ => .pure _

theorem shadows_advance (operation : Context) (steps : List (Step ε (StateM σ))) (n : Nat) :
    Shadows (advance watcher operation (steps.mapIdx fun i => watchedStep (i + n)))
      (advance clockwork operation steps) := by
  induction steps generalizing n with
  | nil => exact .pure _
  | cons step rest ih =>
      rw [mapIdx_watchedStep_cons]
      unfold advance
      refine (shadows_hasEnded operation).bind ?_
      intro ended
      cases ended with
      | true => exact .pure _
      | false =>
          refine (shadows_attempt n step operation).bind ?_
          intro r
          obtain ⟨outcome, result⟩ := r
          cases result with
          | error e => exact .pure _
          | ok u => exact (ih (n + 1)).bind fun _ => .pure _

theorem shadows_undo (name : String) (compensation : Context) (n : Nat)
    (step : Step ε (StateM σ)) :
    Shadows (undo watcher name compensation (watchedStep n step))
      (undo clockwork name compensation step) := by
  obtain ⟨stepName, forward, compensate, options⟩ := step
  cases compensate with
  | none => exact .pure _
  | some action =>
      refine (shadows_hasEnded compensation).bind ?_
      intro ended
      cases ended with
      | true => exact .pure _
      | false =>
          refine (Shadows.pure ()).bind ?_
          intro _
          refine (shadows_noted _ action compensation).bind ?_
          intro result
          cases result with
          | ok u => exact .pure _
          | error e => exact .pure _

theorem shadows_unwind (name : String) (compensation : Context) (steps : List (Step ε (StateM σ)))
    (outcomes : List StepOutcome) (n : Nat) :
    Shadows (unwind watcher name compensation
        ((steps.mapIdx fun i => watchedStep (i + n)).zip outcomes))
      (unwind clockwork name compensation (steps.zip outcomes)) := by
  induction steps generalizing outcomes n with
  | nil => exact .pure _
  | cons step rest ih =>
      cases outcomes with
      | nil =>
          rw [List.zip_nil_right, List.zip_nil_right]
          exact .pure _
      | cons outcome outcomes =>
          rw [mapIdx_watchedStep_cons]
          exact (ih outcomes (n + 1)).bind fun _ =>
            (shadows_undo name compensation n step).bind fun _ => .pure _

/-- A watched play ends as the play does, in the same world. -/
theorem watched_play (saga : Saga ε (StateM σ)) (operation compensation : Context) :
    Shadows ((watched saga).play watcher operation compensation)
      (saga.play clockwork operation compensation) := by
  refine (Shadows.pure ()).bind fun _ => (shadows_advance operation saga.steps 0).bind ?_
  intro r
  obtain ⟨attempted, error⟩ := r
  cases error with
  | none => exact .pure _
  | some e => exact (shadows_unwind saga.name compensation saga.steps attempted 0).bind fun _ => .pure _

end Wallet.Saga
