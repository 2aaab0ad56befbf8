import Wallet.Proofs.Isolation.Parts
import Wallet.Proofs.Saga.Enact

/-!
# Plays side by side

The steps of a saga are attempted and undone alike in both runs, and so is the whole play. What the runs
record is the same as well, and it goes into a log that nobody else has written in between.
-/

namespace Wallet

namespace Pairing

open Wallet.Flow

variable {ρ : Pairing}

/-! ## Actions -/

theorem SameState.keepReason {s t : FlowState} {r r' : Except FlowError Unit}
    (h : ρ.SameState s t) (hr : Matched ρ.SameFlowError Eq r r') :
    ρ.SameState (keepReason r s) (keepReason r' t) := by
  cases hr with
  | ok _ => exact h
  | error herror =>
      refine { h with failureReason := ?_ }
      have hreason := h.failureReason
      show Option.Rel _ (s.failureReason <|> _) (t.failureReason <|> _)
      generalize s.failureReason = x at hreason ⊢
      generalize t.failureReason = y at hreason ⊢
      cases hreason with
      | none => exact .some herror.message
      | some hreason => exact .some hreason

/-- The action does the same in both runs. -/
def Does (ρ : Pairing) (x : Action FlowError FlowM) : Prop :=
  ∀ c, ρ.Pairs (x c) (x c) (Matched ρ.SameFlowError Eq)

theorem action_does {part : StepM Unit} (h : ρ.Agrees part part Eq) : ρ.Does (action part) :=
  fun _ => pairs_bind h fun _ _ hr =>
    pairs_bind (pairs_modify fun _ _ hstate => hstate.keepReason hr) fun _ _ _ => pairs_pure hr

theorem action_leads {part : StepM Unit} {P : Pairing → Prop} (h : ρ.Reaches part part P)
    (c : Context) : ρ.LeadsTo P (action part c) (action part c) := by
  refine leads_bind h fun ρ' r r' _ hr => ?_
  refine leads_bind_pairs (pairs_modify fun _ _ hstate => hstate.keepReason hr.2) fun _ _ _ => ?_
  exact leads_pure hr

/-! ## Conducting -/

theorem clocks_pairs : ρ.Pairs conductor.clocks conductor.clocks fun x y =>
    x.monotonic = y.monotonic :=
  pairs_lift (together_request answered_clocks)

theorem hasEnded_pairs (c : Context) : ρ.Pairs (conductor.hasEnded c) (conductor.hasEnded c) Eq :=
  pairs_lift (together_request (answered_hasEnded c))

theorem count_pairs (m : Metric) : ρ.Pairs (conductor.count m) (conductor.count m) Eq :=
  pairs_lift (together_request (answered_count m))

/-! ## Attempting the steps -/

theorem attempt_leads {step : Step FlowError FlowM} {P : Pairing → Prop} {operation : Context}
    (h : ρ.LeadsTo P (step.runForward operation) (step.runForward operation)) :
    ρ.Leads (Saga.attempt conductor operation step) (Saga.attempt conductor operation step)
      fun ρ' x x' => P ρ' ∧ ρ'.SameStep x.1 x'.1 ∧ Matched ρ'.SameFlowError Eq x.2 x'.2 := by
  refine leads_bind_pairs clocks_pairs fun started started' hstarted => ?_
  refine leads_bind h fun ρ' r r' _ hr => ?_
  refine leads_bind_pairs clocks_pairs fun ended ended' hended => ?_
  have hduration : ended.since started = ended'.since started' := by
    unfold Reading.since
    rw [hstarted, hended]
  have hforward : ρ'.SameForward (Saga.forwardStatus r) (Saga.forwardStatus r') := by
    cases hr.2 with
    | ok _ => exact .succeeded
    | error herror => exact .failed herror.message
  exact leads_pure ⟨hr.1, ⟨rfl, hforward, .none, hduration, rfl⟩, hr.2⟩

/-- Through the steps lead identifiers of which first `P` holds. Wherever the play stops `T` holds, and
then every step can be undone alike in both runs. -/
inductive Course (T : Pairing → Prop) : (Pairing → Prop) → List (Step FlowError FlowM) → Prop
  | nil {P : Pairing → Prop} (hstop : ∀ {ρ}, P ρ → T ρ) : Course T P []
  | cons {P Q : Pairing → Prop} {step : Step FlowError FlowM} {rest : List (Step FlowError FlowM)}
      (hstop : ∀ {ρ}, P ρ → T ρ)
      (hstep : ∀ {ρ}, P ρ → ∀ c, ρ.LeadsTo Q (step.runForward c) (step.runForward c))
      (hundo : ∀ {ρ}, T ρ → ∀ x, step.compensate = some x → ρ.Does x)
      (hrest : Course T Q rest) : Course T P (step :: rest)

section

variable {P Q T : Pairing → Prop} {steps : List (Step FlowError FlowM)}

theorem Course.throughStep {name : String} {part : StepM Unit} (hstop : ∀ {ρ}, P ρ → T ρ)
    (hstep : ∀ {ρ}, P ρ → ρ.Reaches part part Q) (hrest : Course T Q steps) :
    Course T P (step name part :: steps) :=
  .cons hstop (fun hP c => action_leads (hstep hP) c) (fun _ _ hnone => by cases hnone) hrest

theorem Course.throughUndoable {name : String} {part compensate : StepM Unit}
    (hstop : ∀ {ρ}, P ρ → T ρ) (hstep : ∀ {ρ}, P ρ → ρ.Reaches part part Q)
    (hundo : ∀ {ρ}, T ρ → ρ.Agrees compensate compensate Eq) (hrest : Course T Q steps) :
    Course T P (undoableStep name part compensate :: steps) :=
  .cons hstop (fun hP c => action_leads (hstep hP) c)
    (fun hT _ hsome => by
      cases hsome
      exact action_does (hundo hT)) hrest

theorem Course.stop (h : Course T P steps) (hP : P ρ) : T ρ := by
  cases h with
  | nil hstop => exact hstop hP
  | cons hstop _ _ _ => exact hstop hP

theorem Course.undone (h : Course T P steps) (hT : T ρ) {step : Step FlowError FlowM}
    (hstep : step ∈ steps) {x : Action FlowError FlowM} (hx : step.compensate = some x) :
    ρ.Does x := by
  induction h with
  | nil _ => cases hstep
  | cons _ _ hundo _ ih =>
      cases hstep with
      | head => exact hundo hT x hx
      | tail _ hstep => exact ih hstep

theorem Course.advance (h : Course T P steps) (hP : P ρ) (operation : Context) :
    ρ.Leads (Saga.advance conductor operation steps) (Saga.advance conductor operation steps)
      fun ρ' x x' => T ρ' ∧ List.Forall₂ ρ'.SameStep x.1 x'.1 ∧ Option.Rel ρ'.SameStop x.2 x'.2 := by
  induction h generalizing ρ with
  | nil hstop => exact leads_pure ⟨hstop hP, .nil, .none⟩
  | @cons _ _ step rest hstop hstep _ hrest ih =>
      unfold Saga.advance
      refine leads_bind_pairs (hasEnded_pairs _) fun ended _ heq => ?_
      cases heq
      split
      · exact leads_pure ⟨hstop hP, .nil, .some (.cancelled step.name)⟩
      refine leads_bind (attempt_leads (hstep hP operation)) fun ρ' x x' _ hattempt => ?_
      obtain ⟨outcome, r⟩ := x
      obtain ⟨outcome', r'⟩ := x'
      obtain ⟨hQ, houtcome, hr⟩ := hattempt
      cases hr with
      -- a step that has failed may have made identifiers before, so `Q` holds here too
      | error herror =>
          exact leads_pure ⟨hrest.stop hQ, .cons houtcome .nil, .some (.failed step.name herror)⟩
      | ok _ =>
          refine leads_bind (ih hQ) fun ρ'' x x' hgrows hx => ?_
          exact leads_pure ⟨hx.1, .cons (houtcome.grow hgrows) hx.2.1, hx.2.2⟩

end

/-! ## Undoing the steps -/

theorem undo_pairs {step : Step FlowError FlowM} {name : String} {compensation : Context}
    (h : ∀ x, step.compensate = some x → ρ.Does x) :
    ρ.Pairs (Saga.undo conductor name compensation step)
      (Saga.undo conductor name compensation step) ρ.SameCompensation := by
  unfold Saga.undo
  cases hundo : step.compensate with
  | none => exact pairs_pure .notRequired
  | some x =>
      refine pairs_bind (hasEnded_pairs _) fun ended _ heq => ?_
      cases heq
      split
      · exact pairs_bind (count_pairs _) fun _ _ _ => pairs_pure (.failed (.same _))
      refine pairs_bind (count_pairs _) fun _ _ _ => ?_
      refine pairs_bind (h x hundo compensation) fun r r' hr => ?_
      cases hr with
      | ok _ => exact pairs_pure .compensated
      | error herror =>
          exact pairs_bind (count_pairs _) fun _ _ _ => pairs_pure (.failed herror.message)

/-- Attempted steps are undone alike, the last one first. -/
theorem unwind_pairs {steps : List (Step FlowError FlowM)} {name : String} {compensation : Context}
    {attempted attempted' : List StepOutcome}
    (h : ∀ {step}, step ∈ steps → ∀ {x}, step.compensate = some x → ρ.Does x)
    (hattempted : List.Forall₂ ρ.SameStep attempted attempted') :
    ρ.Pairs (Saga.unwind conductor name compensation (steps.zip attempted))
      (Saga.unwind conductor name compensation (steps.zip attempted'))
      (List.Forall₂ ρ.SameStep) := by
  induction steps generalizing attempted attempted' with
  | nil => exact pairs_pure .nil
  | cons step rest ih =>
      cases hattempted with
      | nil => exact pairs_pure .nil
      | cons houtcome hrest =>
          -- the later steps are undone before this one
          refine pairs_bind (ih (fun hstep => h (.tail _ hstep)) hrest) fun _ _ hundone => ?_
          refine pairs_bind (undo_pairs fun _ => h (.head _)) fun _ _ hstatus => ?_
          exact pairs_pure (.cons { houtcome with compensation := .some hstatus } hundone)

theorem SameStep.compensationFailed {o o' : StepOutcome} (h : ρ.SameStep o o') :
    o.compensationFailed = o'.compensationFailed := by
  have hcompensation := h.compensation
  unfold StepOutcome.compensationFailed
  generalize o.compensation = x at hcompensation ⊢
  generalize o'.compensation = y at hcompensation ⊢
  cases hcompensation with
  | none => rfl
  | some hstatus => cases hstatus <;> rfl

theorem unwoundState_same {outcomes outcomes' : List StepOutcome}
    (h : List.Forall₂ ρ.SameStep outcomes outcomes') :
    Saga.unwoundState outcomes = Saga.unwoundState outcomes' := by
  have hany : outcomes.any StepOutcome.compensationFailed =
      outcomes'.any StepOutcome.compensationFailed := by
    induction h with
    | nil => rfl
    | cons hstep _ ih => rw [List.any_cons, List.any_cons, hstep.compensationFailed, ih]
  unfold Saga.unwoundState
  rw [hany]

/-! ## Whole plays -/

theorem Course.enact {T P : Pairing → Prop} {saga : Saga FlowError FlowM}
    (h : Course T P saga.steps) (hP : P ρ) (operation compensation : Context) :
    ρ.Leads (saga.enact conductor operation compensation)
      (saga.enact conductor operation compensation) fun ρ' x x' => T ρ' ∧ ρ'.SameExecution x x' := by
  unfold Saga.enact
  refine leads_bind_pairs (count_pairs _) fun _ _ _ => ?_
  refine leads_bind (h.advance hP operation) fun ρ' x x' _ hx => ?_
  obtain ⟨attempted, error⟩ := x
  obtain ⟨attempted', error'⟩ := x'
  obtain ⟨hT, hattempted, herror⟩ := hx
  cases herror with
  | none =>
      refine leads_bind_pairs (count_pairs _) fun _ _ _ => ?_
      exact leads_pure ⟨hT, rfl, rfl, hattempted, .none⟩
  | some herror =>
      refine leads_bind_pairs (unwind_pairs (h.undone hT) hattempted) fun _ _ hundone => ?_
      refine leads_bind_pairs (count_pairs _) fun _ _ _ => ?_
      exact leads_pure ⟨hT, rfl, unwoundState_same hundone, hundone, .some herror⟩

end Pairing

end Wallet
