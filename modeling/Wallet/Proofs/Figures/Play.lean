import Wallet.Proofs.Figures.Parts
import Wallet.Proofs.Saga.Cut

/-!
# Plays that comply

Conducting a play makes routine calls only. So attempting steps complies with the terms if the steps do
so, and what is left of a play then complies with them if undoing its steps does.
-/

namespace Wallet

namespace Terms

open Wallet.Flow

variable {T : Terms} {α β : Type}

/-! ## Rules -/

theorem maintains_pure (a : α) : T.Maintains (pure a) := fun _ _ hs hv => ⟨hs, hv⟩

theorem maintains_bind {x : FlowM α} {f : α → FlowM β} (hx : T.Maintains x)
    (hf : ∀ a, T.Maintains (f a)) : T.Maintains (x >>= f) := by
  intro s v hs hv
  rw [StateT.run_bind, Program.guarded_bind]
  exact (hx s v hs hv).mono fun r w hend => hf r.1 r.2 w hend.1 hend.2

theorem maintains_call {c : Call} (hc : c.isRoutine = true) :
    T.Maintains (StateT.lift (Program.request c)) :=
  fun _ _ hs hv => ⟨⟨hv, T.routine hc⟩, fun t => ⟨hs, T.kept t hv (T.routine hc)⟩⟩

theorem maintains_action {part : StepM Unit} (h : T.Keeps part fun _ => True) (c : Context) :
    T.Maintains (action part c) := by
  intro s v hs hv
  unfold action
  rw [StateT.run_bind, Program.guarded_bind]
  refine (h s v hs hv).mono ?_
  rintro ⟨r, s'⟩ w ⟨⟨hs, hv⟩, -⟩
  have hreason : T.State (keepReason r s') := by
    cases r with
    | ok _ => exact hs
    | error e => exact hs.same rfl rfl rfl rfl
  exact ⟨hreason, hv⟩

/-! ## Steps -/

/-- Attempting the step complies with the terms. -/
def Forwards (T : Terms) (step : Step FlowError FlowM) : Prop :=
  ∀ c, T.Maintains (step.runForward c)

/-- Undoing the step complies with the terms. -/
def Undoes (T : Terms) (step : Step FlowError FlowM) : Prop :=
  ∀ action, step.compensate = some action → ∀ c, T.Maintains (action c)

theorem forwards_step {name : String} {part : StepM Unit} (h : T.Keeps part fun _ => True) :
    T.Forwards (step name part) :=
  maintains_action h

theorem forwards_undoableStep {name : String} {part undoing : StepM Unit}
    (h : T.Keeps part fun _ => True) : T.Forwards (undoableStep name part undoing) :=
  maintains_action h

theorem undoes_step (name : String) (part : StepM Unit) : T.Undoes (step name part) := nofun

theorem undoes_undoableStep {name : String} {part undoing : StepM Unit}
    (h : T.Keeps undoing fun _ => True) : T.Undoes (undoableStep name part undoing) := by
  rintro _ ⟨⟩
  exact maintains_action h

theorem forwards_finalSteps : ∀ step ∈ finalSteps, T.Forwards step := by
  intro step hstep
  simp only [finalSteps, List.mem_cons, List.not_mem_nil, or_false] at hstep
  rcases hstep with rfl | rfl
  · exact forwards_step keeps_confirmLedger
  · exact forwards_step keeps_successOrder

/-- Undoing any step of a payment complies with the terms. -/
theorem undoes_paymentSteps (settings : FlowSettings) (withVoucher : Bool) :
    ∀ step ∈ paymentSteps settings withVoucher, T.Undoes step := by
  intro step hstep
  simp only [paymentSteps, voucherSteps, finalSteps, List.mem_append, List.mem_cons,
    List.not_mem_nil, or_false] at hstep
  rcases hstep with (((rfl | rfl) | hvoucher) | rfl | rfl) | rfl | rfl
  · exact undoes_step _ _
  · exact undoes_undoableStep keeps_failOrder
  · cases withVoucher with
    | false => exact absurd hvoucher List.not_mem_nil
    | true =>
        obtain rfl := List.mem_singleton.mp hvoucher
        exact undoes_undoableStep keeps_reverseVoucher
  · exact undoes_undoableStep keeps_cancelLedger
  · exact undoes_step _ _
  · exact undoes_step _ _
  · exact undoes_step _ _

theorem forwards_otpSteps (settings : FlowSettings) {otp : String}
    (hbank : ∀ o, T.order o → T.permits (.bank (.verifyOtp o.id otp))) :
    ∀ step ∈ otpSteps settings otp, T.Forwards step := by
  intro step hstep
  rcases List.mem_append.mp hstep with hstep | hstep
  · simp only [List.mem_cons, List.not_mem_nil, or_false] at hstep
    rcases hstep with rfl | rfl
    · exact forwards_step keeps_loadOrder
    · exact forwards_undoableStep (keeps_verifyOtp settings hbank)
  · exact forwards_finalSteps step hstep

theorem undoes_otpSteps (settings : FlowSettings) (otp : String) :
    ∀ step ∈ otpSteps settings otp, T.Undoes step := by
  intro step hstep
  simp only [otpSteps, finalSteps, List.mem_append, List.mem_cons, List.not_mem_nil, or_false]
    at hstep
  rcases hstep with (rfl | rfl) | rfl | rfl
  · exact undoes_step _ _
  · exact undoes_undoableStep keeps_abortOtp
  · exact undoes_step _ _
  · exact undoes_step _ _

/-! ## Plays -/

theorem maintains_attempt {step : Step FlowError FlowM} (h : T.Forwards step)
    (operation : Context) : T.Maintains (Saga.attempt conductor operation step) := by
  unfold Saga.attempt
  refine maintains_bind (maintains_call rfl) fun started => ?_
  refine maintains_bind (h operation) fun result => ?_
  exact maintains_bind (maintains_call rfl) fun ended => maintains_pure _

theorem maintains_advance {steps : List (Step FlowError FlowM)}
    (h : ∀ step ∈ steps, T.Forwards step) (operation : Context) :
    T.Maintains (Saga.advance conductor operation steps) := by
  induction steps with
  | nil => exact maintains_pure _
  | cons step rest ih =>
      unfold Saga.advance
      refine maintains_bind (maintains_call rfl) fun ended => ?_
      split
      · exact maintains_pure _
      refine maintains_bind (maintains_attempt (h step List.mem_cons_self) operation) fun x => ?_
      obtain ⟨outcome, result⟩ := x
      cases result with
      | error e => exact maintains_pure _
      | ok _ =>
          exact maintains_bind (ih fun later hlater => h later (List.mem_cons_of_mem _ hlater))
            fun y => maintains_pure _

theorem maintains_undo {step : Step FlowError FlowM} (h : T.Undoes step) (saga : String)
    (compensation : Context) : T.Maintains (Saga.undo conductor saga compensation step) := by
  unfold Saga.undo
  cases hundoing : step.compensate with
  | none => exact maintains_pure _
  | some undoing =>
      refine maintains_bind (maintains_call rfl) fun ended => ?_
      split
      · exact maintains_bind (maintains_call rfl) fun _ => maintains_pure _
      refine maintains_bind (maintains_call rfl) fun _ => ?_
      refine maintains_bind (h undoing hundoing compensation) fun result => ?_
      cases result with
      | ok _ => exact maintains_pure _
      | error e => exact maintains_bind (maintains_call rfl) fun _ => maintains_pure _

theorem maintains_unwind {attempted : List (Step FlowError FlowM × StepOutcome)}
    (h : ∀ row ∈ attempted, T.Undoes row.1) (saga : String) (compensation : Context) :
    T.Maintains (Saga.unwind conductor saga compensation attempted) := by
  induction attempted with
  | nil => exact maintains_pure _
  | cons row rest ih =>
      unfold Saga.unwind
      refine maintains_bind (ih fun later hlater => h later (List.mem_cons_of_mem _ hlater))
        fun undone => ?_
      exact maintains_bind (maintains_undo (h row List.mem_cons_self) saga compensation)
        fun status => maintains_pure _

theorem maintains_conclude {saga : Saga FlowError FlowM} (h : ∀ step ∈ saga.steps, T.Undoes step)
    (compensation : Context) (x : List StepOutcome × Option (ExecutionError FlowError)) :
    T.Maintains (saga.conclude conductor compensation x) := by
  unfold Saga.conclude
  have hrecord (y : SagaState × List StepOutcome) : T.Maintains (do
      conductor.record saga.name y.2
      conductor.sample (Saga.metric "saga_duration_seconds" saga.name)
      pure (⟨saga.name, y.1, y.2, x.2⟩ : Execution FlowError)) :=
    maintains_bind (maintains_call rfl) fun _ =>
      maintains_bind (maintains_call rfl) fun _ => maintains_pure _
  obtain ⟨attempted, error⟩ := x
  cases error with
  | none =>
      refine maintains_bind (maintains_call rfl) fun _ => ?_
      exact maintains_bind (maintains_pure _) hrecord
  | some error =>
      refine maintains_bind (maintains_unwind (fun row hrow => ?_) saga.name compensation)
        fun undone => ?_
      · exact h row.1 (List.of_mem_zip hrow).1
      refine maintains_bind (maintains_call rfl) fun _ => ?_
      exact maintains_bind (maintains_pure _) hrecord

theorem maintains_play {saga : Saga FlowError FlowM} (h : ∀ step ∈ saga.steps, T.Forwards step)
    (hundoes : ∀ step ∈ saga.steps, T.Undoes step) (operation compensation : Context) :
    T.Maintains (saga.play conductor operation compensation) := by
  rw [Saga.play_eq_conclude]
  refine maintains_bind (maintains_call rfl) fun _ => ?_
  exact maintains_bind (maintains_advance h operation) fun x =>
    maintains_conclude hundoes compensation x

end Terms

end Wallet
