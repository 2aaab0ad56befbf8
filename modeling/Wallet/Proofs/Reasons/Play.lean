import Wallet.Proofs.Reasons.Parts
import Wallet.Proofs.Telling.Reachable

/-!
# What a flow is undone for

Whatever is refused while a flow is undone, its record is cancelled for the error of the step that
has failed, and so is its order failed, but for one gap (`undone_for_first_error`): if the flow was
cancelled between two steps, and its record cannot be read or cancelled, or its voucher not be given
back, the order is failed for that (`undone_for_another_error`).
-/

namespace Wallet

open Wallet.Flow

/-- The error of the step that has failed, if one has. -/
def FlowOutcome.failure? (o : FlowOutcome) : Option FlowError :=
  o.execution.error.bind ExecutionError.domainError?

/-- The call resumes an order. Then one action undoes it. -/
def FlowCall.Resumes : FlowCall → Prop
  | .pay _ _ => False
  | .resume _ _ => True

namespace Reasons

section

variable {before p : Past} {s : FlowState} {part : StepM Unit} {name : String} {B : Flow.Stage}
  {S : Stops} {settings : FlowSettings} {alone : Prop}

/-! ## The stages of a play -/

/-- What lasts is not disturbed when a play is conducted. -/
def Lasts.stage {A : FlowState → Past → Prop} (hA : Lasts A) : Flow.Stage :=
  ⟨A, fun x hc h =>
    have hunblamed := Event.unblamed_of_conducts x hc
    hA.call h hunblamed.1 hunblamed.2⟩

variable (before)

/-- Nothing has gone wrong. -/
def smooth : Flow.Stage :=
  Lasts.stage (A := Spared before none) lasts_spared

/-- Nothing has gone wrong, and the order has not failed. -/
def paying : Flow.Stage where
  Holds s p := Spared before none s p ∧ Unfailed s
  conduct x hc h := ⟨(smooth before).conduct x hc h.1, h.2⟩

def spared : Stops := fun e => Lasts.stage (A := Spared before e.domainError?) lasts_spared

def released (alone : Prop) : Stops := fun e =>
  Lasts.stage (A := Released before alone e.domainError?) lasts_released

def withdrawn (alone : Prop) : Stops := fun e =>
  Lasts.stage (A := fun _ => Withdrawn before alone e.domainError?) lasts_withdrawn

variable {before}

/-! ## The paths -/

/-- A part in which nothing goes wrong leads on, and if it fails its error is the reason. -/
theorem leads_of_spared (hB : ∀ {s p}, B s p → Spared before none s p)
    (hS : ∀ {e s p}, Spared before (some e) s p → S (.failed name e) s p)
    (h : Ensures part s p fun _ s p => B s p) : Ensures part s p (Leads B S name) := by
  refine h.mono fun r s p hr => ?_
  cases r with
  | ok u => exact hr
  | error e => exact hS ((hB hr).keep e)

theorem finalSteps_reasons :
    Path (smooth before) (spared before) finalSteps (smooth before) (spared before) :=
  Path.throughFinalSteps (B := smooth before) id
    (fun h => leads_of_spared id id (lasts_spared.confirmLedger h)) id
    fun h => leads_of_spared id id (lasts_spared.successOrder h)

theorem paymentSteps_reasons {withVoucher : Bool} :
    Path (paying before) (withdrawn before False) (paymentSteps settings withVoucher)
      (smooth before) (spared before) := by
  refine Path.throughPayment (B := paying before) (C := paying before) (D := paying before)
    (E := smooth before) (S := released before False) (fun h => h.1.withdrawn)
    (fun h => leads_of_spared And.left Spared.withdrawn (lasts_spared.initOrder h.1 h.2))
    (fun h => h.1.withdrawn)
    (fun h => leads_of_spared And.left Spared.released (lasts_spared.processOrder h.1 h.2))
    (fun h => h.1.released)
    (fun h => leads_of_spared And.left Spared.released (lasts_spared.applyVoucher h.1 h.2))
    (fun h => leads_of_spared And.left id (lasts_spared.initLedger h.1 h.2))
    (fun h => h.1) (fun h => leads_of_spared id id (lasts_spared.callBank h.1 h.2))
    Released.withdrawn (fun _ {_ _} h => failOrder_withdrawn h)
    (fun _ {_ _} h => reverseVoucher_released h) Spared.released
    (fun _ {_ _} h => cancelLedger_released h) finalSteps_reasons

theorem otpSteps_reasons {otp : String} :
    Path (smooth before) (withdrawn before True) (otpSteps settings otp) (smooth before)
      (spared before) :=
  Path.throughOtp (L := smooth before) (E := smooth before) Spared.withdrawn
    (fun h => leads_of_spared id Spared.withdrawn (lasts_spared.loadOrder h)) Spared.withdrawn
    (fun h => leads_of_spared id id (lasts_spared.verifyOtp h)) Spared.withdrawn
    (fun _ {_ _} h => abortOtp_withdrawn h) finalSteps_reasons

/-! ## Whole plays -/

theorem withdrawn_of_returned {A : Flow.Stage} {r : Except Crash FlowOutcome} {o : FlowOutcome}
    (h : Returned A (smooth before) (withdrawn before alone) r s p) (ho : r = .ok o) :
    Withdrawn before alone o.failure? p := by
  subst ho
  obtain ⟨s', _, hconcluded⟩ := h
  unfold FlowOutcome.failure?
  cases herror : o.execution.error with
  | none => exact Spared.withdrawn (hconcluded.completed herror).1
  | some e => exact hconcluded.stopped herror

/-- Every play is undone for the reasons that its outcome shows. -/
theorem always_withdrawn {registry : ClassifierRegistry} (config : FlowConfig) (call : FlowCall)
    (operation : Context) : (call.program ⟨registry, config⟩ operation).Always p fun r after =>
      ∀ o, r = .ok o → Withdrawn p call.Resumes o.failure? after := by
  have hstart {s : FlowState} (hnone : s.failureReason = none) : Spared p none s p :=
    ⟨Since.refl (List.forall_mem_nil _), hnone⟩
  cases call with
  | pay kind request =>
      have hpaying : paying p (.starting kind request) p := ⟨hstart rfl, fun _ ho => (nomatch ho)⟩
      exact (paymentSteps_reasons.flow hpaying).mono fun _ _ h _ => withdrawn_of_returned h
  | resume key otp =>
      have hresumed : smooth p (.resuming .cashIn key) p := hstart rfl
      exact (otpSteps_reasons.flow hresumed).mono fun _ _ h _ => withdrawn_of_returned h

end

end Reasons

open Reasons

section

variable {registry : ClassifierRegistry} {config : FlowConfig} {call : FlowCall}
  {operation : Context} {w w' : World} {o : FlowOutcome} {later : List Event}

/-- **A flow is undone for its first error.** Whatever world a flow is run in, and whichever of its
calls are refused: if its record is cancelled, the reason is the message of the error of the step
that has failed, or that the flow was rolled back if no step has failed. If its order is failed the
reason is the same, provided that the flow resumes an order, or that a step has failed, or that it
was not refused to read or cancel the record or to give back the voucher. -/
theorem undone_for_first_error
    (hrun : (call.program ⟨registry, config⟩ operation).Yields w (.ok o) w')
    (hlater : w'.history = w.history ++ later) :
    (∀ e ∈ later, e.CancelsFor (reasonOf o.failure?)) ∧
      (call.Resumes ∨ o.failure?.isSome = true ∨ (∀ e ∈ later, e.hinders = false) →
        ∀ e ∈ later, e.FailsFor (reasonOf o.failure?)) := by
  obtain ⟨events, hevents, hwithdraws⟩ :=
    (always_withdrawn config call operation).sound hrun o rfl
  obtain rfl : later = events := List.append_cancel_left (hlater.symm.trans hevents)
  exact ⟨hwithdraws.cancels, hwithdraws.fails⟩

/-- The first payment, when the user may give up waiting for it. -/
def bringInCancellable : Program (Except Crash FlowOutcome) :=
  bringIn.program ⟨.standard, .standard⟩ (.cancellable 0)

/-- The bank refuses the payment, and the record cannot be read when the payment is undone. The
order is failed for the refusal of the bank. -/
theorem undone_for_first_error_refused : ∃ o w e order,
    bringInCancellable.Yields .empty (.ok o) w ∧
    o.failure?.isSome = true ∧ w.history.any Event.hinders = true ∧ e ∈ w.history ∧
    e.failed? = some order ∧ order.failReason = some (reasonOf o.failure?) := by
  have hcheck : (bringInCancellable.outcomeAmid ((calm "400").set 29 .down) .empty).any (fun r =>
      r.1.failure?.isSome && r.2.history.any Event.hinders &&
        r.2.history.any fun e => e.failed?.isSome) = true := by
    decide +kernel
  obtain ⟨⟨o, w⟩, hrun, hcheck⟩ := (Option.any_eq_true _ _).mp hcheck
  simp only [Bool.and_eq_true] at hcheck
  obtain ⟨⟨hfailure, hhinders⟩, hfailed⟩ := hcheck
  obtain ⟨e, he, hfailed⟩ := List.any_eq_true.mp hfailed
  obtain ⟨order, horder⟩ := Option.isSome_iff_exists.mp hfailed
  have hrun := Program.yields_of_follow (Program.follow_of_outcomeAmid hrun)
  have hlater : w.history = World.empty.history ++ w.history := rfl
  obtain ⟨_, hfails⟩ := undone_for_first_error hrun hlater
  exact ⟨o, w, e, order, hrun, hfailure, hhinders, he, horder,
    hfails (.inr (.inl hfailure)) e he order horder⟩

/-- When the user has given up. -/
def givenUp : Moment := { Moment.fair "200" with timeline := ⟨0, [.fired]⟩ }

/-- When moreover no collaborator can be reached. -/
def cutOff : Moment := { givenUp with outage := some "service" }

/-- The user gives up before the bank is asked. No step has failed, but the record cannot be read,
and that becomes the reason why the order is failed. -/
theorem undone_for_another_error : ∃ o w e order,
    bringInCancellable.Yields .empty (.ok o) w ∧
    o.failure? = none ∧ e ∈ w.history ∧ e.failed? = some order ∧
    order.failReason = some "Service unavailable: service" ∧
    reasonOf o.failure? = "rolled back" := by
  have hcheck : (bringInCancellable.outcomeAmid
      ((calm "200").take 21 ++ (List.replicate 20 givenUp).set 3 cutOff) .empty).any (fun r =>
        r.1.failure?.isNone && r.2.history.any fun e => e.failed?.any fun order =>
          order.failReason == some "Service unavailable: service") = true := by
    decide +kernel
  obtain ⟨⟨o, w⟩, hrun, hcheck⟩ := (Option.any_eq_true _ _).mp hcheck
  rw [Bool.and_eq_true, Option.isNone_iff_eq_none] at hcheck
  obtain ⟨hnone, hfailed⟩ := hcheck
  obtain ⟨e, he, hfailed⟩ := List.any_eq_true.mp hfailed
  obtain ⟨order, horder, hreason⟩ := (Option.any_eq_true _ _).mp hfailed
  have hrun := Program.yields_of_follow (Program.follow_of_outcomeAmid hrun)
  refine ⟨o, w, e, order, hrun, hnone, he, horder, eq_of_beq hreason, ?_⟩
  rw [show o.failure? = none from hnone]
  rfl

end

end Wallet
