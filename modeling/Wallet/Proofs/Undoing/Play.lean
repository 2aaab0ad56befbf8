import Wallet.Proofs.Consistency.Reachable
import Wallet.Proofs.Flow.Path
import Wallet.Proofs.Store.Overdue
import Wallet.Proofs.Undoing.Again

/-!
# Undoing plays

Every undoing action of a play that has stopped, whatever was changed by others before it is run: what it
spares, and that running it again changes nothing.

A resumed flow has loaded an order that is linked to a record, and it stays linked, so for the second
time it is enough to know that nobody has linked the stored order to another record. That has to be known:
an undoing action goes on with the order as it was stored, and would undo the other record when it is run
again.
-/

namespace Wallet

/-- The steps of a flow. -/
def FlowCall.steps (settings : FlowSettings) : FlowCall → List (Step FlowError FlowM)
  | .pay _ request => Flow.paymentSteps settings request.voucherCode.isSome
  | .resume _ otp => Flow.otpSteps settings otp

/-- The state in which a flow starts. -/
def FlowCall.start : FlowCall → FlowState
  | .pay kind request => .starting kind request
  | .resume id _ => .resuming .cashIn id

/-- A flow plays its steps from the state in which it starts. -/
theorem FlowCall.program_eq (settings : FlowSettings) (operation : Context) (call : FlowCall) :
    ∃ name, call.program settings operation =
      Flow.play settings ⟨name, call.steps settings⟩ call.start operation := by
  cases call with
  | pay kind request => exact ⟨_, rfl⟩
  | resume id otp => exact ⟨_, rfl⟩

namespace Flow

variable {s : FlowState} {p : Past}

/-! ## Steps that have been attempted -/

/-- What every step keeps is kept as far as the steps are attempted. -/
theorem advance_keeps {A : Stage} {operation : Context} {steps : List (Step FlowError FlowM)}
    (hkeeps : ∀ step ∈ steps, ∀ {c s p}, A s p → Ends (step.runForward c) s p fun _ s p => A s p)
    (hA : A s p) :
    Ends (Saga.advance conductor operation steps) s p fun _ s p => A s p := by
  induction steps generalizing s p with
  | nil => exact hA
  | cons step rest ih =>
      unfold Saga.advance
      rw [ends_bind, ends_hasEnded]
      intro ended
      have hA := A.conduct (c := .hasEnded operation) ended trivial hA
      cases ended with
      | true => exact hA
      | false =>
          simp only [Bool.false_eq_true, if_false]
          rw [ends_bind]
          have hattempt : Ends (Saga.attempt conductor operation step) s
              (p.note (.hasEnded operation) false) (Attempted A (fun _ => A) step.name) := by
            refine ends_attempt hA fun hA => (hkeeps step (by simp) hA).mono fun r _ _ h => ?_
            cases r <;> exact h
          apply hattempt.mono
          rintro ⟨outcome, result⟩ s p ⟨_, hr⟩
          cases result with
          | error e => exact hr
          | ok u =>
              simp only [ends_bind]
              exact (ih (fun step hstep => hkeeps step (by simp [hstep])) hr).mono
                fun _ _ _ h => h

/-! ## Resumed flows -/

/-- The flow is parked, or its order is linked to a record. -/
def Abortable (s : FlowState) : Prop := s.parked = true ∨ ∃ id, s.transactionId? = some id

theorem Abortable.keepReason {r : Except FlowError Unit} (h : Abortable s) :
    Abortable (keepReason r s) := by
  cases r <;> exact h

/-- The resumed flow can be aborted between two steps. -/
def abortable : Stage := ⟨fun s _ => Abortable s, fun _ _ h => h⟩

/-- Nothing is said between two steps. -/
def anything : Stage := ⟨fun _ _ => True, fun _ _ h => h⟩

theorem hold_ensures (id : Option TransactionId)
    {Q : Except FlowError Unit → FlowState → Past → Prop} (hQ : ∀ p, Q (.ok ()) s p) :
    Ensures (hold id) s p Q := by
  unfold hold
  cases id with
  | none => exact hQ p
  | some id =>
      simp only [ensures_bind, ensures_setPending]
      exact ⟨fun _ _ => hQ _, fun _ _ _ _ _ => hQ _⟩

/-- Parking a flow leaves it parked, also when the order could not be written. -/
theorem park_abortable (reason : String) :
    Ensures (park reason) s p fun _ s _ => Abortable s := by
  unfold park
  simp only [ensures_bind, ensures_modify, ensures_order]
  refine ⟨fun _ => .inl rfl, fun order _ => ?_⟩
  apply hold_ensures
  intro p
  simp only [ensures_stored]
  refine ⟨fun _ _ => .inl rfl, fun _ => .inl rfl, fun current _ => ?_⟩
  split
  · simp only [ensures_bind, ensures_now, ensures_accept, ensures_replace, ensures_notify,
      ensures_keep, ensures_throw, OrderStore.Request.Result]
    exact fun _ => ⟨fun _ _ => .inl rfl, fun _ _ => ⟨fun _ _ => .inl rfl, fun _ _ _ => .inl rfl⟩⟩
  · exact .inl rfl

/-- An order that is resumed is linked to a record. -/
theorem loadOrder_abortable : Ensures loadOrder s p fun r s _ => match r with
    | .ok () => Abortable s
    | .error _ => True := by
  unfold loadOrder
  simp only [ensures_bind, ensures_get]
  split
  · trivial
  simp only [ensures_bind, ensures_stored, ensures_now]
  refine ⟨fun _ _ => trivial, fun _ => trivial, fun order _ now => ?_⟩
  split
  · trivial
  split
  · next hresumable =>
      unfold isResumable at hresumable
      have hlinked : order.transactionId.isSome = true := (Bool.and_eq_true_iff.mp hresumable).2
      obtain ⟨id, hid⟩ := Option.isSome_iff_exists.mp hlinked
      exact .inr ⟨id, hid⟩
  · trivial

theorem verifyOtp_abortable (settings : FlowSettings) (otp : String) (h : Abortable s) :
    Ensures (verifyOtp settings otp) s p fun _ s _ => Abortable s := by
  unfold verifyOtp
  simp only [ensures_bind, ensures_order, ensures_bank]
  refine ⟨fun _ => h, fun order _ answer => ?_⟩
  cases answer with
  | error e => exact park_abortable _
  | ok response =>
      simp only [ensures_bind, ensures_modify]
      cases settings.classifiers.classify order.provider response.code with
      | verifying => exact park_abortable _
      | _ => exact h

theorem confirmLedger_abortable (h : Abortable s) :
    Ensures confirmLedger s p fun _ s _ => Abortable s := by
  unfold confirmLedger
  simp only [ensures_bind, ensures_get]
  split
  · exact h
  · simp only [ensures_bind, ensures_transactionId, ensures_confirm]
    refine ⟨fun _ => h, fun order _ => ⟨fun _ => h, fun id _ => ⟨fun e _ => ?_, ?_⟩⟩⟩
    · exact park_abortable _
    · exact fun _ _ _ _ _ => h

theorem successOrder_abortable (h : Abortable s) :
    Ensures successOrder s p fun _ s _ => Abortable s := by
  unfold successOrder
  simp only [ensures_bind, ensures_order, ensures_get]
  refine ⟨fun _ => h, fun order horder => ?_⟩
  split
  · rw [ensures_notify]
    exact h
  · simp only [ensures_bind, ensures_now, ensures_accept, ensures_replace, ensures_notify,
      ensures_keep, OrderStore.Request.Result]
    refine fun now => ⟨fun _ _ => h, fun succeeded hsucceeded => ⟨fun _ _ => h, fun _ _ _ => ?_⟩⟩
    obtain ⟨_, rfl⟩ := Order.transition_ok hsucceeded
    rcases h with hparked | ⟨id, hlink⟩
    · exact .inl hparked
    · unfold FlowState.transactionId? at hlink
      rw [horder] at hlink
      exact .inr ⟨id, hlink⟩

/-- Once the step after loading the order has been attempted, the order is linked or parked. -/
theorem otpSteps_abortable (settings : FlowSettings) (otp : String) (operation : Context) :
    Ends (Saga.advance conductor operation (otpSteps settings otp)) s p fun r s _ =>
      2 ≤ r.1.length → Abortable s := by
  have hrest {s : FlowState} {p : Past} (h : Abortable s) :
      Ends (Saga.advance conductor operation (otpSteps settings otp).tail) s p
        fun _ s _ => Abortable s := by
    refine advance_keeps (A := abortable) (fun step hstep {c s p} h => ?_) h
    have hpart {part : StepM Unit} (hpart : Ensures part s p fun _ s _ => Abortable s) :
        Ends (action part c) s p fun _ s _ => Abortable s := by
      rw [ends_action]
      exact hpart.mono fun _ _ _ h => h.keepReason
    rcases List.mem_cons.mp hstep with rfl | hstep
    · exact hpart (verifyOtp_abortable settings otp h)
    rcases List.mem_cons.mp hstep with rfl | hstep
    · exact hpart (confirmLedger_abortable h)
    rcases List.mem_singleton.mp hstep with rfl
    exact hpart (successOrder_abortable h)
  have hsteps : otpSteps settings otp =
      step "load_order" loadOrder :: (otpSteps settings otp).tail := rfl
  rw [hsteps]
  unfold Saga.advance
  rw [ends_bind, ends_hasEnded]
  intro ended
  cases ended with
  | true => exact fun hlong => absurd hlong (by simp)
  | false =>
      simp only [Bool.false_eq_true, if_false]
      rw [ends_bind]
      have hload : Ends (Saga.attempt conductor operation (step "load_order" loadOrder)) s
          (p.note (.hasEnded operation) false)
          (Attempted abortable (fun _ => anything) "load_order") := by
        refine ends_attempt (A := anything) trivial fun _ => ?_
        refine (ends_action loadOrder operation _).mpr (loadOrder_abortable.mono fun r _ _ h => ?_)
        cases r with
        | ok u => exact h
        | error e => trivial
      apply hload.mono
      rintro ⟨outcome, result⟩ s p ⟨_, hr⟩
      cases result with
      | error e => exact fun hlong => absurd hlong (by simp)
      | ok u =>
          simp only [ends_bind]
          exact (hrest hr).mono fun _ _ _ h _ => h

/-! ## Undoing actions -/

/-- An action is its part, and its error is kept as a reason. -/
theorem run_action (part : StepM Unit) (c : Context) (s : FlowState) (v : Services) :
    v.run ((action part c).run s) =
      let r := v.run (part.run.run s)
      ((r.1.1, keepReason r.1.1 r.1.2), r.2) :=
  Program.run_bind Services.answer (part.run.run s) _ v

section

variable {settings : FlowSettings} {call : FlowCall} {operation compensation : Context}
  {w w' : World} {attempted : List StepOutcome} {error : Option (ExecutionError FlowError)}
  {step : Step FlowError FlowM} {outcome : StepOutcome} {undo : Action FlowError FlowM}
  {v : Services}

/-- The steps of a payment that can be undone. -/
theorem undoes_of_mem_paymentSteps {withVoucher : Bool}
    (hstep : step ∈ paymentSteps settings withVoucher) (hundo : step.compensate = some undo)
    (hfiled : v.orders.Filed) : ∃ part, undo = action part ∧ UndoesOnce part s v := by
  have hcases : undo = action failOrder ∨ undo = action reverseVoucher ∨
      undo = action cancelLedger := by
    simp only [paymentSteps, finalSteps, List.mem_append, List.mem_cons, List.not_mem_nil,
      or_false] at hstep
    rcases hstep with (((rfl | rfl) | hvoucher) | rfl | rfl) | rfl | rfl
    · cases hundo
    · cases hundo
      exact .inl rfl
    · unfold voucherSteps at hvoucher
      split at hvoucher
      · rw [List.mem_singleton.mp hvoucher] at hundo
        cases hundo
        exact .inr (.inl rfl)
      · cases hvoucher
    · cases hundo
      exact .inr (.inr rfl)
    all_goals cases hundo
  rcases hcases with rfl | rfl | rfl
  · exact ⟨failOrder, rfl, failOrder_undoesOnce hfiled⟩
  · exact ⟨reverseVoucher, rfl, reverseVoucher_undoesOnce⟩
  · exact ⟨cancelLedger, rfl, cancelLedger_undoesOnce⟩

/-- The only step of a resumed flow that can be undone is the one that verifies the OTP. -/
theorem undoes_of_mem_otpSteps {otp : String}
    (hattempted : (step, outcome) ∈ (otpSteps settings otp).zip attempted)
    (hundo : step.compensate = some undo) : undo = action abortOtp ∧ 2 ≤ attempted.length := by
  cases attempted with
  | nil => simp at hattempted
  | cons first rest =>
      rcases List.mem_cons.mp hattempted with hload | hattempted
      · cases hload
        cases hundo
      have hrest : 0 < rest.length := List.length_pos_of_mem (List.of_mem_zip hattempted).2
      refine ⟨?_, by simp only [List.length_cons]; omega⟩
      have hstep : step ∈ undoableStep "verify_otp" (verifyOtp settings otp) abortOtp ::
          finalSteps := (List.of_mem_zip hattempted).1
      simp only [finalSteps, List.mem_cons, List.not_mem_nil, or_false] at hstep
      rcases hstep with rfl | rfl | rfl <;> cases hundo
      rfl

/-- **Undoing spares what others have resolved, and is done once.** The forward steps of a play have led
to a state of the flow, and whatever the stores hold by then one of the attempted steps is undone. Every
resolved order and every finished or failed record stays as it is, and unless the bank has moved the
money so does every verifying order and every resolved record. When the action is run again, and nobody
has written anything in between, nothing changes but the clock, provided that nobody has linked the
stored order to another record than the flow knows. -/
theorem undoing_done_once
    (hreached : ((Saga.advance conductor operation (call.steps settings)).run call.start).Yields w
      ((attempted, error), s) w')
    (hattempted : (step, outcome) ∈ (call.steps settings).zip attempted)
    (hundo : step.compensate = some undo) (hfiled : v.orders.Filed) :
    let first := v.run ((undo compensation).run s)
    v.Spares s.bankSucceeded first.2 ∧
      (InTouch s v → ∀ (again : Context) (v₁ : Services), v₁.orders = first.2.orders →
        v₁.ledger = first.2.ledger → v₁.promotion = first.2.promotion →
          v₁.Idle (v₁.run ((undo again).run first.1.2)).2) := by
  have hpart : ∃ part, undo = action part ∧ UndoesOnce part s v := by
    cases call with
    | pay kind request =>
        exact undoes_of_mem_paymentSteps (List.of_mem_zip hattempted).1 hundo hfiled
    | resume id otp =>
        obtain ⟨rfl, hlong⟩ := undoes_of_mem_otpSteps hattempted hundo
        have hlinked := (otpSteps_abortable settings otp operation).sound hreached hlong
        exact ⟨abortOtp, rfl, abortOtp_undoesOnce hfiled hlinked⟩
  obtain ⟨part, rfl, hspares, hagain⟩ := hpart
  rw [run_action]
  refine ⟨hspares, fun htouch again v₁ horders hledger hpromotion => ?_⟩
  rw [run_action]
  exact hagain htouch v₁ horders hledger hpromotion

end

/-! ### A one-time password that is refused for good -/

/-- The call with which the one-time password of the first order is handed in. -/
def handInCall : FlowCall := .resume firstOrder "123456"

/-- The forward steps with which the one-time password of the first order is handed in, the bank
answering with a code: the world before, how the steps have ended, and the world after. -/
def handedIn (code : String) :
    Option (World × ((List StepOutcome × Option (ExecutionError FlowError)) × FlowState) × World) := do
  let w ← visited [(payIn, calm "103")]
  let forward := Saga.advance conductor .background (otpSteps ⟨.standard, .standard⟩ "123456")
  let r ← (forward.run (.resuming .cashIn firstOrder)).follow (calm code) w
  pure (w, r)

/-- Whether two steps have been attempted, and the flow knows its order as it is linked. -/
def awaitsUndoing (v : Services)
    (r : (List StepOutcome × Option (ExecutionError FlowError)) × FlowState) : Bool :=
  decide (2 ≤ r.1.1.length) && r.2.order.all fun o =>
    (v.orders.get? o.id).all fun stored => stored.transactionId == o.transactionId

/-- Who hands the password in has reached a state in which checking it can be undone. -/
theorem undoable_of_handedIn {code : String} {w w' : World} {attempted : List StepOutcome}
    {error : Option (ExecutionError FlowError)} {s : FlowState}
    (h : handedIn code = some (w, ((attempted, error), s), w')) (hlong : 2 ≤ attempted.length) :
    w.services.orders.Filed ∧
      ((Saga.advance conductor .background (handInCall.steps ⟨.standard, .standard⟩)).run
        handInCall.start).Yields w ((attempted, error), s) w' ∧
      ∃ outcome, (undoableStep "verify_otp" (verifyOtp ⟨.standard, .standard⟩ "123456") abortOtp,
        outcome) ∈ (handInCall.steps ⟨.standard, .standard⟩).zip attempted := by
  unfold handedIn at h
  simp only [Option.bind_eq_bind, Option.bind_eq_some_iff] at h
  obtain ⟨w, hvisited, r, hfollow, hr⟩ := h
  cases hr
  refine ⟨fun ho => (reachable_of_visited hvisited).consistent.filed ho,
    Program.yields_of_follow hfollow, ?_⟩
  obtain ⟨first, rest, rfl⟩ := List.exists_cons_of_length_pos (Nat.lt_of_lt_of_le (by decide) hlong)
  obtain ⟨second, rest, rfl⟩ := List.exists_cons_of_length_pos (Nat.le_of_succ_le_succ hlong)
  exact ⟨second, .tail _ (.head _)⟩

/-- The bank refuses the password for good; the order is failed and its record cancelled, and doing
so once more changes nothing. -/
theorem undoing_done_once_handIn : ∃ (s : FlowState) (v : Services) (c : Context),
    let first := v.run ((action abortOtp c).run s)
    (v.orders.get? firstOrder).map Order.status = some .processing ∧
      (first.2.orders.get? firstOrder).map Order.status = some .failed ∧
      v.Spares s.bankSucceeded first.2 ∧
      first.2.Idle (first.2.run ((action abortOtp c).run first.1.2)).2 := by
  have hcheck : (handedIn "406").any (fun (w, r, _) =>
      awaitsUndoing w.services r &&
        let first := w.services.run ((action abortOtp .background).run r.2)
        decide ((w.services.orders.get? firstOrder).map Order.status = some .processing) &&
          decide ((first.2.orders.get? firstOrder).map Order.status = some .failed)) = true := by
    decide +kernel
  obtain ⟨⟨w, ⟨⟨attempted, error⟩, s⟩, w'⟩, hrun, hends⟩ := (Option.any_eq_true _ _).mp hcheck
  simp only [Bool.and_eq_true, decide_eq_true_eq, awaitsUndoing] at hends
  obtain ⟨⟨hlong, hlinks⟩, hbefore, hafter⟩ := hends
  obtain ⟨hfiled, hreached, outcome, hattempted⟩ := undoable_of_handedIn hrun hlong
  have htouch : InTouch s w.services := by
    intro o id stored other ho hlink hstored hother
    simpa [ho, hstored, hlink, hother] using hlinks
  exact ⟨s, w.services, .background, hbefore, hafter,
    (undoing_done_once hreached hattempted rfl hfiled).1,
    (undoing_done_once hreached hattempted rfl hfiled).2 htouch _ _ rfl rfl rfl⟩

/-! ### An order that was linked anew -/

/-- A record that the flow knows nothing of. -/
def otherRecord : TransactionId := ⟨.ofNat 2⟩

/-- The services after somebody has registered another record and has replaced the first order by a
copy that is linked to it. Neither the ledger nor the order store refuses that. -/
def crossed (v : Services) : Option Services := do
  let o ← v.orders.get? firstOrder
  let t ← v.ledger.get? firstRecord
  let v := (v.answer (.ledger (.init { t with id := otherRecord }))).2
  some (v.answer (.orders (.replace { o with transactionId := some otherRecord }))).2

theorem crossed_filed {v v' : Services} (hfiled : v.orders.Filed) (h : crossed v = some v') :
    v'.orders.Filed := by
  unfold crossed at h
  simp only [Option.bind_eq_bind, Option.bind_eq_some_iff] at h
  obtain ⟨o, -, t, -, hv⟩ := h
  cases hv
  let copy : Order := { o with transactionId := some otherRecord }
  show OrderStore.Filed (v.orders.serve v.clock.tick.tick (.replace copy)).2
  rcases v.orders.serve_replace_cases v.clock.tick.tick copy with
    ⟨_, -, -, -, hreplaced⟩ | ⟨_, hrefused, -⟩
  · rw [hreplaced]
    exact OrderStore.Filed.congr (OrderStore.Filed.insert hfiled copy) rfl
  · rw [hrefused]
    exact hfiled

/-- The bank refuses the password for good, and meanwhile the stored order has been linked to another
record. Undoing cancels the record that the flow knows and fails the stored order, and goes on with it;
undoing once more, with nothing written in between, cancels the other record too. -/
theorem undoing_done_twice : ∃ (w w' : World) (attempted : List StepOutcome)
    (error : Option (ExecutionError FlowError)) (s : FlowState) (v : Services)
    (step : Step FlowError FlowM) (outcome : StepOutcome) (undo : Action FlowError FlowM)
    (c : Context),
    let first := v.run ((undo c).run s)
    let second := first.2.run ((undo c).run first.1.2)
    ((Saga.advance conductor .background (handInCall.steps ⟨.standard, .standard⟩)).run
        handInCall.start).Yields w ((attempted, error), s) w' ∧
      (step, outcome) ∈ (handInCall.steps ⟨.standard, .standard⟩).zip attempted ∧
      step.compensate = some undo ∧ v.orders.Filed ∧
      v.orders.unavailable = false ∧ v.ledger.unavailable = false ∧
      (first.2.ledger.get? otherRecord).map Transaction.status = some .processing ∧
      (second.2.ledger.get? otherRecord).map Transaction.status = some .failed ∧
      ¬ first.2.Idle second.2 := by
  have hcheck : (handedIn "406").any (fun (w, r, _) =>
      decide (2 ≤ r.1.1.length) && (crossed w.services).any fun v =>
        let first := v.run ((action abortOtp .background).run r.2)
        let second := first.2.run ((action abortOtp .background).run first.1.2)
        !v.orders.unavailable && !v.ledger.unavailable &&
          decide ((first.2.ledger.get? otherRecord).map Transaction.status = some .processing) &&
          decide ((second.2.ledger.get? otherRecord).map Transaction.status = some .failed)) =
        true := by
    decide +kernel
  obtain ⟨⟨w, ⟨⟨attempted, error⟩, s⟩, w'⟩, hrun, hends⟩ := (Option.any_eq_true _ _).mp hcheck
  simp only [Bool.and_eq_true, decide_eq_true_eq] at hends
  obtain ⟨hlong, hcrossed⟩ := hends
  obtain ⟨v, hv, hends⟩ := (Option.any_eq_true _ _).mp hcrossed
  simp only [Bool.and_eq_true, decide_eq_true_eq, Bool.not_eq_eq_eq_not, Bool.not_true] at hends
  obtain ⟨⟨⟨horders, hledger⟩, hfirst⟩, hsecond⟩ := hends
  obtain ⟨hfiled, hreached, outcome, hattempted⟩ := undoable_of_handedIn hrun hlong
  refine ⟨w, w', attempted, error, s, v, _, outcome, action abortOtp, .background, hreached,
    hattempted, rfl, crossed_filed hfiled hv, horders, hledger, hfirst, hsecond, fun hidle => ?_⟩
  unfold Services.Idle at hidle
  rw [hidle, hfirst] at hsecond
  cases hsecond

end Flow

end Wallet
