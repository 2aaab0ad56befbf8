import Wallet.Proofs.Consistency.Basic
import Wallet.Proofs.Flow.Chain
import Wallet.Proofs.Flow.Reaches
import Wallet.Proofs.World.Writes

/-!
# What endures the end of a flow

However a flow ends once the bank was asked, and whatever is done to undo it, only three things leave
a trace: the record that its order is linked to is moved on, a voucher is taken back, and the order is
written as parked, successful or failed. What endures each of these endures every part of a flow that
finishes it, parks it, completes it or undoes it.

While a payment asks the bank two more things are written on its order: the trace id of the answer, and
that a one-time password is awaited. What they need of the order is said by a second assertion.
-/

namespace Wallet

/-- What a flow may write in place of its order when it ends. -/
inductive Order.Closes (o : Order) : Order → Prop
  | parked {o' : Order} {reason : String} {now : Timestamp} :
      o.markVerifying reason now = .ok o' → Closes o o'
  | succeeded {o' : Order} {now : Timestamp} : o.succeed now = .ok o' → Closes o o'
  | settled {o' : Order} {now : Timestamp} : o.settle true none now = .ok o' → Closes o o'
  | withdrawn {o' : Order} {reason : String} {now : Timestamp} :
      o.failUnlessResolved? reason now = some o' → Closes o o'

namespace Order.Closes

variable {o o' : Order}

/-- The order is closed with another status, and nothing else that matters of it changes. -/
theorem spec (h : o.Closes o') : o'.id = o.id ∧ o'.transactionId = o.transactionId ∧
    o'.awaitingOtp = false ∧ o'.status ≠ .pending ∧ o'.status ≠ .processing := by
  cases h with
  | parked h =>
      obtain ⟨_, rfl⟩ := transitionFor_ok h
      simp
  | succeeded h =>
      obtain ⟨_, rfl⟩ := transition_ok h
      simp
  | settled h =>
      obtain ⟨_, rfl⟩ := settle_ok h
      simp
  | withdrawn h =>
      obtain ⟨_, _, rfl⟩ := failUnlessResolved?_some h
      simp

theorem id (h : o.Closes o') : o'.id = o.id := h.spec.1

theorem link (h : o.Closes o') : o'.transactionId = o.transactionId := h.spec.2.1

theorem closed (h : o.Closes o') : o'.status ≠ .processing := h.spec.2.2.2.2

end Order.Closes

/-- What a payment may write on its order when the bank has answered. -/
inductive Order.Marks (o : Order) : Order → Prop
  | traced (trace : String) (now : Timestamp) : Marks o (o.setBankTraceId trace now)
  | awaiting {o' : Order} {now : Timestamp} : o.markAwaitingOtp now = .ok o' → Marks o o'

namespace Flow

/-- Something said of the state of a flow and the gist, by which the stored order is the one of the
flow, and which endures all that ends the flow. -/
structure Endures (I : FlowState → Past → Prop) : Prop where
  held : ∀ {s g o}, I s g → s.order = some o → g.books.orders o.id = some o
  same : ∀ {s s' g}, I s g → s'.order = s.order → I s' g
  moved : ∀ {s g o id r t}, I s g → s.order = some o → o.transactionId = some id →
    r.moves? = some id → I s (g.note (.ledger r) (.ok t))
  reversed : ∀ {s g trace}, I s g → I s (g.note (.promotion (.reverse trace)) (.ok ()))
  closed : ∀ {s g o o'}, I s g → s.order = some o → o.Closes o' →
    I { s with order := some o' } (g.note (.orders (.replace o')) (.ok o'))

namespace Endures

variable {I : FlowState → Past → Prop} {s : FlowState} {g : Past} {o o' : Order}

/-! ## Parking and completing -/

theorem hold (hI : Endures I) (h : I s g) (horder : s.order = some o) :
    Reaches .any (hold o.transactionId) s g fun _ s' g => s' = s ∧ I s g := by
  unfold Flow.hold
  cases hlink : o.transactionId with
  | none => exact ⟨rfl, h⟩
  | some id =>
      simp only [reaches_bind, reaches_setPending, reaches_pure, true_and]
      constructor
      · intro _ _ _
        exact h
      · intro _ _ _ _ _
        exact hI.moved h horder hlink rfl

theorem park (hI : Endures I) (reason : String) (h : I s g) :
    Reaches .any (park reason) s g fun _ s g => I s g := by
  unfold Flow.park
  simp only [reaches_bind, reaches_modify, reaches_order]
  have h : I { s with parked := true } g := hI.same h rfl
  constructor
  · intro _
    exact h
  intro order horder
  apply (hI.hold h horder).mono
  rintro (e | u) s' g ⟨rfl, h⟩
  · exact h
  simp only [reaches_stored]
  refine ⟨fun _ _ _ => h, fun _ => h, ?_⟩
  intro current hcurrent
  -- the order is read again, and what is stored is what the flow has
  rw [hI.held h horder] at hcurrent
  cases hcurrent
  split
  · simp only [reaches_bind, reaches_now, reaches_accept, reaches_replace, reaches_notify,
      reaches_keep, reaches_throw, OrderStore.Request.Result]
    intro now
    refine ⟨fun _ _ => h, ?_⟩
    intro verifying hverifying
    refine ⟨fun _ _ _ => h, ?_⟩
    intro _ _ _
    exact hI.closed h horder (.parked hverifying)
  · exact h

theorem parkQuietly (hI : Endures I) {reason : String} (h : I s g) :
    Reaches .any (parkQuietly reason) s g fun _ s g => I s g := by
  unfold Flow.parkQuietly
  rw [reaches_tryCatch]
  apply (hI.park reason h).mono
  rintro (e | u) s g h
  · cases e <;> exact h
  · exact h

theorem writeResolved (hI : Endures I) {kind : NotificationKind} {message : String} (h : I s g)
    (horder : s.order = some o) (hcloses : o.Closes o') :
    Reaches .any (writeResolved o' kind message) s g fun _ s g => I s g := by
  unfold Flow.writeResolved
  simp only [reaches_bind, reaches_perform_replace, OrderStore.Request.Result]
  constructor
  · intro e _ _
    cases e <;> exact h
  · intro _ _ _
    simp only [reaches_notify, reaches_keep]
    exact hI.closed h horder hcloses

theorem settleOrder (hI : Endures I) (h : I s g) (horder : s.order = some o) :
    Reaches .any (settleOrder o.id) s g fun _ s g => I s g := by
  unfold Flow.settleOrder
  simp only [reaches_bind, reaches_stored]
  refine ⟨fun _ _ _ => h, fun _ => h, ?_⟩
  intro current hcurrent
  rw [hI.held h horder] at hcurrent
  cases hcurrent
  split
  · exact h
  · simp only [reaches_bind, reaches_now, reaches_accept]
    intro now
    refine ⟨fun _ _ => h, ?_⟩
    intro settled hsettled
    exact hI.writeResolved h horder (.settled hsettled)

theorem completeOrder (hI : Endures I) (h : I s g) :
    Reaches .any completeOrder s g fun _ s g => I s g := by
  unfold Flow.completeOrder
  simp only [reaches_bind, reaches_order, reaches_transactionId, reaches_findRecord]
  refine ⟨fun _ => h, ?_⟩
  intro order horder
  refine ⟨fun _ => h, ?_⟩
  intro linked hlinked
  obtain rfl : order = linked := by simpa [horder] using hlinked
  refine ⟨fun _ => h, ?_⟩
  intro id hlink
  refine ⟨fun _ _ _ => h, ?_⟩
  intro record _
  split
  · exact hI.settleOrder h horder
  · simp only [reaches_bind, reaches_confirm]
    constructor
    · intro e _ _
      exact hI.parkQuietly h
    · intro t' t _ now _
      exact hI.settleOrder (hI.moved h horder hlink rfl) horder

/-! ## Undoing -/

theorem failOrder (hI : Endures I) (h : I s g) :
    Reaches .any failOrder s g fun _ s g => I s g := by
  unfold Flow.failOrder
  simp only [reaches_bind, reaches_get]
  split
  · exact h
  split
  · exact hI.completeOrder h
  cases horder : s.order with
  | none => exact h
  | some order =>
      simp only [reaches_bind, reaches_find, OrderStore.Request.Result, hI.held h horder,
        reaches_now]
      refine ⟨fun _ _ _ => h, ?_⟩
      intro now
      cases hfailed : order.failUnlessResolved? s.rollbackReason now with
      | none => exact h
      | some failed => exact hI.writeResolved h horder (.withdrawn hfailed)

theorem reverseVoucher (hI : Endures I) (h : I s g) :
    Reaches .any reverseVoucher s g fun _ s g => I s g := by
  unfold Flow.reverseVoucher
  simp only [reaches_bind, reaches_get]
  split
  · exact h
  cases s.order with
  | none => exact h
  | some order =>
      simp only [reaches_reverse]
      constructor
      · intro _ _
        exact h
      · exact hI.reversed h

theorem cancelIfInitial (hI : Endures I) {id : TransactionId} (h : I s g)
    (horder : s.order = some o) (hlink : o.transactionId = some id) :
    Reaches .any (cancelIfInitial id) s g fun _ s g => I s g := by
  unfold Flow.cancelIfInitial
  simp only [reaches_bind, reaches_findRecord]
  refine ⟨fun _ _ _ => h, ?_⟩
  intro record _
  split
  · simp only [reaches_bind, reaches_get, reaches_cancel, reaches_pure]
    constructor
    · intro _ _ _
      exact h
    · intro _ _ _ _ _
      exact hI.moved h horder hlink rfl
  · exact h

theorem linked_of_transactionId? {id : TransactionId} (h : s.transactionId? = some id) :
    ∃ o, s.order = some o ∧ o.transactionId = some id :=
  Option.bind_eq_some_iff.mp h

theorem cancelLedger (hI : Endures I) (h : I s g) :
    Reaches .any cancelLedger s g fun _ s g => I s g := by
  unfold Flow.cancelLedger
  simp only [reaches_bind, reaches_get]
  split
  · exact h
  cases hid : s.transactionId? with
  | none => exact h
  | some id =>
      obtain ⟨o, horder, hlink⟩ := linked_of_transactionId? hid
      exact hI.cancelIfInitial h horder hlink

theorem abortOtp (hI : Endures I) (h : I s g) :
    Reaches .any abortOtp s g fun _ s g => I s g := by
  unfold Flow.abortOtp
  simp only [reaches_bind, reaches_get]
  split
  · exact h
  split
  · exact hI.completeOrder h
  cases hid : s.transactionId? with
  | none => exact hI.failOrder h
  | some id =>
      obtain ⟨o, horder, hlink⟩ := linked_of_transactionId? hid
      rw [reaches_bind]
      apply (hI.cancelIfInitial h horder hlink).mono
      rintro (e | u) s g h
      · exact h
      · exact hI.failOrder h

/-! ## After the bank was asked -/

theorem confirmLedger (hI : Endures I) (h : I s g) :
    Reaches .any confirmLedger s g fun _ s g => I s g := by
  unfold Flow.confirmLedger
  simp only [reaches_bind, reaches_get]
  split
  · exact h
  simp only [reaches_bind, reaches_transactionId, reaches_confirm]
  refine ⟨fun _ => h, ?_⟩
  intro order horder
  refine ⟨fun _ => h, ?_⟩
  intro id hlink
  constructor
  · intro e _ _
    exact hI.park _ h
  · intro _ _ _ _ _
    exact hI.moved h horder hlink rfl

theorem successOrder (hI : Endures I) (h : I s g) :
    Reaches .any successOrder s g fun _ s g => I s g := by
  unfold Flow.successOrder
  simp only [reaches_bind, reaches_order, reaches_get]
  refine ⟨fun _ => h, ?_⟩
  intro order horder
  split
  · simp only [reaches_notify]
    exact h
  · simp only [reaches_bind, reaches_now, reaches_accept, reaches_replace, reaches_notify,
      reaches_keep, OrderStore.Request.Result]
    intro now
    refine ⟨fun _ _ => h, ?_⟩
    intro succeeded hsucceeded
    refine ⟨fun _ _ _ => h, ?_⟩
    intro _ _ _
    exact hI.closed h horder (.succeeded hsucceeded)

end Endures

/-! ## While the bank is asked -/

/-- Something said of a flow that asks the bank, by which `I` holds. -/
structure Handles (B I : FlowState → Past → Prop) : Prop where
  endures : Endures I
  eases : ∀ {s g}, B s g → I s g
  same : ∀ {s s' g}, B s g → s'.order = s.order → B s' g
  asked : ∀ {s g o r} (x : Except ServiceError ProviderResponse), B s g → s.order = some o →
    r.orderId = o.id → B s (g.note (.bank r) x)
  marked : ∀ {s g o o'}, B s g → s.order = some o → o.Marks o' →
    B { s with order := some o' } (g.note (.orders (.replace o')) (.ok o'))

namespace Handles

variable {B I : FlowState → Past → Prop} {settings : FlowSettings} {s : FlowState} {g : Past}

theorem handleAnswer (hB : Handles B I) {response : ProviderResponse} (h : B s g) :
    Reaches .any (handleAnswer settings response) s g fun _ s g => I s g := by
  unfold Flow.handleAnswer
  simp only [reaches_bind, reaches_order, reaches_modify]
  refine ⟨fun _ => hB.eases h, ?_⟩
  intro order horder
  generalize settings.classifiers.classify order.provider response.code = outcome
  have h : B { s with outcome := some outcome } g := hB.same h rfl
  cases outcome.kind with
  | success => exact hB.eases h
  | pending => exact hB.endures.park response.reason (hB.eases h)
  | failure => exact hB.eases h
  | needsAuth =>
      simp only [reaches_bind, reaches_get]
      split
      · simp only [reaches_bind, reaches_now, reaches_accept, reaches_store, reaches_modify]
        intro now
        refine ⟨fun _ _ => hB.eases h, ?_⟩
        intro awaiting hawaiting
        refine ⟨fun _ _ _ => hB.eases h, ?_⟩
        intro _ _ _
        have hmarked := hB.marked h horder (.awaiting hawaiting)
        exact hB.eases (hB.same hmarked rfl)
      · exact hB.eases h

theorem callBank (hB : Handles B I) (h : B s g) :
    Reaches .any (callBank settings) s g fun _ s g => I s g := by
  unfold Flow.callBank
  simp only [reaches_bind, reaches_order, reaches_request, reaches_get, reaches_bank]
  refine ⟨fun _ => hB.eases h, ?_⟩
  intro order horder
  refine ⟨fun _ => hB.eases h, ?_⟩
  intro payment _
  generalize hcall : s.kind.bankCall _ = call
  have hid : call.orderId = order.id := by
    rw [← hcall]
    cases s.kind <;> rfl
  constructor
  · intro e _
    have h := hB.asked (.error e) h horder hid
    cases e with
    | rejected reason => exact hB.eases h
    | _ => exact hB.endures.park _ (hB.eases h)
  · intro response
    have h := hB.asked (.ok response) h horder hid
    unfold keepTrace
    cases response.traceId with
    | none => exact hB.handleAnswer h
    | some trace =>
        simp only [reaches_bind, reaches_now, reaches_store]
        intro now
        refine ⟨fun _ _ _ => hB.eases h, ?_⟩
        intro _ _ _
        exact hB.handleAnswer (hB.marked h horder (.traced trace now))

end Handles

theorem Endures.verifyOtp {I : FlowState → Past → Prop} (hI : Endures I) {settings : FlowSettings}
    {otp : String} {s : FlowState} {g : Past} (h : I s g)
    (hasked : ∀ o x, s.order = some o → I s (g.note (.bank (.verifyOtp o.id otp)) x)) :
    Reaches .any (verifyOtp settings otp) s g fun _ s g => I s g := by
  unfold Flow.verifyOtp
  simp only [reaches_bind, reaches_order, reaches_bank]
  refine ⟨fun _ => h, ?_⟩
  intro order horder
  have hasked := fun x => hasked order x horder
  refine ⟨fun e _ => hI.park _ (hasked (.error e)), ?_⟩
  intro response
  simp only [reaches_modify]
  generalize settings.classifiers.classify order.provider response.code = outcome
  have h : I { s with outcome := some outcome }
      (g.note (.bank (.verifyOtp order.id otp)) (.ok response)) := hI.same (hasked _) rfl
  cases outcome with
  | success => exact h
  | verifying => exact hI.park response.reason h
  | wrongOtp | needsOtp => exact hI.same h rfl
  | _ => exact h

/-! ## Whole plays -/

/-- Conducting a play does not disturb what is said of gists alone. -/
def onGist (Holds : FlowState → Past → Prop)
    (hreason : ∀ {s : FlowState} {g : Past} (reason : Option String), Holds s g →
      Holds { s with failureReason := reason } g) : Assertion where
  Holds s p := Holds s p.gist
  conduct {_ _ c} x hc h := by
    rw [Past.gist_note]
    cases c <;> first | exact h | cases hc
  reason r h := hreason r h

section

variable {part : StepM Unit} {s : FlowState} {p : Past} {B R : FlowState → Past → Prop}

theorem Reaches.either (h : Reaches .any part s p.gist (Either B R)) :
    Ensures part s p (Either (fun s p => B s p.gist) fun s p => R s p.gist) :=
  h.ensures_any.mono fun r _ _ h => by cases r <;> exact h

theorem Reaches.both (h : Reaches .any part s p.gist fun _ s g => R s g) :
    Ensures part s p (Either (fun s p => R s p.gist) fun s p => R s p.gist) :=
  h.ensures_any.mono fun r _ _ h => by cases r <;> exact h

end

namespace Endures

variable {I : FlowState → Past → Prop}

/-- What endures the end of a flow, between two steps. -/
def assertion (hI : Endures I) : Assertion := onGist I fun _ h => hI.same h rfl

theorem finalSteps (hI : Endures I) :
    Chain hI.assertion hI.assertion finalSteps hI.assertion hI.assertion :=
  .finalSteps (E := hI.assertion) id id (fun h => (hI.confirmLedger h).both)
    fun h => (hI.successOrder h).ensures_any

/-- A payment keeps what endures its end, if its steps up to the bank's answer do. -/
theorem paymentSteps (hI : Endures I) {A B C : Assertion} {settings : FlowSettings}
    {withVoucher : Bool} (hopened : ∀ {s p}, A s p → I s p.gist)
    (hunderway : ∀ {s p}, B s p → I s p.gist) (hregistered : ∀ {s p}, C s p → I s p.gist)
    (hinit : ∀ {s p}, A s p → Ensures (initOrder settings) s p fun _ s p => A s p)
    (hprocess : ∀ {s p}, A s p → Ensures processOrder s p (Either B hI.assertion))
    (hvoucher : ∀ {s p}, B s p → Ensures applyVoucher s p fun _ s p => B s p)
    (hledger : ∀ {s p}, B s p → Ensures initLedger s p (Either C hI.assertion))
    (hbank : ∀ {s p}, C s p → Ensures (callBank settings) s p fun _ s p => I s p.gist) :
    Chain A hI.assertion (paymentSteps settings withVoucher) hI.assertion hI.assertion :=
  .paymentSteps (D := hI.assertion) hopened hunderway hregistered hinit hprocess hvoucher hledger
    (fun h => (hbank h).either id) (fun h => (hI.failOrder h).ensures_any)
    (fun h => (hI.reverseVoucher h).ensures_any) (fun h => (hI.cancelLedger h).ensures_any)
    hI.finalSteps

/-- A cash-in that is resumed keeps what endures its end, if its steps up to the bank's answer do. -/
theorem otpSteps (hI : Endures I) {A L : Assertion} {settings : FlowSettings} {otp : String}
    (hresumed : ∀ {s p}, A s p → I s p.gist) (hloaded : ∀ {s p}, L s p → I s p.gist)
    (hload : ∀ {s p}, A s p → Ensures loadOrder s p (Either L hI.assertion))
    (hverify : ∀ {s p}, L s p →
      Ensures (Flow.verifyOtp settings otp) s p fun _ s p => I s p.gist) :
    Chain A hI.assertion (otpSteps settings otp) hI.assertion hI.assertion :=
  .otpSteps (D := hI.assertion) hresumed hloaded id hload (fun h => (hverify h).either id)
    (fun h => (hI.abortOtp h).ensures_any) hI.finalSteps

end Endures

end Flow

end Wallet
