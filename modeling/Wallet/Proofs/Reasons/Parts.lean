import Wallet.Proofs.Changes
import Wallet.Proofs.Reasons.Basic

/-!
# Reasons in the parts of a flow

Up to the point where it is undone, and also when it is parked or completed, a flow fails no order
and cancels no record. So all that lasts without that lasts through these parts. Of the undoing
actions there is one lemma each, for what holds before it and after it.
-/

namespace Wallet.Reasons

open Wallet.Flow

section

variable {before p : Past} {alone : Prop} {why : Option FlowError} {s s' : FlowState}
  {o o' : Order} {c : Call} {x : c.Answer} {A : FlowState → Past → Prop} {settings : FlowSettings}
  {reason message : String}

/-- The order of the flow has not failed. -/
def Unfailed (s : FlowState) : Prop := ∀ o, s.order = some o → o.status ≠ .failed

namespace Lasts

/-! ## Parking and completing -/

theorem hold (hA : Lasts A) (h : A s p) (link : Option TransactionId) :
    Ensures (hold link) s p fun _ s p => A s p := by
  unfold Flow.hold
  cases link with
  | none => exact h
  | some id =>
      simp only [ensures_bind, ensures_setPending, ensures_pure]
      exact ⟨fun _ _ => hA.call h rfl rfl,
        fun _ _ _ _ _ => hA.call h rfl rfl⟩

/-- The order is filed with another status than that of a failed one, and the user is told. -/
theorem file (hA : Lasts A) (h : A s p) (hstatus : o'.status ≠ .failed) (n : Notification)
    (horder : s'.failureReason = s.failureReason) :
    A s' ((p.note (.orders (.replace o')) (.ok o')).note (.submit n) ()) :=
  hA.same (hA.call (hA.call h rfl (Event.failed?_replace hstatus)) rfl rfl) horder

theorem park (hA : Lasts A) (h : A s p) : Ensures (park reason) s p fun _ s p => A s p := by
  unfold Flow.park
  simp only [ensures_bind, ensures_modify, ensures_order]
  have h : A { s with parked := true } p := hA.same h rfl
  refine ⟨fun _ => h, fun order _ => (hA.hold h _).mono ?_⟩
  rintro (e | u) s p h
  · exact h
  simp only [ensures_stored]
  refine ⟨fun e _ => hA.call h rfl rfl,
    fun _ => hA.call h rfl rfl, fun current hcurrent => ?_⟩
  have h := hA.found h order.id (some current)
  split
  · simp only [ensures_bind, ensures_now, ensures_accept, ensures_replace, ensures_notify,
      ensures_keep, ensures_throw, OrderStore.Request.Result]
    intro now
    have h := hA.now h now
    refine ⟨fun e _ => h, fun verifying hverifying => ?_⟩
    obtain ⟨_, rfl⟩ := Order.transitionFor_ok hverifying
    exact ⟨fun e _ => hA.call h rfl rfl,
      fun _ _ _ => hA.file h (by simp) _ rfl⟩
  · exact h

theorem parkQuietly (hA : Lasts A) (h : A s p) :
    Ensures (parkQuietly reason) s p fun _ s p => A s p := by
  unfold Flow.parkQuietly
  rw [ensures_tryCatch]
  apply (hA.park h).mono
  rintro (e | u) s p h
  · cases e <;> exact h
  · exact h

theorem settleOrder (hA : Lasts A) (h : A s p) (key : OrderId) :
    Ensures (settleOrder key) s p fun _ s p => A s p := by
  unfold Flow.settleOrder
  simp only [ensures_bind, ensures_stored]
  refine ⟨fun e _ => hA.call h rfl rfl,
    fun _ => hA.call h rfl rfl, fun current _ => ?_⟩
  have h := hA.found h key (some current)
  split
  · exact h
  · simp only [ensures_bind, ensures_now, ensures_accept]
    intro now
    have h := hA.now h now
    refine ⟨fun e _ => h, fun settled hsettled => ?_⟩
    obtain ⟨_, rfl⟩ := Order.settle_ok hsettled
    unfold writeResolved
    simp only [ensures_bind, ensures_perform_replace, OrderStore.Request.Result]
    refine ⟨fun e _ => ?_, fun _ _ _ => ?_⟩
    · cases e <;> exact hA.call h rfl rfl
    · simp only [ensures_notify, ensures_keep]
      exact hA.file h (by simp) _ rfl

theorem completeOrder (hA : Lasts A) (h : A s p) :
    Ensures completeOrder s p fun _ s p => A s p := by
  unfold Flow.completeOrder
  simp only [ensures_bind, ensures_order, ensures_transactionId, ensures_findRecord]
  refine ⟨fun _ => h, fun order _ => ⟨fun _ => h, fun linked _ => ⟨fun _ => h, fun id _ =>
    ⟨fun e _ => hA.call h rfl rfl, fun record _ => ?_⟩⟩⟩⟩
  have h := hA.call (c := .ledger (.find id)) (x := .ok record) h rfl rfl
  split
  · exact hA.settleOrder h _
  · simp only [ensures_bind, ensures_confirm]
    exact ⟨fun e _ => hA.parkQuietly (hA.call h rfl rfl),
      fun _ _ _ _ _ => hA.settleOrder (hA.call h rfl rfl) _⟩

/-! ## The last steps -/

theorem confirmLedger (hA : Lasts A) (h : A s p) :
    Ensures confirmLedger s p fun _ s p => A s p := by
  unfold Flow.confirmLedger
  simp only [ensures_bind, ensures_get]
  split
  · exact h
  · simp only [ensures_bind, ensures_transactionId, ensures_confirm]
    exact ⟨fun _ => h, fun _ _ => ⟨fun _ => h, fun _ _ =>
      ⟨fun _ _ => hA.park (hA.call h rfl rfl),
        fun _ _ _ _ _ => hA.call h rfl rfl⟩⟩⟩

theorem successOrder (hA : Lasts A) (h : A s p) :
    Ensures successOrder s p fun _ s p => A s p := by
  unfold Flow.successOrder
  simp only [ensures_bind, ensures_order, ensures_get]
  refine ⟨fun _ => h, fun order _ => ?_⟩
  split
  · simp only [ensures_notify]
    exact hA.call h rfl rfl
  · simp only [ensures_bind, ensures_now, ensures_accept, ensures_replace, ensures_notify,
      ensures_keep, OrderStore.Request.Result]
    intro now
    have h := hA.now h now
    refine ⟨fun e _ => h, fun succeeded hsucceeded => ?_⟩
    obtain ⟨_, rfl⟩ := Order.transition_ok hsucceeded
    exact ⟨fun e _ => hA.call h rfl rfl,
      fun _ _ _ => hA.file h (by simp) _ rfl⟩

/-! ## Resuming -/

theorem loadOrder (hA : Lasts A) (h : A s p) : Ensures loadOrder s p fun _ s p => A s p := by
  unfold Flow.loadOrder
  simp only [ensures_bind, ensures_get]
  cases s.resume with
  | none => exact h
  | some key =>
      simp only [ensures_bind, ensures_stored, ensures_now]
      refine ⟨fun e _ => hA.call h rfl rfl,
        fun _ => hA.call h rfl rfl, fun o _ now => ?_⟩
      have h := hA.now (hA.found h key (some o)) now
      split
      · exact h
      split
      · exact hA.same h rfl
      · exact h

theorem verifyOtp (hA : Lasts A) {otp : String} (h : A s p) :
    Ensures (verifyOtp settings otp) s p fun _ s p => A s p := by
  unfold Flow.verifyOtp
  simp only [ensures_bind, ensures_order, ensures_bank]
  refine ⟨fun _ => h, fun order _ x => ?_⟩
  have h := hA.call (c := .bank (.verifyOtp order.id otp)) (x := x) h rfl rfl
  cases x with
  | error e => exact hA.park h
  | ok response =>
      simp only [ensures_bind, ensures_modify]
      generalize settings.classifiers.classify order.provider response.code = outcome
      cases outcome with
      | verifying => exact hA.park (hA.same h rfl)
      | _ => exact hA.same h rfl

/-! ## Paying -/

theorem handleAnswer (hA : Lasts A) {response : ProviderResponse} (h : A s p) :
    Ensures (handleAnswer settings response) s p fun _ s p => A s p := by
  unfold Flow.handleAnswer
  simp only [ensures_bind, ensures_order, ensures_modify]
  refine ⟨fun _ => h, fun order _ => ?_⟩
  generalize settings.classifiers.classify order.provider response.code = outcome
  have h : A { s with outcome := some outcome } p := hA.same h rfl
  cases outcome.kind with
  | success => exact h
  | pending => exact hA.park h
  | failure => exact h
  | needsAuth =>
      simp only [ensures_bind, ensures_get]
      split
      · simp only [ensures_bind, ensures_now, ensures_accept, ensures_store, ensures_modify]
        intro now
        have h := hA.now h now
        refine ⟨fun e _ => h, fun awaiting hawaiting => ?_⟩
        obtain ⟨hprocessing, rfl⟩ := Order.markAwaitingOtp_ok hawaiting
        refine ⟨fun e _ => hA.call h rfl rfl, fun _ _ _ => ?_⟩
        exact hA.same (hA.call h rfl (Event.failed?_replace (by simp [hprocessing]))) rfl
      · exact h

theorem initOrder (hA : Lasts A) (h : A s p) (hunfailed : Unfailed s) :
    Ensures (initOrder settings) s p fun _ s p => A s p ∧ Unfailed s := by
  unfold Flow.initOrder
  simp only [ensures_bind, ensures_get, ensures_request]
  refine ⟨fun _ => ⟨h, hunfailed⟩, fun request _ => ?_⟩
  split
  · exact ⟨h, hunfailed⟩
  split
  · exact ⟨h, hunfailed⟩
  simp only [ensures_bind, ensures_now, ensures_freshOrderId, ensures_create, ensures_keep,
    OrderStore.Request.Result]
  intro now key
  have h := hA.now h now
  have h := hA.call (c := .freshOrderId) (x := key) h rfl rfl
  refine ⟨fun e _ => ⟨hA.call h rfl rfl, hunfailed⟩, fun _ => ⟨hA.same (hA.call h rfl rfl) rfl, ?_⟩⟩
  rintro _ ⟨⟩ ⟨⟩

theorem processOrder (hA : Lasts A) (h : A s p) (hunfailed : Unfailed s) :
    Ensures processOrder s p fun _ s p => A s p ∧ Unfailed s := by
  unfold Flow.processOrder
  simp only [ensures_bind, ensures_order, ensures_now, ensures_accept, ensures_process,
    ensures_keep, OrderStore.Request.Result]
  refine ⟨fun _ => ⟨h, hunfailed⟩, fun order _ now => ?_⟩
  have h := hA.now h now
  refine ⟨fun e _ => ⟨h, hunfailed⟩, fun started hstarted => ?_⟩
  have hprocessing : started.status ≠ .failed := by
    obtain ⟨_, rfl⟩ := Order.transition_ok hstarted
    simp
  refine ⟨fun e _ => ⟨hA.call h rfl rfl, hunfailed⟩, fun _ _ _ => ⟨?_, ?_⟩⟩
  · exact hA.same (hA.call h rfl (if_neg hprocessing)) rfl
  · rintro _ ⟨⟩
    exact hprocessing

theorem applyVoucher (hA : Lasts A) (h : A s p) (hunfailed : Unfailed s) :
    Ensures applyVoucher s p fun _ s p => A s p ∧ Unfailed s := by
  unfold Flow.applyVoucher
  simp only [ensures_bind, ensures_get]
  cases s.request.bind PaymentRequest.voucherCode with
  | none => exact ⟨h, hunfailed⟩
  | some code =>
      simp only [ensures_bind, ensures_order, ensures_useVoucher, Promotion.Request.Result]
      refine ⟨fun _ => ⟨h, hunfailed⟩, fun order _ x => ?_⟩
      have h := hA.call (c := .promotion (.useVoucher code order.userId (voucherTrace order)
        order.amount)) (x := x) h rfl rfl
      cases x with
      | ok discount => exact ⟨hA.same h rfl, hunfailed⟩
      | error e => exact ⟨h, hunfailed⟩

/-- Another version of the order is stored, with the same status. -/
theorem rewrite (hA : Lasts A) (h : A s p) (hunfailed : Unfailed s) (horder : s.order = some o)
    (hstatus : o'.status = o.status) :
    A { s with order := some o' } (p.note (.orders (.replace o')) (.ok o')) ∧
      Unfailed { s with order := some o' } := by
  have ho' : o'.status ≠ .failed := hstatus ▸ hunfailed o horder
  refine ⟨hA.same (hA.call h rfl (Event.failed?_replace ho')) rfl, ?_⟩
  rintro _ ⟨⟩
  exact ho'

theorem initLedger (hA : Lasts A) (h : A s p) (hunfailed : Unfailed s) :
    Ensures initLedger s p fun _ s p => A s p ∧ Unfailed s := by
  unfold Flow.initLedger
  simp only [ensures_bind, ensures_order, ensures_get, ensures_freshTransactionId, ensures_now,
    ensures_init, ensures_accept, ensures_store]
  refine ⟨fun _ => ⟨h, hunfailed⟩, fun order horder id _ now => ?_⟩
  generalize intent s.kind s.discount order id now = t
  have h := hA.now (hA.call (c := .freshTransactionId) (x := id) h rfl rfl) now
  refine ⟨fun e _ => ⟨hA.call h rfl rfl, hunfailed⟩, fun linkedAt => ?_⟩
  have h := hA.now (hA.call (c := .ledger (.init t)) (x := .ok t) h rfl rfl) linkedAt
  refine ⟨fun e _ => ⟨h, hunfailed⟩, fun linked hlinked => ?_⟩
  have hstatus : linked.status = order.status := by
    obtain ⟨_, rfl⟩ := Order.linkTransaction_ok hlinked
    rfl
  exact ⟨fun e _ => ⟨hA.call h rfl rfl, hunfailed⟩,
    fun _ _ _ => hA.rewrite h hunfailed horder hstatus⟩

theorem keepTrace (hA : Lasts A) {response : ProviderResponse} (h : A s p) (hunfailed : Unfailed s)
    (horder : s.order = some o) : Ensures (keepTrace o response) s p fun _ s p => A s p := by
  unfold Flow.keepTrace
  cases response.traceId with
  | none => exact h
  | some trace =>
      simp only [ensures_bind, ensures_now, ensures_store]
      intro now
      have h := hA.now h now
      have hstatus : (o.setBankTraceId trace now).status = o.status := rfl
      exact ⟨fun e _ => hA.call h rfl rfl, fun _ _ _ => (hA.rewrite h hunfailed horder hstatus).1⟩

theorem callBank (hA : Lasts A) (h : A s p) (hunfailed : Unfailed s) :
    Ensures (callBank settings) s p fun _ s p => A s p := by
  unfold Flow.callBank
  simp only [ensures_bind, ensures_order, ensures_request, ensures_get, ensures_bank]
  refine ⟨fun _ => h, fun order horder => ⟨fun _ => h, fun payment _ x => ?_⟩⟩
  generalize s.kind.bankCall _ = call
  have h := hA.call (c := .bank call) (x := x) h rfl rfl
  cases x with
  | error e =>
      cases e with
      | rejected reason => exact h
      | _ => exact hA.park h
  | ok response =>
      simp only [ensures_bind]
      apply (hA.keepTrace h hunfailed horder).mono
      rintro (e | u) s p h
      · exact h
      · exact hA.handleAnswer h

end Lasts

/-! ## Undoing -/

/-- Once the record was to be cancelled. -/
def Cancelled (before : Past) (why : Option FlowError) (r : Except FlowError Unit) (s : FlowState)
    (p : Past) : Prop :=
  match r with
  | .ok () => Released before True why s p
  | .error e => Released before False why (keepReason (.error e) s) p

theorem cancelIfInitial_cancelled (h : Spared before why s p) (id : TransactionId) :
    Ensures (cancelIfInitial id) s p (Cancelled before why) := by
  unfold cancelIfInitial
  simp only [ensures_bind, ensures_findRecord]
  refine ⟨fun e _ => h.released.hindered rfl _, fun record _ => ?_⟩
  have h := lasts_spared.call (c := .ledger (.find id)) (x := .ok record) h rfl rfl
  split
  · simp only [ensures_bind, ensures_get, ensures_cancel, ensures_pure]
    refine ⟨fun e _ => h.released.hindered rfl _, fun t' t _ now hcancel => ?_⟩
    obtain ⟨_, rfl⟩ := Transaction.fail_ok (Transaction.cancel_ok hcancel).2
    exact Spared.cancel h rfl
  · exact h.released

theorem cancelLedger_released (h : Spared before why s p) :
    Ensures cancelLedger s p fun r s p => Released before False why (keepReason r s) p := by
  unfold cancelLedger
  simp only [ensures_bind, ensures_get]
  split
  · exact h.released
  cases s.transactionId? with
  | none => exact h.released
  | some id =>
      apply (cancelIfInitial_cancelled h id).mono
      intro r s p h
      cases r with
      | ok u => exact Released.of_alone h
      | error e => exact h

theorem reverseVoucher_released (h : Released before False why s p) :
    Ensures reverseVoucher s p fun r s p => Released before False why (keepReason r s) p := by
  unfold reverseVoucher
  simp only [ensures_bind, ensures_get]
  split
  · exact h
  cases s.order with
  | none => exact h
  | some order =>
      simp only [ensures_reverse]
      intro x
      cases x with
      | ok u => exact lasts_released.call h rfl rfl
      | error e => exact h.hindered rfl _

theorem writeResolved_withdrawn {kind : NotificationKind} (h : Released before alone why s p)
    (ho : o.failReason = some s.rollbackReason) :
    Ensures (writeResolved o kind message) s p fun _ _ p => Withdrawn before alone why p := by
  unfold writeResolved
  simp only [ensures_bind, ensures_perform_replace, OrderStore.Request.Result]
  refine ⟨fun e _ => ?_, fun _ _ _ => ?_⟩
  · have h := lasts_released.call (c := .orders (.replace o)) (x := .error e) h rfl rfl
    cases e <;> exact Released.withdrawn h
  · simp only [ensures_notify, ensures_keep]
    exact lasts_withdrawn.call (s := s) (h.withdraw ho) rfl rfl

theorem failOrder_withdrawn (h : Released before alone why s p) :
    Ensures failOrder s p fun _ _ p => Withdrawn before alone why p := by
  unfold failOrder
  simp only [ensures_bind, ensures_get]
  split
  · exact h.withdrawn
  split
  · exact (lasts_released.completeOrder h).mono fun _ _ _ h => Released.withdrawn h
  cases s.order with
  | none => exact h.withdrawn
  | some order =>
      simp only [ensures_bind, ensures_find, OrderStore.Request.Result]
      refine ⟨fun e _ => (lasts_released.call h rfl rfl).withdrawn, ?_⟩
      generalize p.books.orders order.id = stored
      have h := lasts_released.found h order.id stored
      cases stored with
      | none => exact h.withdrawn
      | some current =>
          simp only [ensures_bind, ensures_now]
          intro now
          have h := lasts_released.now h now
          cases hfailed : current.failUnlessResolved? s.rollbackReason now with
          | none => exact h.withdrawn
          | some failed =>
              obtain ⟨_, _, rfl⟩ := Order.failUnlessResolved?_some hfailed
              exact writeResolved_withdrawn h rfl

/-- Undoing the entering of a one-time password is one action, whose own error is no reason. -/
theorem abortOtp_withdrawn (h : Spared before why s p) :
    Ensures abortOtp s p fun _ _ p => Withdrawn before True why p := by
  unfold abortOtp
  simp only [ensures_bind, ensures_get]
  split
  · exact h.withdrawn
  split
  · exact (lasts_spared.completeOrder h).mono fun _ _ _ h => Spared.withdrawn h
  cases s.transactionId? with
  | none => exact failOrder_withdrawn h.released
  | some id =>
      rw [ensures_bind]
      apply (cancelIfInitial_cancelled h id).mono
      intro r s p h
      cases r with
      | ok u => exact failOrder_withdrawn h
      | error e => exact Released.withdrawn h

end

end Wallet.Reasons
