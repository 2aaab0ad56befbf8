import Wallet.Proofs.Figures.Terms
import Wallet.Proofs.Saga.Enact

/-!
# Parts that comply

Whatever the terms are, the parts that park an order, complete it, fail it or undo what was done comply
with them; and so does asking the bank, if the terms permit that call.
-/

namespace Wallet

namespace Terms

open Wallet.Flow

variable {T : Terms} {o o' : Order}

/-! ## Parking and completing -/

theorem State.same {s s' : FlowState} (h : T.State s) (hkind : s'.kind = s.kind)
    (hrequest : s'.request = s.request) (hresume : s'.resume = s.resume)
    (horder : s'.order = s.order) : T.State s' where
  kind := hkind.trans h.kind
  request := hrequest.trans h.request
  resume id hid := h.resume id (hresume ▸ hid)
  order o ho := h.order o (horder ▸ ho)

theorem keeps_hold (id : Option TransactionId) : T.Keeps (hold id) fun _ => True := by
  unfold Flow.hold
  cases id with
  | none => exact keeps_pure trivial
  | some id => exact keeps_bind (keeps_routine rfl) fun _ _ => keeps_pure trivial

theorem keeps_park (reason : String) : T.Keeps (park reason) fun _ => True := by
  unfold Flow.park
  refine keeps_bind (keeps_modify fun s hs => hs.same rfl rfl rfl rfl) fun _ _ => ?_
  refine keeps_bind keeps_order fun order horder => ?_
  refine keeps_bind (keeps_hold _) fun _ _ => ?_
  refine keeps_bind (keeps_stored (T.knows horder)) fun current hcurrent => ?_
  split
  · refine keeps_bind keeps_now fun now _ => ?_
    refine keeps_bind (keeps_accept fun verifying hverifying =>
      T.closes hcurrent (.parked hverifying)) fun verifying hverifying => ?_
    refine keeps_bind (keeps_ask (keeps_replace hverifying)) fun stored hstored => ?_
    refine keeps_bind (keeps_notify _ _ _) fun _ _ => ?_
    exact keeps_bind (keeps_keep hstored) fun _ _ => keeps_throw _ _
  · exact keeps_throw _ _

theorem keeps_parkQuietly (reason : String) : T.Keeps (parkQuietly reason) fun _ => True := by
  unfold Flow.parkQuietly
  refine keeps_tryCatch (keeps_park reason) fun e => ?_
  cases e <;> first | exact keeps_pure trivial | exact keeps_throw _ _

theorem keeps_writeResolved (ho : T.order o) (kind : NotificationKind) (message : String) :
    T.Keeps (writeResolved o kind message) fun _ => True := by
  unfold Flow.writeResolved
  refine keeps_bind (keeps_replace ho) fun x hx => ?_
  cases x with
  | ok o' => exact keeps_bind (keeps_notify _ _ _) fun _ _ => keeps_keep (hx o' rfl)
  | error e => cases e <;> first | exact keeps_pure trivial | exact keeps_throw _ _

theorem keeps_settleOrder (ho : T.order o) : T.Keeps (settleOrder o.id) fun _ => True := by
  unfold Flow.settleOrder
  refine keeps_bind (keeps_stored (T.knows ho)) fun current hcurrent => ?_
  split
  · exact keeps_pure trivial
  · refine keeps_bind keeps_now fun now _ => ?_
    refine keeps_bind (keeps_accept fun settled hsettled =>
      T.closes hcurrent (.settled hsettled)) fun settled hsettled => ?_
    exact keeps_writeResolved hsettled _ _

theorem keeps_completeOrder : T.Keeps completeOrder fun _ => True := by
  unfold Flow.completeOrder
  refine keeps_bind keeps_order fun order horder => ?_
  refine keeps_bind keeps_transactionId fun id _ => ?_
  refine keeps_bind (keeps_askRoutine (keeps_routine rfl)) fun record _ => ?_
  split
  · exact keeps_settleOrder horder
  · refine keeps_bind (keeps_routine rfl) fun x _ => ?_
    cases x with
    | ok _ => exact keeps_settleOrder horder
    | error e => exact keeps_parkQuietly _

/-! ## Undoing -/

theorem keeps_failOrder : T.Keeps failOrder fun _ => True := by
  unfold Flow.failOrder
  refine keeps_bind keeps_get fun state hstate => ?_
  split
  · exact keeps_pure trivial
  split
  · exact keeps_completeOrder
  cases horder : state.order with
  | none => exact keeps_pure trivial
  | some order =>
      refine keeps_bind (keeps_find (T.knows (hstate.order order horder)))
        fun found hfound => ?_
      cases found with
      | none => exact keeps_pure trivial
      | some current =>
          refine keeps_bind keeps_now fun now _ => ?_
          cases hfailed : current.failUnlessResolved? state.rollbackReason now with
          | none => exact keeps_pure trivial
          | some failed =>
              exact keeps_writeResolved (T.closes (hfound current rfl) (.withdrawn hfailed)) _ _

theorem keeps_reverseVoucher : T.Keeps reverseVoucher fun _ => True := by
  unfold Flow.reverseVoucher
  refine keeps_bind keeps_get fun state _ => ?_
  dsimp only
  split
  · exact keeps_pure trivial
  cases state.order with
  | none => exact keeps_pure trivial
  | some order => exact keeps_askRoutine (keeps_routine rfl)

theorem keeps_cancelIfInitial (id : TransactionId) :
    T.Keeps (cancelIfInitial id) fun _ => True := by
  unfold Flow.cancelIfInitial
  refine keeps_bind (keeps_askRoutine (keeps_routine rfl)) fun current _ => ?_
  split
  · refine keeps_bind keeps_get fun state _ => ?_
    exact keeps_bind (keeps_askRoutine (keeps_routine rfl)) fun _ _ => keeps_pure trivial
  · exact keeps_pure trivial

theorem keeps_cancelLedger : T.Keeps cancelLedger fun _ => True := by
  unfold Flow.cancelLedger
  refine keeps_bind keeps_get fun state _ => ?_
  split
  · exact keeps_pure trivial
  cases state.transactionId? with
  | none => exact keeps_pure trivial
  | some id => exact keeps_cancelIfInitial id

/-! ## The bank's answer -/

theorem keeps_handleAnswer (settings : FlowSettings) (response : ProviderResponse) :
    T.Keeps (handleAnswer settings response) fun _ => True := by
  unfold Flow.handleAnswer
  refine keeps_bind keeps_order fun order horder => ?_
  refine keeps_bind (keeps_modify fun s hs => hs.same rfl rfl rfl rfl) fun _ _ => ?_
  generalize settings.classifiers.classify order.provider response.code = outcome
  cases outcome.kind with
  | success => exact keeps_pure trivial
  | pending => exact keeps_park _
  | failure => exact keeps_throw _ _
  | needsAuth =>
      refine keeps_bind keeps_get fun state _ => ?_
      split
      · refine keeps_bind keeps_now fun now _ => ?_
        refine keeps_bind (keeps_accept fun awaiting hawaiting =>
          T.marks horder (.awaiting hawaiting)) fun awaiting hawaiting => ?_
        refine keeps_bind (keeps_store hawaiting) fun _ _ => ?_
        exact keeps_modify fun s hs => hs.same rfl rfl rfl rfl
      · exact keeps_throw _ _

theorem keeps_keepTrace (ho : T.order o) (response : ProviderResponse) :
    T.Keeps (keepTrace o response) fun _ => True := by
  unfold Flow.keepTrace
  cases response.traceId with
  | none => exact keeps_pure trivial
  | some trace =>
      exact keeps_bind keeps_now fun now _ => keeps_store (T.marks ho (.traced trace now))

theorem keeps_callBank (settings : FlowSettings)
    (hbank : ∀ o payment, T.order o → T.request = some payment → T.permits (.bank (T.kind.bankCall
      ⟨o.id, o.userId, o.amount, payment.provider, payment.destination⟩))) :
    T.Keeps (callBank settings) fun _ => True := by
  unfold Flow.callBank
  refine keeps_bind keeps_order fun order horder => ?_
  refine keeps_bind keeps_request fun payment hpayment => ?_
  refine keeps_bind keeps_get fun state hstate => ?_
  have hcall := hbank order payment horder hpayment
  rw [← hstate.kind] at hcall
  refine keeps_bind (keeps_permitted hcall) fun answer _ => ?_
  cases answer with
  | ok response =>
      exact keeps_bind (keeps_keepTrace horder response) fun _ _ => keeps_handleAnswer _ _
  | error e => cases e <;> first | exact keeps_throw _ _ | exact keeps_park _

theorem keeps_confirmLedger : T.Keeps confirmLedger fun _ => True := by
  unfold Flow.confirmLedger
  refine keeps_bind keeps_get fun state _ => ?_
  split
  · exact keeps_pure trivial
  · refine keeps_bind keeps_transactionId fun id _ => ?_
    refine keeps_bind (keeps_routine rfl) fun x _ => ?_
    cases x with
    | ok _ => exact keeps_pure trivial
    | error e => exact keeps_park _

theorem keeps_successOrder : T.Keeps successOrder fun _ => True := by
  unfold Flow.successOrder
  refine keeps_bind keeps_order fun order horder => ?_
  refine keeps_bind keeps_get fun state _ => ?_
  split
  · exact keeps_notify _ _ _
  · refine keeps_bind keeps_now fun now _ => ?_
    refine keeps_bind (keeps_accept fun succeeded hsucceeded =>
      T.closes horder (.succeeded hsucceeded)) fun succeeded hsucceeded => ?_
    refine keeps_bind (keeps_ask (keeps_replace hsucceeded)) fun stored hstored => ?_
    exact keeps_bind (keeps_notify _ _ _) fun _ _ => keeps_keep hstored

/-! ## Resuming -/

theorem keeps_loadOrder : T.Keeps loadOrder fun _ => True := by
  unfold Flow.loadOrder
  refine keeps_bind keeps_get fun state hstate => ?_
  cases hresume : state.resume with
  | none => exact keeps_throw _ _
  | some id =>
      refine keeps_bind (keeps_stored (hstate.resume id hresume)) fun order horder => ?_
      refine keeps_bind keeps_now fun now _ => ?_
      split
      · exact keeps_throw _ _
      split
      · exact keeps_keep horder
      · exact keeps_throw _ _

theorem keeps_verifyOtp (settings : FlowSettings) {otp : String}
    (hbank : ∀ o, T.order o → T.permits (.bank (.verifyOtp o.id otp))) :
    T.Keeps (verifyOtp settings otp) fun _ => True := by
  unfold Flow.verifyOtp
  refine keeps_bind keeps_order fun order horder => ?_
  refine keeps_bind (keeps_permitted (hbank order horder)) fun answer _ => ?_
  cases answer with
  | error e => exact keeps_park _
  | ok response =>
      refine keeps_bind (keeps_modify fun s hs => hs.same rfl rfl rfl rfl) fun _ _ => ?_
      generalize settings.classifiers.classify order.provider response.code = outcome
      cases outcome with
      | success => exact keeps_pure trivial
      | verifying => exact keeps_park _
      | wrongOtp | needsOtp =>
          exact keeps_bind (keeps_modify fun s hs => hs.same rfl rfl rfl rfl)
            fun _ _ => keeps_throw _ _
      | _ => exact keeps_throw _ _

theorem keeps_abortOtp : T.Keeps abortOtp fun _ => True := by
  unfold Flow.abortOtp
  refine keeps_bind keeps_get fun state _ => ?_
  split
  · exact keeps_pure trivial
  split
  · exact keeps_completeOrder
  cases state.transactionId? with
  | none => exact keeps_failOrder
  | some id => exact keeps_bind (keeps_cancelIfInitial id) fun _ _ => keeps_failOrder

end Terms

end Wallet
