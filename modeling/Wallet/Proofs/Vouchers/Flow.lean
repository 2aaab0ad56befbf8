import Wallet.Proofs.Flow.Effects
import Wallet.Proofs.Flow.Smooth
import Wallet.Proofs.Vouchers.Basic

/-!
# Flows take back their vouchers

A payment uses its voucher while its order is processing, and takes it back before the order is
failed. A payment that is not undone has left its order verifying, or has completed it. A cash-in that
is resumed knows nothing of vouchers, but its order has lingered.
-/

namespace Wallet.Flow

/-- The flow goes on with a request, and if `c` then the order of the flow is clear. -/
structure Attending (request : Option PaymentRequest) (c : Prop) (s : FlowState) (g : Past) :
    Prop where
  vouched : Vouched g.vouchers g
  request : s.request = request
  clear : c → ∀ o, s.order = some o → Clear g.vouchers g.events o.id

/-- The order of the flow is stored as it is, and it is processing. -/
structure Occupied (request : Option PaymentRequest) (c : Prop) (s : FlowState) (g : Past) : Prop
    extends Attending request c s g where
  held : ∀ o, s.order = some o → g.books.orders o.id = some o ∧ o.status = .processing

section

variable {may : Faults} {request : Option PaymentRequest} {c d : Prop} {s s' : FlowState} {g : Past}
  {o o' : Order}

theorem Attending.start (h : Vouched g.vouchers g) (hrequest : s.request = request)
    (hnone : s.order = none) : Attending request c s g :=
  ⟨h, hrequest, by simp [hnone]⟩

/-- What else the flow keeps does not matter. -/
theorem Attending.of_same (h : Attending request c s g) (horder : s'.order = s.order)
    (hrequest : s'.request = s.request) : Attending request c s' g :=
  ⟨h.vouched, hrequest.trans h.request, by rw [horder]; exact h.clear⟩

theorem Attending.weaken (h : Attending request c s g) (hdc : d → c) : Attending request d s g :=
  ⟨h.vouched, h.request, fun hd => h.clear (hdc hd)⟩

theorem Attending.record {call : Call} {x : call.Answer} (h : Attending request c s g)
    (hvouchers : (g.note call x).vouchers = g.vouchers)
    (horders : (g.note call x).books.orders = g.books.orders) :
    Attending request c s (g.note call x) where
  vouched := hvouchers ▸ h.vouched.record horders
  request := h.request
  clear hc o ho := hvouchers ▸ (h.clear hc o ho).note

theorem Attending.ledger (h : Attending request c s g) (r : Ledger.Request)
    (x : Except ServiceError Transaction) : Attending request c s (g.note (.ledger r) x) :=
  h.record (Past.vouchers_ledger ..) (by cases r <;> cases x <;> rfl)

theorem Attending.bank (h : Attending request c s g) (r : Bank.Request)
    (x : Except ServiceError ProviderResponse) : Attending request c s (g.note (.bank r) x) :=
  h.record (Past.vouchers_bank ..) rfl

theorem Occupied.ledger (h : Occupied request c s g) (r : Ledger.Request)
    (x : Except ServiceError Transaction) : Occupied request c s (g.note (.ledger r) x) where
  toAttending := h.toAttending.ledger r x
  held := by cases r <;> cases x <;> exact h.held

theorem Occupied.bank (h : Occupied request c s g) (r : Bank.Request)
    (x : Except ServiceError ProviderResponse) : Occupied request c s (g.note (.bank r) x) :=
  ⟨h.toAttending.bank r x, h.held⟩

/-- A new order is filed. No voucher is in use in the name of an order that is not stored. -/
theorem Attending.create (h : Attending request c s g) (hnew : g.books.orders o.id = none)
    (hplain : (o.isVerifying || o.awaitingOtp) = false) :
    Attending request c { s with order := some o } (g.note (.orders (.create o)) (.ok o)) := by
  have hclear : Clear g.vouchers g.events o.id := h.vouched.clear_of (by simp [hnew])
  refine ⟨?_, h.request, ?_⟩
  · rw [Past.vouchers_orders]
    exact h.vouched.file (Past.note_create ..) (by simp [hplain]) (.inl hclear)
  · intro _ kept hkept
    cases hkept
    rw [Past.vouchers_orders]
    exact hclear.note

/-- A version of the order that is underway or has come to a good end is written. -/
theorem Attending.write (h : Attending request c s g) (o' : Order) (horder : s.order = some o)
    (hid : o'.id = o.id) (hopen : o'.status ≠ .pending ∧ o'.status ≠ .failed) :
    Attending request c { s with order := some o' } (g.note (.orders (.replace o')) (.ok o')) where
  vouched := by
    rw [Past.vouchers_orders]
    exact h.vouched.replace (.inr hopen)
  request := h.request
  clear hc kept hkept := by
    cases hkept
    rw [Past.vouchers_orders, hid]
    exact (h.clear hc o horder).note

theorem Occupied.write (h : Occupied request c s g) (o' : Order) (horder : s.order = some o)
    (hid : o'.id = o.id) (hstatus : o'.status = o.status) :
    Occupied request c { s with order := some o' } (g.note (.orders (.replace o')) (.ok o')) := by
  have hprocessing := hstatus.trans (h.held o horder).2
  refine ⟨h.toAttending.write o' horder hid (by simp [hprocessing]), ?_⟩
  intro kept hkept
  cases hkept
  exact ⟨Books.file_self .., hprocessing⟩

/-- A version by which the order has failed is written, for it is clear. -/
theorem Attending.drop (h : Attending request True s g) (horder : s.order = some o)
    (hid : o'.id = o.id) : Vouched (g.note (.orders (.replace o')) (.ok o')).vouchers
      (g.note (.orders (.replace o')) (.ok o')) := by
  rw [Past.vouchers_orders]
  exact h.vouched.replace (.inl (hid ▸ h.clear trivial o horder))

/-! ## Parking and completing -/

theorem hold_attends {id : Option TransactionId} (h : Attending request c s g) :
    Reaches may (hold id) s g fun _ s' g => s' = s ∧ Attending request c s g := by
  unfold hold
  cases id with
  | none => exact ⟨rfl, h⟩
  | some id =>
      simp only [reaches_bind, reaches_setPending, reaches_pure, true_and]
      exact ⟨fun _ _ _ => h, fun _ _ _ _ _ => h.ledger ..⟩

theorem park_attends {reason : String} (h : Attending request c s g) :
    Reaches may (park reason) s g fun _ s g => Attending request c s g := by
  unfold park
  simp only [reaches_bind, reaches_modify, reaches_order]
  have h : Attending request c { s with parked := true } g := h.of_same rfl rfl
  refine ⟨fun _ => h, fun order horder => ?_⟩
  apply (hold_attends h).mono
  rintro (e | u) s' g ⟨rfl, h⟩
  · exact h
  simp only [reaches_stored]
  refine ⟨fun _ _ _ => h, fun _ => h, fun current hcurrent => ?_⟩
  have hid := h.vouched.filed hcurrent
  split
  · simp only [reaches_bind, reaches_now, reaches_accept, reaches_replace, reaches_notify,
      reaches_keep, reaches_throw, OrderStore.Request.Result]
    refine fun now => ⟨fun _ _ => h, fun verifying hverifying => ⟨fun _ _ _ => h, fun _ _ _ => ?_⟩⟩
    obtain ⟨_, rfl⟩ := Order.transitionFor_ok hverifying
    exact h.write _ horder hid (by simp)
  · exact h

theorem parkQuietly_attends {reason : String} (h : Attending request c s g) :
    Reaches may (parkQuietly reason) s g fun _ s g => Attending request c s g := by
  unfold parkQuietly
  rw [reaches_tryCatch]
  apply (park_attends h).mono
  rintro (e | u) s g h
  · cases e <;> exact h
  · exact h

/-- A resolved version of the order is written, unless somebody else has resolved it. -/
theorem writeResolved_reaches {kind : NotificationKind} {message : String}
    {P : FlowState → Past → Prop} (h : P s g)
    (hwritten : P { s with order := some o' } (g.note (.orders (.replace o')) (.ok o'))) :
    Reaches may (writeResolved o' kind message) s g fun _ s g => P s g := by
  unfold writeResolved
  simp only [reaches_bind, reaches_perform_replace, OrderStore.Request.Result]
  constructor
  · intro e _ _
    cases e <;> exact h
  · intro _ _ _
    simp only [reaches_notify, reaches_keep]
    exact hwritten

theorem settleOrder_attends (h : Attending request c s g) (horder : s.order = some o) :
    Reaches may (settleOrder o.id) s g fun _ s g => Attending request c s g := by
  unfold settleOrder
  simp only [reaches_bind, reaches_stored]
  refine ⟨fun _ _ _ => h, fun _ => h, fun current hcurrent => ?_⟩
  have hid := h.vouched.filed hcurrent
  split
  · exact h
  · simp only [reaches_bind, reaches_now, reaches_accept]
    refine fun now => ⟨fun _ _ => h, fun settled hsettled => ?_⟩
    obtain ⟨_, rfl⟩ := Order.settle_ok hsettled
    exact writeResolved_reaches h (h.write _ horder hid (by simp))

theorem completeOrder_attends (h : Attending request c s g) :
    Reaches may completeOrder s g fun _ s g => Attending request c s g := by
  unfold completeOrder
  simp only [reaches_bind, reaches_order, reaches_transactionId, reaches_findRecord]
  refine ⟨fun _ => h, fun order horder => ⟨fun _ => h, fun _ _ => ⟨fun _ => h, fun id _ => ?_⟩⟩⟩
  refine ⟨fun _ _ _ => h, fun record _ => ?_⟩
  split
  · exact settleOrder_attends h horder
  · simp only [reaches_bind, reaches_confirm]
    exact ⟨fun _ _ _ => parkQuietly_attends h,
      fun _ _ _ _ _ => settleOrder_attends (h.ledger ..) horder⟩

/-! ## Undoing -/

/-- The order is failed only if that leaves no voucher behind. -/
theorem failOrder_vouched
    (h : Attending request (spared s = false ∧ s.bankSucceeded = false) s g) :
    Reaches may failOrder s g fun _ _ g => Vouched g.vouchers g := by
  cases hspared : spared s with
  | true => exact failOrder_spared hspared h.vouched
  | false =>
    cases hmoved : s.bankSucceeded with
    | true =>
        refine failOrder_completes hspared hmoved ?_
        exact (completeOrder_attends h).mono fun _ _ _ h => h.vouched
    | false =>
        have h : Attending request True s g := h.weaken fun _ => ⟨hspared, hmoved⟩
        unfold failOrder
        simp only [reaches_bind, reaches_get]
        rw [if_neg (by simpa [spared] using hspared), if_neg (by simp [hmoved])]
        cases horder : s.order with
        | none => exact h.vouched
        | some order =>
            simp only [reaches_bind, reaches_find, OrderStore.Request.Result]
            refine ⟨fun _ _ _ => h.vouched, ?_⟩
            cases hcurrent : g.books.orders order.id with
            | none => exact h.vouched
            | some current =>
                have hid := h.vouched.filed hcurrent
                simp only [reaches_bind, reaches_now]
                intro now
                cases hfailed : current.failUnlessResolved? s.rollbackReason now with
                | none => exact h.vouched
                | some failed =>
                    obtain ⟨_, _, rfl⟩ := Order.failUnlessResolved?_some hfailed
                    exact writeResolved_reaches (P := fun _ g => Vouched g.vouchers g) h.vouched
                      (h.drop horder hid)

theorem cancelIfInitial_attends {id : TransactionId} (h : Attending request c s g) :
    Reaches may (cancelIfInitial id) s g fun _ s' g => s' = s ∧ Attending request c s g := by
  unfold cancelIfInitial
  simp only [reaches_bind, reaches_findRecord, true_and]
  refine ⟨fun _ _ _ => h, fun record _ => ?_⟩
  split
  · simp only [reaches_bind, reaches_get, reaches_cancel, reaches_pure, true_and]
    exact ⟨fun _ _ _ => h, fun _ _ _ _ _ => h.ledger ..⟩
  · exact ⟨rfl, h⟩

theorem cancelLedger_attends (h : Attending request c s g) :
    Reaches may cancelLedger s g fun _ s g => Attending request c s g := by
  unfold cancelLedger
  simp only [reaches_bind, reaches_get]
  split
  · exact h
  cases s.transactionId? with
  | none => exact h
  | some id =>
      apply (cancelIfInitial_attends h).mono
      rintro r s' g ⟨rfl, h⟩
      exact h

theorem abortOtp_vouched (h : Attending request True s g) :
    Reaches may abortOtp s g fun _ _ g => Vouched g.vouchers g := by
  unfold abortOtp
  simp only [reaches_bind, reaches_get]
  split
  · exact h.vouched
  split
  · exact (completeOrder_attends h).mono fun _ _ _ h => h.vouched
  have hfail {g : Past} (h : Attending request True s g) :
      Reaches may failOrder s g fun _ _ g => Vouched g.vouchers g :=
    failOrder_vouched (h.weaken fun _ => trivial)
  cases s.transactionId? with
  | none => exact hfail h
  | some id =>
      rw [reaches_bind]
      apply (cancelIfInitial_attends h).mono
      rintro (e | u) s' g ⟨rfl, h⟩
      · exact h.vouched
      · exact hfail h

/-- The voucher is taken back, unless the order is not to be failed. -/
theorem reverseVoucher_attends {request : PaymentRequest}
    (hvoucher : request.voucherCode.isSome = true) (h : Attending (some request) c s g) :
    Reaches .returning reverseVoucher s g fun _ s g =>
      Attending (some request) (spared s = false ∧ s.bankSucceeded = false) s g := by
  have hused : (s.request.bind PaymentRequest.voucherCode).isSome = true := by
    rw [h.request]
    exact hvoucher
  unfold reverseVoucher
  simp only [reaches_bind, reaches_get]
  split
  · next hleft =>
      refine h.weaken fun hdropped => ?_
      simp [spared] at hdropped
      simp [hdropped, hused] at hleft
  cases horder : s.order with
  | none => exact ⟨h.vouched, h.request, by simp [horder]⟩
  | some order =>
      simp only [reaches_reverse]
      refine ⟨fun e he => absurd rfl (he.2 (voucherTrace order)), ?_, h.request, ?_⟩
      · rw [voucherTrace, Past.vouchers_reverse]
        exact h.vouched.takeBack rfl
      · intro _ kept hkept
        rw [horder] at hkept
        cases hkept
        rw [voucherTrace, Past.vouchers_reverse]
        exact .inl (Function.update_self ..)

/-! ## Before the bank is asked -/

theorem initOrder_attends {settings : FlowSettings} (h : Attending request True s g) :
    Reaches may (initOrder settings) s g (Either (Attending request True) fun _ g =>
      Vouched g.vouchers g) := by
  unfold initOrder
  simp only [reaches_bind, reaches_get, reaches_request]
  refine ⟨fun _ => h.vouched, fun payment _ => ?_⟩
  split
  · exact h.vouched
  split
  · exact h.vouched
  simp only [reaches_bind, reaches_now, reaches_freshOrderId, reaches_create, reaches_keep,
    OrderStore.Request.Result]
  exact fun now key => ⟨fun _ _ _ => h.vouched, fun hnew => h.create hnew rfl⟩

theorem processOrder_occupied (h : Attending request True s g) :
    Reaches may processOrder s g (Either (Occupied request True) (Attending request True)) := by
  unfold processOrder
  simp only [reaches_bind, reaches_order, reaches_now, reaches_accept, reaches_process,
    reaches_keep, OrderStore.Request.Result]
  refine ⟨fun _ => h, fun order horder now => ⟨fun _ _ => h, fun started hstarted =>
    ⟨fun _ _ _ => h, fun _ _ _ => ?_⟩⟩⟩
  obtain ⟨_, rfl⟩ := Order.transition_ok hstarted
  refine ⟨⟨?_, h.request, ?_⟩, ?_⟩
  · rw [Past.vouchers_orders]
    exact h.vouched.file (Past.note_process ..) (by simp [Order.isVerifying]) (.inr (by simp))
  · intro _ kept hkept
    cases hkept
    rw [Past.vouchers_orders]
    exact (h.clear trivial order horder).note
  · intro kept hkept
    cases hkept
    exact ⟨Books.file_self .., rfl⟩

/-- After this the order is clear only if there is no voucher to be used. -/
theorem applyVoucher_occupied {request : PaymentRequest}
    (h : Occupied (some request) True s g) :
    Reaches may applyVoucher s g (Either (Occupied (some request) (request.voucherCode = none))
      (Attending (some request) (request.voucherCode = none))) := by
  have hleft : Attending (some request) (request.voucherCode = none) s g :=
    h.toAttending.weaken fun _ => trivial
  unfold applyVoucher
  simp only [reaches_bind, reaches_get]
  have hbind : s.request.bind PaymentRequest.voucherCode = request.voucherCode := by
    rw [h.request]
    rfl
  rw [hbind]
  cases hcode : request.voucherCode with
  | none => exact ⟨hcode ▸ hleft, h.held⟩
  | some code =>
      simp only [reaches_bind, reaches_order, reaches_useVoucher, Promotion.Request.Result,
        reaches_modify]
      rw [hcode] at hleft
      refine ⟨fun _ => hleft, fun order horder => ⟨fun _ _ => hleft, fun discount => ?_⟩⟩
      obtain ⟨hstored, hprocessing⟩ := h.held order horder
      refine ⟨⟨?_, h.request, fun hnone => absurd hnone (Option.some_ne_none code)⟩, h.held⟩
      rw [voucherTrace, Past.vouchers_use]
      exact h.vouched.use hstored hprocessing rfl

theorem initLedger_occupied (h : Occupied request c s g) :
    Reaches may initLedger s g (Either (Occupied request c) (Attending request c)) := by
  unfold initLedger
  simp only [reaches_bind, reaches_order, reaches_get, reaches_freshTransactionId, reaches_now,
    reaches_init, reaches_accept, reaches_store]
  refine ⟨fun _ => h.toAttending, fun order horder id _ now =>
    ⟨fun _ _ _ => h.toAttending, fun linkedAt => ?_⟩⟩
  have h := h.ledger (.init (intent s.kind s.discount order id now))
    (.ok (intent s.kind s.discount order id now))
  refine ⟨fun _ _ => h.toAttending, fun linked hlinked =>
    ⟨fun _ _ _ => h.toAttending, fun _ _ _ => ?_⟩⟩
  obtain ⟨_, rfl⟩ := Order.linkTransaction_ok hlinked
  exact h.write _ horder rfl rfl

/-! ## Asking the bank -/

theorem handleAnswer_attends {settings : FlowSettings} {response : ProviderResponse}
    (h : Attending request c s g) :
    Reaches may (handleAnswer settings response) s g fun _ s g => Attending request c s g := by
  unfold handleAnswer
  simp only [reaches_bind, reaches_order, reaches_modify]
  refine ⟨fun _ => h, fun order horder => ?_⟩
  generalize settings.classifiers.classify order.provider response.code = outcome
  have h : Attending request c { s with outcome := some outcome } g := h.of_same rfl rfl
  cases outcome.kind with
  | success => exact h
  | pending => exact park_attends h
  | failure => exact h
  | needsAuth =>
      simp only [reaches_bind, reaches_get]
      split
      · simp only [reaches_bind, reaches_now, reaches_accept, reaches_store, reaches_modify]
        refine fun now => ⟨fun _ _ => h, fun awaiting hawaiting => ⟨fun _ _ _ => h, fun _ _ _ => ?_⟩⟩
        obtain ⟨hprocessing, rfl⟩ := Order.markAwaitingOtp_ok hawaiting
        have hopen : order.status ≠ .pending ∧ order.status ≠ .failed := by simp [hprocessing]
        exact (h.write (order.awaiting now) horder rfl hopen).of_same rfl rfl
      · exact h

theorem callBank_attends {settings : FlowSettings} (h : Occupied request c s g) :
    Reaches may (callBank settings) s g fun _ s g => Attending request c s g := by
  unfold callBank
  simp only [reaches_bind, reaches_order, reaches_request, reaches_get, reaches_bank]
  refine ⟨fun _ => h.toAttending, fun order horder => ⟨fun _ => h.toAttending, fun payment _ => ?_⟩⟩
  generalize s.kind.bankCall _ = call
  constructor
  · intro e _
    have h := h.toAttending.bank call (.error e)
    cases e with
    | rejected reason => exact h
    | _ => exact park_attends h
  · intro response
    have h := h.bank call (.ok response)
    unfold keepTrace
    cases response.traceId with
    | none => exact handleAnswer_attends h.toAttending
    | some trace =>
        simp only [reaches_bind, reaches_now, reaches_store]
        refine fun now => ⟨fun _ _ _ => h.toAttending, fun _ _ _ => ?_⟩
        have h := h.write (order.setBankTraceId trace now) horder rfl rfl
        exact handleAnswer_attends h.toAttending

/-! ## After the bank was asked -/

theorem confirmLedger_attends (h : Attending request c s g) :
    Reaches may confirmLedger s g fun _ s g => Attending request c s g := by
  unfold confirmLedger
  simp only [reaches_bind, reaches_get]
  split
  · exact h
  simp only [reaches_bind, reaches_transactionId, reaches_confirm]
  refine ⟨fun _ => h, fun _ _ => ⟨fun _ => h, fun id _ => ⟨fun e _ _ => park_attends h, ?_⟩⟩⟩
  exact fun _ _ _ _ _ => h.ledger ..

theorem successOrder_attends (h : Attending request c s g) :
    Reaches may successOrder s g fun _ s g => Attending request c s g := by
  unfold successOrder
  simp only [reaches_bind, reaches_order, reaches_get]
  refine ⟨fun _ => h, fun order horder => ?_⟩
  split
  · simp only [reaches_notify]
    exact h
  · simp only [reaches_bind, reaches_now, reaches_accept, reaches_replace, reaches_notify,
      reaches_keep, OrderStore.Request.Result]
    refine fun now => ⟨fun _ _ => h, fun succeeded hsucceeded => ⟨fun _ _ _ => h, fun _ _ _ => ?_⟩⟩
    obtain ⟨_, rfl⟩ := Order.transition_ok hsucceeded
    exact h.write _ horder rfl (by simp)

/-! ## Resuming an order -/

/-- An order that waits for a one-time password has lingered. -/
theorem loadOrder_attends (h : Attending request True s g) :
    Reaches may loadOrder s g (Either (Attending request True) fun _ g => Vouched g.vouchers g) := by
  unfold loadOrder
  simp only [reaches_bind, reaches_get]
  cases s.resume with
  | none => exact h.vouched
  | some key =>
      simp only [reaches_bind, reaches_stored, reaches_now]
      refine ⟨fun _ _ _ => h.vouched, fun _ => h.vouched, fun o ho now => ?_⟩
      split
      · exact h.vouched
      split
      · next hresumable =>
          refine ⟨h.vouched, h.request, ?_⟩
          intro _ kept hkept
          cases hkept
          have hwaits : (o.isVerifying || o.awaitingOtp) = true := by
            simp only [isResumable, Bool.and_eq_true] at hresumable
            simp [hresumable.1.2]
          exact h.vouched.filed ho ▸ .inr (h.vouched.lingered ho hwaits)
      · exact h.vouched

theorem verifyOtp_attends {settings : FlowSettings} {otp : String} (h : Attending request c s g) :
    Reaches may (verifyOtp settings otp) s g fun _ s g => Attending request c s g := by
  unfold verifyOtp
  simp only [reaches_bind, reaches_order, reaches_bank]
  refine ⟨fun _ => h, fun order horder => ⟨fun e _ => park_attends (h.bank ..), ?_⟩⟩
  intro response
  simp only [reaches_modify]
  generalize settings.classifiers.classify order.provider response.code = outcome
  have h : Attending request c { s with outcome := some outcome }
      (g.note (.bank (.verifyOtp order.id otp)) (.ok response)) := (h.bank ..).of_same rfl rfl
  cases outcome with
  | success => exact h
  | verifying => exact park_attends h
  | wrongOtp => exact h.of_same rfl rfl
  | needsOtp => exact h.of_same rfl rfl
  | _ => exact h

/-! ## Whole plays -/

/-- It does not matter then whether the part has failed. -/
theorem Reaches.attends {part : StepM Unit}
    (h : Reaches may part s g fun _ s g => Attending request c s g) :
    Reaches may part s g (Either (Attending request c) (Attending request c)) :=
  h.mono fun r _ _ h => by cases r <;> exact h

theorem Attending.reason (h : Attending request c s g) (reason : Option String) :
    Attending request c { s with failureReason := reason } g :=
  h.of_same rfl rfl

theorem finalSteps_attend (request : Option PaymentRequest) (c : Prop) :
    Path (.smooth may (Attending request c)) (.smooth may fun _ => Attending request c) finalSteps
      (.smooth may (Attending request c)) (.smooth may fun _ => Attending request c) :=
  .finalSteps (fun _ {_ _} h => h)
    (fun h => (confirmLedger_attends h).attends.proceeds fun reason h => h.reason reason)
    (fun _ {_ _} h => h)
    (fun h => (successOrder_attends h).attends.proceeds fun reason h => h.reason reason)

theorem paymentSteps_attend (settings : FlowSettings) (request : PaymentRequest) :
    Path (.smooth .returning (Attending (some request) True))
      (.smooth .returning fun _ _ g => Vouched g.vouchers g)
      (paymentSteps settings request.voucherCode.isSome)
      (.smooth .returning (Attending (some request) (request.voucherCode = none)))
      (.smooth .returning fun _ => Attending (some request) (request.voucherCode = none)) := by
  refine .paymentSteps (B := Attending (some request) True) (C := Occupied (some request) True)
    (D := Occupied (some request) (request.voucherCode = none))
    (E := Occupied (some request) (request.voucherCode = none))
    (S := fun _ s g => Attending (some request) (spared s = false ∧ s.bankSucceeded = false) s g)
    (T := fun _ => Attending (some request) (request.voucherCode = none))
    (fun _ {_ _} h => h.vouched) ?_ (fun _ {_ _} h => h.vouched) ?_ ?_ ?_ ?_ ?_ ?_
    (fun _ {_ _} h => h.toAttending) ?_ ?_ (fun _ {_ _} h => h.toAttending) ?_
    (finalSteps_attend ..)
  · exact fun h => (initOrder_attends h).proceeds fun _ h => h
  · refine fun h => Reaches.proceeds ?_ fun reason h => h.reason reason
    refine (processOrder_occupied h).mono fun r _ _ hr => ?_
    cases r with
    | ok u => exact hr
    | error e => exact hr.weaken fun _ => trivial
  · exact fun h => (failOrder_vouched h).kept fun _ h => h
  · exact fun _ {_ _} h => h.toAttending.weaken fun _ => trivial
  · exact fun _ {_ _} h => (applyVoucher_occupied h).proceeds fun reason h => h.reason reason
  · exact fun hvoucher {_ _ _} h =>
      (reverseVoucher_attends hvoucher h).kept fun reason h => h.reason reason
  · intro hnone
    rw [Option.isSome_eq_false_iff, Option.isNone_iff_eq_none] at hnone
    exact ⟨fun h => ⟨h.toAttending.weaken fun _ => trivial, h.held⟩,
      fun h => h.weaken fun _ => hnone⟩
  · exact fun h => (initLedger_occupied h).proceeds fun reason h => h.reason reason
  · exact fun h => (cancelLedger_attends h).kept fun reason h => h.reason reason
  · exact fun h => (callBank_attends h).attends.proceeds fun reason h => h.reason reason

theorem otpSteps_attend (settings : FlowSettings) (otp : String) :
    Path (.smooth .returning (Attending none True))
      (.smooth .returning fun _ _ g => Vouched g.vouchers g)
      (otpSteps settings otp) (.smooth .returning (Attending none True))
      (.smooth .returning fun _ => Attending none True) := by
  refine .otpSteps (L := Attending none True) (fun _ {_ _} h => h.vouched) ?_
    (fun _ {_ _} h => h.vouched) ?_ ?_ (finalSteps_attend ..)
  · exact fun h => (loadOrder_attends h).proceeds fun _ h => h
  · exact fun h => (verifyOtp_attends h).attends.proceeds fun reason h => h.reason reason
  · exact fun h => (abortOtp_vouched h).kept fun _ h => h

/-- A play on such a path leaves no voucher behind, if it was smooth. -/
theorem Path.vouched {settings : FlowSettings} {name : String} {steps : List (Step FlowError FlowM)}
    {operation : Context} {T : Stops} {p : Past}
    (path : Path (.smooth .returning (Attending request True))
      (.smooth .returning fun _ _ g => Vouched g.vouchers g) steps
      (.smooth .returning (Attending request c)) T)
    (h : Smooth .returning p.events → Attending request True s p.gist) :
    (Flow.play settings ⟨name, steps⟩ s operation).Always p fun _ p =>
      Smooth .returning p.events → Vouched p.gist.vouchers p.gist := by
  apply (path.flow h).mono
  intro r p hr
  cases r with
  | error crash => exact fun hsmooth => (hr hsmooth).vouched
  | ok o =>
      obtain ⟨s', _, ho⟩ := hr
      cases herror : o.execution.error with
      | none => exact fun hsmooth => ((ho.completed herror).1 hsmooth).vouched
      | some e => exact ho.stopped herror

/-- A flow that is played smoothly leaves no voucher of a failed order behind, unless the order has
lingered. -/
theorem always_vouched {p : Past} (settings : FlowSettings) (call : FlowCall) (operation : Context)
    (h : Smooth .returning p.events → Vouched p.gist.vouchers p.gist) :
    (call.program settings operation).Always p fun _ p =>
      Smooth .returning p.events → Vouched p.gist.vouchers p.gist := by
  cases call with
  | pay kind request =>
      exact (paymentSteps_attend settings request).vouched fun hsmooth =>
        .start (h hsmooth) rfl rfl
  | resume key otp =>
      exact (otpSteps_attend settings otp).vouched fun hsmooth =>
        .start (h hsmooth) rfl rfl

end

end Wallet.Flow
