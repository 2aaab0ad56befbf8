import Wallet.Proofs.Consistency.Stages

/-!
# Flows keep the books consistent

Everything that undoes a flow keeps it safe, and every step of a flow leads to its next stage or,
when it fails, to a state that is safe to undo.
-/

namespace Wallet.Flow

section

variable {registry : ClassifierRegistry} {s : FlowState} {p : Past} {o o' : Order}

/-- A part that always fails may stand for any other. -/
theorem Ensures.of_never {part : StepM Unit} {B R : FlowState → Past → Prop}
    (h : Ensures part s p (Either (fun _ _ => False) R)) : Ensures part s p (Either B R) := by
  apply h.mono
  intro r s p h
  cases r with
  | ok u => cases h
  | error e => exact h

/-! ## Parking and completing -/

theorem hold_safe {id : Option TransactionId} (h : Safe registry s p) :
    Ensures (hold id) s p fun r s' p => (r = .ok () ∧ s' = s) ∧ Safe registry s p := by
  unfold hold
  cases id with
  | none => exact ⟨⟨rfl, rfl⟩, h⟩
  | some id =>
      simp only [ensures_bind, ensures_setPending, ensures_pure, true_and]
      constructor
      · intro e _
        exact h.quiet rfl
      intro t' t ht now hpending
      exact h.halt (Past.note_setPending p id t') ht (Transaction.halts_setPending hpending)

/-- Parking never ends without an error. -/
theorem park_safe (reason : String) (h : Safe registry { s with parked := true } p) :
    Ensures (park reason) s p (Either (fun _ _ => False) (Safe registry)) := by
  unfold park
  simp only [ensures_bind, ensures_modify, ensures_order]
  constructor
  · intro _
    exact h
  intro order horder
  apply (hold_safe h).mono
  intro r s p hheld
  obtain ⟨⟨rfl, rfl⟩, h⟩ := hheld
  -- the order is read again, and what is stored is what the flow has
  have hstored := h.held order horder
  simp only [ensures_stored]
  refine ⟨?_, ?_, ?_⟩
  · intro e _
    exact h.quiet rfl
  · intro _
    exact h.quiet rfl
  intro current hcurrent
  rw [hstored] at hcurrent
  cases hcurrent
  have h := h.quiet (c := .orders (.find order.id)) (x := .ok (some order)) rfl
  split
  · simp only [ensures_bind, ensures_now, ensures_accept, ensures_replace, ensures_notify,
      ensures_keep, ensures_throw, OrderStore.Request.Result]
    intro now
    have h := h.quiet (c := .now) (x := now) rfl
    constructor
    · intro e _
      exact h
    intro verifying hverifying
    obtain ⟨_, rfl⟩ := Order.transitionFor_ok hverifying
    constructor
    · intro e _
      exact h.quiet rfl
    intro _ _ _
    have hrev {p : Past} : Revises registry { s with parked := true } p order { order with
        status := .verifying, awaitingOtp := false, updatedAt := now, failReason := some reason } :=
      .of_open horder ⟨rfl, rfl, rfl⟩ (by simp) (by simp [Order.Dropped]) (by simp)
    exact (h.write hrev (Past.note_replace ..)).quiet rfl
  · exact h

theorem parkQuietly_safe {reason : String} (h : Safe registry { s with parked := true } p) :
    Ensures (parkQuietly reason) s p fun _ s p => Safe registry s p := by
  unfold parkQuietly
  rw [ensures_tryCatch]
  apply (park_safe reason h).mono
  intro r s p h
  cases r with
  | ok u => cases h
  | error e => cases e <;> exact h

theorem writeResolved_safe {kind : NotificationKind} {message : String} (h : Safe registry s p)
    (hrev : Revises registry s p o o') :
    Ensures (writeResolved o' kind message) s p fun _ s p => Safe registry s p := by
  unfold writeResolved
  simp only [ensures_bind, ensures_perform_replace, OrderStore.Request.Result]
  constructor
  · intro e _
    have h := h.quiet (c := .orders (.replace o')) (x := .error e) rfl
    cases e <;> exact h
  · intro _ _ _
    simp only [ensures_notify, ensures_keep]
    exact (h.write hrev (Past.note_replace ..)).quiet rfl

theorem settleOrder_safe (h : Safe registry s p) (horder : s.order = some o)
    (hfinished : Finished p o) :
    Ensures (settleOrder o.id) s p fun _ s p => Safe registry s p := by
  unfold settleOrder
  simp only [ensures_bind, ensures_stored]
  refine ⟨?_, ?_, ?_⟩
  · intro e _
    exact h.quiet rfl
  · intro _
    exact h.quiet rfl
  intro current hcurrent
  rw [h.held o horder] at hcurrent
  cases hcurrent
  have h := h.quiet (c := .orders (.find o.id)) (x := .ok (some o)) rfl
  split
  · exact h
  · simp only [ensures_bind, ensures_now, ensures_accept]
    intro now
    have h := h.quiet (c := .now) (x := now) rfl
    constructor
    · intro e _
      exact h
    intro settled hsettled
    refine writeResolved_safe (o := o) h ?_
    obtain ⟨_, rfl⟩ := Order.settle_ok hsettled
    exact ⟨⟨rfl, rfl, rfl⟩, horder, fun _ => hfinished, by simp [Order.Dropped], by simp⟩

theorem completeOrder_safe (h : Safe registry s p) (hmoved : s.bankSucceeded = true) :
    Ensures completeOrder s p fun _ s p => Safe registry s p := by
  unfold completeOrder
  simp only [ensures_bind, ensures_order, ensures_transactionId, ensures_findRecord]
  constructor
  · intro _
    exact h
  intro order horder
  constructor
  · intro _
    exact h
  intro linked hlinked
  rw [horder] at hlinked
  cases hlinked
  constructor
  · intro _
    exact h
  intro id hlink
  constructor
  · intro e _
    exact h.quiet rfl
  intro record hrecord
  have h := h.quiet (c := .ledger (.find id)) (x := .ok record) rfl
  split
  -- a record that is finished already was confirmed before, and only the order was not written
  · next hfinish => exact settleOrder_safe h horder ⟨id, record, hlink, hrecord, hfinish⟩
  · simp only [ensures_bind, ensures_confirm]
    constructor
    · intro e _
      have h := h.quiet (c := .ledger (.confirm id)) (x := .error e) rfl
      exact parkQuietly_safe h.toSteady.park
    · intro t' t ht now hconfirm
      obtain ⟨hconfirmed, hfinished⟩ := h.confirm hmoved horder hlink ht hconfirm
      exact settleOrder_safe hconfirmed horder hfinished

/-! ## Undoing -/

theorem failOrder_safe (h : Safe registry s p) :
    Ensures failOrder s p fun _ s p => Safe registry s p := by
  unfold failOrder
  simp only [ensures_bind, ensures_get]
  split
  · exact h
  · next hflags =>
      simp only [Bool.or_eq_true, not_or, Bool.not_eq_true] at hflags
      split
      · next hmoved => exact completeOrder_safe h hmoved
      · next hmoved =>
          rw [Bool.not_eq_true] at hmoved
          cases horder : s.order with
          | none => exact h
          | some order =>
              simp only [ensures_bind, ensures_find, OrderStore.Request.Result]
              refine ⟨fun e _ => h.quiet rfl, ?_⟩
              rw [h.held order horder]
              simp only [ensures_bind, ensures_now]
              intro now
              -- no flag keeps the order from being undone, so it may be dropped
              have hdroppable := h.droppable hflags.1 hflags.2 hmoved order horder
              have h := (h.quiet (c := .orders (.find order.id)) (x := .ok (some order)) rfl).quiet
                (c := .now) (x := now) rfl
              cases hfailed : order.failUnlessResolved? s.rollbackReason now with
              | none => exact h
              | some failed =>
                  refine writeResolved_safe (o := order) h ?_
                  obtain ⟨_, _, rfl⟩ := Order.failUnlessResolved?_some hfailed
                  exact ⟨⟨rfl, rfl, rfl⟩, horder, by simp,
                    fun _ => ⟨hmoved, (hdroppable.note rfl).note rfl⟩, by simp⟩

theorem reverseVoucher_safe (h : Safe registry s p) :
    Ensures reverseVoucher s p fun _ s p => Safe registry s p := by
  unfold reverseVoucher
  simp only [ensures_bind, ensures_get]
  split
  · exact h
  · cases s.order with
    | none => exact h
    | some order =>
        simp only [ensures_reverse]
        exact fun x => h.quiet rfl

theorem cancelIfInitial_safe {id : TransactionId} (h : Safe registry s p) :
    Ensures (cancelIfInitial id) s p fun _ s p => Safe registry s p := by
  unfold cancelIfInitial
  simp only [ensures_bind, ensures_findRecord]
  constructor
  · intro e _
    exact h.quiet rfl
  intro record _
  have h := h.quiet (c := .ledger (.find id)) (x := .ok record) rfl
  split
  · simp only [ensures_bind, ensures_get, ensures_cancel, ensures_pure]
    constructor
    · intro e _
      exact h.quiet rfl
    intro t' t ht now hcancel
    exact h.halt (Past.note_cancel ..) ht (Transaction.halts_cancel hcancel)
  · exact h

theorem cancelLedger_safe (h : Safe registry s p) :
    Ensures cancelLedger s p fun _ s p => Safe registry s p := by
  unfold cancelLedger
  simp only [ensures_bind, ensures_get]
  split
  · exact h
  · cases s.transactionId? with
    | none => exact h
    | some id => exact cancelIfInitial_safe h

theorem abortOtp_safe (h : Safe registry s p) :
    Ensures abortOtp s p fun _ s p => Safe registry s p := by
  unfold abortOtp
  simp only [ensures_bind, ensures_get]
  split
  · exact h
  · split
    · next hmoved => exact completeOrder_safe h hmoved
    · cases s.transactionId? with
      | none => exact failOrder_safe h
      | some id =>
          rw [ensures_bind]
          apply (cancelIfInitial_safe h).mono
          intro r s p h
          cases r with
          | ok u => exact failOrder_safe h
          | error e => exact h

/-! ## Before the bank is asked -/

theorem initOrder_open {settings : FlowSettings} (h : Open registry s p) :
    Ensures (initOrder settings) s p fun _ s p => Open registry s p := by
  unfold initOrder
  simp only [ensures_bind, ensures_get, ensures_request]
  constructor
  · intro _
    exact h
  intro request _
  split
  · exact h
  · split
    · exact h
    · simp only [ensures_bind, ensures_now, ensures_freshOrderId, ensures_create, ensures_keep,
        OrderStore.Request.Result]
      intro now key
      have h := (h.quiet (c := .now) (x := now) rfl).quiet (c := .freshOrderId) (x := key) rfl
      constructor
      · intro e _
        exact h.quiet rfl
      · intro hnew
        exact h.create hnew rfl rfl rfl

theorem processOrder_underway (h : Open registry s p) :
    Ensures processOrder s p (Either (Underway registry) (Safe registry)) := by
  unfold processOrder
  simp only [ensures_bind, ensures_order, ensures_now, ensures_accept, ensures_process,
    ensures_keep, OrderStore.Request.Result]
  constructor
  · intro _
    exact h.safe
  intro order horder now
  have h := h.quiet (c := .now) (x := now) rfl
  constructor
  · intro e _
    exact h.safe
  intro started hstarted
  obtain ⟨_, rfl⟩ := Order.transition_ok hstarted
  constructor
  · intro e _
    exact h.safe.quiet rfl
  intro _ _ _
  have hrev {p : Past} : Revises registry s p order { order with
      status := .processing, awaitingOtp := false, updatedAt := now } :=
    .of_open horder ⟨rfl, rfl, rfl⟩ (by simp) (not_dropped_of_processing rfl) (by simp)
  exact ⟨h.write hrev (Past.note_process ..), fun kept hkept => by cases hkept; rfl⟩

theorem applyVoucher_underway (h : Underway registry s p) :
    Ensures applyVoucher s p fun _ s p => Underway registry s p := by
  unfold applyVoucher
  simp only [ensures_bind, ensures_get]
  cases s.request.bind PaymentRequest.voucherCode with
  | none => exact h
  | some code =>
      simp only [ensures_bind, ensures_order, ensures_useVoucher, Promotion.Request.Result]
      constructor
      · intro _
        exact h
      intro order _ x
      have h := h.quiet (c := .promotion (.useVoucher code order.userId (voucherTrace order)
        order.amount)) (x := x) rfl
      cases x with
      | ok discount => exact h.discounted (some discount)
      | error e => exact h

theorem intent_open {kind : FlowKind} {discount : Option Discount} {id : TransactionId}
    {now : Timestamp} : (intent kind discount o id now).status ≠ .finish := by
  simp [intent, Transaction.create]

theorem initLedger_underway (h : Underway registry s p) :
    Ensures initLedger s p (Either (Underway registry) (Safe registry)) := by
  unfold initLedger
  simp only [ensures_bind, ensures_order, ensures_get, ensures_freshTransactionId, ensures_now,
    ensures_init, ensures_accept, ensures_store]
  constructor
  · intro _
    exact h.safe
  intro order horder id hfresh now
  have h := (h.quiet (c := .freshTransactionId) (x := id) rfl).quiet (c := .now) (x := now) rfl
  constructor
  · intro e _
    exact h.safe.quiet rfl
  intro linkedAt
  have h := (h.init (t := intent s.kind s.discount order id now) hfresh intent_open).quiet (c := .now)
    (x := linkedAt) rfl
  constructor
  · intro e _
    exact h.safe
  intro linked hlinked
  obtain ⟨_, rfl⟩ := Order.linkTransaction_ok hlinked
  constructor
  · intro e _
    exact h.safe.quiet rfl
  intro _ _ _
  exact h.link horder (t := intent s.kind s.discount order id now) (Function.update_self ..) rfl
    intent_open

/-! ## Asking the bank -/

theorem handleAnswer_decided {settings : FlowSettings} {response : ProviderResponse}
    (h : Underway settings.classifiers s p) (horder : s.order = some o)
    (happroved : settings.classifiers.classify o.provider response.code = .success →
      Approved settings.classifiers p.events o.id o.provider) :
    Ensures (handleAnswer settings response) s p
      (Either (Decided settings.classifiers) (Safe settings.classifiers)) := by
  have hopen := not_dropped_of_processing (h.processing o horder)
  unfold handleAnswer
  simp only [ensures_bind, ensures_order, ensures_modify]
  constructor
  · intro hnone
    exact by simp [horder] at hnone
  intro order horder'
  rw [horder] at horder'
  cases horder'
  cases houtcome : settings.classifiers.classify o.provider response.code with
  | success => exact .of_success h.toSteady horder hopen (happroved houtcome)
  | verifying =>
      have h := h.answered .verifying (by simp)
      exact (park_safe response.reason h.toSteady.park).of_never
  | needsOtp =>
      have h := h.answered .needsOtp (by simp)
      simp only [Outcome.kind, ensures_bind, ensures_get]
      split
      · simp only [ensures_bind, ensures_now, ensures_accept, ensures_store, ensures_modify]
        intro now
        have h := h.quiet (c := .now) (x := now) rfl
        constructor
        · intro e _
          exact h.safe
        intro awaiting hawaiting
        obtain ⟨_, rfl⟩ := Order.markAwaitingOtp_ok hawaiting
        constructor
        · intro e _
          exact h.safe.quiet rfl
        intro _ _ _
        exact (h.keep horder { o with awaitingOtp := true, updatedAt := now }
          ⟨rfl, rfl, rfl⟩ rfl (Past.note_replace ..)).awaiting
      · exact h.safe
  | wrongOtp =>
      -- in answer to a payment this does not ask for a one-time password
      simp only [Outcome.kind, ensures_bind, ensures_get]
      split
      · next hotp => cases hotp.1
      · exact (h.answered _ (by simp)).safe
  | _ => exact (h.answered _ (by simp)).safe

theorem callBank_decided {settings : FlowSettings} (h : Underway settings.classifiers s p) :
    Ensures (callBank settings) s p
      (Either (Decided settings.classifiers) (Safe settings.classifiers)) := by
  unfold callBank
  simp only [ensures_bind, ensures_order, ensures_request, ensures_get, ensures_bank]
  constructor
  · intro _
    exact h.safe
  intro order horder
  constructor
  · intro _
    exact h.safe
  intro payment _ x
  generalize hcall : s.kind.bankCall _ = call
  have hid : call.orderId = order.id := by
    rw [← hcall]
    cases s.kind <;> rfl
  have h := h.quiet (c := .bank call) (x := x) rfl
  cases x with
  | error e =>
      cases e with
      | rejected reason => exact h.safe
      | _ => exact (park_safe _ h.toSteady.park).of_never
  | ok response =>
      have happroved : settings.classifiers.classify order.provider response.code = .success →
          Approved settings.classifiers (p.note (.bank call) (.ok response)).events order.id
            order.provider :=
        fun hsuccess => ⟨call, response, by simp, hid, hsuccess⟩
      simp only [ensures_bind]
      unfold keepTrace
      cases response.traceId with
      | none => exact handleAnswer_decided h horder happroved
      | some trace =>
          simp only [ensures_bind, ensures_now, ensures_store]
          intro now
          have h := h.quiet (c := .now) (x := now) rfl
          constructor
          · intro e _
            exact h.safe.quiet rfl
          intro _ _ _
          have h := h.keep horder (order.setBankTraceId trace now) ⟨rfl, rfl, rfl⟩ rfl
            (Past.note_replace _ (order.setBankTraceId trace now) _)
          apply handleAnswer_decided h rfl
          intro hsuccess
          exact ((happroved hsuccess).mono (Past.events_le ..)).mono (Past.events_le ..)

theorem loadOrder_loaded (h : Unmoved registry s p) :
    Ensures loadOrder s p (Either (Loaded registry) (Steady registry)) := by
  unfold loadOrder
  simp only [ensures_bind, ensures_get]
  cases s.resume with
  | none => exact h.toSteady
  | some key =>
      simp only [ensures_bind, ensures_stored, ensures_now]
      refine ⟨?_, ?_, ?_⟩
      · intro e _
        exact h.toSteady.quiet rfl
      · intro _
        exact h.toSteady.quiet rfl
      intro o ho now
      have h := (h.quiet (c := .orders (.find key)) (x := .ok (some o)) rfl).quiet (c := .now)
        (x := now) rfl
      split
      · exact h.toSteady
      · split
        · next hresumable => exact h.load key ho (by simp_all [isResumable])
        · exact h.toSteady

/-- A one-time password that is refused for good may leave the record of its order finished, if it
was once confirmed before. -/
theorem verifyOtp_decided {settings : FlowSettings} {otp : String}
    (h : Loaded settings.classifiers s p) :
    Ensures (verifyOtp settings otp) s p
      (Either (Decided settings.classifiers) (Safe settings.classifiers)) := by
  unfold verifyOtp
  simp only [ensures_bind, ensures_order, ensures_bank]
  constructor
  · intro hnone
    exact h.safe_of_none hnone
  intro order horder x
  have hbefore := h.consistent
  have hstored := h.held order horder
  have h := h.quiet (c := .bank (.verifyOtp order.id otp)) (x := x) rfl
  cases x with
  | error e => exact (park_safe _ h.toSteady.park).of_never
  | ok response =>
      have hrefused {s' : FlowState} (hunmoved : Unmoved settings.classifiers s'
          (p.note (.bank (.verifyOtp order.id otp)) (.ok response))) (hsame : s'.order = s.order)
          (hkind : (settings.classifiers.classify order.provider response.code).kind = .failure) :
          Safe settings.classifiers s'
            (p.note (.bank (.verifyOtp order.id otp)) (.ok response)) := by
        refine ⟨hunmoved.toSteady, ?_⟩
        intro _ _ _ o ho id t hlink ht hfinish
        rw [hsame, horder] at ho
        cases ho
        -- a finished record was confirmed before this answer
        have hconfirmed := (hbefore.backed ht hfinish).confirmed
        rw [hbefore.entered ht] at hconfirmed
        exact hconfirmed.reentered hkind
      simp only [ensures_bind, ensures_modify]
      cases houtcome : settings.classifiers.classify order.provider response.code with
      | success =>
          have hopen := not_dropped_of_processing (h.processing order horder)
          exact .of_success h.toSteady horder hopen
            ⟨.verifyOtp order.id otp, response, by simp, rfl, houtcome⟩
      | verifying =>
          have h := h.answered .verifying (by simp)
          exact (park_safe response.reason h.toSteady.park).of_never
      | wrongOtp => exact (h.answered .wrongOtp (by simp)).retry
      | needsOtp => exact (h.answered .needsOtp (by simp)).retry
      | _ => exact hrefused (h.answered _ (by simp)) rfl (by rw [houtcome]; rfl)

/-! ## After the bank was asked -/

theorem confirmLedger_completable (h : Decided registry s p) :
    Ensures confirmLedger s p (Either (Completable registry) (Safe registry)) := by
  unfold confirmLedger
  simp only [ensures_bind, ensures_get]
  split
  · next hawaiting =>
      exact ⟨h.toSafe, fun hnot => by simp [hawaiting] at hnot⟩
  · next hawaiting =>
      have hmoved := h.decided (by simpa using hawaiting)
      simp only [ensures_bind, ensures_transactionId, ensures_confirm]
      constructor
      · intro _
        exact h.toSafe
      intro order horder
      constructor
      · intro _
        exact h.toSafe
      intro id hlink
      constructor
      · intro e _
        have h := h.quiet (c := .ledger (.confirm id)) (x := .error e) rfl
        exact (park_safe _ h.toSteady.park).of_never
      · intro t' t ht now hconfirm
        obtain ⟨hsafe, hfinished⟩ := h.confirm hmoved horder hlink ht hconfirm
        exact ⟨hsafe, fun _ => ⟨order, horder, hfinished⟩⟩

theorem successOrder_safe (h : Completable registry s p) :
    Ensures successOrder s p fun _ s p => Safe registry s p := by
  unfold successOrder
  simp only [ensures_bind, ensures_order, ensures_get]
  constructor
  · intro _
    exact h.toSafe
  intro order horder
  split
  · simp only [ensures_notify]
    exact h.toSafe.quiet rfl
  · next hawaiting =>
      obtain ⟨finished, horder', hfinished⟩ := h.finished (by simpa using hawaiting)
      rw [horder] at horder'
      cases horder'
      simp only [ensures_bind, ensures_now, ensures_accept, ensures_replace, ensures_notify,
        ensures_keep, OrderStore.Request.Result]
      intro now
      have h := h.toSafe.quiet (c := .now) (x := now) rfl
      constructor
      · intro e _
        exact h
      intro succeeded hsucceeded
      obtain ⟨_, rfl⟩ := Order.transition_ok hsucceeded
      constructor
      · intro e _
        exact h.quiet rfl
      intro _ _ _
      have hrev : Revises registry s (p.note .now now) order { order with
          status := .success, awaitingOtp := false, updatedAt := now } :=
        ⟨⟨rfl, rfl, rfl⟩, horder, fun _ => hfinished, by simp [Order.Dropped], by simp⟩
      exact (h.write hrev (Past.note_replace ..)).quiet rfl

/-! ## Whole plays -/

section

variable (registry : ClassifierRegistry)

/-- `Safe` between two steps. -/
def safe : Assertion where
  Holds := Safe registry
  conduct x hc h := h.quiet (Past.note_books_of_conducts x hc)
  reason _ h := ⟨⟨h.consistent, h.held, h.moved⟩, h.droppable⟩

/-- `Steady` between two steps. -/
def steady : Assertion where
  Holds := Steady registry
  conduct x hc h := h.quiet (Past.note_books_of_conducts x hc)
  reason _ h := ⟨h.consistent, h.held, h.moved⟩

/-- `Unmoved` between two steps. -/
def unmoved : Assertion where
  Holds := Unmoved registry
  conduct x hc h := h.quiet (Past.note_books_of_conducts x hc)
  reason _ h := ⟨⟨h.consistent, h.held, h.moved⟩, h.unmoved⟩

/-- `Loaded` between two steps. -/
def loaded : Assertion where
  Holds := Loaded registry
  conduct x hc h := h.quiet (Past.note_books_of_conducts x hc)
  reason _ h := ⟨⟨⟨h.consistent, h.held, h.moved⟩, h.unmoved⟩, h.processing⟩

/-- `Open` between two steps. -/
def opened : Assertion where
  Holds := Open registry
  conduct x hc h := h.quiet (Past.note_books_of_conducts x hc)
  reason _ h := ⟨⟨⟨h.consistent, h.held, h.moved⟩, h.unmoved⟩, h.droppable⟩

/-- `Underway` between two steps. -/
def underway : Assertion where
  Holds := Underway registry
  conduct x hc h := h.quiet (Past.note_books_of_conducts x hc)
  reason _ h := ⟨⟨⟨⟨h.consistent, h.held, h.moved⟩, h.unmoved⟩, h.droppable⟩, h.processing⟩

/-- `Decided` between two steps. -/
def decided : Assertion where
  Holds := Decided registry
  conduct x hc h := h.quiet (Past.note_books_of_conducts x hc)
  reason _ h := ⟨⟨⟨h.consistent, h.held, h.moved⟩, h.droppable⟩, h.decided⟩

/-- `Completable` between two steps. -/
def completable : Assertion where
  Holds := Completable registry
  conduct x hc h := h.quiet (Past.note_books_of_conducts x hc)
  reason _ h := ⟨⟨⟨h.consistent, h.held, h.moved⟩, h.droppable⟩, h.finished⟩

end

theorem finalSteps_safe :
    Chain (decided registry) (safe registry) finalSteps (safe registry) (safe registry) :=
  .finalSteps (E := completable registry) (fun h => h.toSafe) (fun h => h.toSafe)
    confirmLedger_completable successOrder_safe

theorem paymentSteps_safe (settings : FlowSettings) (withVoucher : Bool) :
    Chain (opened settings.classifiers) (safe settings.classifiers)
      (paymentSteps settings withVoucher) (safe settings.classifiers)
      (safe settings.classifiers) := by
  have hunderway {s : FlowState} {p : Past} (h : Underway settings.classifiers s p) :
      Safe settings.classifiers s p := h.safe
  exact .paymentSteps (A := opened settings.classifiers) (B := underway settings.classifiers)
    (C := underway settings.classifiers) (D := decided settings.classifiers) (fun h => h.safe)
    hunderway hunderway initOrder_open processOrder_underway applyVoucher_underway
    initLedger_underway callBank_decided failOrder_safe reverseVoucher_safe cancelLedger_safe
    finalSteps_safe

/-- An order that is resumed need not be safe to undo until the bank was asked. -/
theorem otpSteps_safe (settings : FlowSettings) (otp : String) :
    Chain (unmoved settings.classifiers) (steady settings.classifiers) (otpSteps settings otp)
      (safe settings.classifiers) (safe settings.classifiers) := by
  have haborted {s : FlowState} {p : Past} (h : Safe settings.classifiers s p) :
      Ensures abortOtp s p fun _ s p => Steady settings.classifiers s p := by
    apply (abortOtp_safe h).mono
    intro _ _ _ h
    exact h.toSteady
  exact .otpSteps (A := unmoved settings.classifiers) (L := loaded settings.classifiers)
    (D := decided settings.classifiers) (R := steady settings.classifiers) (fun h => h.toSteady)
    (fun h => h.toSteady) (fun h => h.toSteady) loadOrder_loaded verifyOtp_decided haborted
    finalSteps_safe

/-- Flows keep the books consistent. -/
theorem always_consistent (config : FlowConfig) (call : FlowCall) (operation : Context)
    (h : Consistent registry p) :
    (call.program ⟨registry, config⟩ operation).Always p fun _ p => Consistent registry p := by
  cases call with
  | pay kind request =>
      refine (paymentSteps_safe ⟨registry, config⟩ request.voucherCode.isSome).flow
        (s := .starting kind request) (.start h rfl rfl)
        (fun h => h.consistent) (fun h => h.consistent) (fun h => h.consistent)
  | resume key otp =>
      refine (otpSteps_safe ⟨registry, config⟩ otp).flow
        (s := .resuming .cashIn key) (Open.start h rfl rfl).toUnmoved
        (fun h => h.consistent) (fun h => h.consistent) (fun h => h.consistent)

end

end Wallet.Flow
