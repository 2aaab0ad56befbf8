import Wallet.Proofs.Telling.Undoing

/-!
# Telling while a flow goes on

Up to its last step a flow tells nothing, unless it parks its order and stops. What the last step
tells is that the order has succeeded, or that a one-time password is awaited. In the second case
the order has been stored as waiting for it, and nobody has touched its record since it was
registered.
-/

namespace Wallet.Telling

open Wallet.Flow

/-- The record of the order is initial. -/
def Initial (p : Past) (o : Order) : Prop :=
  ∃ id t, o.transactionId = some id ∧ p.books.records id = some t ∧ t.state = .initial

/-- The order waits for its one-time password. -/
structure Waiting (p : Past) (o : Order) : Prop where
  processing : o.status = .processing
  awaiting : o.awaitingOtp = true
  initial : Initial p o

/-- The flow goes on with its order. Nothing was told, and the user is to be asked for a one-time
password only if the order waits for it. -/
structure Going (before : Past) (s : FlowState) (p : Past) (o : Order) : Prop extends
    Keeping before [] s p o where
  unparked : s.parked = false
  midway : Midway o
  waits : s.awaitingOtp = true → Waiting p o

/-- The flow has not begun with any order. -/
structure Launched (before : Past) (s : FlowState) (p : Past) : Prop extends
    Unbegun before s p where
  unparked : s.parked = false
  answered : s.awaitingOtp = false

/-- The bank has not asked for a one-time password. -/
def Drafted (before : Past) (s : FlowState) (p : Past) : Prop :=
  s.awaitingOtp = false ∧ ∃ o, Going before s p o

/-- The record of the order is registered. -/
def Registered (before : Past) (s : FlowState) (p : Past) : Prop :=
  s.awaitingOtp = false ∧ ∃ o, Going before s p o ∧ Initial p o

/-- What was told at the end of a flow that was not stopped. -/
def Completed (before : Past) (s : FlowState) (p : Past) : Prop :=
  (s.awaitingOtp = true ∧ ∃ o n, Keeping before [n] s p o ∧ Waiting p o ∧ n.orderId = o.id ∧
      n.kind = .otpRequired) ∨
    (s.awaitingOtp = false ∧ Told before .success s p)

/-- A part of a step leads on, or the flow stops. -/
def Proceeds (before : Past) (B : FlowState → Past → Prop) (r : Except FlowError Unit)
    (s : FlowState) (p : Past) : Prop :=
  match r with
  | .ok () => B s p
  | .error e => Stopped before e.isPending s p

section

variable {before p : Past} {s s' : FlowState} {o o' : Order} {c : Call} {x : c.Answer}
  {B : FlowState → Past → Prop} {e : FlowError} {settings : FlowSettings}

/-! ## The stages -/

theorem Initial.quiet (h : Initial p o) (hbooks : (p.note c x).books = p.books) :
    Initial (p.note c x) o := by
  unfold Initial
  rw [hbooks]
  exact h

/-- Writing an order does not touch the records. -/
theorem Initial.file (h : Initial p o) (hlink : o'.transactionId = o.transactionId)
    (hbooks : (p.note c x).books = p.books.file o') : Initial (p.note c x) o' := by
  obtain ⟨id, t, hid, ht, hinitial⟩ := h
  refine ⟨id, t, hlink.trans hid, ?_, hinitial⟩
  rw [hbooks]
  exact ht

theorem Going.stopped (h : Going before s p o) : Stopped before false s p :=
  .untold h.unparked rfl (.midway h.toKeeping h.midway)

/-- A flow that goes on may be stopped by any error but that its order is pending. -/
theorem Going.halt (h : Going before s p o) (he : e.isPending = false) :
    Stopped before e.isPending s p := by
  rw [he]
  exact h.stopped

theorem Going.quiet (h : Going before s p o) (hnotice : (Event.mk c x).notice? = none)
    (hbooks : (p.note c x).books = p.books) : Going before s (p.note c x) o where
  toKeeping := h.toKeeping.call hnotice (congrArg Books.orders hbooks)
  unparked := h.unparked
  midway := h.midway
  waits hawaiting :=
    ⟨(h.waits hawaiting).processing, (h.waits hawaiting).awaiting,
      (h.waits hawaiting).initial.quiet hbooks⟩

theorem Going.now (h : Going before s p o) (now : Timestamp) : Going before s (p.note .now now) o :=
  h.quiet rfl rfl

/-- A call is refused. -/
theorem Going.refused (h : Going before s p o) (hnotice : (Event.mk c x).notice? = none)
    (hbooks : (p.note c x).books = p.books) (he : e.isPending = false) :
    Stopped before e.isPending s (p.note c x) :=
  (h.quiet hnotice hbooks).halt he

/-- A call about the record of an order that does not wait. -/
theorem Going.record (h : Going before s p o) (hanswered : s.awaitingOtp = false)
    (hnotice : (Event.mk c x).notice? = none)
    (horders : (p.note c x).books.orders = p.books.orders) : Going before s (p.note c x) o where
  toKeeping := h.toKeeping.call hnotice horders
  unparked := h.unparked
  midway := h.midway
  waits hawaiting := by
    rw [hanswered] at hawaiting
    cases hawaiting

theorem Going.of_same (h : Going before s p o) (horder : s'.order = s.order)
    (hparked : s'.parked = s.parked) (hawaiting : s'.awaitingOtp = s.awaitingOtp) :
    Going before s' p o :=
  ⟨h.toKeeping.of_same horder, hparked.trans h.unparked, h.midway,
    fun hwaits => h.waits (hawaiting.symm.trans hwaits)⟩

/-- Another version of the order is written while the bank has not asked for a password. -/
theorem Going.write (h : Going before s p o) (hanswered : s.awaitingOtp = false)
    (hid : o'.id = o.id) (hmidway : Midway o') (hnotice : (Event.mk c x).notice? = none)
    (hbooks : (p.note c x).books = p.books.file o') :
    Going before { s with order := some o' } (p.note c x) o' where
  toKeeping := h.toKeeping.write hid hnotice hbooks
  unparked := h.unparked
  midway := hmidway
  waits hawaiting := by
    rw [show s.awaitingOtp = false from hanswered] at hawaiting
    cases hawaiting

/-- A flow that goes on may be stopped because its order is parked. -/
theorem Going.park (h : Going before s p o) (reason : String) :
    Ensures (park reason) s p (Proceeds before B) := by
  refine (park_parked h.toKeeping h.midway).mono ?_
  rintro r s p ⟨e, rfl, hparked, hended⟩
  exact .parked hparked hended

theorem Launched.quiet (h : Launched before s p) (hnotice : (Event.mk c x).notice? = none)
    (horders : (p.note c x).books.orders = p.books.orders) : Launched before s (p.note c x) :=
  ⟨h.toUnbegun.call hnotice horders, h.unparked, h.answered⟩

theorem Launched.now (h : Launched before s p) (now : Timestamp) :
    Launched before s (p.note .now now) :=
  h.quiet rfl rfl

theorem Launched.create (h : Launched before s p) (hnew : p.books.orders o.id = none)
    (hpending : o.status = .pending) :
    Drafted before { s with order := some o } (p.note (.orders (.create o)) (.ok o)) := by
  have hkept := h.toUnbegun.write hnew rfl (Past.note_create p o o)
  refine ⟨h.answered, o, hkept, h.unparked, .inl hpending, ?_⟩
  intro hawaiting
  cases h.answered.symm.trans hawaiting

theorem Launched.stopped (h : Launched before s p) : Stopped before false s p :=
  .untold h.unparked rfl (.unbegun h.toUnbegun)

theorem Launched.halt (h : Launched before s p) (he : e.isPending = false) :
    Stopped before e.isPending s p := by
  rw [he]
  exact h.stopped

/-! ## Before the bank is asked -/

theorem initOrder_drafted (h : Launched before s p) :
    Ensures (initOrder settings) s p (Proceeds before (Drafted before)) := by
  unfold initOrder
  simp only [ensures_bind, ensures_get, ensures_request]
  refine ⟨fun _ => h.halt rfl, fun request _ => ?_⟩
  split
  · exact h.halt rfl
  split
  · exact h.halt rfl
  simp only [ensures_bind, ensures_now, ensures_freshOrderId, ensures_create, ensures_keep,
    OrderStore.Request.Result]
  intro now key
  have h := (h.now now).quiet (c := .freshOrderId) (x := key) rfl rfl
  refine ⟨fun e _ => ?_, fun hnew => h.create hnew rfl⟩
  exact Launched.halt (h.quiet rfl rfl) rfl

theorem processOrder_drafted (h : Drafted before s p) :
    Ensures processOrder s p (Proceeds before (Drafted before)) := by
  obtain ⟨hanswered, o, h⟩ := h
  unfold processOrder
  simp only [ensures_bind, ensures_order, ensures_now, ensures_accept, ensures_process,
    ensures_keep, OrderStore.Request.Result]
  refine ⟨fun _ => h.halt rfl, fun order horder now => ?_⟩
  cases h.order.symm.trans horder
  have h := h.now now
  refine ⟨fun e _ => h.halt rfl, fun started hstarted => ?_⟩
  have hsame : started.id = o.id ∧ started.status = .processing := by
    obtain ⟨_, rfl⟩ := Order.transition_ok hstarted
    exact ⟨rfl, rfl⟩
  refine ⟨fun e _ => h.refused rfl rfl rfl, fun _ _ _ => ⟨hanswered, started, ?_⟩⟩
  exact h.write hanswered hsame.1 (.inr hsame.2) rfl (Past.note_process ..)

theorem applyVoucher_drafted (h : Drafted before s p) :
    Ensures applyVoucher s p (Proceeds before (Drafted before)) := by
  obtain ⟨hanswered, o, h⟩ := h
  unfold applyVoucher
  simp only [ensures_bind, ensures_get]
  cases s.request.bind PaymentRequest.voucherCode with
  | none => exact ⟨hanswered, o, h⟩
  | some code =>
      simp only [ensures_bind, ensures_order, ensures_useVoucher, Promotion.Request.Result]
      refine ⟨fun _ => h.halt rfl, fun order _ x => ?_⟩
      have h := h.quiet (c := .promotion (.useVoucher code order.userId (voucherTrace order)
        order.amount)) (x := x) rfl rfl
      cases x with
      | ok discount => exact ⟨hanswered, o, h.of_same rfl rfl rfl⟩
      | error e => exact h.halt (by cases e <;> rfl)

theorem initLedger_registered (h : Drafted before s p) :
    Ensures initLedger s p (Proceeds before (Registered before)) := by
  obtain ⟨hanswered, o, h⟩ := h
  unfold initLedger
  simp only [ensures_bind, ensures_order, ensures_get, ensures_freshTransactionId, ensures_now,
    ensures_init, ensures_accept, ensures_store]
  refine ⟨fun _ => h.halt rfl, fun order horder id _ now => ?_⟩
  cases h.order.symm.trans horder
  have h := (h.quiet (c := .freshTransactionId) (x := id) rfl rfl).now now
  refine ⟨fun e _ => h.refused rfl rfl rfl, fun linkedAt => ?_⟩
  generalize hintent : intent s.kind s.discount o id now = t
  have hinitial : t.state = .initial := by rw [← hintent]; rfl
  have hrecord : (p.note .freshTransactionId id |>.note .now now
      |>.note (.ledger (.init t)) (.ok t)).books.records t.id = some t := Books.enter_self ..
  have h := (h.record (c := .ledger (.init t)) (x := .ok t) hanswered rfl rfl).now linkedAt
  refine ⟨fun e _ => h.halt rfl, fun linked hlinked => ?_⟩
  have hsame : linked.id = o.id ∧ linked.status = o.status ∧ linked.transactionId = some t.id := by
    obtain ⟨_, rfl⟩ := Order.linkTransaction_ok hlinked
    exact ⟨rfl, rfl, rfl⟩
  have hmidway : Midway linked := by
    unfold Midway
    rw [hsame.2.1]
    exact h.midway
  exact ⟨fun e _ => h.refused rfl rfl rfl, fun _ _ _ => ⟨hanswered, linked,
    h.write hanswered hsame.1 hmidway rfl (Past.note_replace ..), t.id, t, hsame.2.2, hrecord,
    hinitial⟩⟩

/-! ## Asking the bank -/

theorem keepTrace_registered {response : ProviderResponse} (h : Registered before s p)
    (horder : s.order = some o) :
    Ensures (keepTrace o response) s p (Proceeds before (Registered before)) := by
  unfold keepTrace
  cases response.traceId with
  | none => exact h
  | some trace =>
      obtain ⟨hanswered, o, h, hinitial⟩ := h
      cases h.order.symm.trans horder
      simp only [ensures_bind, ensures_now, ensures_store]
      intro now
      have hinitial := hinitial.quiet (c := .now) (x := now) rfl
      have h := h.now now
      exact ⟨fun e _ => h.refused rfl rfl rfl, fun _ _ _ => ⟨hanswered, o.setBankTraceId trace now,
        h.write hanswered rfl h.midway rfl (Past.note_replace ..),
        hinitial.file rfl (Past.note_replace ..)⟩⟩

/-- The order is stored as waiting for its one-time password, and so the user is asked for it. -/
theorem Going.await {now : Timestamp} (h : Going before s p o) (hinitial : Initial p o)
    (hmarked : o.markAwaitingOtp now = .ok o') :
    Going before { s with order := some o', awaitingOtp := true }
      (p.note (.orders (.replace o')) (.ok o')) o' := by
  obtain ⟨hid, hlink, hprocessing, hwaits⟩ : o'.id = o.id ∧ o'.transactionId = o.transactionId ∧
      o'.status = .processing ∧ o'.awaitingOtp = true := by
    obtain ⟨hprocessing, rfl⟩ := Order.markAwaitingOtp_ok hmarked
    exact ⟨rfl, rfl, hprocessing, rfl⟩
  have hwritten : Keeping before [] { s with order := some o' }
      (p.note (.orders (.replace o')) (.ok o')) o' :=
    h.toKeeping.write hid rfl (Past.note_replace ..)
  exact ⟨hwritten.of_same rfl, h.unparked, .inr hprocessing,
    fun _ => ⟨hprocessing, hwaits, hinitial.file hlink (Past.note_replace ..)⟩⟩

/-- The flow goes on with some order. -/
def Asked (before : Past) (s : FlowState) (p : Past) : Prop := ∃ o, Going before s p o

theorem handleAnswer_asked {response : ProviderResponse} (h : Registered before s p) :
    Ensures (handleAnswer settings response) s p (Proceeds before (Asked before)) := by
  obtain ⟨hanswered, o, h, hinitial⟩ := h
  unfold handleAnswer
  simp only [ensures_bind, ensures_order, ensures_modify]
  refine ⟨fun _ => h.halt rfl, fun order horder => ?_⟩
  cases h.order.symm.trans horder
  generalize settings.classifiers.classify o.provider response.code = outcome
  have h : Going before { s with outcome := some outcome } p o := h.of_same rfl rfl rfl
  cases outcome.kind with
  | success => exact ⟨o, h⟩
  | pending => exact h.park _
  | failure => exact h.halt rfl
  | needsAuth =>
      simp only [ensures_bind, ensures_get]
      split
      · simp only [ensures_bind, ensures_now, ensures_accept, ensures_store, ensures_modify]
        intro now
        have hinitial := hinitial.quiet (c := .now) (x := now) rfl
        have h := h.now now
        exact ⟨fun e _ => h.halt rfl, fun awaiting hawaiting =>
          ⟨fun e _ => h.refused rfl rfl rfl,
            fun _ _ _ => ⟨awaiting, h.await hinitial hawaiting⟩⟩⟩
      · exact h.halt rfl

theorem callBank_asked (h : Registered before s p) :
    Ensures (callBank settings) s p (Proceeds before (Asked before)) := by
  obtain ⟨hanswered, o, h, hinitial⟩ := h
  unfold callBank
  simp only [ensures_bind, ensures_order, ensures_request, ensures_get, ensures_bank]
  refine ⟨fun _ => h.halt rfl, fun order horder => ⟨fun _ => h.halt rfl, fun payment _ x => ?_⟩⟩
  cases h.order.symm.trans horder
  generalize s.kind.bankCall _ = call
  have hinitial := hinitial.quiet (c := .bank call) (x := x) rfl
  have h := h.quiet (c := .bank call) (x := x) rfl rfl
  cases x with
  | error e =>
      cases e with
      | rejected reason => exact h.halt rfl
      | _ => exact h.park _
  | ok response =>
      simp only [ensures_bind]
      refine (keepTrace_registered ⟨hanswered, o, h, hinitial⟩ horder).mono ?_
      intro r s p hr
      cases r with
      | ok u => exact handleAnswer_asked hr
      | error e => exact hr

/-! ## Resuming -/

/-- An order that is loaded was stored before the flow began. -/
theorem Launched.load {key : OrderId} (h : Launched before s p) (ho : p.books.orders key = some o)
    (hid : o.id = key) (hprocessing : o.status = .processing) :
    Drafted before { s with order := some o } p := by
  subst hid
  have hkept : Keeping before [] { s with order := some o } p o := by
    refine ⟨rfl, ho, fun _ _ => by rw [h.orders], by rw [h.sent, List.append_nil], fun b hb => ?_⟩
    rw [← h.orders, ho] at hb
    cases hb
    exact hprocessing
  refine ⟨h.answered, o, hkept, h.unparked, .inr hprocessing, fun hawaiting => ?_⟩
  cases h.answered.symm.trans hawaiting

theorem loadOrder_drafted (h : Launched before s p)
    (htidy : ∀ key o, before.books.orders key = some o →
      o.id = key ∧ (o.awaitingOtp = true → o.status = .processing)) :
    Ensures loadOrder s p (Proceeds before (Drafted before)) := by
  unfold loadOrder
  simp only [ensures_bind, ensures_get]
  cases s.resume with
  | none => exact h.halt rfl
  | some key =>
      simp only [ensures_bind, ensures_stored, ensures_now]
      refine ⟨fun e _ => (h.quiet rfl rfl).halt rfl, fun _ => (h.quiet rfl rfl).halt rfl,
        fun o ho now => ?_⟩
      obtain ⟨hid, hprocessing⟩ := htidy key o (by rw [← h.orders]; exact ho)
      have h := (h.quiet (c := .orders (.find key)) (x := .ok (some o)) rfl rfl).now now
      split
      · exact h.halt rfl
      split
      · next hresumable =>
          simp only [isResumable, Bool.and_eq_true] at hresumable
          exact h.load ho hid (hprocessing hresumable.1.2)
      · exact h.halt rfl

theorem verifyOtp_asked {otp : String} (h : Drafted before s p) :
    Ensures (verifyOtp settings otp) s p (Proceeds before (Asked before)) := by
  obtain ⟨_, o, h⟩ := h
  unfold verifyOtp
  simp only [ensures_bind, ensures_order, ensures_bank]
  refine ⟨fun _ => h.halt rfl, fun order _ x => ?_⟩
  have h := h.quiet (c := .bank (.verifyOtp order.id otp)) (x := x) rfl rfl
  cases x with
  | error e => exact h.park _
  | ok response =>
      simp only [ensures_bind, ensures_modify]
      generalize settings.classifiers.classify order.provider response.code = outcome
      have h : Going before { s with outcome := some outcome }
          (p.note (.bank (.verifyOtp order.id otp)) (.ok response)) o := h.of_same rfl rfl rfl
      cases outcome with
      | success => exact ⟨o, h⟩
      | verifying => exact h.park _
      | wrongOtp | needsOtp => exact Going.halt (h.of_same rfl rfl rfl) rfl
      | _ => exact h.halt rfl

/-! ## The last steps -/

theorem confirmLedger_asked (h : Asked before s p) :
    Ensures confirmLedger s p (Proceeds before (Asked before)) := by
  obtain ⟨o, h⟩ := h
  unfold confirmLedger
  simp only [ensures_bind, ensures_get]
  split
  · exact ⟨o, h⟩
  next hanswered =>
  rw [Bool.not_eq_true] at hanswered
  simp only [ensures_bind, ensures_transactionId, ensures_confirm]
  refine ⟨fun _ => h.halt rfl, fun order _ => ⟨fun _ => h.halt rfl, fun id _ => ⟨fun e _ => ?_,
    fun t' t ht now hconfirmed => ⟨o, h.record hanswered rfl rfl⟩⟩⟩⟩
  exact Going.park (h.record hanswered rfl rfl) _

theorem successOrder_completed (h : Asked before s p) :
    Ensures successOrder s p (Proceeds before (Completed before)) := by
  obtain ⟨o, h⟩ := h
  unfold successOrder
  simp only [ensures_bind, ensures_order, ensures_get]
  refine ⟨fun _ => h.halt rfl, fun order horder => ?_⟩
  cases h.order.symm.trans horder
  split
  · next hawaiting =>
      simp only [ensures_notify]
      obtain ⟨hprocessing, hwaits, hinitial⟩ := h.waits hawaiting
      exact .inl ⟨hawaiting, o, _, h.toKeeping.notify _ (), ⟨hprocessing, hwaits,
        hinitial.quiet rfl⟩, rfl, rfl⟩
  · next hanswered =>
      simp only [ensures_bind, ensures_now, ensures_accept, ensures_replace, ensures_notify,
        ensures_keep, OrderStore.Request.Result]
      intro now
      have h := h.now now
      refine ⟨fun e _ => h.halt rfl, fun succeeded hsucceeded => ?_⟩
      have hsame : succeeded.id = o.id ∧ succeeded.status = .success := by
        obtain ⟨_, rfl⟩ := Order.transition_ok hsucceeded
        exact ⟨rfl, rfl⟩
      refine ⟨fun e _ => h.refused rfl rfl rfl, fun _ _ _ => .inr ⟨by simpa using hanswered, ?_⟩⟩
      have htold := h.toKeeping.announce hsame.1
        (n := ⟨succeeded.userId, succeeded.id, .orderSucceeded, "order completed"⟩) rfl
        (by rw [hsame.2]; rfl)
      rwa [hsame.2] at htold

end

end Wallet.Telling
