import Wallet.Proofs.Flow.Endures
import Wallet.Proofs.Versions.Basic

/-!
# Flows write later versions

A flow never writes an order but in place of the version it has in its state, and that is always the
stored one. What it writes is what a change has made of that version, so it amends it. The two changes
that an order never refuses, the link to its record and the trace id, are made only while the order is
processing.
-/

namespace Wallet.Flow

/-- The past is lawful, and the order of the flow is the stored one. -/
structure Kept (s : FlowState) (g : Past) : Prop where
  lawful : Lawful g
  held : ∀ o, s.order = some o → g.books.orders o.id = some o

/-- The order of the flow is processing. -/
structure Handled (s : FlowState) (g : Past) : Prop extends Kept s g where
  processing : ∀ o, s.order = some o → o.status = .processing

section

variable {s s' : FlowState} {g : Past} {c : Call} {x : c.Answer} {o o' : Order}

theorem Kept.start (h : Lawful g) (hnone : s.order = none) : Kept s g :=
  ⟨h, by simp [hnone]⟩

/-- What a flow keeps beside its order does not matter. -/
theorem Kept.of_same (h : Kept s g) (hsame : s'.order = s.order) : Kept s' g :=
  ⟨h.lawful, by rw [hsame]; exact h.held⟩

theorem Handled.of_same (h : Handled s g) (hsame : s'.order = s.order) : Handled s' g :=
  ⟨h.toKept.of_same hsame, by rw [hsame]; exact h.processing⟩

theorem Kept.record (h : Kept s g) (horders : (g.note c x).books.orders = g.books.orders) :
    Kept s (g.note c x) :=
  ⟨h.lawful.record horders, by rw [horders]; exact h.held⟩

theorem Handled.record (h : Handled s g) (horders : (g.note c x).books.orders = g.books.orders) :
    Handled s (g.note c x) :=
  ⟨h.toKept.record horders, h.processing⟩

/-- A version that amends the order of the flow is written, and the flow goes on with it. -/
theorem Kept.write (h : Kept s g) (horder : s.order = some o) (hamends : o.Amends o')
    (hbooks : (g.note c x).books = g.books.file o') :
    Kept { s with order := some o' } (g.note c x) where
  lawful := h.lawful.amend hbooks (h.held o horder) hamends
  held kept hkept := by
    cases hkept
    rw [hbooks]
    exact Books.file_self ..

theorem Handled.write (h : Handled s g) (horder : s.order = some o) (hamends : o.Amends o')
    (hstatus : o'.status = o.status) (hbooks : (g.note c x).books = g.books.file o') :
    Handled { s with order := some o' } (g.note c x) where
  toKept := h.toKept.write horder hamends hbooks
  processing kept hkept := by
    cases hkept
    exact hstatus.trans (h.processing o horder)

theorem Handled.unresolved (h : Handled s g) (horder : s.order = some o) :
    o.isTerminal = false := by
  rw [Order.isTerminal, h.processing o horder]
  rfl

theorem Kept.create (h : Kept s g) (hnew : g.books.orders o.id = none)
    (hretrieved : o.isRetrieved = false) :
    Kept { s with order := some o } (g.note (.orders (.create o)) (.ok o)) where
  lawful := h.lawful.file (Past.note_create g o o) (by simp [hnew]) (by simp [hretrieved])
  held kept hkept := by
    cases hkept
    exact Books.file_self ..

/-- A stored order is loaded. -/
theorem Kept.load (h : Kept s g) {key : OrderId} (ho : g.books.orders key = some o) :
    Kept { s with order := some o } g where
  lawful := h.lawful
  held kept hkept := by
    cases hkept
    rw [h.lawful.filed ho]
    exact ho

/-- Whatever ends a flow amends its order. -/
theorem amends_of_closes (h : o.Closes o') : o.Amends o' := by
  cases h with
  | parked h => exact Order.amends_transitionFor h
  | succeeded h => exact Order.amends_transition h
  | settled h => exact Order.amends_settle h
  | withdrawn h => exact Order.amends_failUnlessResolved? h

theorem endures_kept : Endures Kept where
  held h horder := h.held _ horder
  same h hsame := h.of_same hsame
  moved h _ _ hmoves := h.record (by rw [Past.note_moved hmoves]; rfl)
  reversed h := h.record rfl
  closed h horder hcloses := h.write horder (amends_of_closes hcloses) (Past.note_replace ..)

/-! ## Before the bank is asked -/

theorem initOrder_kept {settings : FlowSettings} (h : Kept s g) :
    Reaches .any (initOrder settings) s g fun _ s g => Kept s g := by
  unfold initOrder
  simp only [reaches_bind, reaches_get, reaches_request]
  refine ⟨fun _ => h, fun request _ => ?_⟩
  split
  · exact h
  split
  · exact h
  simp only [reaches_bind, reaches_now, reaches_freshOrderId, reaches_create, reaches_keep,
    OrderStore.Request.Result]
  exact fun now key => ⟨fun _ _ _ => h, fun hnew => h.create hnew rfl⟩

theorem processOrder_handled (h : Kept s g) :
    Reaches .any processOrder s g (Either Handled Kept) := by
  unfold processOrder
  simp only [reaches_bind, reaches_order, reaches_now, reaches_accept, reaches_process,
    reaches_keep, OrderStore.Request.Result]
  refine ⟨fun _ => h, fun order horder now => ⟨fun _ _ => h, fun started hstarted =>
    ⟨fun _ _ _ => h, fun _ _ _ => ?_⟩⟩⟩
  refine ⟨h.write horder (Order.amends_transition hstarted) (Past.note_process ..), ?_⟩
  intro kept hkept
  cases hkept
  obtain ⟨_, rfl⟩ := Order.transition_ok hstarted
  rfl

theorem applyVoucher_handled (h : Handled s g) :
    Reaches .any applyVoucher s g fun _ s g => Handled s g := by
  unfold applyVoucher
  simp only [reaches_bind, reaches_get]
  cases s.request.bind PaymentRequest.voucherCode with
  | none => exact h
  | some code =>
      simp only [reaches_bind, reaches_order, reaches_useVoucher, Promotion.Request.Result]
      refine ⟨fun _ => h, fun order _ => ⟨fun _ _ => h, fun discount => ?_⟩⟩
      exact (h.record rfl).of_same rfl

theorem initLedger_handled (h : Handled s g) :
    Reaches .any initLedger s g (Either Handled Kept) := by
  unfold initLedger
  simp only [reaches_bind, reaches_order, reaches_get, reaches_freshTransactionId, reaches_now,
    reaches_init, reaches_accept, reaches_store]
  refine ⟨fun _ => h.toKept, fun order horder id _ now => ⟨fun _ _ _ => h.toKept, fun linkedAt => ?_⟩⟩
  have h := h.record (c := .ledger (.init (intent s.kind s.discount order id now)))
    (x := .ok (intent s.kind s.discount order id now)) rfl
  refine ⟨fun _ _ => h.toKept, fun linked hlinked => ⟨fun _ _ _ => h.toKept, fun _ _ _ => ?_⟩⟩
  obtain ⟨hsame, rfl⟩ := Order.linkTransaction_ok hlinked
  refine h.write horder (Order.amends_kept (h.unresolved horder) ?_) rfl (Past.note_replace ..)
  intro existing hexisting
  rw [hsame existing hexisting]

/-! ## Asking the bank -/

theorem handles_handled : Handles Handled Kept where
  endures := endures_kept
  eases h := h.toKept
  same h hsame := h.of_same hsame
  asked _ h _ _ := h.record rfl
  marked {s g o o'} h horder hmarks := by
    have hopen := h.unresolved horder
    cases hmarks with
    | traced trace now =>
        exact h.write horder (Order.amends_kept hopen fun _ hlink => hlink) rfl
          (Past.note_replace ..)
    | awaiting hawaiting =>
        obtain ⟨_, rfl⟩ := Order.markAwaitingOtp_ok hawaiting
        exact h.write horder (Order.amends_kept hopen fun _ hlink => hlink) rfl
          (Past.note_replace ..)

theorem loadOrder_kept (h : Kept s g) : Reaches .any loadOrder s g fun _ s g => Kept s g := by
  unfold loadOrder
  simp only [reaches_bind, reaches_get]
  cases s.resume with
  | none => exact h
  | some key =>
      simp only [reaches_bind, reaches_stored, reaches_now]
      refine ⟨fun _ _ _ => h, fun _ => h, fun o ho now => ?_⟩
      split
      · exact h
      split
      · exact h.load ho
      · exact h

/-! ## Whole plays -/

/-- `Kept` between two steps. -/
def kept : Assertion := onGist Kept fun _ h => h.of_same rfl

/-- `Handled` between two steps. -/
def handled : Assertion := onGist Handled fun _ h => h.of_same rfl

theorem paymentSteps_kept (settings : FlowSettings) (withVoucher : Bool) :
    Chain kept kept (paymentSteps settings withVoucher) kept kept :=
  endures_kept.paymentSteps (A := kept) (B := handled) (C := handled) id (fun h => h.toKept)
    (fun h => h.toKept) (fun h => (initOrder_kept h).ensures_any)
    (fun h => (processOrder_handled h).either) (fun h => (applyVoucher_handled h).ensures_any)
    (fun h => (initLedger_handled h).either) fun h => (handles_handled.callBank h).ensures_any

theorem otpSteps_kept (settings : FlowSettings) (otp : String) :
    Chain kept kept (otpSteps settings otp) kept kept := by
  refine endures_kept.otpSteps (A := kept) (L := kept) id id (fun h => (loadOrder_kept h).both) ?_
  intro s p h
  exact (endures_kept.verifyOtp h fun _ _ _ => h.record rfl).ensures_any

/-- Flows keep the past lawful. -/
theorem always_lawful {registry : ClassifierRegistry} {p : Past} (config : FlowConfig)
    (call : FlowCall) (operation : Context) (h : Lawful p.gist) :
    (call.program ⟨registry, config⟩ operation).Always p fun _ p => Lawful p.gist := by
  cases call with
  | pay kind request =>
      exact (paymentSteps_kept ⟨registry, config⟩ request.voucherCode.isSome).flow
        (s := .starting kind request) (Kept.start h rfl)
        (fun h => h.lawful) (fun h => h.lawful) (fun h => h.lawful)
  | resume key otp =>
      exact (otpSteps_kept ⟨registry, config⟩ otp).flow
        (s := .resuming .cashIn key) (Kept.start h rfl)
        (fun h => h.lawful) (fun h => h.lawful) (fun h => h.lawful)

end

end Wallet.Flow
