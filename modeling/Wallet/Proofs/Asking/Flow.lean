import Wallet.Proofs.Asking.Basic
import Wallet.Proofs.Flow.Endures

/-!
# Flows ask the bank for poised orders

A payment asks the bank right after it has linked its order, which is processing, to a record that it
has just registered; until the answer is stored nobody changes that record. A cash-in that is resumed
asks for the order that it has loaded: that one waits for its one-time password, so it is processing
and linked, and how its record stands depends on what became of the order before.
-/

namespace Wallet.Flow

/-- The past is watched, and the order of the flow is the stored one. -/
structure Watching (s : FlowState) (g : Past) : Prop extends Watched g where
  held : ∀ o, s.order = some o → g.books.orders o.id = some o

/-- The order of the flow has no link. -/
structure Unbound (s : FlowState) (g : Past) : Prop extends Watching s g where
  unlinked : ∀ o, s.order = some o → o.transactionId = none

/-- It is processing. -/
structure InProcess (s : FlowState) (g : Past) : Prop extends Unbound s g where
  processing : ∀ o, s.order = some o → o.status = .processing

/-- The order of the flow is processing, and linked to a record of its own. -/
structure Asking (s : FlowState) (g : Past) : Prop extends Watching s g where
  processing : ∀ o, s.order = some o → o.status = .processing
  linked : ∀ o, s.order = some o → ∃ id t, o.transactionId = some id ∧
    g.books.records id = some t ∧ t.orderId = o.id

/-- The record is initial. -/
structure Holding (s : FlowState) (g : Past) : Prop extends Asking s g where
  initial : ∀ o id, s.order = some o → o.transactionId = some id →
    ∃ t, g.books.records id = some t ∧ t.state = .initial

section

variable {s s' : FlowState} {g p : Past} {c : Call} {x : c.Answer} {o o' : Order}

theorem Watching.start (h : Watched g) (hnone : s.order = none) : Watching s g :=
  ⟨h, by simp [hnone]⟩

theorem Watching.of_same (h : Watching s g) (hsame : s'.order = s.order) : Watching s' g :=
  ⟨h.toWatched, by rw [hsame]; exact h.held⟩

theorem Watching.other (h : Watching s g) (hfiled : (Event.mk c x).filed? = none)
    (hasks : ∀ r, c.inquiry? = some r → r.movesMoney = true → Poised g r.orderId) :
    Watching s (g.note c x) where
  toWatched := h.toWatched.other hfiled hasks
  held o horder := by
    have hunfiled : (Event.mk c x).filed? ≠ some o.id := by simp [hfiled]
    exact (Event.orders_after hunfiled).trans (h.held o horder)

theorem Watching.calm (h : Watching s g) (hfiled : (Event.mk c x).filed? = none)
    (hasks : c.inquiry? = none) : Watching s (g.note c x) :=
  h.other hfiled (by simp [hasks])

/-- An order is written, and the flow goes on with it. -/
theorem Watching.write (h : Watching s g) (hfiled : (Event.mk c x).filed? = some o.id)
    (hbooks : (g.note c x).books = g.books.file o)
    (hinitial : o.status = .processing → ∀ id, o.transactionId = some id →
      ∃ t, g.books.records id = some t ∧ t.state = .initial) :
    Watching { s with order := some o } (g.note c x) where
  toWatched := h.toWatched.file hfiled hbooks hinitial
  held kept hkept := by
    cases hkept
    rw [hbooks]
    exact Books.file_self ..

/-- Whatever ends a flow asks the bank for nothing and leaves no order processing. -/
theorem endures_watching : Endures Watching where
  held h horder := h.held _ horder
  same h hsame := h.of_same hsame
  moved h _ _ _ := h.calm rfl rfl
  reversed h := h.calm rfl rfl
  closed h _ hcloses := h.write rfl (Past.note_replace ..) fun hprocessing =>
    absurd hprocessing hcloses.closed

/-- The order of a flow that asks is poised, for it was processing when it was last written. -/
theorem Asking.poised (h : Asking s g) (horder : s.order = some o) : Poised g o.id := by
  have hstored := h.held o horder
  have hprocessing := h.processing o horder
  obtain ⟨id, t, hlink, ht, hown⟩ := h.linked o horder
  exact ⟨o, id, t, hstored, hprocessing, hlink, ht, hown, h.written hstored hprocessing hlink⟩

/-! ## Asking the bank -/

theorem handles_holding : Handles Holding Watching where
  endures := endures_watching
  eases h := h.toWatching
  same h hsame :=
    ⟨⟨h.toWatching.of_same hsame, by rw [hsame]; exact h.processing, by rw [hsame]; exact h.linked⟩,
      by rw [hsame]; exact h.initial⟩
  asked {s g o r} x h horder hid := by
    have hasked : Watching s (g.note (.bank r) x) := by
      apply h.toWatching.other rfl
      rintro r' heq _
      cases heq
      rw [hid]
      exact h.poised horder
    exact ⟨⟨hasked, h.processing, h.linked⟩, h.initial⟩
  marked {s g o o'} h horder hmarks := by
    obtain ⟨hid, hlink, hstatus⟩ :
        o'.id = o.id ∧ o'.transactionId = o.transactionId ∧ o'.status = o.status := by
      cases hmarks with
      | traced trace now => exact ⟨rfl, rfl, rfl⟩
      | awaiting hawaiting =>
          obtain ⟨_, rfl⟩ := Order.markAwaitingOtp_ok hawaiting
          exact ⟨rfl, rfl, rfl⟩
    have hwritten : Watching { s with order := some o' }
        (g.note (.orders (.replace o')) (.ok o')) := by
      apply h.toWatching.write rfl (Past.note_replace ..)
      intro _ id hlinked
      exact h.initial o id horder (hlink.symm.trans hlinked)
    refine ⟨⟨hwritten, ?_, ?_⟩, ?_⟩
    · rintro kept ⟨⟩
      exact hstatus.trans (h.processing o horder)
    · rintro kept ⟨⟩
      rw [hlink, hid]
      exact h.linked o horder
    · rintro kept id ⟨⟩ hlinked
      exact h.initial o id horder (hlink.symm.trans hlinked)

/-! ## Before the bank is asked -/

theorem initOrder_unbound {settings : FlowSettings} (h : Unbound s g) :
    Reaches .any (initOrder settings) s g fun _ s g => Unbound s g := by
  unfold initOrder
  simp only [reaches_bind, reaches_get, reaches_request]
  refine ⟨fun _ => h, ?_⟩
  intro request _
  split
  · exact h
  split
  · exact h
  simp only [reaches_bind, reaches_now, reaches_freshOrderId, reaches_create, reaches_keep,
    OrderStore.Request.Result]
  intro now key
  refine ⟨fun _ _ _ => h, ?_⟩
  intro _
  refine ⟨h.toWatching.write rfl (Past.note_create ..) (by rintro ⟨⟩), ?_⟩
  rintro kept ⟨⟩
  rfl

theorem processOrder_inProcess (h : Unbound s g) :
    Reaches .any processOrder s g (Either InProcess Watching) := by
  unfold processOrder
  simp only [reaches_bind, reaches_order, reaches_now, reaches_accept, reaches_process,
    reaches_keep, OrderStore.Request.Result]
  refine ⟨fun _ => h.toWatching, ?_⟩
  intro order horder now
  refine ⟨fun _ _ => h.toWatching, ?_⟩
  intro started hstarted
  refine ⟨fun _ _ _ => h.toWatching, ?_⟩
  intro _ _ _
  obtain ⟨_, rfl⟩ := Order.transition_ok hstarted
  have hnone := h.unlinked order horder
  refine ⟨⟨h.toWatching.write rfl (Past.note_process ..) ?_, ?_⟩, ?_⟩
  · intro _ id hlink
    cases hnone.symm.trans hlink
  · rintro kept ⟨⟩
    exact hnone
  · rintro kept ⟨⟩
    rfl

theorem applyVoucher_inProcess (h : InProcess s g) :
    Reaches .any applyVoucher s g fun _ s g => InProcess s g := by
  unfold applyVoucher
  simp only [reaches_bind, reaches_get]
  cases s.request.bind PaymentRequest.voucherCode with
  | none => exact h
  | some code =>
      simp only [reaches_bind, reaches_order, reaches_useVoucher, Promotion.Request.Result]
      refine ⟨fun _ => h, ?_⟩
      intro order _
      refine ⟨fun _ _ => h, ?_⟩
      intro discount
      exact ⟨⟨.of_same (h.toWatching.calm rfl rfl) rfl, h.unlinked⟩, h.processing⟩

/-- The record that an order is linked to has just been registered. -/
theorem initLedger_holding (h : InProcess s g) :
    Reaches .any initLedger s g (Either Holding Watching) := by
  unfold initLedger
  simp only [reaches_bind, reaches_order, reaches_get, reaches_freshTransactionId, reaches_now,
    reaches_init, reaches_accept, reaches_store]
  refine ⟨fun _ => h.toWatching, ?_⟩
  intro order horder id _ now
  refine ⟨fun _ _ _ => h.toWatching, ?_⟩
  intro linkedAt
  generalize ht : intent s.kind s.discount order id now = t
  obtain ⟨hid, hown, hinitial⟩ : t.id = id ∧ t.orderId = order.id ∧ t.state = .initial := by
    subst ht
    exact ⟨rfl, rfl, rfl⟩
  have hregistered : Watching s (g.note (.ledger (.init t)) (.ok t)) :=
    h.toWatching.calm rfl rfl
  have hrecord : (g.note (.ledger (.init t)) (.ok t)).books.records t.id = some t :=
    Books.enter_self ..
  refine ⟨fun _ _ => hregistered, ?_⟩
  intro linked hlinked
  refine ⟨fun _ _ _ => hregistered, ?_⟩
  intro _ _ _
  obtain ⟨_, rfl⟩ := Order.linkTransaction_ok hlinked
  refine ⟨⟨hregistered.write rfl (Past.note_replace ..) ?_, ?_, ?_⟩, ?_⟩
  · rintro _ id' ⟨⟩
    exact ⟨t, hrecord, hinitial⟩
  · rintro kept ⟨⟩
    exact h.processing order horder
  · rintro kept ⟨⟩
    exact ⟨t.id, t, rfl, hrecord, hown⟩
  · rintro kept id' ⟨⟩ ⟨⟩
    exact ⟨t, hrecord, hinitial⟩

/-! ## Resuming -/

/-- Orders are stored under their own identifiers, what waits for a one-time password is processing,
and what is linked is linked to a record of its own. -/
def Tidy (b : Books) : Prop :=
  ∀ {key o}, b.orders key = some o → o.id = key ∧
    (o.awaitingOtp = true → o.status = .processing) ∧
    ∀ id, o.transactionId = some id → ∃ t, b.records id = some t ∧ t.orderId = o.id

/-- The flow has not loaded its order yet. -/
structure Resuming (s : FlowState) (g : Past) : Prop extends Watching s g where
  tidy : Tidy g.books

theorem loadOrder_asking (h : Resuming s g) :
    Reaches .any loadOrder s g (Either Asking Watching) := by
  unfold loadOrder
  simp only [reaches_bind, reaches_get]
  cases s.resume with
  | none => exact h.toWatching
  | some key =>
      simp only [reaches_bind, reaches_stored, reaches_now]
      refine ⟨fun _ _ _ => h.toWatching, fun _ => h.toWatching, ?_⟩
      intro o ho now
      split
      · exact h.toWatching
      split
      · next hresumable =>
          simp only [isResumable, Bool.and_eq_true] at hresumable
          obtain ⟨id, hlink⟩ := Option.isSome_iff_exists.mp hresumable.2
          obtain ⟨hid, hawaiting, hlinked⟩ := h.tidy ho
          obtain ⟨t, ht, hown⟩ := hlinked id hlink
          refine ⟨⟨h.toWatched, ?_⟩, ?_, ?_⟩
          · rintro kept ⟨⟩
            rw [hid]
            exact ho
          · rintro kept ⟨⟩
            exact hawaiting hresumable.1.2
          · rintro kept ⟨⟩
            exact ⟨id, t, hlink, ht, hown⟩
      · exact h.toWatching

theorem verifyOtp_watching {settings : FlowSettings} {otp : String} (h : Asking s g) :
    Reaches .any (verifyOtp settings otp) s g fun _ s g => Watching s g := by
  apply endures_watching.verifyOtp h.toWatching
  intro o x horder
  apply h.toWatching.other rfl
  rintro r heq _
  cases heq
  exact h.poised horder

/-! ## Whole plays -/

/-- `Unbound` between two steps. -/
def unbound : Assertion :=
  onGist Unbound fun _ h => ⟨h.toWatching.of_same rfl, h.unlinked⟩

/-- `InProcess` between two steps. -/
def inProcess : Assertion :=
  onGist InProcess fun _ h => ⟨⟨h.toWatching.of_same rfl, h.unlinked⟩, h.processing⟩

/-- `Holding` between two steps. -/
def holding : Assertion := onGist Holding fun _ h => handles_holding.same h rfl

/-- `Resuming` between two steps. -/
def resumed : Assertion := onGist Resuming fun _ h => ⟨h.toWatching.of_same rfl, h.tidy⟩

/-- `Asking` between two steps. -/
def asking : Assertion :=
  onGist Asking fun _ h => ⟨h.toWatching.of_same rfl, h.processing, h.linked⟩

theorem paymentSteps_watching (settings : FlowSettings) (withVoucher : Bool) :
    Chain unbound endures_watching.assertion (paymentSteps settings withVoucher)
      endures_watching.assertion endures_watching.assertion :=
  endures_watching.paymentSteps (A := unbound) (B := inProcess) (C := holding)
    (fun h => h.toWatching) (fun h => h.toWatching) (fun h => h.toWatching)
    (fun h => (initOrder_unbound h).ensures_any) (fun h => (processOrder_inProcess h).either)
    (fun h => (applyVoucher_inProcess h).ensures_any) (fun h => (initLedger_holding h).either)
    fun h => (handles_holding.callBank h).ensures_any

theorem otpSteps_watching (settings : FlowSettings) (otp : String) :
    Chain resumed endures_watching.assertion (otpSteps settings otp) endures_watching.assertion
      endures_watching.assertion :=
  endures_watching.otpSteps (A := resumed) (L := asking) (fun h => h.toWatching)
    (fun h => h.toWatching) (fun h => (loadOrder_asking h).either)
    fun h => (verifyOtp_watching h).ensures_any

theorem tidy_of_consistent {registry : ClassifierRegistry} (h : Consistent registry p) :
    Tidy p.books :=
  fun ho => ⟨h.filed ho, (h.fits ho).awaiting, (h.fits ho).linked⟩

/-- Flows keep the past watched. -/
theorem always_watched {registry : ClassifierRegistry} (config : FlowConfig) (call : FlowCall)
    (operation : Context) (hconsistent : Consistent registry p) (h : Watched p.gist) :
    (call.program ⟨registry, config⟩ operation).Always p fun _ p => Watched p.gist := by
  cases call with
  | pay kind request =>
      have hstart : Unbound (.starting kind request) p.gist :=
        ⟨.start h rfl, fun o horder => by cases horder⟩
      exact (paymentSteps_watching ⟨registry, config⟩ request.voucherCode.isSome).flow
        (s := .starting kind request) hstart (fun h => h.toWatched) (fun h => h.toWatched)
        (fun h => h.toWatched)
  | resume key otp =>
      have hstart : Resuming (.resuming .cashIn key) p.gist :=
        ⟨.start h rfl, tidy_of_consistent hconsistent⟩
      exact (otpSteps_watching ⟨registry, config⟩ otp).flow
        (s := .resuming .cashIn key) hstart (fun h => h.toWatched) (fun h => h.toWatched)
        (fun h => h.toWatched)

end

end Wallet.Flow
