import Wallet.Proofs.Flow.Endures
import Wallet.Proofs.Flow.Protection

/-!
# A created record is linked

A payment registers a ledger record and then links its order to it, by a write of its own. Whoever
undoes the payment or reconciles it later finds the record through that link alone. So either the
record that a payment has created is linked from the stored order when the play ends, or the write of
the link was refused; then the record stays as it was registered, and nothing leads to it.

Once the link is written every version of the order carries it, so what matters happens within one
step. All that follows that step keeps the one as well as the other (`Endures`).
-/

namespace Wallet.Flow

/-- The write that follows the registration of a record and links the order to it was refused. -/
def LinkLost (events : List Event) : Prop :=
  ∃ (t : Transaction) (now : Timestamp) (o : Order) (e : ServiceError),
    o.id = t.orderId ∧ o.transactionId = some t.id ∧
      [⟨.ledger (.init t), .ok t⟩, ⟨.now, now⟩, ⟨.orders (.replace o), .error e⟩] <:+: events

theorem LinkLost.mono {events events' : List Event} (h : LinkLost events)
    (hle : events <+: events') : LinkLost events' := by
  obtain ⟨t, now, o, e, hid, hlink, hwithin⟩ := h
  exact ⟨t, now, o, e, hid, hlink, hwithin.trans hle.isInfix⟩

/-- No record is registered, and the order of the flow is stored without a link. -/
structure Unattached (s : FlowState) (g : Past) : Prop where
  unregistered : registered g.events = []
  held : ∀ o, s.order = some o → g.books.orders o.id = some o
  unlinked : ∀ o, s.order = some o → o.transactionId = none

/-- The order of the flow, as it is stored, is linked to every record that is registered. -/
structure Attached (s : FlowState) (g : Past) : Prop where
  held : ∀ o, s.order = some o → g.books.orders o.id = some o
  linked : ∀ t ∈ registered g.events,
    ∃ o, s.order = some o ∧ o.id = t.orderId ∧ o.transactionId = some t.id

/-- A record is as it was registered, and its order is stored without a link. -/
structure Orphaned (s : FlowState) (g : Past) : Prop where
  held : ∀ o, s.order = some o → g.books.orders o.id = some o
  orphan : ∃ t ∈ registered g.events, g.books.records t.id = some t ∧ t.state = .initial ∧
    ∃ o, s.order = some o ∧ o.id = t.orderId ∧ o.transactionId = none

section

variable {s s' : FlowState} {g p : Past} {c : Call} {x : c.Answer} {o o' : Order}

theorem registered_note (h : (Event.mk c x).registered? = none) :
    registered (g.note c x).events = registered g.events := by
  rw [Past.note_events, registered_concat, h]
  exact List.append_nil _

theorem registered?_of_moves {r : Ledger.Request} {id : TransactionId} {t : Transaction}
    (h : r.moves? = some id) : (Event.mk (.ledger r) (.ok t)).registered? = none := by
  cases r <;> first | rfl | cases h

theorem Unattached.attached (h : Unattached s g) : Attached s g :=
  ⟨h.held, by simp [h.unregistered]⟩

/-! ## What follows keeps the link -/

/-- An event that leaves the orders alone and registers nothing. -/
theorem Attached.other (h : Attached s g) (horders : (g.note c x).books.orders = g.books.orders)
    (hregistered : (Event.mk c x).registered? = none) : Attached s (g.note c x) where
  held := by
    rw [horders]
    exact h.held
  linked := by
    rw [registered_note hregistered]
    exact h.linked

/-- Another version of the order with the same link is written, and the flow goes on with it. -/
theorem Attached.write (h : Attached s g) (horder : s.order = some o) (hid : o'.id = o.id)
    (hlink : o'.transactionId = o.transactionId) :
    Attached { s with order := some o' } (g.note (.orders (.replace o')) (.ok o')) where
  held kept hkept := by
    cases hkept
    exact Books.file_self ..
  linked t ht := by
    rw [registered_note rfl] at ht
    obtain ⟨kept, hkept, horderId, hlinked⟩ := h.linked t ht
    rw [horder] at hkept
    cases hkept
    exact ⟨o', rfl, hid.trans horderId, hlink.trans hlinked⟩

theorem endures_attached : Endures Attached where
  held h horder := h.held _ horder
  same h hsame := ⟨by rw [hsame]; exact h.held, by rw [hsame]; exact h.linked⟩
  moved h _ _ hmoves := h.other (by rw [Past.note_moved hmoves]; rfl) (registered?_of_moves hmoves)
  reversed h := h.other rfl rfl
  closed h horder hcloses := h.write horder hcloses.id hcloses.link

theorem handles_attached : Handles Attached Attached where
  endures := endures_attached
  eases := id
  same := endures_attached.same
  asked _ h _ _ := h.other rfl rfl
  marked h horder hmarks := by
    cases hmarks with
    | traced trace now => exact h.write horder rfl rfl
    | awaiting hawaiting =>
        obtain ⟨_, rfl⟩ := Order.markAwaitingOtp_ok hawaiting
        exact h.write horder rfl rfl

/-- An order without a link leads to no record, so what undoes it leaves the record alone. -/
theorem endures_orphaned : Endures Orphaned where
  held h horder := h.held _ horder
  same h hsame := ⟨by rw [hsame]; exact h.held, by rw [hsame]; exact h.orphan⟩
  moved h horder hlink _ := by
    obtain ⟨_, _, _, _, o, horder', _, hnone⟩ := h.orphan
    rw [horder] at horder'
    cases horder'
    rw [hlink] at hnone
    cases hnone
  reversed h := by
    obtain ⟨t, ht, hrest⟩ := h.orphan
    refine ⟨h.held, t, ?_, hrest⟩
    rw [registered_note rfl]
    exact ht
  closed {s g o o'} h horder hcloses := by
    obtain ⟨t, ht, hrecord, hinitial, kept, hkept, horderId, hnone⟩ := h.orphan
    rw [horder] at hkept
    cases hkept
    refine ⟨?_, t, ?_, hrecord, hinitial, o', rfl, hcloses.id.trans horderId,
      hcloses.link.trans hnone⟩
    · intro kept hkept
      cases hkept
      exact Books.file_self ..
    · rw [registered_note rfl]
      exact ht

/-! ## Before the record is registered -/

theorem Unattached.of_same (h : Unattached s g) (hsame : s'.order = s.order) : Unattached s' g :=
  ⟨h.unregistered, by rw [hsame]; exact h.held, by rw [hsame]; exact h.unlinked⟩

/-- An order without a link is written, and the flow goes on with it. -/
theorem Unattached.write (h : Unattached s g) (hbooks : (g.note c x).books = g.books.file o)
    (hregistered : (Event.mk c x).registered? = none) (hnone : o.transactionId = none) :
    Unattached { s with order := some o } (g.note c x) where
  unregistered := (registered_note hregistered).trans h.unregistered
  held kept hkept := by
    cases hkept
    rw [hbooks]
    exact Books.file_self ..
  unlinked kept hkept := by
    cases hkept
    exact hnone

theorem initOrder_unattached {settings : FlowSettings} (h : Unattached s g) :
    Reaches .any (initOrder settings) s g fun _ s g => Unattached s g := by
  unfold initOrder
  simp only [reaches_bind, reaches_get, reaches_request]
  refine ⟨fun _ => h, ?_⟩
  intro request _
  split
  · exact h
  split
  · exact h
  simp only [reaches_bind, reaches_now, reaches_freshOrderId, reaches_create, reaches_keep,
    OrderStore.Request.Result]
  intro now key
  refine ⟨fun _ _ _ => h, ?_⟩
  intro _
  exact h.write (Past.note_create ..) rfl rfl

theorem processOrder_unattached (h : Unattached s g) :
    Reaches .any processOrder s g fun _ s g => Unattached s g := by
  unfold processOrder
  simp only [reaches_bind, reaches_order, reaches_now, reaches_accept, reaches_process,
    reaches_keep, OrderStore.Request.Result]
  refine ⟨fun _ => h, ?_⟩
  intro order horder now
  refine ⟨fun _ _ => h, ?_⟩
  intro started hstarted
  refine ⟨fun _ _ _ => h, ?_⟩
  intro _ _ _
  obtain ⟨_, rfl⟩ := Order.transition_ok hstarted
  exact h.write (Past.note_process ..) rfl (h.unlinked order horder)

theorem applyVoucher_unattached (h : Unattached s g) :
    Reaches .any applyVoucher s g fun _ s g => Unattached s g := by
  unfold applyVoucher
  simp only [reaches_bind, reaches_get]
  cases s.request.bind PaymentRequest.voucherCode with
  | none => exact h
  | some code =>
      simp only [reaches_bind, reaches_order, reaches_useVoucher, Promotion.Request.Result]
      refine ⟨fun _ => h, ?_⟩
      intro order _
      refine ⟨fun _ _ => h, ?_⟩
      intro discount
      have hused : Unattached s (g.note (.promotion (.useVoucher code order.userId
          (voucherTrace order) order.amount)) (.ok discount)) :=
        ⟨(registered_note rfl).trans h.unregistered, h.held, h.unlinked⟩
      exact hused.of_same rfl

/-! ## Registering the record -/

/-- Where a payment stands once it has tried to register its record. -/
def Accounted (s : FlowState) (p : Past) : Prop :=
  Attached s p.gist ∨ LinkLost p.events ∧ Orphaned s p.gist

/-- Registering the record is the only step that may leave it without a link. -/
theorem initLedger_accounted (h : Unattached s p.gist) :
    Ensures initLedger s p (Either (fun s p => Attached s p.gist) Accounted) := by
  have hrefused {p' : Past} (heq : p'.gist = p.gist) : Accounted s p' := by
    rw [← heq] at h
    exact .inl h.attached
  unfold initLedger
  simp only [ensures_bind, ensures_order, ensures_get, ensures_freshTransactionId, ensures_now,
    ensures_init, ensures_accept, ensures_store]
  refine ⟨fun _ => hrefused rfl, ?_⟩
  intro order horder id _ now
  constructor
  · intro e _
    refine hrefused ?_
    simp only [Past.gist_note]
    rfl
  intro linkedAt
  generalize ht : intent s.kind s.discount order id now = t
  obtain ⟨hid, horderId, hinitial⟩ : t.id = id ∧ t.orderId = order.id ∧ t.state = .initial := by
    subst ht
    exact ⟨rfl, rfl, rfl⟩
  have hnone := h.unlinked order horder
  rw [hid]
  constructor
  · intro e he
    simp [Order.linkTransaction, hnone] at he
  intro linked hlinked
  obtain ⟨_, rfl⟩ := Order.linkTransaction_ok hlinked
  constructor
  · intro e _
    refine .inr ⟨⟨t, linkedAt, { order with transactionId := some id, updatedAt := linkedAt }, e,
      horderId.symm, congrArg some hid.symm, ?_⟩, ?_⟩
    -- the three events are the last ones
    · simp only [Past.note_events, List.append_assoc, List.cons_append, List.nil_append]
      refine ⟨p.events ++ [⟨.freshTransactionId, id⟩, ⟨.now, now⟩], [], ?_⟩
      simp
    · simp only [Past.gist_note]
      refine ⟨h.held, t, ?_, Books.enter_self .., hinitial, order, horder, horderId.symm, hnone⟩
      show t ∈ registered (p.gist.events ++ [⟨.ledger (.init t), .ok t⟩])
      rw [registered_concat]
      exact List.mem_append_right _ (List.mem_singleton_self t)
  · intro _ _ _
    show Attached _ (Past.gist _)
    simp only [Past.gist_note]
    constructor
    · intro kept hkept
      cases hkept
      exact Books.file_self ..
    · intro created hcreated
      change created ∈ registered ((p.gist.events ++ [⟨.ledger (.init t), .ok t⟩]) ++ [_])
        at hcreated
      rw [registered_concat, registered_concat, h.unregistered] at hcreated
      obtain rfl : created = t := by simpa [Event.registered?] using hcreated
      exact ⟨_, rfl, horderId.symm, congrArg some hid.symm⟩

/-! ## Whole plays -/

/-- `Unattached` between two steps. -/
def unattached : Assertion := onGist Unattached fun _ h => h.of_same rfl

/-- `Attached` between two steps. -/
def attached : Assertion := endures_attached.assertion

/-- `Accounted` between two steps. -/
def accounted : Assertion where
  Holds := Accounted
  conduct {s p c} x hc h := by
    rcases h with h | ⟨hlost, h⟩
    · exact .inl (endures_attached.assertion.conduct x hc h)
    · exact .inr ⟨hlost.mono (List.prefix_append _ _), endures_orphaned.assertion.conduct x hc h⟩
  reason r h := by
    rcases h with h | ⟨hlost, h⟩
    · exact .inl (endures_attached.same h rfl)
    · exact .inr ⟨hlost, endures_orphaned.same h rfl⟩

/-- A part that keeps whatever endures the end of a flow keeps the record accounted for. -/
theorem ensures_accounted {part : StepM Unit}
    (hpart : ∀ {I : FlowState → Past → Prop}, Endures I → ∀ {s g}, I s g →
      Reaches .any part s g fun _ s g => I s g) (h : Accounted s p) :
    Ensures part s p fun _ s p => Accounted s p := by
  rcases h with h | ⟨hlost, h⟩
  · apply (hpart endures_attached h).ensures_any.mono
    intro _ _ _ h
    exact .inl h
  · have hgrows := Program.always_grows (part.run.run s) p
    apply Program.Always.mono ((hpart endures_orphaned h).ensures_any.and hgrows)
    rintro _ _ ⟨h, hle⟩
    exact .inr ⟨hlost.mono hle, h⟩

theorem finalSteps_accounted : Chain accounted accounted finalSteps accounted accounted :=
  .finalSteps (E := accounted) id id
    (fun h => (ensures_accounted (fun hI => hI.confirmLedger) h).either id)
    (ensures_accounted fun hI => hI.successOrder)

theorem paymentSteps_accounted (settings : FlowSettings) (withVoucher : Bool) :
    Chain unattached accounted (paymentSteps settings withVoucher) accounted accounted := by
  have hattached {s : FlowState} {p : Past} (h : attached s p) : accounted s p := .inl h
  have hunattached {s : FlowState} {p : Past} (h : unattached s p) : accounted s p :=
    hattached (Unattached.attached h)
  refine .paymentSteps (A := unattached) (B := unattached) (C := attached) (D := accounted)
    hunattached hunattached hattached (fun h => (initOrder_unattached h).ensures_any) ?_
    (fun h => (applyVoucher_unattached h).ensures_any) (fun h => initLedger_accounted h) ?_
    (ensures_accounted fun hI => hI.failOrder) (ensures_accounted fun hI => hI.reverseVoucher)
    (ensures_accounted fun hI => hI.cancelLedger) finalSteps_accounted
  · intro s p h
    exact (processOrder_unattached h).ensures_any.either hunattached
  · intro s p h
    apply ((handles_attached.callBank h).ensures_any : Ensures (callBank settings) s p _).mono
    rintro (e | u) _ _ h
    · exact hattached h
    · exact hattached h

/-- However a payment ends, it is accounted for. -/
theorem always_accounted (settings : FlowSettings) (kind : FlowKind) (request : PaymentRequest)
    (operation : Context) (books : Books) :
    (pay settings kind request operation).Always ⟨books, []⟩ fun _ p => ∃ s, Accounted s p := by
  have hstart : Unattached (.starting kind request) (Past.gist ⟨books, []⟩) := by
    refine ⟨rfl, ?_, ?_⟩
    · rintro o ⟨⟩
    · rintro o ⟨⟩
  exact (paymentSteps_accounted settings request.voucherCode.isSome).flow
    (s := .starting kind request) hstart (fun h => ⟨_, .inl (Unattached.attached h)⟩)
    (fun h => ⟨_, h⟩) (fun h => ⟨_, h⟩)

end

section

variable {settings : FlowSettings} {kind : FlowKind} {request : PaymentRequest}
  {operation : Context} {services : Services} {result : Except Crash FlowOutcome} {w : World}

/-- A payment leaves every record it has registered linked from the stored order, or else the write of
the link was refused and a record stays as it was registered, under an order that has no link. -/
theorem attached_or_orphaned
    (hrun : (pay settings kind request operation).Yields ⟨services, []⟩ result w) :
    (∀ t ∈ registered w.history, ∃ o, w.services.orders.get? t.orderId = some o ∧
      o.transactionId = some t.id) ∨
    LinkLost w.history ∧ ∃ t ∈ registered w.history, w.services.ledger.get? t.id = some t ∧
      t.state = .initial ∧
      ∃ o, w.services.orders.get? t.orderId = some o ∧ o.transactionId = none := by
  have haccounted := always_accounted settings kind request operation services.books
  obtain ⟨s, h | ⟨hlost, h⟩⟩ := haccounted.sound hrun
  · left
    intro t ht
    rw [← registered_counts] at ht
    obtain ⟨o, horder, hid, hlink⟩ := h.linked t ht
    have hstored := h.held o horder
    rw [hid] at hstored
    exact ⟨o, hstored, hlink⟩
  · right
    obtain ⟨t, ht, hrecord, hinitial, o, horder, hid, hnone⟩ := h.orphan
    have hstored := h.held o horder
    rw [hid] at hstored
    rw [← registered_counts]
    exact ⟨hlost, t, ht, hrecord, hinitial, o, hstored, hnone⟩

/-- **A created record is linked.** When a payment ends, whichever of its calls were refused, every
ledger record that it has registered is linked from the stored order, unless the write of the link
was refused. -/
theorem created_record_linked
    (hrun : (pay settings kind request operation).Yields ⟨services, []⟩ result w)
    (hkept : ¬LinkLost w.history) : ∀ t ∈ registered w.history,
      ∃ o, w.services.orders.get? t.orderId = some o ∧ o.transactionId = some t.id := by
  rcases attached_or_orphaned hrun with hattached | ⟨hlost, _⟩
  · exact hattached
  · exact absurd hlost hkept

end

/-! ### One refused call -/

/-- A payment with a voucher when the bank answers with a code and one call is refused. -/
def payRefused (code : String) (n : Nat) : Option (Except Crash FlowOutcome × World) :=
  (voucherPayment.program ⟨.standard, .standard⟩ .background).follow
    ((List.replicate 100 (.fair code)).set n .down) (.start .standard [] default)

theorem not_linkLost {events : List Event} (h : events.any Event.refusesReplace = false) :
    ¬LinkLost events := by
  rintro ⟨t, now, o, e, _, _, hwithin⟩
  rw [List.any_eq_false] at h
  exact h ⟨.orders (.replace o), .error e⟩ (hwithin.subset (by simp)) rfl

/-- Whether an event is a call of the ledger that was refused. -/
def Event.refusesLedger : Event → Bool
  | ⟨.ledger _, .error _⟩ => true
  | _ => false

/-- Whether a record is as it was registered and its order has no link. -/
def stranded (w : World) (t : Transaction) : Bool :=
  decide (w.services.ledger.get? t.id = some t ∧ t.state = .initial) &&
    ((w.services.orders.get? t.orderId).bind Order.transactionId).isNone

/-- The bank refuses the payment, and while it is undone the order cannot be read: it is processing
for ever, and linked to its record. -/
theorem created_record_linked_unread : ∃ result w,
    (voucherPayment.program ⟨.standard, .standard⟩ .background).Yields (.start .standard [] default)
      result w ∧
    ¬LinkLost w.history ∧ registered w.history ≠ [] ∧ ∀ t ∈ registered w.history,
      ∃ o, w.services.orders.get? t.orderId = some o ∧ o.transactionId = some t.id := by
  have hcheck : (payRefused "400" 40).any (fun r =>
      !r.2.history.any Event.refusesReplace && !(registered r.2.history).isEmpty) = true := by
    decide +kernel
  obtain ⟨⟨result, w⟩, hfollow, hr⟩ := (Option.any_eq_true _ _).mp hcheck
  simp only [Bool.and_eq_true, Bool.not_eq_true', List.isEmpty_eq_false_iff] at hr
  have hrun := Program.yields_of_follow hfollow
  have hkept : ¬LinkLost w.history := not_linkLost hr.1
  exact ⟨result, w, hrun, hkept, hr.2, created_record_linked hrun hkept⟩

/-- The write of the link is refused, and nothing else: the record stays initial, and no link leads to
it. -/
theorem created_record_stranded : ∃ result w,
    (voucherPayment.program ⟨.standard, .standard⟩ .background).Yields (.start .standard [] default)
      result w ∧
    w.history.any Event.refusesLedger = false ∧
    ∃ t ∈ registered w.history, w.services.ledger.get? t.id = some t ∧ t.state = .initial ∧
      ∀ o, w.services.orders.get? t.orderId = some o → o.transactionId ≠ some t.id := by
  have hcheck : (payRefused "200" 23).any (fun r =>
      !r.2.history.any Event.refusesLedger && (registered r.2.history).any (stranded r.2)) = true := by
    decide +kernel
  obtain ⟨⟨result, w⟩, hfollow, hr⟩ := (Option.any_eq_true _ _).mp hcheck
  simp only [Bool.and_eq_true, Bool.not_eq_true', List.any_eq_true, stranded, decide_eq_true_eq,
    Option.isNone_iff_eq_none] at hr
  obtain ⟨hledger, t, ht, ⟨hrecord, hinitial⟩, hnone⟩ := hr
  refine ⟨result, w, Program.yields_of_follow hfollow, hledger, t, ht, hrecord, hinitial, ?_⟩
  intro o ho hlink
  rw [ho] at hnone
  cases hnone.symm.trans hlink

end Wallet.Flow
