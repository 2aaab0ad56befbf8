import Wallet.Proofs.Changes
import Wallet.Proofs.Flow.Chain

/-!
# Money that the bank has moved is not taken back

Once the bank has answered that the money has moved, or that nobody knows yet, a play must not undo
anything: not cancel or fail the ledger record, not take back the voucher, not fail the order. Two
flags of the state stand for that: `parked`, and the outcome `success`. Every failure after they are
set is harmless. Between the bank's answer and the flags there is one call, the one that stores the
trace id of the answer, and when that is lost the flags are never set.
-/

namespace Wallet

/-- Whether a call undoes a payment. -/
def Call.undoes : Call → Bool
  | .ledger (.cancel _ _) | .ledger (.fail _ _) => true
  | .promotion (.reverse _) => true
  | .orders (.create o) | .orders (.replace o) | .orders (.process o) => o.status == .failed
  | _ => false

def Call.asksBank : Call → Bool
  | .bank _ => true
  | _ => false

/-- What the bank answered, if the event is an answer of the bank. -/
def Event.bankAnswer? : Event → Option ProviderResponse
  | ⟨.bank _, .ok response⟩ => some response
  | _ => none

/-- The answers of the bank in some events. -/
def bankAnswers (events : List Event) : List ProviderResponse := events.filterMap Event.bankAnswer?

namespace Past

variable {p : Past}

theorem bankAnswers_note {c : Call} (x : c.Answer) (h : c.asksBank = false) :
    bankAnswers (p.note c x).events = bankAnswers p.events := by
  rw [bankAnswers, note_events, List.filterMap_append]
  cases c <;> first | exact List.append_nil _ | cases h

theorem bankAnswers_ok (r : Bank.Request) (response : ProviderResponse) :
    bankAnswers (p.note (.bank r) (.ok response)).events = bankAnswers p.events ++ [response] := by
  rw [bankAnswers, note_events, List.filterMap_append]
  rfl

theorem bankAnswers_error (r : Bank.Request) (e : ServiceError) :
    bankAnswers (p.note (.bank r) (.error e)).events = bankAnswers p.events := by
  rw [bankAnswers, note_events, List.filterMap_append]
  exact List.append_nil _

end Past

namespace Flow

theorem eq_success {outcome : Outcome} (h : outcome.kind = .success) : outcome = .success := by
  cases outcome <;> first | rfl | cases h

/-- What the bank has answered, if the money may have moved. -/
def Moves (outcome : Outcome) : Prop := outcome = .success ∨ outcome = .verifying

instance : DecidablePred Moves := fun outcome =>
  inferInstanceAs (Decidable (outcome = .success ∨ outcome = .verifying))

theorem moves_iff {outcome : Outcome} :
    Moves outcome ↔ outcome.kind = .success ∨ outcome.kind = .pending := by
  cases outcome <;> simp [Moves, Outcome.kind]

/-- The bank has answered that the money of an order of a provider may have moved. -/
def Answered (registry : ClassifierRegistry) (provider : Option ProviderCode)
    (events : List Event) : Prop :=
  ∃ response ∈ bankAnswers events, Moves (registry.classify provider response.code)

instance (registry : ClassifierRegistry) (provider : Option ProviderCode) (events : List Event) :
    Decidable (Answered registry provider events) :=
  inferInstanceAs (Decidable (∃ response ∈ bankAnswers events, Moves (registry.classify provider response.code)))

/-- The write that follows a bank's answer to a payment and stores its trace id was refused. -/
def TraceLost (events : List Event) : Prop :=
  ∃ (kind : FlowKind) (r : BankRequest) (response : ProviderResponse) (now : Timestamp) (o : Order)
    (e : ServiceError), response.traceId ≠ none ∧ o.bankTraceId = response.traceId ∧
    [⟨.bank (kind.bankCall r), .ok response⟩, ⟨.now, now⟩, ⟨.orders (.replace o), .error e⟩] <:+:
      events

section

variable {registry : ClassifierRegistry} {provider : Option ProviderCode} {s : FlowState} {p : Past}

/-- A payment that the bank may have made is guarded: nothing was undone, and the flags are set by
which nothing will be. -/
def Guarded (registry : ClassifierRegistry) (provider : Option ProviderCode) (s : FlowState)
    (p : Past) : Prop :=
  Answered registry provider p.events → ¬TraceLost p.events →
    (∀ e ∈ p.events, e.call.undoes = false) ∧ (s.parked = true ∨ s.bankSucceeded = true)

theorem TraceLost.append {events : List Event} (h : TraceLost events) (more : List Event) :
    TraceLost (events ++ more) := by
  obtain ⟨kind, r, response, now, o, e, htrace, ho, hwithin⟩ := h
  exact ⟨kind, r, response, now, o, e, htrace, ho, hwithin.trans (List.prefix_append _ _).isInfix⟩

theorem answered_note {c : Call} {x : c.Answer} (hc : c.asksBank = false)
    (h : Answered registry provider (p.note c x).events) : Answered registry provider p.events := by
  rw [Answered, Past.bankAnswers_note x hc] at h
  exact h

/-- A call other than to the bank keeps a payment guarded, unless it undoes something although a
flag is set. -/
theorem Guarded.note {c : Call} (x : c.Answer) (h : Guarded registry provider s p)
    (hc : c.asksBank = false) (hundoes : c.undoes = true → s.parked = false ∧ s.bankSucceeded = false) :
    Guarded registry provider s (p.note c x) := by
  intro hanswered hkept
  obtain ⟨hclean, hflag⟩ := h (answered_note hc hanswered) fun hlost => hkept (hlost.append _)
  refine ⟨?_, hflag⟩
  intro e he
  rw [Past.note_events, List.mem_append, List.mem_singleton] at he
  rcases he with he | rfl
  · exact hclean e he
  · rw [← Bool.not_eq_true]
    intro hc
    obtain ⟨hparked, hsucceeded⟩ := hundoes hc
    simp [hparked, hsucceeded] at hflag

theorem Guarded.park (h : Guarded registry provider s p) :
    Guarded registry provider { s with parked := true } p :=
  fun hanswered hkept => ⟨(h hanswered hkept).1, .inl rfl⟩

/-- Calls that neither ask the bank nor undo anything. -/
def Calm (c : Call) : Prop := c.asksBank = false ∧ c.undoes = false

theorem Guarded.calm {c : Call} (x : c.Answer) (h : Guarded registry provider s p) (hc : Calm c) :
    Guarded registry provider s (p.note c x) :=
  h.note x hc.1 fun hundoes => absurd hundoes (by simp [hc.2])

theorem undoes_replace {o : Order} :
    (Call.orders (.replace o)).undoes = true ↔ o.status = .failed := by
  simp [Call.undoes]

theorem calm_replace {o : Order} (h : o.status ≠ .failed) : Calm (.orders (.replace o)) :=
  ⟨rfl, by rw [← Bool.not_eq_true, undoes_replace]; exact h⟩

/-! ## Parking and completing -/

/-- Parking sets a flag first and undoes nothing. -/
theorem park_guarded {reason : String}
    (h : Guarded registry provider { s with parked := true } p) :
    Ensures (park reason) s p fun _ s p => Guarded registry provider s p := by
  unfold park
  simp only [ensures_bind, ensures_modify, ensures_order]
  constructor
  · intro _
    exact h
  intro order _
  have hhold : Ensures (hold order.transactionId) { s with parked := true } p fun r s p =>
      r = .ok () ∧ Guarded registry provider s p := by
    unfold hold
    cases order.transactionId with
    | none => exact ⟨rfl, h⟩
    | some record =>
        simp only [ensures_bind, ensures_setPending, ensures_pure, true_and]
        constructor
        · intro e _
          exact h.calm _ ⟨rfl, rfl⟩
        · intro t' t _ now _
          exact h.calm _ ⟨rfl, rfl⟩
  apply Ensures.mono hhold
  intro r s p hheld
  obtain ⟨rfl, h⟩ := hheld
  simp only [ensures_stored]
  refine ⟨?_, ?_, ?_⟩
  · intro e _
    exact h.calm _ ⟨rfl, rfl⟩
  · intro _
    exact h.calm _ ⟨rfl, rfl⟩
  intro current _
  have h := h.calm (.ok (some current)) (c := .orders (.find order.id)) ⟨rfl, rfl⟩
  split
  · simp only [ensures_bind, ensures_now, ensures_accept, ensures_replace, ensures_notify,
      ensures_keep, ensures_throw, OrderStore.Request.Result]
    intro now
    have h := h.calm now (c := .now) ⟨rfl, rfl⟩
    constructor
    · intro e _
      exact h
    intro verifying hverifying
    obtain ⟨_, rfl⟩ := Order.transitionFor_ok hverifying
    have hcalm := calm_replace (o := { current with
      status := .verifying, awaitingOtp := false, updatedAt := now, failReason := some reason })
      (by simp)
    constructor
    · intro e _
      exact h.calm _ hcalm
    · intro _ _ _
      exact (h.calm _ hcalm).calm _ ⟨rfl, rfl⟩
  · exact h

theorem parkQuietly_guarded {reason : String}
    (h : Guarded registry provider { s with parked := true } p) :
    Ensures (parkQuietly reason) s p fun _ s p => Guarded registry provider s p := by
  unfold parkQuietly
  rw [ensures_tryCatch]
  apply (park_guarded h).mono
  intro r s p h
  cases r with
  | ok u => exact h
  | error e => cases e <;> exact h

/-- An order may be written as failed only while no flag is set. -/
theorem writeResolved_guarded {o : Order} {kind : NotificationKind} {message : String}
    (h : Guarded registry provider s p)
    (ho : o.status = .failed → s.parked = false ∧ s.bankSucceeded = false) :
    Ensures (writeResolved o kind message) s p fun _ s p => Guarded registry provider s p := by
  unfold writeResolved
  simp only [ensures_bind, ensures_perform_replace, OrderStore.Request.Result]
  constructor
  · intro e _
    have h := h.note (.error e) (c := .orders (.replace o)) rfl (ho ∘ undoes_replace.mp)
    cases e <;> exact h
  · intro _ _ _
    simp only [ensures_notify, ensures_keep]
    exact (h.note (.ok o) (c := .orders (.replace o)) rfl (ho ∘ undoes_replace.mp)).calm _
      ⟨rfl, rfl⟩

theorem settleOrder_guarded {id : OrderId} (h : Guarded registry provider s p) :
    Ensures (settleOrder id) s p fun _ s p => Guarded registry provider s p := by
  unfold settleOrder
  simp only [ensures_bind, ensures_stored]
  have hfind (x) := h.calm x (c := .orders (.find id)) ⟨rfl, rfl⟩
  refine ⟨?_, ?_, ?_⟩
  · intro e _
    exact hfind _
  · intro _
    exact hfind _
  intro current _
  split
  · exact hfind _
  · simp only [ensures_bind, ensures_now, ensures_accept]
    intro now
    have h := (hfind (.ok (some current))).calm now (c := .now) ⟨rfl, rfl⟩
    constructor
    · intro e _
      exact h
    intro settled hsettled
    have hopen : settled.status ≠ .failed := by
      obtain ⟨_, rfl⟩ := Order.settle_ok hsettled
      simp
    exact writeResolved_guarded h fun hfailed => absurd hfailed hopen

/-- Completing an order undoes nothing. -/
theorem completeOrder_guarded (h : Guarded registry provider s p) :
    Ensures completeOrder s p fun _ s p => Guarded registry provider s p := by
  unfold completeOrder
  simp only [ensures_bind, ensures_order, ensures_transactionId, ensures_findRecord]
  constructor
  · intro _
    exact h
  intro order _
  constructor
  · intro _
    exact h
  intro linked _
  constructor
  · intro _
    exact h
  intro id _
  have hfind (x) := h.calm x (c := .ledger (.find id)) ⟨rfl, rfl⟩
  constructor
  · intro e _
    exact hfind _
  intro record _
  split
  · exact settleOrder_guarded (hfind _)
  · simp only [ensures_bind, ensures_confirm]
    have hconfirm (x) := (hfind (.ok record)).calm x (c := .ledger (.confirm id))
      ⟨rfl, rfl⟩
    constructor
    · intro e _
      exact parkQuietly_guarded (hconfirm _).park
    · intro t' t _ now _
      exact settleOrder_guarded (hconfirm _)

/-! ## Undoing -/

theorem failOrder_guarded (h : Guarded registry provider s p) :
    Ensures failOrder s p fun _ s p => Guarded registry provider s p := by
  unfold failOrder
  simp only [ensures_bind, ensures_get]
  split
  · exact h
  · next hopen =>
      simp only [Bool.or_eq_true, not_or, Bool.not_eq_true] at hopen
      split
      · exact completeOrder_guarded h
      · next hsucceeded =>
          rw [Bool.not_eq_true] at hsucceeded
          cases s.order with
          | none => exact h
          | some order =>
              simp only [ensures_bind, ensures_find, OrderStore.Request.Result]
              have hfind (x) := h.calm x (c := .orders (.find order.id)) ⟨rfl, rfl⟩
              refine ⟨fun e _ => hfind _, ?_⟩
              cases p.books.orders order.id with
              | none => exact hfind _
              | some current =>
                  simp only [ensures_bind, ensures_now]
                  intro now
                  have h := (hfind (.ok (some current))).calm now (c := .now) ⟨rfl, rfl⟩
                  cases current.failUnlessResolved? s.rollbackReason now with
                  | none => exact h
                  | some failed => exact writeResolved_guarded h fun _ => ⟨hopen.1, hsucceeded⟩

theorem reverseVoucher_guarded (h : Guarded registry provider s p) :
    Ensures reverseVoucher s p fun _ s p => Guarded registry provider s p := by
  unfold reverseVoucher
  simp only [ensures_bind, ensures_get]
  split
  · exact h
  · next hopen =>
      simp only [Bool.or_eq_true, not_or, Bool.not_eq_true] at hopen
      cases s.order with
      | none => exact h
      | some order =>
          simp only [ensures_reverse]
          exact fun x => h.note x rfl fun _ => hopen.1

theorem cancelIfInitial_guarded {id : TransactionId} (h : Guarded registry provider s p)
    (hopen : s.parked = false ∧ s.bankSucceeded = false) :
    Ensures (cancelIfInitial id) s p fun _ s p => Guarded registry provider s p := by
  unfold cancelIfInitial
  simp only [ensures_bind, ensures_findRecord]
  have hfind (x) := h.calm x (c := .ledger (.find id)) ⟨rfl, rfl⟩
  constructor
  · intro e _
    exact hfind _
  intro record _
  split
  · simp only [ensures_bind, ensures_get, ensures_cancel, ensures_pure]
    have hcancel (x) := (hfind (.ok record)).note x
      (c := .ledger (.cancel id s.rollbackReason)) rfl fun _ => hopen
    constructor
    · intro e _
      exact hcancel _
    · intro t' t _ now _
      exact hcancel _
  · exact hfind _

theorem cancelLedger_guarded (h : Guarded registry provider s p) :
    Ensures cancelLedger s p fun _ s p => Guarded registry provider s p := by
  unfold cancelLedger
  simp only [ensures_bind, ensures_get]
  split
  · exact h
  · next hopen =>
      simp only [Bool.or_eq_true, not_or, Bool.not_eq_true] at hopen
      cases s.transactionId? with
      | none => exact h
      | some id => exact cancelIfInitial_guarded h ⟨hopen.1.1, hopen.2⟩

theorem abortOtp_guarded (h : Guarded registry provider s p) :
    Ensures abortOtp s p fun _ s p => Guarded registry provider s p := by
  unfold abortOtp
  simp only [ensures_bind, ensures_get]
  split
  · exact h
  · next hopen =>
      simp only [Bool.or_eq_true, not_or, Bool.not_eq_true] at hopen
      split
      · exact completeOrder_guarded h
      · next hsucceeded =>
          rw [Bool.not_eq_true] at hsucceeded
          cases s.transactionId? with
          | none => exact failOrder_guarded h
          | some id =>
              rw [ensures_bind]
              apply (cancelIfInitial_guarded h ⟨hopen.1, hsucceeded⟩).mono
              intro r s p h
              cases r with
              | ok u => exact failOrder_guarded h
              | error e => exact h

/-! ## Before the bank is asked -/

/-- The bank has not been asked and nothing has been undone; the order, once there is one, is of the
provider. -/
structure Clean (provider : Option ProviderCode) (s : FlowState) (p : Past) : Prop where
  unasked : bankAnswers p.events = []
  calm : ∀ e ∈ p.events, e.call.undoes = false
  order : ∀ o, s.order = some o → o.provider = provider

/-- The order of a payment is moreover of the provider of the request, and has not failed. -/
structure Payable (provider : Option ProviderCode) (s : FlowState) (p : Past) : Prop
    extends Clean provider s p where
  request : ∀ r, s.request = some r → some r.provider = provider
  live : ∀ o, s.order = some o → o.status ≠ .failed

theorem Clean.guarded (h : Clean provider s p) : Guarded registry provider s p := by
  rintro ⟨response, hmem, _⟩ _
  simp [h.unasked] at hmem

theorem calm_note {c : Call} (x : c.Answer) (h : ∀ e ∈ p.events, e.call.undoes = false)
    (hc : c.undoes = false) : ∀ e ∈ (p.note c x).events, e.call.undoes = false := by
  intro e he
  rw [Past.note_events, List.mem_append, List.mem_singleton] at he
  rcases he with he | rfl
  · exact h e he
  · exact hc

theorem Clean.note {c : Call} (x : c.Answer) (h : Clean provider s p) (hc : Calm c) :
    Clean provider s (p.note c x) :=
  ⟨(Past.bankAnswers_note x hc.1).trans h.unasked, calm_note x h.calm hc.2, h.order⟩

theorem Payable.note {c : Call} (x : c.Answer) (h : Payable provider s p) (hc : Calm c) :
    Payable provider s (p.note c x) :=
  ⟨h.toClean.note x hc, h.request, h.live⟩

/-- The order is replaced by one of the same provider. -/
theorem Payable.keep {o : Order} (h : Payable provider s p) (ho : o.provider = provider)
    (hlive : o.status ≠ .failed) : Payable provider { s with order := some o } p :=
  ⟨⟨h.unasked, h.calm, fun o' ho' => by cases ho'; exact ho⟩, h.request, fun o' ho' => by cases ho'; exact hlive⟩

theorem initOrder_payable {settings : FlowSettings} (h : Payable provider s p) :
    Ensures (initOrder settings) s p fun _ s p => Payable provider s p := by
  unfold initOrder
  simp only [ensures_bind, ensures_get, ensures_request]
  constructor
  · intro _
    exact h
  intro request hrequest
  split
  · exact h
  · split
    · exact h
    · simp only [ensures_bind, ensures_now, ensures_freshOrderId, ensures_create,
        ensures_keep, OrderStore.Request.Result]
      intro now key
      have h := (h.note now (c := .now) ⟨rfl, rfl⟩).note key (c := .freshOrderId) ⟨rfl, rfl⟩
      constructor
      · intro e _
        exact h.note _ ⟨rfl, rfl⟩
      intro _
      exact (h.note _ ⟨rfl, rfl⟩).keep
        (h.request request hrequest) (by simp [PaymentRequest.draft, Order.create])

theorem processOrder_payable (h : Payable provider s p) :
    Ensures processOrder s p fun _ s p => Payable provider s p := by
  unfold processOrder
  simp only [ensures_bind, ensures_order, ensures_now, ensures_accept, ensures_process,
    ensures_keep, OrderStore.Request.Result]
  constructor
  · intro _
    exact h
  intro order horder now
  have h := h.note now (c := .now) ⟨rfl, rfl⟩
  constructor
  · intro e _
    exact h
  intro started hstarted
  obtain ⟨_, rfl⟩ := Order.transition_ok hstarted
  constructor
  · intro e _
    exact h.note _ ⟨rfl, rfl⟩
  intro _ _ _
  exact (h.note _ ⟨rfl, rfl⟩).keep (h.order order horder) (by simp)

theorem applyVoucher_payable (h : Payable provider s p) :
    Ensures applyVoucher s p fun _ s p => Payable provider s p := by
  unfold applyVoucher
  simp only [ensures_bind, ensures_get]
  cases s.request.bind PaymentRequest.voucherCode with
  | none => exact h
  | some code =>
      simp only [ensures_bind, ensures_order, ensures_useVoucher, Promotion.Request.Result]
      constructor
      · intro _
        exact h
      intro order _ x
      have h := h.note x (c := .promotion (.useVoucher code order.userId (voucherTrace order)
        order.amount)) ⟨rfl, rfl⟩
      cases x with
      | ok discount => exact ⟨⟨h.unasked, h.calm, h.order⟩, h.request, h.live⟩
      | error e => exact h

theorem initLedger_payable (h : Payable provider s p) :
    Ensures initLedger s p fun _ s p => Payable provider s p := by
  unfold initLedger
  simp only [ensures_bind, ensures_order, ensures_get, ensures_freshTransactionId, ensures_now,
    ensures_init, ensures_accept, ensures_store]
  constructor
  · intro _
    exact h
  intro order horder key _ now
  have h := (h.note key (c := .freshTransactionId) ⟨rfl, rfl⟩).note now (c := .now) ⟨rfl, rfl⟩
  constructor
  · intro e _
    exact h.note _ ⟨rfl, rfl⟩
  intro linkedAt
  have h := (h.note (.ok (intent s.kind s.discount order key now))
    (c := .ledger (.init (intent s.kind s.discount order key now))) ⟨rfl, rfl⟩).note linkedAt
    (c := .now) ⟨rfl, rfl⟩
  constructor
  · intro e _
    exact h
  intro linked hlinked
  obtain ⟨_, rfl⟩ := Order.linkTransaction_ok hlinked
  have hcalm := calm_replace (o := { order with
    transactionId := some key, updatedAt := linkedAt }) (h.live order horder)
  constructor
  · intro e _
    exact h.note _ hcalm
  intro _ _ _
  exact (h.note _ hcalm).keep (h.order order horder) (h.live order horder)

/-! ## Asking the bank -/

/-- The bank has given one answer, and nothing has been undone. -/
structure Asked (response : ProviderResponse) (p : Past) : Prop where
  only : bankAnswers p.events = [response]
  calm : ∀ e ∈ p.events, e.call.undoes = false

section

variable {response : ProviderResponse}

theorem Clean.asked (h : Clean provider s p) (response : ProviderResponse) (r : Bank.Request) :
    Asked response (p.note (.bank r) (.ok response)) :=
  ⟨by rw [Past.bankAnswers_ok, h.unasked, List.nil_append], calm_note _ h.calm rfl⟩

theorem Asked.note {c : Call} (x : c.Answer) (h : Asked response p) (hc : Calm c) :
    Asked response (p.note c x) :=
  ⟨(Past.bankAnswers_note x hc.1).trans h.only, calm_note x h.calm hc.2⟩

/-- Once a flag is set the payment is guarded. -/
theorem Asked.guarded (h : Asked response p) (hflag : s.parked = true ∨ s.bankSucceeded = true) :
    Guarded registry provider s p :=
  fun _ _ => ⟨h.calm, hflag⟩

/-- A payment that the bank has refused need not be guarded. -/
theorem Asked.refused (h : Asked response p)
    (hrefused : ¬Moves (registry.classify provider response.code)) :
    Guarded registry provider s p := by
  rintro ⟨x, hmem, hmoves⟩ _
  rw [h.only, List.mem_singleton] at hmem
  rw [hmem] at hmoves
  exact absurd hmoves hrefused

end

/-- An error of the bank is no answer. -/
theorem Clean.unanswered {r : Bank.Request} {e : ServiceError} (h : Clean provider s p) :
    Guarded registry provider s (p.note (.bank r) (.error e)) := by
  rintro ⟨response, hmem, _⟩ _
  rw [Past.bankAnswers_error, h.unasked] at hmem
  simp at hmem

theorem traceLost_note {kind : FlowKind} {r : BankRequest} {response : ProviderResponse}
    {trace : String} {now : Timestamp} {o : Order} {e : ServiceError}
    (htrace : response.traceId = some trace) :
    TraceLost (((p.note (.bank (kind.bankCall r)) (.ok response)).note .now now).note
      (.orders (.replace (o.setBankTraceId trace now))) (.error e)).events := by
  refine ⟨kind, r, response, now, o.setBankTraceId trace now, e, by simp [htrace], htrace.symm, ?_⟩
  simp only [Past.note_events, List.append_assoc, List.cons_append, List.nil_append]
  exact (List.suffix_append _ _).isInfix

theorem handleAnswer_guarded {settings : FlowSettings} {response : ProviderResponse} {order : Order}
    (h : Asked response p) (horder : s.order = some order) (hprovider : order.provider = provider)
    (hlive : order.status ≠ .failed) :
    Ensures (handleAnswer settings response) s p fun _ s p =>
      Guarded settings.classifiers provider s p := by
  unfold handleAnswer
  simp only [ensures_bind, ensures_order, ensures_modify]
  constructor
  · intro hnone
    exact by simp [horder] at hnone
  intro order' horder'
  obtain rfl : order = order' := by simpa [horder] using horder'
  rw [hprovider]
  cases hkind : (settings.classifiers.classify provider response.code).kind with
  | success => exact h.guarded (.inr (by simp [FlowState.bankSucceeded, eq_success hkind]))
  | pending => exact park_guarded (h.guarded (.inl rfl))
  | failure => exact h.refused fun hmoves => by simp [moves_iff, hkind] at hmoves
  | needsAuth =>
      have hrefused {s : FlowState} {p : Past} (h : Asked response p) :
          Guarded settings.classifiers provider s p :=
        h.refused fun hmoves => by simp [moves_iff, hkind] at hmoves
      simp only [ensures_bind, ensures_get]
      split
      · simp only [ensures_bind, ensures_now, ensures_accept, ensures_store, ensures_modify]
        intro now
        have h := h.note now (c := .now) ⟨rfl, rfl⟩
        constructor
        · intro e _
          exact hrefused h
        intro awaiting hawaiting
        obtain ⟨_, rfl⟩ := Order.markAwaitingOtp_ok hawaiting
        have hcalm := calm_replace (o := { order with awaitingOtp := true, updatedAt := now }) hlive
        constructor
        · intro e _
          exact hrefused (h.note _ hcalm)
        · intro _ _ _
          exact hrefused (h.note _ hcalm)
      · exact hrefused h

theorem callBank_guarded {settings : FlowSettings} (h : Payable provider s p) :
    Ensures (callBank settings) s p fun _ s p => Guarded settings.classifiers provider s p := by
  unfold callBank
  simp only [ensures_bind, ensures_order, ensures_request, ensures_get, ensures_bank]
  constructor
  · intro _
    exact h.guarded
  intro order horder
  constructor
  · intro _
    exact h.guarded
  intro payment _ x
  cases x with
  | error e =>
      cases e with
      | rejected reason => exact h.toClean.unanswered
      | _ => exact park_guarded h.toClean.unanswered.park
  | ok response =>
      have hasked := h.toClean.asked response
        (s.kind.bankCall ⟨order.id, order.userId, order.amount, payment.provider,
          payment.destination⟩)
      have hprovider := h.order order horder
      simp only [ensures_bind]
      unfold keepTrace
      cases htrace : response.traceId with
      | none => exact handleAnswer_guarded hasked horder hprovider (h.live order horder)
      | some trace =>
          simp only [ensures_bind, ensures_now, ensures_store]
          intro now
          have hcalm := calm_replace (o := order.setBankTraceId trace now) (h.live order horder)
          constructor
          -- here alone the answer is lost, for no flag is set yet
          · intro e _ _ hkept
            exact absurd (traceLost_note htrace) hkept
          intro _ _ _
          exact handleAnswer_guarded ((hasked.note now (c := .now) ⟨rfl, rfl⟩).note _ hcalm) rfl
            hprovider (h.live order horder)

/-- No matter what the bank says of a one-time password, the payment is guarded. -/
theorem verifyOtp_guarded {settings : FlowSettings} {otp : String} (h : Clean provider s p) :
    Ensures (verifyOtp settings otp) s p fun _ s p => Guarded settings.classifiers provider s p := by
  unfold verifyOtp
  simp only [ensures_bind, ensures_order, ensures_bank]
  constructor
  · intro _
    exact h.guarded
  intro order horder x
  cases x with
  | error e => exact park_guarded h.unanswered.park
  | ok response =>
      have hasked := h.asked response (.verifyOtp order.id otp)
      simp only [ensures_bind, ensures_modify]
      rw [h.order order horder]
      cases houtcome : settings.classifiers.classify provider response.code with
      | success => exact hasked.guarded (.inr rfl)
      | verifying => exact park_guarded (hasked.guarded (.inl rfl))
      | _ => exact hasked.refused (by rw [houtcome]; simp [Moves])

/-! ## After the bank was asked -/

theorem confirmLedger_guarded (h : Guarded registry provider s p) :
    Ensures confirmLedger s p fun _ s p => Guarded registry provider s p := by
  unfold confirmLedger
  simp only [ensures_bind, ensures_get]
  split
  · exact h
  · simp only [ensures_bind, ensures_transactionId, ensures_confirm]
    constructor
    · intro _
      exact h
    intro order _
    constructor
    · intro _
      exact h
    intro key _
    constructor
    · intro e _
      exact park_guarded (h.calm _ ⟨rfl, rfl⟩).park
    · intro _ _ _ _ _
      exact h.calm _ ⟨rfl, rfl⟩

theorem successOrder_guarded (h : Guarded registry provider s p) :
    Ensures successOrder s p fun _ s p => Guarded registry provider s p := by
  unfold successOrder
  simp only [ensures_bind, ensures_order, ensures_get]
  constructor
  · intro _
    exact h
  intro order _
  split
  · simp only [ensures_notify]
    exact h.calm _ ⟨rfl, rfl⟩
  · simp only [ensures_bind, ensures_now, ensures_accept, ensures_replace, ensures_notify,
      ensures_keep, OrderStore.Request.Result]
    intro now
    have h := h.calm now (c := .now) ⟨rfl, rfl⟩
    constructor
    · intro e _
      exact h
    intro succeeded hsucceeded
    obtain ⟨_, rfl⟩ := Order.transition_ok hsucceeded
    have hcalm := calm_replace (o := { order with
      status := .success, awaitingOtp := false, updatedAt := now }) (by simp)
    constructor
    · intro e _
      exact h.calm _ hcalm
    · intro _ _ _
      exact (h.calm _ hcalm).calm _ ⟨rfl, rfl⟩

/-! ## Whole plays -/

theorem calm_of_conducts {c : Call} (h : c.Conducts) : Calm c := by
  cases c <;> first | exact ⟨rfl, rfl⟩ | cases h

/-- `Guarded` between two steps. -/
def guarded (registry : ClassifierRegistry) (provider : Option ProviderCode) : Assertion where
  Holds := Guarded registry provider
  conduct x hc h := h.calm x (calm_of_conducts hc)
  reason _ h := h

/-- `Clean` between two steps. -/
def clean (provider : Option ProviderCode) : Assertion where
  Holds := Clean provider
  conduct x hc h := h.note x (calm_of_conducts hc)
  reason _ h := ⟨h.unasked, h.calm, h.order⟩

/-- `Payable` between two steps. -/
def payable (provider : Option ProviderCode) : Assertion where
  Holds := Payable provider
  conduct x hc h := h.note x (calm_of_conducts hc)
  reason _ h := ⟨⟨h.unasked, h.calm, h.order⟩, h.request, h.live⟩

theorem finalSteps_guarded :
    Chain (guarded registry provider) (guarded registry provider) finalSteps
      (guarded registry provider) (guarded registry provider) :=
  .finalSteps id id (fun h => (confirmLedger_guarded h).either id) successOrder_guarded

theorem paymentSteps_guarded (settings : FlowSettings) (withVoucher : Bool) :
    Chain (payable provider) (guarded settings.classifiers provider)
      (paymentSteps settings withVoucher) (guarded settings.classifiers provider)
      (guarded settings.classifiers provider) := by
  have hstop {s : FlowState} {p : Past} (h : Payable provider s p) :
      Guarded settings.classifiers provider s p := h.guarded
  exact .paymentSteps (A := payable provider) (B := payable provider)
    (C := payable provider) (D := guarded settings.classifiers provider) hstop hstop hstop
    initOrder_payable
    (fun h => (processOrder_payable h).either hstop) applyVoucher_payable
    (fun h => (initLedger_payable h).either hstop) (fun h => (callBank_guarded h).either id)
    failOrder_guarded reverseVoucher_guarded cancelLedger_guarded finalSteps_guarded

theorem loadOrder_clean (hstored : ∀ key o, s.resume = some key → p.books.orders key = some o →
    o.provider = provider) (h : Clean provider s p) :
    Ensures loadOrder s p fun _ s p => Clean provider s p := by
  unfold loadOrder
  simp only [ensures_bind, ensures_get]
  cases hresume : s.resume with
  | none => exact h
  | some key =>
      simp only [ensures_bind, ensures_stored, ensures_now]
      refine ⟨?_, ?_, ?_⟩
      · intro e _
        exact h.note _ ⟨rfl, rfl⟩
      · intro _
        exact h.note _ ⟨rfl, rfl⟩
      intro o ho now
      have h := (h.note (.ok (some o)) (c := .orders (.find key)) ⟨rfl, rfl⟩).note now (c := .now)
        ⟨rfl, rfl⟩
      split
      · exact h
      · split
        · exact ⟨h.unasked, h.calm, fun o' ho' => by cases ho'; exact hstored key o hresume ho⟩
        · exact h

/-- `Clean` before an order is loaded that is stored as one of the provider. -/
def resuming (provider : Option ProviderCode) : Assertion where
  Holds s p := Clean provider s p ∧
    ∀ key o, s.resume = some key → p.books.orders key = some o → o.provider = provider
  conduct x hc h := ⟨h.1.note x (calm_of_conducts hc), by
    rw [Past.note_books_of_conducts x hc]
    exact h.2⟩
  reason _ h := ⟨⟨h.1.unasked, h.1.calm, h.1.order⟩, h.2⟩

theorem otpSteps_guarded (settings : FlowSettings) (otp : String) :
    Chain (resuming provider) (guarded settings.classifiers provider) (otpSteps settings otp)
      (guarded settings.classifiers provider) (guarded settings.classifiers provider) := by
  have hstop {s : FlowState} {p : Past} (h : Clean provider s p) :
      Guarded settings.classifiers provider s p := h.guarded
  exact .otpSteps (A := resuming provider) (L := clean provider)
    (D := guarded settings.classifiers provider) (fun h => hstop h.1) hstop id
    (fun h => (loadOrder_clean h.2 h.1).either hstop) (fun h => (verifyOtp_guarded h).either id)
    abortOtp_guarded finalSteps_guarded

end

end Flow

/-- The provider of the order that a flow is about. -/
def FlowCall.provider (s : Services) : FlowCall → Option ProviderCode
  | .pay _ request => some request.provider
  | .resume key _ => (s.orders.get? key).bind Order.provider

namespace Flow

variable {registry : ClassifierRegistry}

theorem always_guarded (config : FlowConfig) (call : FlowCall) (operation : Context)
    (services : Services) :
    (call.program ⟨registry, config⟩ operation).Always ⟨services.books, []⟩ fun _ p =>
      ∃ s, Guarded registry (call.provider services) s p := by
  cases call with
  | pay kind request =>
      refine (paymentSteps_guarded ⟨registry, config⟩ request.voucherCode.isSome).flow
        (s := .starting kind request) ⟨⟨rfl, by simp, ?_⟩, ?_, ?_⟩
        (fun h => ⟨_, h.guarded⟩) (fun h => ⟨_, h⟩) (fun h => ⟨_, h⟩)
      · intro o ho
        cases ho
      · intro r hr
        cases hr
        rfl
      · intro o ho
        cases ho
  | resume key otp =>
      refine (otpSteps_guarded ⟨registry, config⟩ otp).flow
        (s := .resuming .cashIn key) ⟨⟨rfl, by simp, ?_⟩, ?_⟩
        (fun h => ⟨_, h.1.guarded⟩) (fun h => ⟨_, h⟩) (fun h => ⟨_, h⟩)
      · intro o ho
        cases ho
      · intro key' o hkey ho
        cases hkey
        show o.provider = (services.orders.get? key).bind Order.provider
        rw [show services.orders.get? key = some o from ho]
        rfl

/-- **What the bank has moved is not taken back.** In a play in which the bank answered that the
money has moved, or that nobody knows yet, no ledger record is cancelled or failed, no voucher taken
back, and no order written as failed, whichever calls are refused, unless the write of the trace id
of that answer is. -/
theorem moved_money_kept {config : FlowConfig} {call : FlowCall} {operation : Context}
    {services : Services} {result : Except Crash FlowOutcome} {w : World}
    (hrun : (call.program ⟨registry, config⟩ operation).Yields ⟨services, []⟩ result w)
    (hanswered : Answered registry (call.provider services) w.history)
    (hkept : ¬TraceLost w.history) : ∀ e ∈ w.history, e.call.undoes = false := by
  obtain ⟨s, hguarded⟩ := (always_guarded config call operation services).sound hrun
  exact (hguarded hanswered hkept).1

/-! ### One payment -/

/-- Somebody sends money away with a voucher. -/
def voucherPayment : FlowCall :=
  .pay .cashOut ⟨⟨.ofNat 1⟩, (Money.ofInt? 200000).getD .zero, ⟨"BIDV"⟩, some "TET", .wallet, none⟩

/-- The payment when the `n`th call is refused and nothing else goes wrong. -/
def refusedAt (n : Nat) : Option (Except Crash FlowOutcome × World) :=
  (voucherPayment.program ⟨.standard, .standard⟩ .background).follow
    ((List.replicate 100 (.fair "200")).set n .down) (.start .standard [] default)

/-- Whether an event is the refusal of a replacement. -/
def Event.refusesReplace : Event → Bool
  | ⟨.orders (.replace _), .error _⟩ => true
  | _ => false

theorem not_traceLost {events : List Event} (h : events.any Event.refusesReplace = false) :
    ¬TraceLost events := by
  rintro ⟨kind, r, response, now, o, e, _, _, hwithin⟩
  rw [List.any_eq_false] at h
  exact h ⟨.orders (.replace o), .error e⟩ (hwithin.subset (by simp)) rfl

/-- When the ledger does not confirm, the order is parked and everything else kept. -/
theorem moved_money_kept_unconfirmed : ∃ result w,
    (voucherPayment.program ⟨.standard, .standard⟩ .background).Yields (.start .standard [] default)
      result w ∧
    Answered .standard (voucherPayment.provider (.start .standard [] default)) w.history ∧
    ¬TraceLost w.history ∧ ∀ e ∈ w.history, e.call.undoes = false := by
  have hcheck : (refusedAt 33).any (fun r =>
      decide (Answered .standard (some ⟨"BIDV"⟩) r.2.history) &&
        !r.2.history.any Event.refusesReplace) = true := by decide +kernel
  obtain ⟨⟨result, w⟩, hfollow, hr⟩ := (Option.any_eq_true _ _).mp hcheck
  simp only [Bool.and_eq_true, decide_eq_true_eq, Bool.not_eq_true'] at hr
  have hrun := Program.yields_of_follow hfollow
  exact ⟨result, w, hrun, hr.1, not_traceLost hr.2,
    moved_money_kept hrun hr.1 (not_traceLost hr.2)⟩

/-- When the trace id is lost, the record is cancelled, the voucher taken back and the order written
as failed, although the bank has moved the money. -/
theorem moved_money_taken_back : ∃ result w,
    (voucherPayment.program ⟨.standard, .standard⟩ .background).Yields (.start .standard [] default)
      result w ∧
    Answered .standard (voucherPayment.provider (.start .standard [] default)) w.history ∧
    (w.history.filter fun e => e.call.undoes).length = 3 := by
  have hcheck : (refusedAt 29).any (fun r =>
      decide (Answered .standard (some ⟨"BIDV"⟩) r.2.history) &&
        decide ((r.2.history.filter fun e => e.call.undoes).length = 3)) = true := by
    decide +kernel
  obtain ⟨⟨result, w⟩, hfollow, hr⟩ := (Option.any_eq_true _ _).mp hcheck
  simp only [Bool.and_eq_true, decide_eq_true_eq] at hr
  exact ⟨result, w, Program.yields_of_follow hfollow, hr⟩

end Flow

end Wallet
