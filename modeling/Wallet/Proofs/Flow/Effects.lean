import Wallet.Proofs.Flow.Reaches

/-!
# Effects of parts of flows

What the parts of a flow do as long as the order store, the ledger and the promotion service can be
reached. Nothing they are asked for is refused then without a reason in the books, so the calls by
which a flow parks, completes or drops its order have exactly one effect, but for the instants that
are read from the clock. For each part there is one rule: it reaches whatever holds after its effect.
-/

namespace Wallet

/-! ## Changes that are accepted -/

namespace Order

/-- The order once it has been parked. -/
def parked (o : Order) (reason : String) (now : Timestamp) : Order :=
  { o with status := .verifying, awaitingOtp := false, updatedAt := now, failReason := some reason }

/-- The order once it has succeeded. -/
def succeeded (o : Order) (now : Timestamp) : Order :=
  { o with status := .success, awaitingOtp := false, updatedAt := now }

/-- The order once it has been withdrawn. -/
def withdrawn (o : Order) (reason : String) (now : Timestamp) : Order :=
  { o with status := .failed, awaitingOtp := false, updatedAt := now, failReason := some reason }

/-- The order once it has been linked to a record. -/
def linked (o : Order) (id : TransactionId) (now : Timestamp) : Order :=
  { o with transactionId := some id, updatedAt := now }

/-- The order once it waits for a one-time password. -/
def awaiting (o : Order) (now : Timestamp) : Order :=
  { o with awaitingOtp := true, updatedAt := now }

variable {o : Order} {id : TransactionId} {reason : String} {now : Timestamp}

theorem markAwaitingOtp_of (h : o.status = .processing) :
    o.markAwaitingOtp now = .ok (o.awaiting now) :=
  if_pos h

theorem linkTransaction_of (h : o.transactionId = none) :
    o.linkTransaction id now = .ok (o.linked id now) := by
  simp [linkTransaction, h, linked]

theorem markVerifying_of (h : o.status = .processing) :
    o.markVerifying reason now = .ok (o.parked reason now) := by
  simp [markVerifying, transitionFor, transition, h, OrderStatus.canTransitionTo, Except.map, parked]

theorem succeed_of (h : o.status = .processing) : o.succeed now = .ok (o.succeeded now) := by
  simp [succeed, transition, h, OrderStatus.canTransitionTo, succeeded]

theorem settle_of (h : o.status = .processing) :
    o.settle true none now = .ok (o.succeeded now) := by
  simp [settle, h, OrderStatus.isUnresolved, succeeded]

theorem failUnlessResolved?_of (h : o.status = .pending ∨ o.status = .processing) :
    o.failUnlessResolved? reason now = some (o.withdrawn reason now) := by
  rcases h with h | h <;>
    simp [failUnlessResolved?, isVerifying, isTerminal, fail, transitionFor, transition, h,
      OrderStatus.isTerminal, OrderStatus.canTransitionTo, Except.map, Except.toOption, withdrawn]

end Order

namespace Transaction

/-- The record once it has been moved to a status. -/
def resolved (t : Transaction) (status : TransactionStatus) (now : Timestamp) : Transaction :=
  { t with status := status, state := .resolved, updatedAt := now }

/-- The record once it has been cancelled. -/
def cancelled (t : Transaction) (reason : String) (now : Timestamp) : Transaction :=
  { t.resolved .failed now with failReason := some reason }

variable {t : Transaction} {reason : String} {now : Timestamp}

theorem moveTo_of {status : TransactionStatus} (h : t.status.canTransitionTo status = true) :
    t.moveTo status now = .ok (t.resolved status now) :=
  if_pos h

theorem cancel_of (hstate : t.state = .initial) (hstatus : t.status = .processing) :
    t.cancel reason now = .ok (t.cancelled reason now) := by
  simp [cancel, isCancellable, hstate, fail, moveTo, hstatus, TransactionStatus.canTransitionTo,
    Except.map, cancelled, resolved]

end Transaction

namespace Flow

section

variable {may : Faults} {s : FlowState} {g : Past} {o stored : Order} {id : TransactionId}
  {t : Transaction} {reason : String}

theorem reaches_order_of {Q : Except FlowError Order → FlowState → Past → Prop}
    (horder : s.order = some o) : Reaches may StepM.order s g Q ↔ Q (.ok o) s g := by
  simp [horder]

/-! ## Calls that are granted -/

theorem granted_replace {Q : Except FlowError Order → FlowState → Past → Prop}
    (hreach : may.InReach) (hstored : g.books.orders o.id = some stored)
    (haccepts : stored.status.acceptsOverwrite o.status = true)
    (hQ : Q (.ok o) s (g.note (.orders (.replace o)) (.ok o))) :
    Reaches may (StepM.ask (.orders (.replace o)) : StepM Order) s g Q :=
  (reaches_replace o Q).mpr
    ⟨fun _ he hmay => absurd he (hreach.not_replaces hstored haccepts hmay), fun _ _ _ => hQ⟩

theorem granted_store {Q : Except FlowError Unit → FlowState → Past → Prop}
    (hreach : may.InReach) (hstored : g.books.orders o.id = some stored)
    (haccepts : stored.status.acceptsOverwrite o.status = true)
    (hQ : Q (.ok ()) { s with order := some o } (g.note (.orders (.replace o)) (.ok o))) :
    Reaches may (StepM.store o) s g Q :=
  (reaches_store o Q).mpr
    ⟨fun _ he hmay => absurd he (hreach.not_replaces hstored haccepts hmay), fun _ _ _ => hQ⟩

theorem granted_stored {Q : Except FlowError Order → FlowState → Past → Prop}
    (hreach : may.InReach) {key : OrderId} (hstored : g.books.orders key = some o)
    (hQ : Q (.ok o) s g) : Reaches may (Flow.stored key) s g Q := by
  refine (reaches_stored key Q).mpr ⟨fun _ he hmay => absurd he (hreach.not_finds hmay), ?_, ?_⟩
  · intro hnone
    rw [hnone] at hstored
    cases hstored
  · intro o' ho'
    rw [hstored] at ho'
    cases ho'
    exact hQ

theorem granted_findRecord {Q : Except FlowError Transaction → FlowState → Past → Prop}
    (hreach : may.InReach) (ht : g.books.records id = some t) (hQ : Q (.ok t) s g) :
    Reaches may (StepM.ask (.ledger (.find id))) s g Q := by
  refine (reaches_findRecord id Q).mpr
    ⟨fun _ he hmay => absurd he (hreach.not_findsRecord ht hmay), ?_⟩
  intro t' ht'
  rw [ht] at ht'
  cases ht'
  exact hQ

theorem granted_confirm
    {Q : Except FlowError (Except ServiceError Transaction) → FlowState → Past → Prop}
    (hreach : may.InReach) (ht : g.books.records id = some t)
    (hcan : t.status.canTransitionTo .finish = true)
    (hQ : ∀ now, Q (.ok (.ok (t.resolved .finish now))) s
      (g.note (.ledger (.confirm id)) (.ok (t.resolved .finish now)))) :
    Reaches may (StepM.perform (.ledger (.confirm id))) s g Q := by
  refine (reaches_confirm id Q).mpr ⟨fun _ he hmay => ?_, ?_⟩
  · exact absurd he (hreach.not_moves ht (fun now => ⟨_, Transaction.moveTo_of hcan⟩) hmay)
  · intro t' stored hstored now hconfirm
    rw [ht] at hstored
    cases hstored
    cases (Transaction.moveTo_of hcan).symm.trans hconfirm
    exact hQ now

theorem granted_setPending
    {Q : Except FlowError (Except ServiceError Transaction) → FlowState → Past → Prop}
    (hreach : may.InReach) (ht : g.books.records id = some t)
    (hcan : t.status.canTransitionTo .pending = true)
    (hQ : ∀ now, Q (.ok (.ok (t.resolved .pending now))) s
      (g.note (.ledger (.setPending id)) (.ok (t.resolved .pending now)))) :
    Reaches may (StepM.perform (.ledger (.setPending id))) s g Q := by
  refine (reaches_setPending id Q).mpr ⟨fun _ he hmay => ?_, ?_⟩
  · exact absurd he (hreach.not_moves ht (fun now => ⟨_, Transaction.moveTo_of hcan⟩) hmay)
  · intro t' stored hstored now hpending
    rw [ht] at hstored
    cases hstored
    cases (Transaction.moveTo_of hcan).symm.trans hpending
    exact hQ now

theorem granted_cancel {Q : Except FlowError Transaction → FlowState → Past → Prop}
    (hreach : may.InReach) (ht : g.books.records id = some t) (hstate : t.state = .initial)
    (hstatus : t.status = .processing)
    (hQ : ∀ now, Q (.ok (t.cancelled reason now)) s
      (g.note (.ledger (.cancel id reason)) (.ok (t.cancelled reason now)))) :
    Reaches may (StepM.ask (.ledger (.cancel id reason))) s g Q := by
  refine (reaches_cancel id reason Q).mpr ⟨fun _ he hmay => ?_, ?_⟩
  · have hcancelled (now : Timestamp) : ∃ t', t.cancel reason now = .ok t' :=
      ⟨_, Transaction.cancel_of hstate hstatus⟩
    exact absurd he (hreach.not_moves ht hcancelled hmay)
  · intro t' stored hstored now hcancel
    rw [ht] at hstored
    cases hstored
    cases (Transaction.cancel_of hstate hstatus).symm.trans hcancel
    exact hQ now

/-! ## Steps that go on -/

/-- The order of the flow is stored, processing, and linked to a record. -/
structure Engaged (s : FlowState) (g : Past) (o : Order) (id : TransactionId) (t : Transaction) :
    Prop where
  order : s.order = some o
  stored : g.books.orders o.id = some o
  processing : o.status = .processing
  link : o.transactionId = some id
  record : g.books.records id = some t

theorem accepts_of_processing {status : OrderStatus} (h : o.status = .processing)
    (hforward : OrderStatus.processing.acceptsOverwrite status = true) :
    o.status.acceptsOverwrite status = true := by
  rw [h]
  exact hforward

/-- Unless the ledger turns the record down it is registered, and the order linked to it. -/
theorem initLedger_effect {Q : Except FlowError Unit → FlowState → Past → Prop}
    (hreach : may.InReach) (horder : s.order = some o) (hstored : g.books.orders o.id = some o)
    (hprocessing : o.status = .processing) (hunlinked : o.transactionId = none)
    (hrefused : ∀ t e, may.refuses (.ledger (.init t)) e → Q (.error (.service e)) s g)
    (hQ : ∀ id now linkedAt, g.books.records id = none →
      Q (.ok ()) { s with order := some (o.linked id linkedAt) }
        ((g.note (.ledger (.init (intent s.kind s.discount o id now)))
            (.ok (intent s.kind s.discount o id now))).note
          (.orders (.replace (o.linked id linkedAt))) (.ok (o.linked id linkedAt)))) :
    Reaches may initLedger s g Q := by
  unfold initLedger
  simp only [reaches_bind, reaches_order, horder, reaches_get, reaches_freshTransactionId,
    reaches_now, reaches_init, reaches_accept, reduceCtorEq, false_implies, Option.some.injEq,
    forall_eq', true_and]
  intro id hfresh now
  refine ⟨fun e _ hmay => hrefused _ e hmay, fun linkedAt => ?_⟩
  simp only [intent, Transaction.create, Order.linkTransaction_of hunlinked, reduceCtorEq,
    false_implies, implies_true, Except.ok.injEq, forall_eq', true_and]
  exact granted_store hreach hstored (accepts_of_processing hprocessing
    (by rw [Order.linked, hprocessing]; rfl)) (hQ id now linkedAt hfresh)

/-- The trace id of an answer is stored, if it has one. -/
theorem keepTrace_effect {Q : Except FlowError Unit → FlowState → Past → Prop}
    {response : ProviderResponse} (hreach : may.InReach) (hstored : g.books.orders o.id = some o)
    (hprocessing : o.status = .processing) (hnone : Q (.ok ()) s g)
    (hsome : ∀ trace now, Q (.ok ()) { s with order := some (o.setBankTraceId trace now) }
      (g.note (.orders (.replace (o.setBankTraceId trace now)))
        (.ok (o.setBankTraceId trace now)))) :
    Reaches may (keepTrace o response) s g Q := by
  unfold keepTrace
  cases response.traceId with
  | none => exact hnone
  | some trace =>
      simp only [reaches_bind, reaches_now]
      intro now
      refine granted_store hreach hstored (accepts_of_processing hprocessing ?_)
        (hsome trace now)
      rw [Order.setBankTraceId, hprocessing]
      rfl

/-- What comes of an answer by its classification. -/
theorem handleAnswer_effect {Q : Except FlowError Unit → FlowState → Past → Prop}
    {settings : FlowSettings} {response : ProviderResponse} {outcome : Outcome}
    (hreach : may.InReach) (horder : s.order = some o) (hstored : g.books.orders o.id = some o)
    (hprocessing : o.status = .processing)
    (houtcome : settings.classifiers.classify o.provider response.code = outcome)
    (hsuccess : outcome = .success → Q (.ok ()) { s with outcome := some outcome } g)
    (hverifying : outcome = .verifying →
      Reaches may (park response.reason) { s with outcome := some outcome } g Q)
    (hawaits : outcome = .needsOtp → s.kind.otpAllowed = true → ∀ now,
      Q (.ok ()) { s with outcome := some outcome, order := some (o.awaiting now), awaitingOtp := true }
        (g.note (.orders (.replace (o.awaiting now))) (.ok (o.awaiting now))))
    (hrefused : outcome ≠ .success → outcome ≠ .verifying →
      ¬(outcome = .needsOtp ∧ s.kind.otpAllowed = true) →
      Q (.error (.bankRejected response.code response.reason)) { s with outcome := some outcome } g) :
    Reaches may (handleAnswer settings response) s g Q := by
  unfold handleAnswer
  simp only [reaches_bind, reaches_order_of horder, reaches_modify, houtcome]
  cases outcome with
  | success => exact hsuccess rfl
  | verifying => exact hverifying rfl
  | needsOtp =>
      simp only [Outcome.kind, reaches_bind, reaches_get, true_and]
      by_cases hallowed : s.kind.otpAllowed = true
      · rw [if_pos hallowed]
        simp only [reaches_bind, reaches_now, reaches_accept, Order.markAwaitingOtp_of hprocessing,
          reduceCtorEq, false_implies, implies_true, Except.ok.injEq, forall_eq', true_and]
        intro now
        refine granted_store hreach hstored (accepts_of_processing hprocessing ?_)
          (hawaits rfl hallowed now)
        rw [Order.awaiting, hprocessing]
        rfl
      · rw [if_neg hallowed]
        exact hrefused (by simp) (by simp) fun h => hallowed h.2
  | wrongOtp =>
      simp only [Outcome.kind, reaches_bind, reaches_get, reduceCtorEq, false_and, if_false]
      exact hrefused (by simp) (by simp) (by simp)
  | _ => exact hrefused (by simp) (by simp) (by simp)

/-- What comes of asking the bank to move the money. -/
theorem callBank_effect {Q : Except FlowError Unit → FlowState → Past → Prop}
    {settings : FlowSettings} (horder : s.order = some o)
    (hnone : s.request = none → Q (.error (.invalidRequest "no payment request")) s g)
    (hasked : ∀ payment, s.request = some payment →
      ∀ call, call = s.kind.bankCall
          ⟨o.id, o.userId, o.amount, payment.provider, payment.destination⟩ →
        (∀ response, Reaches may (keepTrace o response) s (g.note (.bank call) (.ok response))
          fun r s g => match r with
            | .ok _ => Reaches may (handleAnswer settings response) s g Q
            | .error e => Q (.error e) s g) ∧
        (∀ reason, may.refuses (.bank call) (.rejected reason) →
          Q (.error (.service (.rejected reason))) s
            (g.note (.bank call) (.error (.rejected reason)))) ∧
        ∀ e, may.refuses (.bank call) e → (∀ reason, e ≠ .rejected reason) →
          Reaches may (park s!"bank call did not complete: {e.message}") s
            (g.note (.bank call) (.error e)) Q) :
    Reaches may (callBank settings) s g Q := by
  unfold callBank
  simp only [reaches_bind, reaches_order, horder, reaches_request, reaches_get, reaches_bank,
    reduceCtorEq, false_implies, Option.some.injEq, forall_eq', true_and]
  refine ⟨hnone, fun payment hpayment => ?_⟩
  obtain ⟨hanswered, hrejected, hunknown⟩ := hasked payment hpayment _ rfl
  constructor
  · intro e hmay
    cases e with
    | rejected reason => exact hrejected reason hmay
    | _ => exact hunknown _ hmay (by simp)
  · intro response
    exact (hanswered response).mono fun r s g hr => by cases r <;> exact hr

theorem confirmLedger_awaiting {Q : Except FlowError Unit → FlowState → Past → Prop}
    (hawaiting : s.awaitingOtp = true) (hQ : Q (.ok ()) s g) :
    Reaches may confirmLedger s g Q := by
  unfold confirmLedger
  simp only [reaches_bind, reaches_get]
  rw [if_pos hawaiting]
  exact hQ

theorem confirmLedger_confirms {Q : Except FlowError Unit → FlowState → Past → Prop}
    (hreach : may.InReach) (h : Engaged s g o id t) (hawaiting : s.awaitingOtp = false)
    (hcan : t.status.canTransitionTo .finish = true)
    (hQ : ∀ now, Q (.ok ()) s (g.note (.ledger (.confirm id)) (.ok (t.resolved .finish now)))) :
    Reaches may confirmLedger s g Q := by
  unfold confirmLedger
  simp only [reaches_bind, reaches_get]
  rw [if_neg (by simp [hawaiting])]
  simp only [reaches_bind, reaches_transactionId, h.order, reduceCtorEq, false_implies,
    Option.some.injEq, forall_eq', true_and, h.link]
  exact granted_confirm hreach h.record hcan hQ

theorem successOrder_awaiting {Q : Except FlowError Unit → FlowState → Past → Prop}
    (horder : s.order = some o) (hawaiting : s.awaitingOtp = true) (hQ : Q (.ok ()) s g) :
    Reaches may successOrder s g Q := by
  unfold successOrder
  simp only [reaches_bind, reaches_order, horder, reaches_get, reduceCtorEq, false_implies,
    Option.some.injEq, forall_eq', true_and, hawaiting, if_true, reaches_notify]
  exact hQ

theorem successOrder_succeeds {Q : Except FlowError Unit → FlowState → Past → Prop}
    (hreach : may.InReach) (h : Engaged s g o id t) (hawaiting : s.awaitingOtp = false)
    (hQ : ∀ now, Q (.ok ()) { s with order := some (o.succeeded now) }
      (g.note (.orders (.replace (o.succeeded now))) (.ok (o.succeeded now)))) :
    Reaches may successOrder s g Q := by
  unfold successOrder
  simp only [reaches_bind, reaches_order, h.order, reaches_get, reduceCtorEq, false_implies,
    Option.some.injEq, forall_eq', true_and, hawaiting, Bool.false_eq_true, if_false, reaches_now,
    reaches_accept, Order.succeed_of h.processing, implies_true, Except.ok.injEq]
  intro now
  refine granted_replace hreach h.stored (accepts_of_processing h.processing rfl) ?_
  simp only [reaches_notify, reaches_keep]
  exact hQ now

/-! ## Parking and completing -/

theorem granted_setPending_hold {Q : Except FlowError Unit → FlowState → Past → Prop}
    (hreach : may.InReach) (ht : g.books.records id = some t)
    (hcan : t.status.canTransitionTo .pending = true)
    (hQ : ∀ now, Q (.ok ()) s (g.note (.ledger (.setPending id)) (.ok (t.resolved .pending now)))) :
    Reaches may (hold (some id)) s g Q := by
  unfold hold
  rw [reaches_bind]
  exact granted_setPending hreach ht hcan hQ

/-- Parking puts the record on hold and marks the order as verifying. -/
theorem park_effect {Q : Except FlowError Unit → FlowState → Past → Prop} (hreach : may.InReach)
    (h : Engaged s g o id t) (hcan : t.status.canTransitionTo .pending = true)
    (hQ : ∀ held now, Q (.error (.pending o.id))
      { s with parked := true, order := some (o.parked reason now) }
      ((g.note (.ledger (.setPending id)) (.ok (t.resolved .pending held))).note
        (.orders (.replace (o.parked reason now))) (.ok (o.parked reason now)))) :
    Reaches may (park reason) s g Q := by
  unfold park
  simp only [reaches_bind, reaches_modify, reaches_order, h.order, reduceCtorEq, false_implies,
    Option.some.injEq, forall_eq', true_and, h.link]
  refine granted_setPending_hold hreach h.record hcan fun held => ?_
  refine granted_stored hreach h.stored ?_
  have hopen : (!o.isVerifying && !o.isTerminal) = true := by
    simp [Order.isVerifying, Order.isTerminal, h.processing, OrderStatus.isTerminal]
  simp only [hopen, if_true, reaches_bind, reaches_now, reaches_accept,
    Order.markVerifying_of h.processing, reduceCtorEq, false_implies, implies_true, Except.ok.injEq,
    forall_eq', true_and]
  intro now
  refine granted_replace hreach h.stored (accepts_of_processing h.processing rfl) ?_
  simp only [reaches_notify, reaches_keep, reaches_throw]
  exact hQ held now

theorem writeResolved_effect {Q : Except FlowError Unit → FlowState → Past → Prop}
    {kind : NotificationKind} {message : String} (hreach : may.InReach)
    (hstored : g.books.orders o.id = some stored)
    (haccepts : stored.status.acceptsOverwrite o.status = true)
    (hQ : Q (.ok ()) { s with order := some o } (g.note (.orders (.replace o)) (.ok o))) :
    Reaches may (writeResolved o kind message) s g Q := by
  unfold writeResolved
  simp only [reaches_bind, reaches_perform_replace]
  refine ⟨fun e he hmay => absurd he (hreach.not_replaces hstored haccepts hmay), ?_⟩
  intro _ _ _
  simp only [reaches_notify, reaches_keep]
  exact hQ

theorem settleOrder_effect {Q : Except FlowError Unit → FlowState → Past → Prop}
    (hreach : may.InReach) (hstored : g.books.orders o.id = some o)
    (hprocessing : o.status = .processing)
    (hQ : ∀ now, Q (.ok ()) { s with order := some (o.succeeded now) }
      (g.note (.orders (.replace (o.succeeded now))) (.ok (o.succeeded now)))) :
    Reaches may (settleOrder o.id) s g Q := by
  unfold settleOrder
  rw [reaches_bind]
  refine granted_stored hreach hstored ?_
  have hopen : o.isTerminal = false := by simp [Order.isTerminal, hprocessing, OrderStatus.isTerminal]
  simp only [hopen, Bool.false_eq_true, if_false, reaches_bind, reaches_now, reaches_accept,
    Order.settle_of hprocessing, reduceCtorEq, false_implies, implies_true, Except.ok.injEq,
    forall_eq', true_and]
  intro now
  exact writeResolved_effect hreach hstored (accepts_of_processing hprocessing rfl)
    (hQ now)

/-- Completing an order whose record is finished already. -/
theorem completeOrder_finished {Q : Except FlowError Unit → FlowState → Past → Prop}
    (hreach : may.InReach) (h : Engaged s g o id t) (hfinish : t.status = .finish)
    (hQ : ∀ now, Q (.ok ()) { s with order := some (o.succeeded now) }
      (g.note (.orders (.replace (o.succeeded now))) (.ok (o.succeeded now)))) :
    Reaches may completeOrder s g Q := by
  unfold completeOrder
  simp only [reaches_bind, reaches_order, reaches_transactionId, h.order, reduceCtorEq,
    false_implies, Option.some.injEq, forall_eq', true_and, h.link]
  refine granted_findRecord hreach h.record ?_
  simp only [hfinish, if_true]
  exact settleOrder_effect hreach h.stored h.processing hQ

/-- Completing an order confirms its record. -/
theorem completeOrder_confirmed {Q : Except FlowError Unit → FlowState → Past → Prop}
    (hreach : may.InReach) (h : Engaged s g o id t)
    (hcan : t.status.canTransitionTo .finish = true)
    (hQ : ∀ confirmed now, Q (.ok ()) { s with order := some (o.succeeded now) }
      ((g.note (.ledger (.confirm id)) (.ok (t.resolved .finish confirmed))).note
        (.orders (.replace (o.succeeded now))) (.ok (o.succeeded now)))) :
    Reaches may completeOrder s g Q := by
  unfold completeOrder
  simp only [reaches_bind, reaches_order, reaches_transactionId, h.order, reduceCtorEq,
    false_implies, Option.some.injEq, forall_eq', true_and, h.link]
  refine granted_findRecord hreach h.record ?_
  have hopen : t.status ≠ .finish := by
    intro hfinish
    rw [hfinish] at hcan
    cases hcan
  simp only [hopen, if_false, reaches_bind]
  refine granted_confirm hreach h.record hcan fun confirmed => ?_
  exact settleOrder_effect hreach h.stored h.processing (hQ confirmed)

/-! ## Undoing -/

/-- Whether a flag keeps the order from being undone. -/
def spared (s : FlowState) : Bool := s.parked || s.retryAllowed

theorem failOrder_spared {Q : Except FlowError Unit → FlowState → Past → Prop}
    (hspared : spared s = true) (hQ : Q (.ok ()) s g) : Reaches may failOrder s g Q := by
  unfold failOrder
  simp only [reaches_bind, reaches_get]
  rw [if_pos (show (s.parked || s.retryAllowed) = true from hspared)]
  exact hQ

theorem failOrder_completes {Q : Except FlowError Unit → FlowState → Past → Prop}
    (hspared : spared s = false) (hmoved : s.bankSucceeded = true)
    (h : Reaches may completeOrder s g Q) : Reaches may failOrder s g Q := by
  unfold failOrder
  simp only [reaches_bind, reaches_get]
  rw [if_neg (by simpa [spared] using hspared), if_pos hmoved]
  exact h

/-- An order that is not resolved yet fails for the reason of the rollback. -/
theorem failOrder_withdraws {Q : Except FlowError Unit → FlowState → Past → Prop}
    (hreach : may.InReach) (hspared : spared s = false) (hunmoved : s.bankSucceeded = false)
    (horder : s.order = some o) (hstored : g.books.orders o.id = some o)
    (hopen : o.status = .pending ∨ o.status = .processing)
    (hQ : ∀ now, Q (.ok ()) { s with order := some (o.withdrawn s.rollbackReason now) }
      (g.note (.orders (.replace (o.withdrawn s.rollbackReason now)))
        (.ok (o.withdrawn s.rollbackReason now)))) :
    Reaches may failOrder s g Q := by
  unfold failOrder
  simp only [reaches_bind, reaches_get]
  rw [if_neg (by simpa [spared] using hspared), if_neg (by simp [hunmoved])]
  simp only [horder, reaches_bind, reaches_find, OrderStore.Request.Result, hstored, reaches_now,
    Order.failUnlessResolved?_of hopen]
  refine ⟨fun e he hmay => absurd he (hreach.not_finds hmay), fun now => ?_⟩
  refine writeResolved_effect hreach hstored ?_ (hQ now)
  rcases hopen with hopen | hopen <;> (rw [hopen]; rfl)

/-- A record that is still initial is cancelled. -/
theorem cancelIfInitial_cancels {Q : Except FlowError Unit → FlowState → Past → Prop}
    (hreach : may.InReach) (ht : g.books.records id = some t) (hstate : t.state = .initial)
    (hstatus : t.status = .processing)
    (hQ : ∀ now, Q (.ok ()) s (g.note (.ledger (.cancel id s.rollbackReason))
      (.ok (t.cancelled s.rollbackReason now)))) :
    Reaches may (cancelIfInitial id) s g Q := by
  unfold cancelIfInitial
  rw [reaches_bind]
  refine granted_findRecord hreach ht ?_
  have hcancellable : t.isCancellable = true := by simp [Transaction.isCancellable, hstate]
  simp only [hcancellable, if_true, reaches_bind, reaches_get]
  exact granted_cancel hreach ht hstate hstatus hQ

theorem cancelLedger_spared {Q : Except FlowError Unit → FlowState → Past → Prop}
    (hspared : spared s = true ∨ s.bankSucceeded = true) (hQ : Q (.ok ()) s g) :
    Reaches may cancelLedger s g Q := by
  unfold cancelLedger
  simp only [reaches_bind, reaches_get]
  rw [if_pos (by simpa [spared, or_assoc] using hspared)]
  exact hQ

theorem cancelLedger_unlinked {Q : Except FlowError Unit → FlowState → Past → Prop}
    (hunlinked : s.transactionId? = none) (hQ : Q (.ok ()) s g) :
    Reaches may cancelLedger s g Q := by
  unfold cancelLedger
  simp only [reaches_bind, reaches_get, hunlinked]
  split
  · exact hQ
  · exact hQ

theorem cancelLedger_cancels {Q : Except FlowError Unit → FlowState → Past → Prop}
    (hspared : spared s = false) (hunmoved : s.bankSucceeded = false)
    (hlinked : s.transactionId? = some id) (h : Reaches may (cancelIfInitial id) s g Q) :
    Reaches may cancelLedger s g Q := by
  unfold cancelLedger
  simp only [reaches_bind, reaches_get]
  rw [if_neg (by simpa [spared, hunmoved] using hspared), hlinked]
  exact h

theorem reverseVoucher_spared {Q : Except FlowError Unit → FlowState → Past → Prop}
    (hspared : s.parked = true ∨ (s.request.bind PaymentRequest.voucherCode).isSome = false)
    (hQ : Q (.ok ()) s g) : Reaches may reverseVoucher s g Q := by
  unfold reverseVoucher
  simp only [reaches_bind, reaches_get]
  rw [if_pos (by rcases hspared with h | h <;> simp [h])]
  exact hQ

/-- The usage of the voucher is taken back. -/
theorem reverseVoucher_reverses {Q : Except FlowError Unit → FlowState → Past → Prop}
    (hspared : s.parked = false) (hunmoved : s.bankSucceeded = false)
    (hvoucher : (s.request.bind PaymentRequest.voucherCode).isSome = true)
    (horder : s.order = some o)
    (hrefused : ∀ e, ¬may.refuses (.promotion (.reverse (voucherTrace o))) e)
    (hQ : Q (.ok ()) s (g.note (.promotion (.reverse (voucherTrace o))) (.ok ()))) :
    Reaches may reverseVoucher s g Q := by
  unfold reverseVoucher
  simp only [reaches_bind, reaches_get]
  rw [if_neg (by simp [hspared, hunmoved, hvoucher])]
  simp only [horder, reaches_reverse]
  exact ⟨fun e hmay => absurd hmay (hrefused e), hQ⟩

theorem abortOtp_spared {Q : Except FlowError Unit → FlowState → Past → Prop}
    (hspared : spared s = true) (hQ : Q (.ok ()) s g) : Reaches may abortOtp s g Q := by
  unfold abortOtp
  simp only [reaches_bind, reaches_get]
  rw [if_pos (show (s.parked || s.retryAllowed) = true from hspared)]
  exact hQ

theorem abortOtp_completes {Q : Except FlowError Unit → FlowState → Past → Prop}
    (hspared : spared s = false) (hmoved : s.bankSucceeded = true)
    (h : Reaches may completeOrder s g Q) : Reaches may abortOtp s g Q := by
  unfold abortOtp
  simp only [reaches_bind, reaches_get]
  rw [if_neg (by simpa [spared] using hspared), if_pos hmoved]
  exact h

/-- The record is cancelled, and then the order withdrawn. -/
theorem abortOtp_withdraws {Q : Except FlowError Unit → FlowState → Past → Prop}
    (hspared : spared s = false) (hunmoved : s.bankSucceeded = false)
    (hlinked : s.transactionId? = some id)
    (h : Reaches may (cancelIfInitial id) s g fun r s g => match r with
      | .ok _ => Reaches may failOrder s g Q
      | .error e => Q (.error e) s g) :
    Reaches may abortOtp s g Q := by
  unfold abortOtp
  simp only [reaches_bind, reaches_get]
  rw [if_neg (by simpa [spared] using hspared), if_neg (by simp [hunmoved])]
  simp only [hlinked, reaches_bind]
  apply h.mono
  intro r s g hr
  cases r <;> exact hr

theorem abortOtp_unlinked {Q : Except FlowError Unit → FlowState → Past → Prop}
    (hspared : spared s = false) (hunmoved : s.bankSucceeded = false)
    (hunlinked : s.transactionId? = none) (h : Reaches may failOrder s g Q) :
    Reaches may abortOtp s g Q := by
  unfold abortOtp
  simp only [reaches_bind, reaches_get]
  rw [if_neg (by simpa [spared] using hspared), if_neg (by simp [hunmoved])]
  simp only [hunlinked]
  exact h

end

end Flow

end Wallet
