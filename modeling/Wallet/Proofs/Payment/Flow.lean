import Wallet.Proofs.Flow.Effects
import Wallet.Proofs.Payment.Basic

/-!
# How payments go

Without mishaps a payment goes one way until the bank has answered, and from there the way of the
verdict. Each stage says what is known of the state of the flow and of the past between two steps; a
refused payment goes back through the stages of what is still to be undone.
-/

namespace Wallet.Payment

open Wallet.Flow

/-! ## Stages -/

section

variable (kind : FlowKind) (request : PaymentRequest) (before : Tally) (s : FlowState) (g : Past)

/-- The flow has only been started. -/
structure Launched : Prop where
  state : s = .starting kind request
  tally : before.along g.events = before

/-- The flow has an order for the request, and keeps nothing else but a discount. -/
structure Ordered (after : Tally) (o : Order) : Prop where
  state : ∃ discount,
    s = { FlowState.starting kind request with order := some o, discount := discount }
  stored : g.books.orders o.id = some o
  user : o.userId = request.userId
  amount : o.amount = request.amount
  provider : o.provider = some request.provider
  tally : before.along g.events = after

/-- The order has no record yet. -/
structure Unlinked (status : OrderStatus) (after : Tally) (o : Order) : Prop extends
    Ordered kind request before s g after o where
  status : o.status = status
  unlinked : o.transactionId = none

/-- The order is processing and linked to an initial record. -/
structure Linked (after : Tally) (o : Order) (t : Transaction) : Prop extends
    Ordered kind request before s g after o where
  processing : o.status = .processing
  link : o.transactionId = some t.id
  record : g.books.records t.id = some t
  status : t.status = .processing
  initial : t.state = .initial

/-- The order of the flow is stored and linked to a record. -/
structure Placed (o : Order) (t : Transaction) : Prop where
  order : s.order = some o
  stored : g.books.orders o.id = some o
  link : o.transactionId = some t.id
  record : g.books.records t.id = some t

/-- The order is processing. -/
structure Active (after : Tally) (o : Order) (t : Transaction) : Prop extends Placed s g o t where
  processing : o.status = .processing
  tally : before.along g.events = after

/-- The bank has moved the money, or waits for a one-time password. -/
inductive Accepted (registry : ClassifierRegistry) (status : TransactionStatus) : Prop where
  | paid {answer : Except ServiceError ProviderResponse} {o : Order} {t : Transaction} :
      Active before s g ((before.inquired kind request o.id answer).withVoucher request o) o t →
      registry.verdict kind request.provider answer = .paid → s.awaitingOtp = false →
      t.status = status → Accepted registry status
  | awaiting {answer : Except ServiceError ProviderResponse} {o : Order} {t : Transaction} :
      Active before s g ((before.inquired kind request o.id answer).withVoucher request o) o t →
      registry.verdict kind request.provider answer = .awaiting → s.awaitingOtp = true →
      o.awaitingOtp = true → t.state = .initial → Accepted registry status

/-- Nothing keeps the flow from being undone because of an error. -/
structure Refuses (e : FlowError) : Prop where
  request : s.request = some request
  exposed : spared s = false
  unmoved : s.bankSucceeded = false
  reason : s.failureReason = some e.message

/-- The flow has failed: the order is parked, or the bank has refused and `P` says what has been undone
already. -/
inductive Halted (registry : ClassifierRegistry)
    (P : FlowError → Tally → Order → Transaction → Tally → Prop) (e : ExecutionError FlowError) :
    Prop where
  | parked {answer : Except ServiceError ProviderResponse} {o : Order} {t : Transaction} :
      Placed s g o t → registry.verdict kind request.provider answer = .unknown →
      e = .failed "call_bank" (.pending o.id) → s.parked = true →
      Verdict.Settles request (before.inquired kind request o.id answer) o t
        (before.along g.events) .unknown → Halted registry P e
  | refused {answer : Except ServiceError ProviderResponse} {o : Order} {t : Transaction}
      {error : FlowError} :
      Placed s g o t → registry.verdict kind request.provider answer = .refused error →
      e = .failed "call_bank" error → Refuses request s error →
      P error (before.inquired kind request o.id answer) o t (before.along g.events) →
      Halted registry P e

/-- The flow has gone through. -/
structure Done (registry : ClassifierRegistry) (answer : Except ServiceError ProviderResponse)
    (o : Order) (t : Transaction) : Prop extends Placed s g o t where
  error : (registry.verdict kind request.provider answer).error? o.id = none
  awaiting : s.awaitingOtp = decide (registry.verdict kind request.provider answer = .awaiting)
  settles : (registry.verdict kind request.provider answer).Settles request
    (before.inquired kind request o.id answer) o t (before.along g.events)

end

/-! ### What has been undone -/

section

variable (request : PaymentRequest) (e : FlowError) (asked : Tally) (o : Order) (t : Transaction)
  (after : Tally)

/-- Nothing. -/
def NoneDropped : Prop :=
  o.status = .processing ∧ t.status = .processing ∧ t.state = .initial ∧
    after = asked.withVoucher request o

/-- The record has been cancelled. -/
def RecordDropped : Prop :=
  o.status = .processing ∧ t.status = .failed ∧ t.failReason = some e.message ∧
    after = (asked.withVoucher request o).cancel

/-- The record has been cancelled, and the voucher taken back. -/
def VoucherDropped : Prop :=
  o.status = .processing ∧ t.status = .failed ∧ t.failReason = some e.message ∧
    after = (asked.withoutVoucher request o).cancel

/-- All of it. -/
def AllDropped : Prop := Verdict.Settles request asked o t after (.refused e)

end

section

variable {kind : FlowKind} {request : PaymentRequest} {before after : Tally} {s : FlowState}
  {g : Past} {o : Order} {t : Transaction} {settings : FlowSettings}
  {S : ExecutionError FlowError → FlowState → Past → Prop} {name : String}

theorem Ordered.order (h : Ordered kind request before s g after o) : s.order = some o := by
  obtain ⟨discount, rfl⟩ := h.state
  rfl

/-! ## Until the bank is asked -/

theorem initOrder_fair (hvalid : request.Valid kind) (h : Launched kind request before s g) :
    Reaches .fair (initOrder settings) s g (Proceeds
      (fun s g => ∃ o, Unlinked kind request before s g .pending before o) S name) := by
  cases h.state
  unfold initOrder
  simp only [reaches_bind, reaches_get, reaches_request]
  refine ⟨fun hnone => absurd hnone (Option.some_ne_none request), ?_⟩
  rintro _ ⟨⟩
  -- a valid request passes both checks
  have hdestination : ¬((FlowState.starting kind request).kind = .interBankTransfer ∧
      request.destination.isNone = true) := by
    rintro ⟨htransfer, hnone⟩
    have hsome := hvalid.destination htransfer
    rw [Option.isNone_iff_eq_none.mp hnone] at hsome
    cases hsome
  rw [if_neg (by simp [hvalid.positive]), if_neg hdestination]
  simp only [reaches_bind, reaches_now, reaches_freshOrderId, reaches_create, reaches_keep,
    OrderStore.Request.Result]
  refine fun now id => ⟨fun _ _ hmay => Bool.noConfusion hmay, fun _ => ?_⟩
  exact ⟨_, ⟨⟨none, rfl⟩, Books.file_self .., rfl, rfl, rfl,
    (before.along_note ..).trans h.tally⟩, rfl, rfl⟩

/-- A call that leaves the stored order as it is. -/
theorem Ordered.note {c : Call} {x : c.Answer} (h : Ordered kind request before s g after o)
    (hstored : (g.note c x).books.orders o.id = some o) :
    Ordered kind request before s (g.note c x) (after.after ⟨c, x⟩) o where
  state := h.state
  stored := hstored
  user := h.user
  amount := h.amount
  provider := h.provider
  tally := by rw [Tally.along_note, h.tally]

/-- The order is written again. -/
theorem Ordered.write {c : Call} {x : c.Answer} (h : Ordered kind request before s g after o)
    (o' : Order) (huser : o'.userId = o.userId)
    (hamount : o'.amount = o.amount) (hprovider : o'.provider = o.provider)
    (hstored : (g.note c x).books.orders o'.id = some o') :
    Ordered kind request before { s with order := some o' } (g.note c x) (after.after ⟨c, x⟩) o' where
  state := by
    obtain ⟨discount, rfl⟩ := h.state
    exact ⟨discount, rfl⟩
  stored := hstored
  user := huser.trans h.user
  amount := hamount.trans h.amount
  provider := hprovider.trans h.provider
  tally := by rw [Tally.along_note, h.tally]

/-- Processing is refused only once the deadline has passed. -/
theorem not_processes {e : ServiceError} {stored : Order} (hstored : g.books.orders o.id = some stored)
    (haccepts : stored.status.acceptsOverwrite o.status = true)
    (hmay : Faults.fair.refuses (.orders (.process o)) e) : ¬g.books.Processes o (.error e) := by
  rintro (hreplaces | ⟨_, _, _, _, hexpired⟩)
  · exact Faults.fair_inReach.not_replaces hstored haccepts hmay hreplaces
  · cases hexpired
    cases hmay

theorem processOrder_fair (h : Unlinked kind request before s g .pending after o) :
    Reaches .fair processOrder s g (Proceeds
      (fun s g => ∃ o, Unlinked kind request before s g .processing after o) S name) := by
  have hstart (now : Timestamp) : o.startProcessing now =
      .ok { o with status := .processing, awaitingOtp := false, updatedAt := now } := by
    simp [Order.startProcessing, Order.transition, h.status, OrderStatus.canTransitionTo]
  unfold processOrder
  simp only [reaches_bind, reaches_order_of h.order, reaches_now, reaches_accept, hstart,
    reaches_process, reaches_keep, reduceCtorEq, false_implies, implies_true, Except.ok.injEq,
    forall_eq', true_and, OrderStore.Request.Result]
  refine fun now => ⟨fun e he hmay => ?_, fun _ _ _ => ?_⟩
  · exact absurd he (not_processes h.stored (by rw [h.status]; rfl) hmay)
  · exact ⟨_, h.write _ rfl rfl rfl (Books.file_self ..), rfl, h.unlinked⟩

theorem applyVoucher_fair (h : Unlinked kind request before s g .processing before o) :
    Reaches .fair applyVoucher s g (Proceeds (fun s g => ∃ o,
      Unlinked kind request before s g .processing (before.withVoucher request o) o) S name) := by
  obtain ⟨discount, hs⟩ := h.state
  unfold applyVoucher
  simp only [reaches_bind, reaches_get]
  rw [show s.request.bind PaymentRequest.voucherCode = request.voucherCode by rw [hs]; rfl]
  cases hcode : request.voucherCode with
  | none =>
      have hnone : before.withVoucher request o = before := by rw [Tally.withVoucher, hcode]
      exact ⟨o, hnone.symm ▸ h⟩
  | some code =>
      simp only [reaches_bind, reaches_order_of h.order, reaches_useVoucher, reaches_modify,
        Promotion.Request.Result]
      refine ⟨fun _ hmay => Bool.noConfusion hmay, fun used => ⟨o, ⟨⟨some used, by rw [hs]⟩, h.stored,
        h.user, h.amount, h.provider, ?_⟩, h.status, h.unlinked⟩⟩
      rw [Tally.along_note, h.tally, Tally.withVoucher, hcode]
      rfl

theorem initLedger_fair
    (h : Unlinked kind request before s g .processing (before.withVoucher request o) o) :
    Reaches .fair initLedger s g (Proceeds (fun s g => ∃ o t,
      Linked kind request before s g (before.withVoucher request o) o t) S name) := by
  refine initLedger_effect Faults.fair_inReach h.order h.stored h.status h.unlinked
    (fun _ _ hmay => by cases hmay) fun id now linkedAt _ => ?_
  have hregistered : Ordered kind request before s (g.note (.ledger (.init (intent s.kind s.discount
      o id now))) (.ok (intent s.kind s.discount o id now))) (before.withVoucher request o) o :=
    h.note h.stored
  have hlinked := hregistered.write (c := .orders (.replace (o.linked id linkedAt)))
    (x := .ok (o.linked id linkedAt)) (o.linked id linkedAt) rfl rfl rfl (Books.file_self ..)
  exact ⟨o.linked id linkedAt, intent s.kind s.discount o id now, hlinked, h.status, rfl,
    Books.enter_self .., rfl, rfl⟩

/-! ## Asking the bank -/

section

variable {registry : ClassifierRegistry} {answer : Except ServiceError ProviderResponse}
  {r : Bank.Request} {c : Call} {x : c.Answer}

/-- A call that leaves the books as they are. -/
theorem Linked.note (h : Linked kind request before s g after o t)
    (hbooks : (g.note c x).books = g.books) :
    Linked kind request before s (g.note c x) (after.after ⟨c, x⟩) o t where
  toOrdered := h.toOrdered.note (by rw [hbooks]; exact h.stored)
  processing := h.processing
  link := h.link
  record := by
    rw [hbooks]
    exact h.record
  status := h.status
  initial := h.initial

/-- The order is replaced. -/
theorem Linked.replace (h : Linked kind request before s g after o t) (o' : Order)
    (huser : o'.userId = o.userId) (hamount : o'.amount = o.amount)
    (hprovider : o'.provider = o.provider) (hstatus : o'.status = o.status)
    (hlink : o'.transactionId = o.transactionId) :
    Linked kind request before { s with order := some o' } (g.note (.orders (.replace o')) (.ok o'))
      after o' t where
  toOrdered := h.write o' huser hamount hprovider (Books.file_self ..)
  processing := hstatus.trans h.processing
  link := hlink.trans h.link
  record := h.record
  status := h.status
  initial := h.initial

/-- What is kept in the state besides the order is of no consequence. -/
theorem Linked.active (h : Linked kind request before s g after o t) {s' : FlowState}
    (horder : s'.order = some o) : Active before s' g after o t :=
  ⟨⟨horder, h.stored, h.link, h.record⟩, h.processing, h.tally⟩

theorem Active.engaged (h : Active before s g after o t) : Engaged s g o t.id t :=
  ⟨h.order, h.stored, h.processing, h.link, h.record⟩

/-- Parking the order puts its record on hold. -/
theorem park_fair {reason : String} {B : FlowState → Past → Prop}
    (h : Active before s g ((before.inquired kind request o.id answer).withVoucher request o) o t)
    (hstatus : t.status = .processing)
    (hverdict : registry.verdict kind request.provider answer = .unknown) :
    Reaches .fair (park reason) s g (Proceeds B
      (fun e s g => Halted kind request before s g registry (fun _ => NoneDropped request) e)
      "call_bank") := by
  have hcan : t.status.canTransitionTo .pending = true := by rw [hstatus]; rfl
  refine park_effect Faults.fair_inReach h.engaged hcan fun held now => ?_
  refine .parked (o := o.parked reason now) (t := t.resolved .pending held)
    ⟨rfl, Books.file_self .., h.link, Books.enter_self ..⟩ hverdict rfl rfl ⟨rfl, rfl, ?_⟩
  simp only [Tally.along_note, h.tally]
  rfl

/-- The bank refuses. -/
theorem Linked.halted {e : FlowError} (outcome : Option Outcome)
    (h : Linked kind request before s g
      ((before.inquired kind request o.id answer).withVoucher request o) o t)
    (hverdict : registry.verdict kind request.provider answer = .refused e)
    (hunmoved : outcome ≠ some .success) :
    Halted kind request before (keepReason (.error e) { s with outcome := outcome }) g registry
      (fun _ => NoneDropped request) (.failed "call_bank" e) := by
  obtain ⟨discount, rfl⟩ := h.state
  refine .refused ⟨rfl, h.stored, h.link, h.record⟩ hverdict rfl ⟨rfl, rfl, ?_, rfl⟩
    ⟨h.processing, h.status, h.initial, h.tally⟩
  simpa [FlowState.bankSucceeded, keepReason] using hunmoved

theorem handleAnswer_fair {response : ProviderResponse}
    (h : Linked kind request before s g
      ((before.inquired kind request o.id (.ok response)).withVoucher request o) o t) :
    Reaches .fair (handleAnswer settings response) s g (Proceeds
      (fun s g => Accepted kind request before s g settings.classifiers .processing)
      (fun e s g => Halted kind request before s g settings.classifiers
        (fun _ => NoneDropped request) e) "call_bank") := by
  obtain ⟨discount, hs⟩ := h.state
  have hkind : s.kind = kind := by rw [hs]; rfl
  have hawaiting : s.awaitingOtp = false := by rw [hs]; rfl
  refine handleAnswer_effect Faults.fair_inReach h.order h.stored h.processing
    (by rw [h.provider]) ?_ ?_ ?_ ?_
  · intro hsuccess
    exact .paid (h.active h.order) (verdict_success hsuccess) hawaiting h.status
  · intro hverifying
    exact park_fair (h.active h.order) h.status (verdict_verifying hverifying)
  · intro hotp hallowed now
    rw [hkind] at hallowed
    have hlinked := h.replace (o.awaiting now) rfl rfl rfl rfl rfl
    exact .awaiting (o := o.awaiting now) (hlinked.active rfl) (verdict_needsOtp hotp hallowed) rfl rfl
      h.initial
  · intro hsuccess hverifying hotp
    rw [hkind] at hotp
    exact h.halted _ (verdict_refused rfl hsuccess hverifying hotp) (by simpa using hsuccess)

theorem callBank_fair (h : Linked kind request before s g (before.withVoucher request o) o t) :
    Reaches .fair (callBank settings) s g (Proceeds
      (fun s g => Accepted kind request before s g settings.classifiers .processing)
      (fun e s g => Halted kind request before s g settings.classifiers
        (fun _ => NoneDropped request) e) "call_bank") := by
  obtain ⟨discount, hs⟩ := h.state
  refine callBank_effect h.order (fun hnone => ?_) fun payment hpayment call hcall => ?_
  · rw [hs] at hnone
    cases hnone
  rw [hs] at hpayment
  cases hpayment
  have hcall : call = kind.bankCall (request.forBank o.id) := by
    rw [hcall, hs, h.user, h.amount]
    rfl
  -- the question is noted before the answer is looked at
  have hasked (answer : Except ServiceError ProviderResponse) :
      Linked kind request before s (g.note (.bank call) answer)
        ((before.inquired kind request o.id answer).withVoucher request o) o t := by
    rw [Tally.inquired, ← Tally.inquire_withVoucher, ← hcall]
    exact h.note rfl
  refine ⟨fun response => ?_, fun reason _ => ?_, fun e _ hne => ?_⟩
  · have h := hasked (.ok response)
    refine keepTrace_effect Faults.fair_inReach h.stored h.processing (handleAnswer_fair h) ?_
    intro trace now
    have hreplaced := h.replace (o.setBankTraceId trace now) rfl rfl rfl rfl rfl
    exact handleAnswer_fair (o := o.setBankTraceId trace now) hreplaced
  · have hverdict : settings.classifiers.verdict kind request.provider (.error (.rejected reason)) =
        .refused (.service (.rejected reason)) := rfl
    -- the outcome is still blank: there was no code to classify
    have hhalted := (hasked (.error (.rejected reason))).halted none hverdict nofun
    rw [hs] at hhalted ⊢
    exact hhalted
  · exact park_fair ((hasked (.error e)).active h.order) h.status (verdict_error hne)

end

/-! ## Once the bank has been asked -/

section

variable {registry : ClassifierRegistry} {answer : Except ServiceError ProviderResponse}
  {e : ExecutionError FlowError}

theorem confirmLedger_fair (h : Accepted kind request before s g registry .processing) :
    Reaches .fair confirmLedger s g (Proceeds
      (fun s g => Accepted kind request before s g registry .finish) S name) := by
  cases h with
  | @paid answer o t h hverdict hawaiting hstatus =>
      refine confirmLedger_confirms Faults.fair_inReach h.engaged hawaiting (by rw [hstatus]; rfl)
        fun now => ?_
      refine .paid (t := t.resolved .finish now)
        ⟨⟨h.order, h.stored, h.link, Books.enter_self ..⟩, h.processing, ?_⟩ hverdict hawaiting rfl
      exact (before.along_note ..).trans h.tally
  | awaiting h hverdict hawaiting hotp hinitial =>
      exact confirmLedger_awaiting hawaiting (.awaiting h hverdict hawaiting hotp hinitial)

theorem Done.of_verdict {v : Verdict} (h : Placed s g o t)
    (hverdict : registry.verdict kind request.provider answer = v) (herror : v.error? o.id = none)
    (hawaiting : s.awaitingOtp = decide (v = .awaiting))
    (hsettles : v.Settles request (before.inquired kind request o.id answer) o t
      (before.along g.events)) : Done kind request before s g registry answer o t := by
  cases hverdict
  exact ⟨h, herror, hawaiting, hsettles⟩

theorem successOrder_fair (h : Accepted kind request before s g registry .finish) :
    Reaches .fair successOrder s g (Proceeds
      (fun s g => ∃ answer o t, Done kind request before s g registry answer o t) S name) := by
  cases h with
  | @paid answer o t h hverdict hawaiting hstatus =>
      refine successOrder_succeeds Faults.fair_inReach h.engaged hawaiting fun now => ?_
      have hplaced : Placed { s with order := some (o.succeeded now) }
          (g.note (.orders (.replace (o.succeeded now))) (.ok (o.succeeded now)))
          (o.succeeded now) t :=
        ⟨rfl, Books.file_self .., h.link, h.record⟩
      exact ⟨answer, o.succeeded now, t, .of_verdict hplaced hverdict rfl hawaiting
        ⟨rfl, hstatus, (before.along_note ..).trans h.tally⟩⟩
  | @awaiting answer o t h hverdict hawaiting hotp hinitial =>
      exact successOrder_awaiting h.order hawaiting ⟨answer, o, t,
        .of_verdict h.toPlaced hverdict rfl hawaiting ⟨h.processing, hotp, hinitial, h.tally⟩⟩

/-! ## Undoing a payment -/

theorem Refuses.rollbackReason {error : FlowError} (h : Refuses request s error) :
    s.rollbackReason = error.message := by
  simp [FlowState.rollbackReason, h.reason]

/-- A part that undoes a refused payment leaves a parked one alone. -/
theorem Halted.undo {part : StepM Unit}
    {P Q : FlowError → Tally → Order → Transaction → Tally → Prop}
    (h : Halted kind request before s g registry P e)
    (hspared : s.parked = true → ∀ {R : Except FlowError Unit → FlowState → Past → Prop},
      R (.ok ()) s g → Reaches .fair part s g R)
    (hundo : ∀ {answer o t error}, Placed s g o t →
      registry.verdict kind request.provider answer = .refused error →
      e = .failed "call_bank" error → Refuses request s error →
      P error (before.inquired kind request o.id answer) o t (before.along g.events) →
      Reaches .fair part s g fun r s g => r = .ok () ∧ Halted kind request before s g registry Q e) :
    Reaches .fair part s g fun r s g =>
      Halted kind request before (keepReason r s) g registry Q e := by
  cases h with
  -- what is said of a parked order is said in every stage
  | parked hplaced hverdict he hparked hsettles =>
      exact hspared hparked (.parked hplaced hverdict he hparked hsettles)
  | refused hplaced hverdict he hrefuses hP =>
      apply (hundo hplaced hverdict he hrefuses hP).mono
      rintro r s g ⟨rfl, hhalted⟩
      exact hhalted

theorem cancelLedger_fair
    (h : Halted kind request before s g registry (fun _ => NoneDropped request) e) :
    Reaches .fair cancelLedger s g fun r s g =>
      Halted kind request before (keepReason r s) g registry (RecordDropped request) e := by
  refine h.undo (fun hparked _ hR => cancelLedger_spared (.inl (by simp [spared, hparked])) hR) ?_
  rintro answer o t error hplaced hverdict he hrefuses ⟨hprocessing, hstatus, hinitial, htally⟩
  have hlinked : s.transactionId? = some t.id := by
    rw [FlowState.transactionId?, hplaced.order]
    exact hplaced.link
  refine cancelLedger_cancels hrefuses.exposed hrefuses.unmoved hlinked ?_
  refine cancelIfInitial_cancels Faults.fair_inReach hplaced.record hinitial hstatus fun now => ?_
  refine ⟨rfl, .refused (t := t.cancelled s.rollbackReason now)
    ⟨hplaced.order, hplaced.stored, hplaced.link, Books.enter_self ..⟩ hverdict he hrefuses
    ⟨hprocessing, rfl, congrArg some hrefuses.rollbackReason, ?_⟩⟩
  rw [Tally.along_note, htally]
  rfl

/-- Without a voucher there is nothing to take back. -/
theorem Halted.without (hcode : request.voucherCode.isSome = false)
    (h : Halted kind request before s g registry (RecordDropped request) e) :
    Halted kind request before s g registry (VoucherDropped request) e := by
  cases h with
  | parked hplaced hverdict he hparked hsettles =>
      exact .parked hplaced hverdict he hparked hsettles
  | refused hplaced hverdict he hrefuses hP =>
      obtain ⟨hprocessing, hstatus, hreason, htally⟩ := hP
      refine .refused hplaced hverdict he hrefuses ⟨hprocessing, hstatus, hreason, ?_⟩
      rw [htally, Tally.withVoucher_none hcode, Tally.withoutVoucher_none hcode]

theorem reverseVoucher_fair (hcode : request.voucherCode.isSome = true)
    (h : Halted kind request before s g registry (RecordDropped request) e) :
    Reaches .fair reverseVoucher s g fun r s g =>
      Halted kind request before (keepReason r s) g registry (VoucherDropped request) e := by
  refine h.undo (fun hparked _ hR => reverseVoucher_spared (.inl hparked) hR) ?_
  rintro answer o t error hplaced hverdict he hrefuses ⟨hprocessing, hstatus, hreason, htally⟩
  have hexposed : s.parked = false := by
    have hspared := hrefuses.exposed
    simp only [spared, Bool.or_eq_false_iff] at hspared
    exact hspared.1
  refine reverseVoucher_reverses hexposed hrefuses.unmoved (by rw [hrefuses.request]; exact hcode)
    hplaced.order (fun _ hmay => Bool.noConfusion hmay)
    ⟨rfl, .refused ⟨hplaced.order, hplaced.stored, hplaced.link, hplaced.record⟩ hverdict he hrefuses
      ⟨hprocessing, hstatus, hreason, ?_⟩⟩
  rw [Tally.along_note, htally]
  exact Tally.cancel_takeBack hcode ..

theorem failOrder_fair (h : Halted kind request before s g registry (VoucherDropped request) e) :
    Reaches .fair failOrder s g fun r s g =>
      Halted kind request before (keepReason r s) g registry (AllDropped request) e := by
  refine h.undo (fun hparked _ hR => failOrder_spared (by simp [spared, hparked]) hR) ?_
  rintro answer o t error hplaced hverdict he hrefuses ⟨hprocessing, hstatus, hreason, htally⟩
  refine failOrder_withdraws Faults.fair_inReach hrefuses.exposed hrefuses.unmoved hplaced.order
    hplaced.stored (.inr hprocessing) fun now => ?_
  refine ⟨rfl, .refused (o := o.withdrawn s.rollbackReason now)
    ⟨rfl, Books.file_self .., hplaced.link, hplaced.record⟩ hverdict he
    ⟨hrefuses.request, hrefuses.exposed, hrefuses.unmoved, hrefuses.reason⟩
    ⟨rfl, congrArg some hrefuses.rollbackReason, hstatus, hreason, (before.along_note ..).trans htally⟩⟩

end

end

end Wallet.Payment
