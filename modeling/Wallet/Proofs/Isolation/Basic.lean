import Mathlib.Data.List.Forall2
import Wallet.Flow.Payment
import Wallet.Proofs.Store.Records
import Wallet.Proofs.World.Schedule

/-!
# Two runs of one call

A call is run twice, along two schedules and from two contents of the services. The identifiers that
are made for it may be different in the two runs, and so may be the civil time. A `Pairing` says which
identifiers belong to the call, and this module says when an order, a ledger record, an error or the
outcome of a flow is the same in both runs, identifiers and times aside.
-/

namespace Wallet

/-- Two occasions differ in nothing but the civil time, the state of the pool and the identifier that
is made. -/
structure Occasion.Alike (t t' : Occasion) : Prop where
  timeline : t.timeline = t'.timeline
  response : t.response = t'.response
  fault : t.fault = t'.fault

/-- A deadline has passed at a call of one schedule if the other deadline has passed at the same call of
the other schedule. -/
def Schedule.SameDeadline (left right : Schedule) (d d' : Timestamp) : Prop :=
  ∀ n, d.before (left n).clock.tick = d'.before (right n).clock.tick

/-- Two runs of one call, and the identifiers of its order and its ledger record in both, as far as
they have been made. -/
structure Pairing where
  left : Schedule
  right : Schedule
  alike : ∀ n, (left n).Alike (right n)
  leftStart : Services
  rightStart : Services
  /-- Whether the call is a payment, so that it may use a voucher. -/
  paying : Bool
  order : Option (OrderId × OrderId)
  record : Option (TransactionId × TransactionId)

/-- Both are values and related, or both are errors and related. -/
inductive Matched {ε α β : Type} (E : ε → ε → Prop) (R : α → β → Prop) :
    Except ε α → Except ε β → Prop
  | ok {a : α} {b : β} (h : R a b) : Matched E R (.ok a) (.ok b)
  | error {e e' : ε} (h : E e e') : Matched E R (.error e) (.error e')

theorem Matched.map {ε α β α' β' : Type} {E : ε → ε → Prop} {R : α → β → Prop} {S : α' → β' → Prop}
    {x : Except ε α} {y : Except ε β} {f : α → α'} {g : β → β'} (h : Matched E R x y)
    (hfg : ∀ a b, R a b → S (f a) (g b)) : Matched E S (x.map f) (y.map g) := by
  cases h with
  | ok h => exact .ok (hfg _ _ h)
  | error h => exact .error h

theorem Matched.mapError {ε δ α β : Type} {E : ε → ε → Prop} {D : δ → δ → Prop} {R : α → β → Prop}
    {x : Except ε α} {y : Except ε β} {f g : ε → δ} (h : Matched E R x y)
    (hfg : ∀ e e', E e e' → D (f e) (g e')) : Matched D R (x.mapError f) (y.mapError g) := by
  cases h with
  | ok h => exact .ok h
  | error h => exact .error (hfg _ _ h)

theorem optionRel_mono {α β : Type} {R S : α → β → Prop} {x : Option α} {y : Option β}
    (h : Option.Rel R x y) (hRS : ∀ a b, R a b → S a b) : Option.Rel S x y := by
  cases h with
  | some h => exact .some (hRS _ _ h)
  | none => exact .none

namespace Pairing

/-! ## Texts and errors -/

/-- Two texts are the same but for the identifiers of the call in them. -/
inductive SameText (ρ : Pairing) : String → String → Prop
  | same (s : String) : ρ.SameText s s
  | order {a b : OrderId} (h : ρ.order = some (a, b)) : ρ.SameText (toString a) (toString b)
  | record {a b : TransactionId} (h : ρ.record = some (a, b)) :
      ρ.SameText (toString a) (toString b)
  | append {s s' t t' : String} (h : ρ.SameText s s') (h' : ρ.SameText t t') :
      ρ.SameText (s ++ t) (s' ++ t')

/-- The same error of a collaborator. -/
inductive SameServiceError (ρ : Pairing) : ServiceError → ServiceError → Prop
  | same (e : ServiceError) : ρ.SameServiceError e e
  | notFound (entity : String) {id id' : String} (h : ρ.SameText id id') :
      ρ.SameServiceError (.notFound entity id) (.notFound entity id')
  | conflict {reason reason' : String} (h : ρ.SameText reason reason') :
      ρ.SameServiceError (.conflict reason) (.conflict reason')
  | expired {a b : OrderId} (h : ρ.order = some (a, b)) :
      ρ.SameServiceError (.expired a) (.expired b)

/-- The same error of a step. -/
inductive SameFlowError (ρ : Pairing) : FlowError → FlowError → Prop
  | same (e : FlowError) : ρ.SameFlowError e e
  | service {e e' : ServiceError} (h : ρ.SameServiceError e e') :
      ρ.SameFlowError (.service e) (.service e')
  | pending {a b : OrderId} (h : ρ.order = some (a, b)) :
      ρ.SameFlowError (.pending a) (.pending b)
  | otpRejected {reason reason' : String} (h : ρ.SameText reason reason') :
      ρ.SameFlowError (.otpRejected reason) (.otpRejected reason')

end Pairing

/-! ## Records -/

/-- What is left of an order without its identifiers, its times and the reason why it failed. -/
def Order.masked (o : Order) : Order :=
  { o with
    id := default, transactionId := none, createdAt := default, updatedAt := default,
    expiredAt := default, failReason := none }

/-- What is left of a ledger record without its identifiers, its times and the reason why it
failed. -/
def Transaction.masked (t : Transaction) : Transaction :=
  { t with
    id := default, orderId := default, createdAt := default, updatedAt := default,
    failReason := none }

namespace Pairing

/-- The order of the call in both runs. -/
structure SameOrder (ρ : Pairing) (o o' : Order) : Prop where
  id : ρ.order = some (o.id, o'.id)
  link : Option.Rel (fun a b => ρ.record = some (a, b)) o.transactionId o'.transactionId
  deadline : ρ.left.SameDeadline ρ.right o.expiredAt o'.expiredAt
  failReason : Option.Rel ρ.SameText o.failReason o'.failReason
  rest : o.masked = o'.masked

/-- The ledger record of the call in both runs. -/
structure SameRecord (ρ : Pairing) (t t' : Transaction) : Prop where
  id : t.id = t'.id ∨ ρ.record = some (t.id, t'.id)
  orderId : t.orderId = t'.orderId ∨ ρ.order = some (t.orderId, t'.orderId)
  failReason : Option.Rel ρ.SameText t.failReason t'.failReason
  rest : t.masked = t'.masked

/-- The usage of a voucher in both runs. -/
structure SameDiscount (ρ : Pairing) (d d' : Discount) : Prop where
  voucherCode : d.voucherCode = d'.voucherCode
  amount : d.amount = d'.amount
  traceId : ρ.SameText d.traceId d'.traceId

/-! ## Executions -/

inductive SameForward (ρ : Pairing) : ForwardStatus → ForwardStatus → Prop
  | succeeded : ρ.SameForward .succeeded .succeeded
  | failed {e e' : String} (h : ρ.SameText e e') : ρ.SameForward (.failed e) (.failed e')

inductive SameCompensation (ρ : Pairing) : CompensationStatus → CompensationStatus → Prop
  | notRequired : ρ.SameCompensation .notRequired .notRequired
  | compensated : ρ.SameCompensation .compensated .compensated
  | failed {e e' : String} (h : ρ.SameText e e') : ρ.SameCompensation (.failed e) (.failed e')

/-- The same outcome of a step, except when it was attempted. -/
structure SameStep (ρ : Pairing) (o o' : StepOutcome) : Prop where
  step : o.step = o'.step
  forward : ρ.SameForward o.forward o'.forward
  compensation : Option.Rel ρ.SameCompensation o.compensation o'.compensation
  duration : o.duration = o'.duration
  options : o.options = o'.options

inductive SameStop (ρ : Pairing) : ExecutionError FlowError → ExecutionError FlowError → Prop
  | failed (step : String) {e e' : FlowError} (h : ρ.SameFlowError e e') :
      ρ.SameStop (.failed step e) (.failed step e')
  | cancelled (step : String) : ρ.SameStop (.cancelled step) (.cancelled step)

structure SameExecution (ρ : Pairing) (x x' : Execution FlowError) : Prop where
  sagaName : x.sagaName = x'.sagaName
  state : x.state = x'.state
  steps : List.Forall₂ ρ.SameStep x.steps x'.steps
  error : Option.Rel ρ.SameStop x.error x'.error

/-- The same outcome of a flow. -/
structure SameOutcome (ρ : Pairing) (o o' : FlowOutcome) : Prop where
  orderId : Option.Rel (fun a b => ρ.order = some (a, b)) o.orderId o'.orderId
  nextAction : o.nextAction = o'.nextAction
  execution : ρ.SameExecution o.execution o'.execution

/-- The same entry of the execution log, except when it was made. -/
structure SamePlay (ρ : Pairing) (r r' : ExecutionRecord) : Prop where
  sagaName : r.sagaName = r'.sagaName
  outcomes : List.Forall₂ ρ.SameStep r.outcomes r'.outcomes

/-- The state of the flow in both runs. -/
structure SameState (ρ : Pairing) (s t : FlowState) : Prop where
  kind : s.kind = t.kind
  request : s.request = t.request
  resume : s.resume = t.resume
  /-- The order that is resumed is the order of the call. -/
  resumed : ∀ id, s.resume = some id → ρ.order = some (id, id)
  order : Option.Rel ρ.SameOrder s.order t.order
  discount : Option.Rel ρ.SameDiscount s.discount t.discount
  outcome : s.outcome = t.outcome
  parked : s.parked = t.parked
  awaitingOtp : s.awaitingOtp = t.awaitingOtp
  retryAllowed : s.retryAllowed = t.retryAllowed
  failureReason : Option.Rel ρ.SameText s.failureReason t.failureReason

/-! ## More identifiers -/

/-- A pair of identifiers is as it was, or it has been made at one call of both runs. -/
def Made {ι : Type} (left right : Schedule) (make : Uuid → ι) (x x' : Option (ι × ι)) : Prop :=
  x' = x ∨ x = none ∧ ∃ n, x' = some (make (left n).id, make (right n).id)

section

variable {ι : Type} {left right : Schedule} {make : Uuid → ι} {x x' x'' : Option (ι × ι)} {p : ι × ι}

theorem Made.known (h : Made left right make x x') (hx : x = some p) : x' = some p := by
  rcases h with hsame | ⟨hnone, _⟩
  · exact hsame.trans hx
  · cases hnone.symm.trans hx

theorem Made.trans (h : Made left right make x x') (h' : Made left right make x' x'') :
    Made left right make x x'' := by
  rcases h' with rfl | ⟨hnone, hmade⟩
  · exact h
  · rcases h with rfl | ⟨_, _, hknown⟩
    · exact .inr ⟨hnone, hmade⟩
    · cases hnone.symm.trans hknown

end

/-- More of the identifiers of the call may have been made. -/
structure Grows (ρ ρ' : Pairing) : Prop where
  left : ρ'.left = ρ.left
  right : ρ'.right = ρ.right
  leftStart : ρ'.leftStart = ρ.leftStart
  rightStart : ρ'.rightStart = ρ.rightStart
  paying : ρ'.paying = ρ.paying
  madeOrder : Made ρ.left ρ.right OrderId.mk ρ.order ρ'.order
  madeRecord : Made ρ.left ρ.right TransactionId.mk ρ.record ρ'.record

variable {ρ ρ' ρ'' : Pairing}

theorem Grows.order (h : ρ.Grows ρ') {p : OrderId × OrderId} (hp : ρ.order = some p) :
    ρ'.order = some p :=
  h.madeOrder.known hp

theorem Grows.record (h : ρ.Grows ρ') {p : TransactionId × TransactionId}
    (hp : ρ.record = some p) : ρ'.record = some p :=
  h.madeRecord.known hp

theorem Grows.refl (ρ : Pairing) : ρ.Grows ρ := ⟨rfl, rfl, rfl, rfl, rfl, .inl rfl, .inl rfl⟩

theorem Grows.trans (h : ρ.Grows ρ') (h' : ρ'.Grows ρ'') : ρ.Grows ρ'' where
  left := h'.left.trans h.left
  right := h'.right.trans h.right
  leftStart := h'.leftStart.trans h.leftStart
  rightStart := h'.rightStart.trans h.rightStart
  paying := h'.paying.trans h.paying
  madeOrder := h.madeOrder.trans (h.left ▸ h.right ▸ h'.madeOrder)
  madeRecord := h.madeRecord.trans (h.left ▸ h.right ▸ h'.madeRecord)

/-- Nothing but the two pairs of identifiers may differ. -/
theorem Grows.eq (h : ρ.Grows ρ') : ρ' = { ρ with order := ρ'.order, record := ρ'.record } := by
  obtain ⟨left, right, _, leftStart, rightStart, paying, _, _⟩ := ρ'
  obtain ⟨rfl, rfl, rfl, rfl, rfl, _, _⟩ := h
  rfl

/-! ### What is the same stays the same -/

theorem SameText.grow {s s' : String} (h : ρ.SameText s s') (hgrows : ρ.Grows ρ') :
    ρ'.SameText s s' := by
  induction h with
  | same s => exact .same s
  | order h => exact .order (hgrows.order h)
  | record h => exact .record (hgrows.record h)
  | append _ _ ih ih' => exact .append ih ih'

theorem SameOrder.grow {o o' : Order} (h : ρ.SameOrder o o') (hgrows : ρ.Grows ρ') :
    ρ'.SameOrder o o' where
  id := hgrows.order h.id
  link := optionRel_mono h.link fun _ _ => hgrows.record
  deadline n := by
    rw [hgrows.left, hgrows.right]
    exact h.deadline n
  failReason := optionRel_mono h.failReason fun _ _ htext => htext.grow hgrows
  rest := h.rest

theorem SameRecord.grow {t t' : Transaction} (h : ρ.SameRecord t t') (hgrows : ρ.Grows ρ') :
    ρ'.SameRecord t t' where
  id := h.id.imp_right hgrows.record
  orderId := h.orderId.imp_right hgrows.order
  failReason := optionRel_mono h.failReason fun _ _ htext => htext.grow hgrows
  rest := h.rest

theorem SameDiscount.grow {d d' : Discount} (h : ρ.SameDiscount d d') (hgrows : ρ.Grows ρ') :
    ρ'.SameDiscount d d' :=
  { h with traceId := h.traceId.grow hgrows }

theorem SameForward.grow {x x' : ForwardStatus} (h : ρ.SameForward x x') (hgrows : ρ.Grows ρ') :
    ρ'.SameForward x x' := by
  cases h with
  | succeeded => exact .succeeded
  | failed h => exact .failed (h.grow hgrows)

theorem SameCompensation.grow {x x' : CompensationStatus} (h : ρ.SameCompensation x x')
    (hgrows : ρ.Grows ρ') : ρ'.SameCompensation x x' := by
  cases h with
  | notRequired => exact .notRequired
  | compensated => exact .compensated
  | failed h => exact .failed (h.grow hgrows)

theorem SameStep.grow {o o' : StepOutcome} (h : ρ.SameStep o o') (hgrows : ρ.Grows ρ') :
    ρ'.SameStep o o' where
  step := h.step
  forward := h.forward.grow hgrows
  compensation := optionRel_mono h.compensation fun _ _ hstatus => hstatus.grow hgrows
  duration := h.duration
  options := h.options

theorem SameState.grow {s t : FlowState} (h : ρ.SameState s t) (hgrows : ρ.Grows ρ') :
    ρ'.SameState s t :=
  { h with
    resumed := fun id hid => hgrows.order (h.resumed id hid)
    order := optionRel_mono h.order fun _ _ horder => horder.grow hgrows
    discount := optionRel_mono h.discount fun _ _ hdiscount => hdiscount.grow hgrows
    failureReason := optionRel_mono h.failureReason fun _ _ htext => htext.grow hgrows }

/-! ## Messages -/

theorem SameServiceError.message {e e' : ServiceError} (h : ρ.SameServiceError e e') :
    ρ.SameText e.message e'.message := by
  cases h with
  | same e => exact .same _
  | notFound entity h => exact .append (.same _) h
  | conflict h => exact .append (.same _) h
  | expired h => exact .append (.append (.same _) (.order h)) (.same _)

theorem SameFlowError.message {e e' : FlowError} (h : ρ.SameFlowError e e') :
    ρ.SameText e.message e'.message := by
  cases h with
  | same e => exact .same _
  | service h => exact h.message
  | pending h => exact .append (.append (.same _) (.order h)) (.same _)
  | otpRejected h => exact h

/-! ## Changes of the order -/

section

variable {o o' : Order} {reason reason' : String}

/-- What does not depend on identifiers, times and the reason of failing is the same. -/
theorem SameOrder.congr {α : Type} {f : Order → α} (h : ρ.SameOrder o o')
    (hmasked : ∀ o : Order, f o.masked = f o) : f o = f o' := by
  rw [← hmasked o, h.rest, hmasked]

theorem SameOrder.status (h : ρ.SameOrder o o') : o.status = o'.status := h.congr fun _ => rfl

theorem SameOrder.userId (h : ρ.SameOrder o o') : o.userId = o'.userId := h.congr fun _ => rfl

theorem SameOrder.amount (h : ρ.SameOrder o o') : o.amount = o'.amount := h.congr fun _ => rfl

theorem SameOrder.provider (h : ρ.SameOrder o o') : o.provider = o'.provider := h.congr fun _ => rfl

theorem SameOrder.isTerminal (h : ρ.SameOrder o o') : o.isTerminal = o'.isTerminal :=
  congrArg OrderStatus.isTerminal h.status

theorem SameOrder.isVerifying (h : ρ.SameOrder o o') : o.isVerifying = o'.isVerifying :=
  congrArg (· == OrderStatus.verifying) h.status

theorem SameOrder.transition (h : ρ.SameOrder o o') (next : OrderStatus) (now now' : Timestamp) :
    Matched Eq ρ.SameOrder (o.transition next now) (o'.transition next now') := by
  unfold Order.transition
  rw [h.status]
  split
  · exact .ok { h with
      rest := congrArg (fun m : Order => { m with status := next, awaitingOtp := false }) h.rest }
  · exact .error rfl

theorem SameOrder.transitionFor (h : ρ.SameOrder o o') (hreason : ρ.SameText reason reason')
    (next : OrderStatus) (now now' : Timestamp) :
    Matched Eq ρ.SameOrder (o.transitionFor next reason now)
      (o'.transitionFor next reason' now') :=
  (h.transition next now now').map fun _ _ h => { h with failReason := .some hreason }

theorem SameOrder.settle (h : ρ.SameOrder o o') (now now' : Timestamp) :
    Matched Eq ρ.SameOrder (o.settle true none now) (o'.settle true none now') := by
  unfold Order.settle
  rw [h.status]
  simp only
  split
  · exact .ok { h with
      rest := congrArg (fun m : Order =>
        { m with status := .success, awaitingOtp := false }) h.rest }
  · exact .error rfl

theorem SameOrder.failUnlessResolved? (h : ρ.SameOrder o o') (hreason : ρ.SameText reason reason')
    (now now' : Timestamp) :
    Option.Rel ρ.SameOrder (o.failUnlessResolved? reason now)
      (o'.failUnlessResolved? reason' now') := by
  unfold Order.failUnlessResolved?
  rw [h.isVerifying, h.isTerminal]
  split
  · exact .none
  · have hfailed := h.transitionFor hreason .failed now now'
    unfold Order.fail
    generalize o.transitionFor .failed reason now = x at hfailed ⊢
    generalize o'.transitionFor .failed reason' now' = y at hfailed ⊢
    cases hfailed with
    | ok h => exact .some h
    | error h => exact .none

theorem SameOrder.markAwaitingOtp (h : ρ.SameOrder o o') (now now' : Timestamp) :
    Matched Eq ρ.SameOrder (o.markAwaitingOtp now) (o'.markAwaitingOtp now') := by
  unfold Order.markAwaitingOtp
  by_cases hprocessing : o.status = .processing
  · rw [if_pos hprocessing, if_pos (h.status.symm.trans hprocessing)]
    exact .ok { h with
      rest := congrArg (fun m : Order => { m with awaitingOtp := true }) h.rest }
  · rw [if_neg hprocessing, if_neg (h.status ▸ hprocessing)]
    exact .error (by rw [h.status])

theorem SameOrder.linkTransaction (h : ρ.SameOrder o o') {id id' : TransactionId}
    (hid : ρ.record = some (id, id')) (now now' : Timestamp) :
    Matched Eq ρ.SameOrder (o.linkTransaction id now) (o'.linkTransaction id' now') := by
  unfold Order.linkTransaction
  have hlink := h.link
  generalize o.transactionId = link at hlink ⊢
  generalize o'.transactionId = link' at hlink ⊢
  cases hlink with
  | none => exact .ok { h with link := .some hid, rest := h.rest }
  | some hlinked =>
      cases hid.symm.trans hlinked
      simp only [if_true]
      exact .ok { h with link := .some hid, rest := h.rest }

theorem SameOrder.setBankTraceId (h : ρ.SameOrder o o') (traceId : String) (now now' : Timestamp) :
    ρ.SameOrder (o.setBankTraceId traceId now) (o'.setBankTraceId traceId now') :=
  { h with rest := congrArg (fun m : Order => { m with bankTraceId := some traceId }) h.rest }

end

/-! ## Changes of the ledger record -/

/-- The same request to move the ledger record of the call. -/
inductive SameMove (ρ : Pairing) : Ledger.Request → Ledger.Request → Prop
  | confirm {a b : TransactionId} (h : ρ.record = some (a, b)) :
      ρ.SameMove (.confirm a) (.confirm b)
  | setPending {a b : TransactionId} (h : ρ.record = some (a, b)) :
      ρ.SameMove (.setPending a) (.setPending b)
  | cancel {a b : TransactionId} {reason reason' : String} (h : ρ.record = some (a, b))
      (hreason : ρ.SameText reason reason') : ρ.SameMove (.cancel a reason) (.cancel b reason')

section

variable {t t' : Transaction}

theorem SameRecord.status (h : ρ.SameRecord t t') : t.status = t'.status := by
  show t.masked.status = t'.masked.status
  rw [h.rest]

theorem SameRecord.state (h : ρ.SameRecord t t') : t.state = t'.state := by
  show t.masked.state = t'.masked.state
  rw [h.rest]

theorem SameRecord.isCancellable (h : ρ.SameRecord t t') : t.isCancellable = t'.isCancellable :=
  congrArg (· == TransactionState.initial) h.state

theorem SameRecord.moveTo (h : ρ.SameRecord t t') (next : TransactionStatus)
    (now now' : Timestamp) :
    Matched Eq ρ.SameRecord (t.moveTo next now) (t'.moveTo next now') := by
  unfold Transaction.moveTo
  rw [h.status]
  split
  · exact .ok { h with
      rest := congrArg (fun m : Transaction => { m with status := next, state := .resolved })
        h.rest }
  · exact .error rfl

theorem SameRecord.move (h : ρ.SameRecord t t') {r r' : Ledger.Request} (hr : ρ.SameMove r r')
    (now now' : Timestamp) :
    Matched Eq ρ.SameRecord (r.transition now t) (r'.transition now' t') := by
  cases hr with
  | confirm _ => exact h.moveTo .finish now now'
  | setPending _ => exact h.moveTo .pending now now'
  | cancel _ hreason =>
      show Matched Eq ρ.SameRecord (t.cancel _ now) (t'.cancel _ now')
      unfold Transaction.cancel
      rw [h.isCancellable]
      split
      · exact (h.moveTo .failed now now').map fun _ _ h => { h with failReason := .some hreason }
      · exact .error (by rw [h.state])

end

end Pairing

end Wallet
