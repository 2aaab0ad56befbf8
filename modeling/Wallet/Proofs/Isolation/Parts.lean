import Wallet.Proofs.Isolation.Rules

/-!
# The parts of flows side by side

Every part of a step and every undoing action does the same in both runs: it works on the order, the
record and the usage of the call, which are the same, and on nothing else. The part that makes the order
and the one that registers the record are the only ones that make identifiers.
-/

namespace Wallet.Pairing

open Wallet.Flow StepM

variable {ρ : Pairing} {o o' : Order} {a b : OrderId} {reason reason' : String}

/-! ## What is read of an order -/

theorem SameOrder.isPastDeadline (h : ρ.SameOrder o o') {now now' : Timestamp}
    (hnow : ρ.SameReading now now') : o.isPastDeadline now = o'.isPastDeadline now' := by
  obtain ⟨n, rfl, rfl⟩ := hnow
  exact h.deadline n

theorem SameOrder.isResumable (h : ρ.SameOrder o o') (kind : FlowKind) :
    isResumable kind o = isResumable kind o' := by
  have htype : o.type = o'.type := h.congr fun _ => rfl
  have hawaiting : o.awaitingOtp = o'.awaitingOtp := h.congr fun _ => rfl
  have hlinked : o.transactionId.isSome = o'.transactionId.isSome := by
    have hlink := h.link
    generalize o.transactionId = x at hlink ⊢
    generalize o'.transactionId = y at hlink ⊢
    cases hlink <;> rfl
  unfold Flow.isResumable
  rw [htype, hawaiting, hlinked]

/-! ## Parking -/

theorem stored_agrees (hown : ρ.order = some (a, b)) :
    ρ.Agrees (stored a) (stored b) ρ.SameOrder := by
  refine agrees_bind (agrees_ask (together_request (answered_find hown))) fun x y hfound => ?_
  cases hfound with
  | none => exact agrees_throw (.service (.notFound _ (.order hown)))
  | some ho => exact agrees_pure ho

theorem hold_agrees {x y : Option TransactionId}
    (h : Option.Rel (fun a b => ρ.record = some (a, b)) x y) : ρ.Agrees (hold x) (hold y) Eq := by
  cases h with
  | none => exact agrees_pure rfl
  | some hown =>
      exact agrees_bind (agrees_perform (together_request (answered_move (.setPending hown))))
        fun _ _ _ => agrees_pure rfl

theorem park_agrees (hreason : ρ.SameText reason reason') :
    ρ.Agrees (park reason) (park reason') Eq := by
  unfold park
  refine agrees_bind (agrees_modify fun _ _ hstate => { hstate with parked := rfl }) fun _ _ _ => ?_
  refine agrees_bind agrees_order fun o o' ho => ?_
  refine agrees_bind (hold_agrees ho.link) fun _ _ _ => ?_
  refine agrees_bind (stored_agrees ho.id) fun current current' hcurrent => ?_
  rw [hcurrent.isVerifying, hcurrent.isTerminal]
  split
  · refine agrees_bind agrees_now fun now now' _ => ?_
    refine agrees_bind (agrees_accept (hcurrent.transitionFor hreason .verifying now now'))
      fun _ _ hverifying => ?_
    refine agrees_bind (agrees_ask (together_request (answered_replace hverifying)))
      fun _ _ hverifying => ?_
    refine agrees_bind (agrees_notify _ _ _) fun _ _ _ => ?_
    refine agrees_bind (agrees_keep hverifying) fun _ _ _ => ?_
    exact agrees_throw (.pending ho.id)
  · exact agrees_throw (.pending ho.id)

theorem SameServiceError.unconfirmed {e e' : ServiceError} (h : ρ.SameServiceError e e') :
    ρ.SameText (unconfirmed e) (unconfirmed e') :=
  .append (.same _) h.message

/-! ## Steps -/

theorem processOrder_agrees : ρ.Agrees processOrder processOrder Eq := by
  unfold processOrder
  refine agrees_bind agrees_order fun o o' ho => ?_
  refine agrees_bind agrees_now fun now now' _ => ?_
  refine agrees_bind (agrees_accept (ho.transition .processing now now')) fun _ _ ho => ?_
  refine agrees_bind (agrees_ask (together_request (answered_process ho))) fun _ _ ho => ?_
  exact agrees_keep ho

theorem SameServiceError.ofVoucherError {e e' : ServiceError} (h : ρ.SameServiceError e e') :
    ρ.SameFlowError (.ofVoucherError e) (.ofVoucherError e') := by
  cases h with
  | same e => exact .same _
  | notFound entity h => exact .service (.notFound entity h)
  | conflict h => exact .service (.conflict h)
  | expired h => exact .service (.expired h)

theorem applyVoucher_agrees (hpaying : ρ.paying = true) :
    ρ.Agrees applyVoucher applyVoucher Eq := by
  unfold applyVoucher
  refine agrees_bind agrees_get fun s t hstate => ?_
  rw [hstate.request]
  split
  · exact agrees_pure rfl
  · next code _ =>
      refine agrees_bind agrees_order fun o o' ho => ?_
      rw [ho.userId, ho.amount]
      refine agrees_bind (agrees_perform (together_request
        (answered_useVoucher hpaying ho.id code o'.userId o'.amount))) fun x y hused => ?_
      cases hused with
      | ok hdiscount =>
          exact agrees_modify fun _ _ hstate => { hstate with discount := .some hdiscount }
      | error herror => exact agrees_throw herror.ofVoucherError

theorem handleAnswer_agrees (settings : FlowSettings) (response : ProviderResponse) :
    ρ.Agrees (handleAnswer settings response) (handleAnswer settings response) Eq := by
  unfold handleAnswer
  refine agrees_bind agrees_order fun o o' ho => ?_
  rw [ho.provider]
  refine agrees_bind (agrees_modify fun _ _ hstate => { hstate with outcome := rfl })
    fun _ _ _ => ?_
  split
  · exact agrees_pure rfl
  · exact park_agrees (.same _)
  · exact agrees_throw (.same _)
  · refine agrees_bind agrees_get fun s t hstate => ?_
    rw [hstate.kind]
    split
    · refine agrees_bind agrees_now fun now now' _ => ?_
      refine agrees_bind (agrees_accept (ho.markAwaitingOtp now now')) fun _ _ ho => ?_
      refine agrees_bind (agrees_store ho) fun _ _ _ => ?_
      exact agrees_modify fun _ _ hstate => { hstate with awaitingOtp := rfl }
    · exact agrees_throw (.same _)

theorem keepTrace_agrees (ho : ρ.SameOrder o o') (response : ProviderResponse) :
    ρ.Agrees (keepTrace o response) (keepTrace o' response) Eq := by
  unfold keepTrace
  split
  · exact agrees_pure rfl
  · next trace _ =>
      exact agrees_bind agrees_now fun now now' _ => agrees_store (ho.setBankTraceId trace now now')

theorem callBank_agrees (settings : FlowSettings) :
    ρ.Agrees (callBank settings) (callBank settings) Eq := by
  unfold callBank
  refine agrees_bind agrees_order fun o o' ho => ?_
  refine agrees_bind agrees_request fun payment _ heq => ?_
  refine agrees_bind agrees_get fun s t hstate => ?_
  refine agrees_bind (agrees_perform (together_request (answered_bank _ _))) fun answer _ heq => ?_
  cases heq
  split
  · refine agrees_bind (keepTrace_agrees ho _) fun _ _ _ => ?_
    exact handleAnswer_agrees settings _
  · exact agrees_throw (.same _)
  · exact park_agrees (.same _)

theorem confirmLedger_agrees : ρ.Agrees confirmLedger confirmLedger Eq := by
  unfold confirmLedger
  refine agrees_bind agrees_get fun s t hstate => ?_
  rw [hstate.awaitingOtp]
  split
  · exact agrees_pure rfl
  · refine agrees_bind agrees_transactionId fun _ _ hown => ?_
    refine agrees_bind (agrees_perform (together_request (answered_move (.confirm hown))))
      fun x y hconfirmed => ?_
    cases hconfirmed with
    | ok _ => exact agrees_pure rfl
    | error herror => exact park_agrees herror.unconfirmed

theorem successOrder_agrees : ρ.Agrees successOrder successOrder Eq := by
  unfold successOrder
  refine agrees_bind agrees_order fun o o' ho => ?_
  refine agrees_bind agrees_get fun s t hstate => ?_
  rw [hstate.awaitingOtp]
  split
  · exact agrees_notify _ _ _
  · refine agrees_bind agrees_now fun now now' _ => ?_
    refine agrees_bind (agrees_accept (ho.transition .success now now')) fun _ _ ho => ?_
    refine agrees_bind (agrees_ask (together_request (answered_replace ho))) fun _ _ ho => ?_
    refine agrees_bind (agrees_notify _ _ _) fun _ _ _ => ?_
    exact agrees_keep ho

/-! ### Resuming an order -/

theorem loadOrder_agrees : ρ.Agrees loadOrder loadOrder Eq := by
  unfold loadOrder
  refine agrees_bind agrees_get fun s t hstate => ?_
  have hresumed := hstate.resumed
  rw [← hstate.resume, ← hstate.kind]
  cases hresume : s.resume with
  | none => exact agrees_throw (.same _)
  | some id =>
      refine agrees_bind (stored_agrees (hresumed id hresume)) fun o o' ho => ?_
      refine agrees_bind agrees_now fun now now' hnow => ?_
      rw [ho.isPastDeadline hnow, ho.isResumable]
      split
      · exact agrees_throw (.same _)
      · split
        · exact agrees_keep ho
        · exact agrees_throw (.same _)

theorem verifyOtp_agrees (settings : FlowSettings) (otp : String) :
    ρ.Agrees (verifyOtp settings otp) (verifyOtp settings otp) Eq := by
  unfold verifyOtp
  refine agrees_bind agrees_order fun o o' ho => ?_
  refine agrees_bind (agrees_perform (together_request (answered_bank _ _))) fun answer _ heq => ?_
  cases heq
  rw [ho.provider]
  split
  · exact park_agrees (.same _)
  · refine agrees_bind (agrees_modify fun _ _ hstate => { hstate with outcome := rfl })
      fun _ _ _ => ?_
    have hwrong : ρ.Agrees
        (do
          modify fun s => { s with retryAllowed := true }
          throw (.otpRejected "wrong OTP, please try again"))
        (do
          modify fun s => { s with retryAllowed := true }
          throw (.otpRejected "wrong OTP, please try again")) (Eq : Unit → Unit → Prop) :=
      agrees_bind (agrees_modify fun _ _ hstate => { hstate with retryAllowed := rfl })
        fun _ _ _ => agrees_throw (.same _)
    split
    · exact agrees_pure rfl
    · exact hwrong
    · exact hwrong
    · exact agrees_throw (.same _)
    · exact agrees_throw (.same _)
    · exact park_agrees (.same _)
    · exact agrees_throw (.same _)

/-! ## Undoing -/

theorem SameState.bankSucceeded {s t : FlowState} (h : ρ.SameState s t) :
    s.bankSucceeded = t.bankSucceeded :=
  congrArg (· == some Outcome.success) h.outcome

theorem SameState.rollbackReason {s t : FlowState} (h : ρ.SameState s t) :
    ρ.SameText s.rollbackReason t.rollbackReason := by
  have hreason := h.failureReason
  unfold FlowState.rollbackReason
  generalize s.failureReason = x at hreason ⊢
  generalize t.failureReason = y at hreason ⊢
  cases hreason with
  | none => exact .same _
  | some hreason => exact hreason

theorem SameState.transactionId? {s t : FlowState} (h : ρ.SameState s t) :
    Option.Rel (fun a b => ρ.record = some (a, b)) s.transactionId? t.transactionId? := by
  have horder := h.order
  unfold FlowState.transactionId?
  generalize s.order = x at horder ⊢
  generalize t.order = y at horder ⊢
  cases horder with
  | none => exact .none
  | some ho => exact ho.link

theorem parkQuietly_agrees (hreason : ρ.SameText reason reason') :
    ρ.Agrees (parkQuietly reason) (parkQuietly reason') Eq := by
  refine agrees_tryCatch (park_agrees hreason) fun e e' he => ?_
  cases he with
  | same e =>
      split
      · exact agrees_pure rfl
      · exact agrees_throw (.same e)
  | service h => exact agrees_throw (.service h)
  | pending _ => exact agrees_pure rfl
  | otpRejected h => exact agrees_throw (.otpRejected h)

theorem writeResolved_agrees (ho : ρ.SameOrder o o') (kind : NotificationKind)
    (message message' : String) :
    ρ.Agrees (writeResolved o kind message) (writeResolved o' kind message') Eq := by
  refine agrees_bind (agrees_perform (together_request (answered_replace ho))) fun x y hwritten => ?_
  cases hwritten with
  | ok ho => exact agrees_bind (agrees_notify _ _ _) fun _ _ _ => agrees_keep ho
  | @error e _ herror =>
      cases herror with
      | same =>
          cases e with
          | conflict reason => exact agrees_pure rfl
          | _ => exact agrees_throw (.same _)
      | notFound entity h => exact agrees_throw (.service (.notFound entity h))
      | conflict h => exact agrees_pure rfl
      | expired h => exact agrees_throw (.service (.expired h))

theorem settleOrder_agrees (hown : ρ.order = some (a, b)) :
    ρ.Agrees (settleOrder a) (settleOrder b) Eq := by
  unfold settleOrder
  refine agrees_bind (stored_agrees hown) fun current current' hcurrent => ?_
  rw [hcurrent.isTerminal]
  split
  · exact agrees_pure rfl
  · refine agrees_bind agrees_now fun now now' _ => ?_
    refine agrees_bind (agrees_accept (hcurrent.settle now now')) fun _ _ hsettled => ?_
    exact writeResolved_agrees hsettled _ _ _

theorem completeOrder_agrees : ρ.Agrees completeOrder completeOrder Eq := by
  unfold completeOrder
  refine agrees_bind agrees_order fun o o' ho => ?_
  refine agrees_bind agrees_transactionId fun _ _ hown => ?_
  refine agrees_bind (agrees_ask (together_request (answered_findRecord hown))) fun t t' ht => ?_
  rw [ht.status]
  split
  · exact settleOrder_agrees ho.id
  · refine agrees_bind (agrees_perform (together_request (answered_move (.confirm hown))))
      fun x y hconfirmed => ?_
    cases hconfirmed with
    | ok _ => exact settleOrder_agrees ho.id
    | error herror => exact parkQuietly_agrees herror.unconfirmed

theorem failOrder_agrees : ρ.Agrees failOrder failOrder Eq := by
  unfold failOrder
  refine agrees_bind agrees_get fun s t hstate => ?_
  rw [hstate.parked, hstate.retryAllowed, hstate.bankSucceeded]
  split
  · exact agrees_pure rfl
  split
  · exact completeOrder_agrees
  have horder := hstate.order
  generalize s.order = x at horder ⊢
  generalize t.order = y at horder ⊢
  cases horder with
  | none => exact agrees_pure rfl
  | some ho =>
      refine agrees_bind (agrees_ask (together_request (answered_find ho.id))) fun x y hfound => ?_
      cases hfound with
      | none => exact agrees_pure rfl
      | @some current current' hcurrent =>
          refine agrees_bind agrees_now fun now now' _ => ?_
          have hfailed := hcurrent.failUnlessResolved? hstate.rollbackReason now now'
          generalize current.failUnlessResolved? s.rollbackReason now = x at hfailed ⊢
          generalize current'.failUnlessResolved? t.rollbackReason now' = y at hfailed ⊢
          cases hfailed with
          | none => exact agrees_pure rfl
          | some ho => exact writeResolved_agrees ho _ _ _

theorem reverseVoucher_agrees (hpaying : ρ.paying = true) :
    ρ.Agrees reverseVoucher reverseVoucher Eq := by
  unfold reverseVoucher
  refine agrees_bind agrees_get fun s t hstate => ?_
  rw [hstate.parked, hstate.request, hstate.bankSucceeded]
  simp only
  split
  · exact agrees_pure rfl
  have horder := hstate.order
  generalize s.order = x at horder ⊢
  generalize t.order = y at horder ⊢
  cases horder with
  | none => exact agrees_pure rfl
  | some ho => exact agrees_ask (together_request (answered_reverse hpaying ho.id))

theorem cancelIfInitial_agrees {a b : TransactionId} (hown : ρ.record = some (a, b)) :
    ρ.Agrees (cancelIfInitial a) (cancelIfInitial b) Eq := by
  unfold cancelIfInitial
  refine agrees_bind (agrees_ask (together_request (answered_findRecord hown))) fun t t' ht => ?_
  rw [ht.isCancellable]
  split
  · refine agrees_bind agrees_get fun s t hstate => ?_
    exact agrees_bind (agrees_ask (together_request
      (answered_move (.cancel hown hstate.rollbackReason)))) fun _ _ _ => agrees_pure rfl
  · exact agrees_pure rfl

theorem cancelLedger_agrees : ρ.Agrees cancelLedger cancelLedger Eq := by
  unfold cancelLedger
  refine agrees_bind agrees_get fun s t hstate => ?_
  rw [hstate.parked, hstate.retryAllowed, hstate.bankSucceeded]
  split
  · exact agrees_pure rfl
  have hlink := hstate.transactionId?
  generalize s.transactionId? = x at hlink ⊢
  generalize t.transactionId? = y at hlink ⊢
  cases hlink with
  | none => exact agrees_pure rfl
  | some hown => exact cancelIfInitial_agrees hown

theorem abortOtp_agrees : ρ.Agrees abortOtp abortOtp Eq := by
  unfold abortOtp
  refine agrees_bind agrees_get fun s t hstate => ?_
  rw [hstate.parked, hstate.retryAllowed, hstate.bankSucceeded]
  split
  · exact agrees_pure rfl
  split
  · exact completeOrder_agrees
  have hlink := hstate.transactionId?
  generalize s.transactionId? = x at hlink ⊢
  generalize t.transactionId? = y at hlink ⊢
  cases hlink with
  | none => exact failOrder_agrees
  | some hown => exact agrees_bind (cancelIfInitial_agrees hown) fun _ _ _ => failOrder_agrees

/-! ## Making the order and registering the record -/

/-- The call is a payment: the identifiers that are offered to it are unused, and whenever its order
is made the deadline passes at the same call in both runs. -/
structure Fresh (ρ : Pairing) (config : FlowConfig) : Prop where
  paying : ρ.paying = true
  deadline : ∀ n, ρ.left.SameDeadline ρ.right (config.deadlineFrom (ρ.left n).clock.tick)
    (config.deadlineFrom (ρ.right n).clock.tick)
  left : ∀ n, ρ.leftStart.Unused (ρ.left n).id
  right : ∀ n, ρ.rightStart.Unused (ρ.right n).id

theorem Fresh.grow {ρ' : Pairing} {config : FlowConfig} (h : ρ.Fresh config)
    (hgrows : ρ.Grows ρ') : ρ'.Fresh config where
  paying := hgrows.paying.trans h.paying
  deadline n m := by
    rw [hgrows.left, hgrows.right]
    exact h.deadline n m
  left n := by
    rw [hgrows.left, hgrows.leftStart]
    exact h.left n
  right n := by
    rw [hgrows.right, hgrows.rightStart]
    exact h.right n

/-- Two orders that are made alike are the same, however their deadlines were computed. -/
theorem sameOrder_made {id id' : OrderId} (hid : ρ.order = some (id, id')) {due due' : Timestamp}
    (hdue : ρ.left.SameDeadline ρ.right due due') {now now' : Timestamp} {user : UserId}
    {type : OrderType} {amount : Money} {provider : Option ProviderCode} {source : SourceOfFund} :
    ρ.SameOrder
      { Order.create id now user type amount due with provider := provider, sourceOfFund := source }
      { Order.create id' now' user type amount due' with
        provider := provider, sourceOfFund := source } :=
  { id := hid, link := .none, deadline := hdue, failReason := .none, rest := rfl }

theorem initOrder_reaches {settings : FlowSettings} (hfresh : ρ.Fresh settings.config)
    (hnone : ρ.order = none) (hunlinked : ρ.record = none) :
    ρ.Reaches (initOrder settings) (initOrder settings) fun ρ' =>
      ρ'.Fresh settings.config ∧ ρ'.record = none := by
  have hready : ρ.Fresh settings.config ∧ ρ.record = none := ⟨hfresh, hunlinked⟩
  unfold initOrder
  refine reaches_bind agrees_get hready fun s t hstate => ?_
  rw [hstate.kind]
  refine reaches_bind agrees_request hready fun request _ heq => ?_
  cases heq
  dsimp only
  split
  · exact reaches_of_agrees (agrees_bind (R := fun _ _ => False) (agrees_throw (.same _)) nofun)
      hready
  split
  · exact reaches_of_agrees (agrees_bind (R := fun _ _ => False) (agrees_throw (.same _)) nofun)
      hready
  refine reaches_bind agrees_now hready fun now now' hnow => ?_
  obtain ⟨k, rfl, rfl⟩ := hnow
  refine reaches_call answered_freshOrderId fun a b hmade {v u} hstep => ?_
  obtain ⟨m, rfl, rfl⟩ := hmade
  have hgrows := grows_withOrder hnone m
  refine ⟨_, hgrows, hstep.withOrder hnone (hfresh.left m) (hfresh.right m), ?_⟩
  refine reaches_of_agrees (agrees_bind (agrees_ask (together_request (answered_create ?_)))
    fun _ _ ho => agrees_keep ho) ⟨hfresh.grow hgrows, hunlinked⟩
  refine sameOrder_made ?_ ?_
  · rfl
  · exact hfresh.deadline k

theorem intent_same (ho : ρ.SameOrder o o') (kind : FlowKind)
    {d d' : Option Discount} (hd : Option.Rel ρ.SameDiscount d d') {id id' : TransactionId}
    (hid : ρ.record = some (id, id')) (now now' : Timestamp) :
    ρ.SameRecord (intent kind d o id now) (intent kind d' o' id' now') where
  id := .inr hid
  orderId := .inr ho.id
  failReason := .none
  rest := by
    have hamount : (d.map Discount.amount).getD .zero = (d'.map Discount.amount).getD .zero := by
      cases hd with
      | none => rfl
      | some hd => exact hd.amount
    simp only [intent, Transaction.create, Transaction.masked, ho.userId, ho.amount, hamount]

theorem initLedger_reaches {config : FlowConfig} (hfresh : ρ.Fresh config)
    (hnone : ρ.record = none) :
    ρ.Reaches initLedger initLedger fun ρ' => ρ'.Fresh config := by
  unfold initLedger
  refine reaches_bind agrees_order hfresh fun o o' ho => ?_
  refine reaches_bind agrees_get hfresh fun s t hstate => ?_
  refine reaches_call answered_freshTransactionId fun a b hmade {v u} hstep => ?_
  obtain ⟨m, rfl, rfl⟩ := hmade
  have hgrows := grows_withRecord hnone m
  refine ⟨_, hgrows, hstep.withRecord hnone (hfresh.left m) (hfresh.right m), ?_⟩
  -- from here on the record has its identifiers, and what was the same is so under them as well
  have ho := ho.grow hgrows
  have hstate := hstate.grow hgrows
  rw [hstate.kind]
  refine reaches_of_agrees ?_ (hfresh.grow hgrows)
  refine agrees_bind agrees_now fun now now' _ => ?_
  have ht := intent_same ho t.kind hstate.discount rfl now now'
  refine agrees_bind (agrees_ask (together_request (answered_init rfl ht))) fun _ _ hid => ?_
  refine agrees_bind agrees_now fun later later' _ => ?_
  refine agrees_bind (agrees_accept (ho.linkTransaction hid later later')) fun _ _ ho => ?_
  exact agrees_store ho

end Wallet.Pairing
