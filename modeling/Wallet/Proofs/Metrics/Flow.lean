import Wallet.Proofs.Consistency.Reachable
import Wallet.Proofs.Metrics.Process

/-!
# The flows leave the marks to their sagas

No part of a flow counts, samples or records anything, so the sagas of the flows keep to what
`Spares` asks of a saga. So whatever flows and sweeps have reached is what a process has lived
through (`Reachable.lived`).
-/

namespace Wallet

namespace Flow

open Program (spares_request spares_bind)

variable {α β : Type}

/-- No call of the part leaves a mark, whatever the state. -/
def Quiet (x : StepM α) : Prop := ∀ s, (x.run.run s).Spares

/-! ## Rules -/

theorem quiet_pure (a : α) : Quiet (pure a : StepM α) := fun _ => trivial

theorem quiet_throw (e : FlowError) : Quiet (throw e : StepM α) := fun _ => trivial

theorem quiet_modify (f : FlowState → FlowState) : Quiet (modify f : StepM Unit) := fun _ => trivial

theorem quiet_accept (change : Except OrderError Order) : Quiet (StepM.accept change) :=
  fun _ => trivial

theorem quiet_bind {x : StepM α} {f : α → StepM β} (hx : Quiet x) (hf : ∀ a, Quiet (f a)) :
    Quiet (x >>= f) := fun s => by
  refine spares_bind (hx s) fun r => ?_
  obtain ⟨e | a, s⟩ := r
  · trivial
  · exact hf a s

theorem quiet_get {f : FlowState → StepM α} (hf : ∀ s, Quiet (f s)) : Quiet (get >>= f) :=
  quiet_bind (fun _ => trivial) hf

theorem quiet_tryCatch {x : StepM α} {handle : FlowError → StepM α} (hx : Quiet x)
    (hhandle : ∀ e, Quiet (handle e)) : Quiet (tryCatch x handle) := fun s => by
  refine spares_bind (hx s) fun r => ?_
  obtain ⟨e | a, s⟩ := r
  · exact hhandle e s
  · trivial

theorem quiet_perform {c : Call} (hc : c.mark? = none) : Quiet (StepM.perform (.request c)) :=
  fun _ => spares_bind (spares_bind (spares_request hc) fun _ => trivial) fun _ => trivial

theorem quiet_ask {x : Program (Except ServiceError α)} (hx : x.Spares) : Quiet (StepM.ask x) :=
  fun _ => spares_bind (spares_bind hx fun _ => trivial) fun _ => trivial

theorem quiet_orders (r : OrderStore.Request) : Quiet (StepM.ask (.orders r)) :=
  quiet_ask (spares_request rfl)

theorem quiet_ledger (r : Ledger.Request) : Quiet (StepM.ask (.ledger r)) :=
  quiet_ask (spares_request rfl)

theorem quiet_now : Quiet (StepM.perform .now) := quiet_perform rfl

theorem quiet_notify (o : Order) (kind : NotificationKind) (message : String) :
    Quiet (StepM.notify o kind message) := quiet_perform rfl

theorem quiet_request : Quiet StepM.request :=
  quiet_get fun s => by cases s.request <;> exact fun _ => trivial

theorem quiet_order : Quiet StepM.order :=
  quiet_get fun s => by cases s.order <;> exact fun _ => trivial

theorem quiet_transactionId : Quiet StepM.transactionId :=
  quiet_bind quiet_order fun o => by cases o.transactionId <;> exact fun _ => trivial

theorem quiet_keep (o : Order) : Quiet (StepM.keep o) := quiet_modify _

theorem quiet_store (o : Order) : Quiet (StepM.store o) :=
  quiet_bind (quiet_orders _) fun _ => quiet_keep _

/-! ## Parking -/

theorem quiet_stored (id : OrderId) : Quiet (stored id) :=
  quiet_bind (quiet_orders _) fun found => by cases found <;> exact fun _ => trivial

theorem quiet_hold (id : Option TransactionId) : Quiet (hold id) := by
  cases id with
  | none => exact quiet_pure _
  | some id => exact quiet_bind (quiet_perform rfl) fun _ => quiet_pure _

theorem quiet_park (reason : String) : Quiet (park reason) := by
  refine quiet_bind (quiet_modify _) fun _ => quiet_bind quiet_order fun order => ?_
  refine quiet_bind (quiet_hold _) fun _ => quiet_bind (quiet_stored _) fun current => ?_
  dsimp only
  split
  · refine quiet_bind quiet_now fun now => quiet_bind (quiet_accept _) fun verifying => ?_
    refine quiet_bind (quiet_orders _) fun written => ?_
    exact quiet_bind (quiet_notify _ _ _) fun _ => quiet_bind (quiet_keep _) fun _ => quiet_throw _
  · exact quiet_throw _

/-! ## Steps -/

variable {settings : FlowSettings}

theorem quiet_initOrder : Quiet (initOrder settings) := by
  refine quiet_get fun s => quiet_bind quiet_request fun request => ?_
  dsimp only
  split
  · exact quiet_throw _
  split
  · exact quiet_throw _
  refine quiet_bind quiet_now fun now => quiet_bind (quiet_perform rfl) fun id => ?_
  exact quiet_bind (quiet_orders _) fun _ => quiet_keep _

theorem quiet_processOrder : Quiet processOrder := by
  refine quiet_bind quiet_order fun order => quiet_bind quiet_now fun now => ?_
  refine quiet_bind (quiet_accept _) fun started => ?_
  exact quiet_bind (quiet_orders _) fun _ => quiet_keep _

theorem quiet_applyVoucher : Quiet applyVoucher := by
  refine quiet_get fun s => ?_
  cases s.request.bind PaymentRequest.voucherCode with
  | none => exact quiet_pure _
  | some code =>
      refine quiet_bind quiet_order fun order => quiet_bind (quiet_perform rfl) fun answer => ?_
      rcases answer with e | discount
      · exact quiet_throw _
      · exact quiet_modify _

theorem quiet_initLedger : Quiet initLedger := by
  refine quiet_bind quiet_order fun order => quiet_get fun s => ?_
  refine quiet_bind (quiet_perform rfl) fun id => quiet_bind quiet_now fun now => ?_
  refine quiet_bind (quiet_ledger _) fun record => quiet_bind quiet_now fun now => ?_
  exact quiet_bind (quiet_accept _) fun _ => quiet_store _

theorem quiet_handleAnswer (response : ProviderResponse) :
    Quiet (handleAnswer settings response) := by
  refine quiet_bind quiet_order fun order => quiet_bind (quiet_modify _) fun _ => ?_
  split
  · exact quiet_pure _
  · exact quiet_park _
  · exact quiet_throw _
  · refine quiet_get fun s => ?_
    split
    · refine quiet_bind quiet_now fun now => quiet_bind (quiet_accept _) fun _ => ?_
      exact quiet_bind (quiet_store _) fun _ => quiet_modify _
    · exact quiet_throw _

theorem quiet_keepTrace (order : Order) (response : ProviderResponse) :
    Quiet (keepTrace order response) := by
  unfold keepTrace
  cases response.traceId with
  | none => exact quiet_pure _
  | some traceId => exact quiet_bind quiet_now fun now => quiet_store _

theorem quiet_callBank : Quiet (callBank settings) := by
  refine quiet_bind quiet_order fun order => quiet_bind quiet_request fun payment => ?_
  refine quiet_get fun s => quiet_bind (quiet_perform rfl) fun answer => ?_
  rcases answer with e | response
  · cases e <;> first | exact quiet_throw _ | exact quiet_park _
  · exact quiet_bind (quiet_keepTrace _ _) fun _ => quiet_handleAnswer _

theorem quiet_confirmLedger : Quiet confirmLedger := by
  refine quiet_get fun s => ?_
  split
  · exact quiet_pure _
  refine quiet_bind quiet_transactionId fun id => quiet_bind (quiet_perform rfl) fun answer => ?_
  rcases answer with e | _
  · exact quiet_park _
  · exact quiet_pure _

theorem quiet_successOrder : Quiet successOrder := by
  refine quiet_bind quiet_order fun order => quiet_get fun s => ?_
  split
  · exact quiet_notify _ _ _
  refine quiet_bind quiet_now fun now => quiet_bind (quiet_accept _) fun done => ?_
  exact quiet_bind (quiet_orders _) fun _ => quiet_bind (quiet_notify _ _ _) fun _ => quiet_keep _

theorem quiet_loadOrder : Quiet loadOrder := by
  refine quiet_get fun s => ?_
  cases s.resume with
  | none => exact quiet_throw _
  | some id =>
      refine quiet_bind (quiet_stored _) fun order => quiet_bind quiet_now fun now => ?_
      split
      · exact quiet_throw _
      split
      · exact quiet_keep _
      · exact quiet_throw _

theorem quiet_verifyOtp (otp : String) : Quiet (verifyOtp settings otp) := by
  refine quiet_bind quiet_order fun order => quiet_bind (quiet_perform rfl) fun answer => ?_
  rcases answer with e | response
  · exact quiet_park _
  refine quiet_bind (quiet_modify _) fun _ => ?_
  cases settings.classifiers.classify order.provider response.code with
  | success => exact quiet_pure _
  | wrongOtp | needsOtp => exact quiet_bind (quiet_modify _) fun _ => quiet_throw _
  | verifying => exact quiet_park _
  | maxOtpAttemptsExceeded | notEligibleForBypass | failure => exact quiet_throw _

/-! ## Undoing actions -/

theorem quiet_parkQuietly (reason : String) : Quiet (parkQuietly reason) :=
  quiet_tryCatch (quiet_park reason) fun e => by cases e <;> exact fun _ => trivial

theorem quiet_writeResolved (o : Order) (kind : NotificationKind) (message : String) :
    Quiet (writeResolved o kind message) := by
  refine quiet_bind (quiet_perform rfl) fun answer => ?_
  rcases answer with e | written
  · cases e <;> exact fun _ => trivial
  · exact quiet_bind (quiet_notify _ _ _) fun _ => quiet_keep _

theorem quiet_settleOrder (id : OrderId) : Quiet (settleOrder id) := by
  refine quiet_bind (quiet_stored _) fun current => ?_
  split
  · exact quiet_pure _
  · refine quiet_bind quiet_now fun now => quiet_bind (quiet_accept _) fun _ => ?_
    exact quiet_writeResolved _ _ _

theorem quiet_completeOrder : Quiet completeOrder := by
  refine quiet_bind quiet_order fun order => quiet_bind quiet_transactionId fun id => ?_
  refine quiet_bind (quiet_ledger _) fun record => ?_
  split
  · exact quiet_settleOrder _
  refine quiet_bind (quiet_perform rfl) fun answer => ?_
  rcases answer with e | _
  · exact quiet_parkQuietly _
  · exact quiet_settleOrder _

theorem quiet_failOrder : Quiet failOrder := by
  refine quiet_get fun s => ?_
  split
  · exact quiet_pure _
  split
  · exact quiet_completeOrder
  cases s.order with
  | none => exact quiet_pure _
  | some order =>
      refine quiet_bind (quiet_orders _) fun found => ?_
      cases found with
      | none => exact quiet_pure _
      | some current =>
          refine quiet_bind quiet_now fun now => ?_
          split
          · exact quiet_pure _
          · exact quiet_writeResolved _ _ _

theorem quiet_reverseVoucher : Quiet reverseVoucher := by
  refine quiet_get fun s => ?_
  dsimp only
  split
  · exact quiet_pure _
  cases s.order with
  | none => exact quiet_pure _
  | some order => exact quiet_ask (spares_request rfl)

theorem quiet_cancelIfInitial (id : TransactionId) : Quiet (cancelIfInitial id) := by
  refine quiet_bind (quiet_ledger _) fun current => ?_
  split
  · exact quiet_get fun s => quiet_bind (quiet_ledger _) fun _ => quiet_pure _
  · exact quiet_pure _

theorem quiet_cancelLedger : Quiet cancelLedger := by
  refine quiet_get fun s => ?_
  split
  · exact quiet_pure _
  cases s.transactionId? with
  | none => exact quiet_pure _
  | some id => exact quiet_cancelIfInitial id

theorem quiet_abortOtp : Quiet abortOtp := by
  refine quiet_get fun s => ?_
  split
  · exact quiet_pure _
  split
  · exact quiet_completeOrder
  cases s.transactionId? with
  | none => exact quiet_failOrder
  | some id => exact quiet_bind (quiet_cancelIfInitial id) fun _ => quiet_failOrder

/-! ## Sagas -/

theorem spares_action {part : StepM Unit} (h : Quiet part) : Action.Spares (action part) :=
  fun _ s => spares_bind (h s) fun _ => trivial

theorem spares_step (name : String) {forward : StepM Unit} (h : Quiet forward) :
    (step name forward).Spares := by
  rintro action (haction | haction)
  · cases haction
    exact spares_action h
  · cases haction

theorem spares_undoableStep (name : String) {forward compensate : StepM Unit}
    (h : Quiet forward) (hundo : Quiet compensate) :
    (undoableStep name forward compensate).Spares := by
  rintro action (haction | haction)
  · cases haction
    exact spares_action h
  · cases haction
    exact spares_action hundo

theorem spares_finalSteps : ∀ step ∈ finalSteps, step.Spares := by
  simp only [finalSteps, List.forall_mem_cons]
  exact ⟨spares_step _ quiet_confirmLedger, spares_step _ quiet_successOrder, by simp⟩

/-- The saga of a payment leaves the marks to the play. -/
theorem spares_payment (kind : FlowKind) (withVoucher : Bool) :
    Saga.Spares ⟨kind.name, paymentSteps settings withVoucher⟩ := by
  have hvoucher : ∀ step ∈ voucherSteps withVoucher, step.Spares := by
    cases withVoucher with
    | false => simp [voucherSteps]
    | true =>
        simpa [voucherSteps] using
          spares_undoableStep "apply_voucher" quiet_applyVoucher quiet_reverseVoucher
  unfold Saga.Spares paymentSteps
  simp only [List.forall_mem_append, List.forall_mem_cons]
  exact ⟨⟨⟨⟨spares_step _ quiet_initOrder,
    spares_undoableStep _ quiet_processOrder quiet_failOrder, by simp⟩, hvoucher⟩,
    spares_undoableStep _ quiet_initLedger quiet_cancelLedger,
    spares_step _ quiet_callBank, by simp⟩, spares_finalSteps⟩

/-- So does that of a cash-in that is resumed. -/
theorem spares_resumption (otp : String) :
    Saga.Spares ⟨"cash_in_verify_otp", otpSteps settings otp⟩ := by
  unfold Saga.Spares otpSteps
  simp only [List.forall_mem_append, List.forall_mem_cons]
  exact ⟨⟨spares_step _ quiet_loadOrder,
    spares_undoableStep _ (quiet_verifyOtp otp) quiet_abortOtp, by simp⟩, spares_finalSteps⟩

end Flow

/-! ## Reachable worlds -/

variable {registry : ClassifierRegistry} {w w' : World}

/-- A flow opens a context and plays its saga. -/
theorem Lived.flow {d : Score} {settings : FlowSettings} {saga : Saga FlowError FlowM}
    {state : FlowState} {operation : Context} {result : Except Crash FlowOutcome} (h : Lived d w)
    (hspares : saga.Spares)
    (hrun : (Flow.play settings saga state operation).Yields w result w') : ∃ d, Lived d w' := by
  obtain ⟨budget, w₁, hbudget, hplay⟩ := Program.yields_bind.mp hrun
  have hopened : Lived (d + .nothing) w₁ :=
    h.did (.other (Program.spares_request (c := .budget _) rfl) hbudget)
  rcases budget with crash | compensation
  · obtain ⟨_, rfl⟩ := hplay
    exact ⟨_, hopened⟩
  · obtain ⟨⟨x, s⟩, _, hone, _, rfl⟩ := Program.yields_bind.mp hplay
    obtain ⟨k, hdid⟩ := did_play hspares hone
    exact ⟨_, hopened.did hdid⟩

/-- Whatever flows and sweeps have reached, they have done so by plays and sweeps. -/
theorem Reachable.lived (h : Reachable registry w) : ∃ d, Lived d w := by
  induction h with
  | start pool sinks clock => exact ⟨_, .start pool sinks clock⟩
  | act a _ hrun ih =>
      obtain ⟨d, hlived⟩ := ih
      cases a with
      | flow config call operation =>
          obtain ⟨_, _, hflow, _, rfl⟩ := Program.yields_bind.mp hrun
          cases call with
          | pay kind request => exact hlived.flow (Flow.spares_payment kind _) hflow
          | resume id otp => exact hlived.flow (Flow.spares_resumption otp) hflow
      | sweep config =>
          obtain ⟨_, _, hsweep, _, rfl⟩ := Program.yields_bind.mp hrun
          exact ⟨_, hlived.did (did_sweep hsweep)⟩

end Wallet
