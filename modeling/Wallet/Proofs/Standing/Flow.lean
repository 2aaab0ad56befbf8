import Wallet.Proofs.Standing.Stages

/-!
# Flows leave orders standing

Each step of a flow leads from one stage to the next, or stops. Once the flow has ended or was undone
all orders stand in some way again.
-/

namespace Wallet.Flow

section

variable {registry : ClassifierRegistry} {s : FlowState} {g : Past} {o o' : Order}
  {id : TransactionId} {t : Transaction} {c : Call} {x : c.Answer}

/-! ## Until the bank is asked -/

theorem initOrder_stands {settings : FlowSettings} (h : Begun registry s g) :
    Reaches .ordinary (initOrder settings) s g (Either (fun s g => ∃ o, Drafted registry s g o)
      fun _ g => Orderly registry none g) := by
  unfold initOrder
  simp only [reaches_bind, reaches_get, reaches_request]
  refine ⟨fun _ => h.orderly, fun request _ => ?_⟩
  split
  · exact h.orderly
  split
  · exact h.orderly
  simp only [reaches_bind, reaches_now, reaches_freshOrderId, reaches_create, reaches_keep,
    OrderStore.Request.Result]
  refine fun now id => ⟨fun _ _ _ => h.orderly, fun hnew => ?_⟩
  exact ⟨_, h.create hnew rfl rfl rfl⟩

theorem processOrder_stands (h : Drafted registry s g o) :
    Reaches .ordinary processOrder s g (Either (fun s g => ∃ o, Started registry s g o)
      fun s g => Stopped registry s g Cancelled) := by
  have hstopped : Stopped registry s g Cancelled :=
    .unpaid h.toUnpaid (.inl h.pending) (.inl h.unlinked)
  unfold processOrder
  simp only [reaches_bind, reaches_order_of h.order, reaches_now, reaches_accept, reaches_process,
    reaches_keep, OrderStore.Request.Result]
  refine fun now => ⟨fun _ _ => hstopped, fun started hstarted =>
    ⟨fun _ _ _ => hstopped, fun _ _ _ => ?_⟩⟩
  obtain ⟨_, rfl⟩ := Order.transition_ok hstarted
  exact ⟨_, h.toUnpaid.write ⟨rfl, rfl, rfl⟩ (Past.note_process ..) (by simp) (by simp), h.settled,
    rfl, h.unlinked⟩

/-- Calls to the promotion service change nothing that matters here. -/
theorem Started.promote {r : Promotion.Request} {x : Except ServiceError r.Result}
    (h : Started registry s g o) : Started registry s (g.note (.promotion r) x) o :=
  ⟨⟨h.orderly.promote, h.order, h.stored, h.exposed, h.unmoved,
    fun hpaid => h.unpaid (hpaid.of_note (by simp))⟩, h.settled, h.processing, h.unlinked⟩

theorem applyVoucher_stands (h : Started registry s g o) :
    Reaches .ordinary applyVoucher s g (Either (fun s g => ∃ o, Started registry s g o)
      fun s g => Stopped registry s g Cancelled) := by
  unfold applyVoucher
  simp only [reaches_bind, reaches_get]
  cases s.request.bind PaymentRequest.voucherCode with
  | none => exact ⟨o, h⟩
  | some code =>
      simp only [reaches_bind, reaches_order_of h.order, reaches_useVoucher, Promotion.Request.Result]
      refine ⟨fun _ _ => h.stopped .inl, fun discount => ⟨o, ?_⟩⟩
      exact ⟨h.promote.toUnpaid.of_same rfl rfl rfl, h.settled, h.processing, h.unlinked⟩

theorem initLedger_stands (h : Started registry s g o) :
    Reaches .ordinary initLedger s g (Either
      (fun s g => ∃ o id t, Registered registry s g o id t ∧ s.awaitingOtp = false)
      fun s g => Stopped registry s g Cancellable) := by
  refine initLedger_effect Faults.ordinary_inReach h.order h.stored h.processing h.unlinked
    (fun _ _ _ => h.stopped .inl) fun id now linkedAt hfresh => ?_
  have hentered := h.orderly.enter (Past.note_init g (intent s.kind s.discount o id now)
    (intent s.kind s.discount o id now)) (by simp) rfl rfl (fun _ => rfl) (by
      intro old hold
      rw [show g.books.records id = some old from hold] at hfresh
      cases hfresh)
  have hrecord : (g.note (.ledger (.init (intent s.kind s.discount o id now)))
      (.ok (intent s.kind s.discount o id now))).books.records id =
        some (intent s.kind s.discount o id now) :=
    Books.enter_self ..
  have hfiled := hentered.file (o := o.linked id linkedAt)
    (Past.note_replace _ (o.linked id linkedAt) _) (by simp) (fun _ => h.processing) (by
      intro id' hid'
      cases hid'
      exact ⟨_, hrecord, rfl⟩)
  refine ⟨_, id, _, ⟨⟨hfiled, rfl, Books.file_self .., h.exposed, h.unmoved, ?_⟩, h.processing,
    rfl, hrecord, rfl⟩, h.settled⟩
  intro hpaid
  apply h.unpaid
  exact ((hpaid.of_note (by simp)).of_note (by simp)).of_same rfl rfl

/-! ## Asking the bank -/

section

variable {r : Bank.Request} {response : ProviderResponse} {outcome : Outcome}

/-- The bank gives no answer. -/
theorem Registered.ask_error {e : ServiceError} (h : Registered registry s g o id t)
    (hid : r.orderId = o.id) :
    Registered registry s (g.note (.bank r) (.error e)) o id t where
  orderly := h.orderly.ask (o := o) (by rw [hid]; exact h.stored) (by simp [hid])
  order := h.order
  stored := h.stored
  exposed := h.exposed
  unmoved := h.unmoved
  unpaid := not_paid_asked h.unpaid nofun
  processing := h.processing
  link := h.link
  record := h.record
  initial := h.initial

theorem Registered.ask_ok (h : Registered registry s g o id t) (hsettled : s.awaitingOtp = false)
    (hid : r.orderId = o.id) :
    Replied registry s (g.note (.bank r) (.ok response)) response o id t where
  toEngaged := ⟨h.order, h.stored, h.processing, h.link, h.record⟩
  orderly := h.orderly.ask (o := o) (by rw [hid]; exact h.stored) (by simp [hid])
  exposed := h.exposed
  settled := hsettled
  initial := h.initial
  answered hpaid := by
    by_contra hnot
    apply not_paid_asked h.unpaid _ hpaid
    intro other heq _ _
    cases heq
    exact hnot

/-- An answer that does not mean success. -/
theorem Replied.registered (h : Replied registry s g response o id t)
    (houtcome : registry.classify o.provider response.code = outcome) (hne : outcome ≠ .success) :
    Registered registry { s with outcome := some outcome } g o id t where
  orderly := h.orderly
  order := h.order
  stored := h.stored
  exposed := h.exposed
  unmoved := by simpa [FlowState.bankSucceeded] using hne
  unpaid hpaid := hne (houtcome.symm.trans (h.answered hpaid))
  processing := h.processing
  link := h.link
  record := h.record
  initial := h.initial

/-- An answer that means success. -/
theorem Replied.charged (h : Replied registry s g response o id t) :
    Charged registry { s with outcome := some .success } g fun t => t.state = .initial :=
  .moved ⟨⟨h.order, h.stored, h.processing, h.link, h.record⟩, h.orderly, h.exposed, rfl, h.initial⟩
    h.settled

theorem Replied.write (h : Replied registry s g response o id t) (hsame : o.SameTies o')
    (hstatus : o'.status = o.status) (hbooks : (g.note c x).books = g.books.file o')
    (hc : ∀ r, c ≠ .bank r) :
    Replied registry { s with order := some o' } (g.note c x) response o' id t where
  order := rfl
  stored := by
    rw [hbooks]
    exact Books.file_self ..
  processing := hstatus.trans h.processing
  link := hsame.link.trans h.link
  record := by
    rw [hbooks]
    exact h.record
  orderly := h.orderly.refile h.stored hsame hbooks hc fun _ => hstatus.trans h.processing
  exposed := h.exposed
  settled := h.settled
  initial := h.initial
  answered hpaid := by
    rw [hsame.provider]
    exact h.answered ((hpaid.of_note hc).of_same hsame.id hsame.provider)

theorem keepTrace_stands (h : Replied registry s g response o id t) :
    Reaches .ordinary (keepTrace o response) s g fun r s g =>
      r = .ok () ∧ ∃ o, Replied registry s g response o id t :=
  keepTrace_effect Faults.ordinary_inReach h.stored h.processing ⟨rfl, o, h⟩ fun _ _ =>
    ⟨rfl, _, h.write ⟨rfl, rfl, rfl⟩ rfl (Past.note_replace ..) (by simp)⟩

/-- A flow that parks its order has stopped. -/
theorem park_stopped {reason : String} {B : FlowState → Past → Prop}
    (h : Registered registry s g o id t) :
    Reaches .ordinary (park reason) s g (Either B fun s g => Stopped registry s g Cancellable) := by
  apply (park_stands h).mono
  intro r s g hr
  cases r with
  | ok u => exact hr.elim
  | error e => exact .spared hr.1 hr.2

theorem handleAnswer_stands {config : FlowConfig} (h : Replied registry s g response o id t) :
    Reaches .ordinary (handleAnswer ⟨registry, config⟩ response) s g (Either
      (fun s g => Charged registry s g fun t => t.state = .initial)
      fun s g => Stopped registry s g Cancellable) := by
  refine handleAnswer_effect Faults.ordinary_inReach h.order h.stored h.processing rfl ?_ ?_ ?_ ?_
  · intro hsuccess
    rw [hsuccess]
    exact h.charged
  · intro hverifying
    exact park_stopped (h.registered rfl (by simp [hverifying]))
  · intro hneedsOtp _ now
    have hregistered : Registered registry _ (g.note (.orders (.replace (o.awaiting now)))
        (.ok (o.awaiting now))) (o.awaiting now) id t :=
      (h.registered rfl (by simp [hneedsOtp])).write ⟨rfl, rfl, rfl⟩ rfl (Past.note_replace ..)
        (by simp)
    refine .awaiting ⟨hregistered.toUnpaid.of_same rfl rfl rfl, hregistered.processing,
      hregistered.link, hregistered.record, hregistered.initial⟩ rfl rfl
  · intro hne _ _
    exact (h.registered rfl hne).stopped

theorem callBank_stands {config : FlowConfig} (h : Registered registry s g o id t)
    (hsettled : s.awaitingOtp = false) :
    Reaches .ordinary (callBank ⟨registry, config⟩) s g (Either
      (fun s g => Charged registry s g fun t => t.state = .initial)
      fun s g => Stopped registry s g Cancellable) := by
  refine callBank_effect h.order (fun _ => h.stopped) fun payment _ call hcall => ?_
  have hid : call.orderId = o.id := by
    rw [hcall]
    cases s.kind <;> rfl
  refine ⟨fun response => ?_, fun _ _ => (h.ask_error hid).stopped, fun _ _ _ =>
    park_stopped (h.ask_error hid)⟩
  apply (keepTrace_stands (h.ask_ok hsettled hid)).mono
  rintro r s g ⟨rfl, o, h⟩
  exact handleAnswer_stands h

end

/-! ## After the bank was asked -/

theorem confirmLedger_stands (h : Charged registry s g fun t => t.state = .initial) :
    Reaches .ordinary confirmLedger s g (Either
      (fun s g => Charged registry s g fun t => t.status = .finish)
      fun s g => Stopped registry s g Cancellable) := by
  cases h with
  | awaiting h hawaiting hotp =>
      exact confirmLedger_awaiting hawaiting (.awaiting h hawaiting hotp)
  | @moved o id t h hsettled =>
      have hcan : t.status.canTransitionTo .finish = true := by
        rw [h.orderly.initial h.record h.record_is]
        rfl
      refine confirmLedger_confirms Faults.ordinary_inReach h.toEngaged hsettled hcan fun now => ?_
      have hconfirmed := h.orderly.resolve h.stored h.link h.record
        (Past.note_confirm g id (t.resolved .finish now)) (by simp) rfl rfl rfl
      exact .moved ⟨⟨h.order, h.stored, h.processing, h.link, Books.enter_self ..⟩, hconfirmed,
        h.exposed, h.moved, rfl⟩ hsettled

/-- While a one-time password is awaited the order stands. -/
theorem Registered.stands (h : Registered registry s g o id t) (hotp : o.awaitingOtp = true) :
    Orderly registry none g :=
  h.orderly.dismiss h.stored ⟨.awaiting, h.processing, hotp, id, t, h.link, h.record, h.initial⟩
    fun hpaid => absurd hpaid h.unpaid

theorem successOrder_stands {S : FlowState → Past → Prop}
    (h : Charged registry s g fun t => t.status = .finish) :
    Reaches .ordinary successOrder s g (Either (fun _ g => Orderly registry none g) S) := by
  cases h with
  | awaiting h hawaiting hotp => exact successOrder_awaiting h.order hawaiting (h.stands hotp)
  | @moved o id t h hsettled =>
      refine successOrder_succeeds Faults.ordinary_inReach h.toEngaged hsettled fun now => ?_
      exact h.orderly.conclude (k := .succeeded) (o.succeeded now) h.stored ⟨rfl, rfl, rfl⟩
        (Past.note_replace ..) (by simp) nofun ⟨rfl, id, t, h.link, h.record, h.record_is⟩ fun _ => rfl

/-! ## Resuming an order -/

/-- The order that is resumed waits for a one-time password. -/
theorem Begun.load (h : Begun registry s g) {key : OrderId} (ho : g.books.orders key = some o)
    (hotp : o.awaitingOtp = true) :
    ∃ id t, Registered registry { s with order := some o } g o id t := by
  obtain ⟨k, hk⟩ := h.orderly.stands (by simp) ho
  have hprocessing := h.orderly.awaits ho hotp
  cases h.orderly.filed ho
  cases k with
  | awaiting =>
      obtain ⟨_, _, id, t, hid, ht, hinitial⟩ := hk
      refine ⟨id, t, ⟨h.orderly.attend o.id, rfl, ho, h.exposed, h.unmoved, ?_⟩, hprocessing, hid, ht,
        hinitial⟩
      intro hpaid
      have hsuccess := h.orderly.paid (by simp) ho hpaid
      rw [hprocessing] at hsuccess
      cases hsuccess
  | _ =>
      have hstatus := hk.status_eq
      rw [hprocessing] at hstatus
      cases hstatus

theorem loadOrder_stands (h : Begun registry s g) :
    Reaches .ordinary loadOrder s g (Either
      (fun s g => ∃ o id t, Registered registry s g o id t ∧ s.awaitingOtp = false ∧
        o.awaitingOtp = true)
      fun _ g => Orderly registry none g) := by
  unfold loadOrder
  simp only [reaches_bind, reaches_get]
  cases s.resume with
  | none => exact h.orderly
  | some key =>
      simp only [reaches_bind, reaches_stored, reaches_now]
      refine ⟨fun _ _ _ => h.orderly, fun _ => h.orderly, fun o ho now => ?_⟩
      split
      · exact h.orderly
      split
      · next hresumable =>
          have hotp : o.awaitingOtp = true := by
            simp only [isResumable, Bool.and_eq_true] at hresumable
            exact hresumable.1.2
          obtain ⟨id, t, hloaded⟩ := h.load ho hotp
          exact ⟨o, id, t, hloaded, h.settled, hotp⟩
      · exact h.orderly

theorem verifyOtp_stands {config : FlowConfig} {otp : String} (h : Registered registry s g o id t)
    (hsettled : s.awaitingOtp = false) (hotp : o.awaitingOtp = true) :
    Reaches .ordinary (verifyOtp ⟨registry, config⟩ otp) s g (Either
      (fun s g => Charged registry s g fun t => t.state = .initial)
      fun s g => Stopped registry s g Cancellable) := by
  unfold verifyOtp
  simp only [reaches_bind, reaches_order_of h.order, reaches_bank]
  refine ⟨fun e _ => park_stopped (h.ask_error rfl), fun response => ?_⟩
  have hreplied : Replied registry s (g.note (.bank (.verifyOtp o.id otp)) (.ok response)) response
      o id t :=
    h.ask_ok hsettled rfl
  simp only [reaches_modify]
  cases houtcome : registry.classify o.provider response.code with
  | success => exact hreplied.charged
  | verifying => exact park_stopped (hreplied.registered houtcome (by simp))
  | wrongOtp | needsOtp =>
      exact .spared ((hreplied.registered houtcome (by simp)).stands hotp) (by simp [spared])
  | _ => exact (hreplied.registered houtcome (by simp)).stopped

/-! ## Whole plays -/

/-- Once the bank was asked the last steps lead to orderly books. -/
theorem finalSteps_stand :
    Path (.smooth .ordinary fun s g => Charged registry s g fun t => t.state = .initial)
      (.smooth .ordinary fun _ s g => Stopped registry s g Cancellable) finalSteps
      (.smooth .ordinary fun _ g => Orderly registry none g)
      (.smooth .ordinary fun _ s g => Stopped registry s g Cancellable) :=
  .finalSteps (fun _ {_ _} h => h.stopped fun _ => .inl)
    (fun h => (confirmLedger_stands h).proceeds fun reason hstopped => hstopped.reason reason)
    (fun _ {_ _} h => h.stopped fun _ => .inr)
    (fun h => (successOrder_stands h).proceeds fun reason hstopped => hstopped.reason reason)

theorem paymentSteps_stand (config : FlowConfig) (withVoucher : Bool) :
    Path (.smooth .ordinary (Begun registry))
      (.smooth .ordinary fun _ _ g => Orderly registry none g)
      (paymentSteps ⟨registry, config⟩ withVoucher)
      (.smooth .ordinary fun _ g => Orderly registry none g)
      (.smooth .ordinary fun _ s g => Stopped registry s g Cancellable) := by
  refine .paymentSteps (B := fun s g => ∃ o, Drafted registry s g o)
    (C := fun s g => ∃ o, Started registry s g o) (D := fun s g => ∃ o, Started registry s g o)
    (E := fun s g => ∃ o id t, Registered registry s g o id t ∧ s.awaitingOtp = false)
    (S := fun _ s g => Stopped registry s g Cancelled)
    (T := fun _ s g => Stopped registry s g Cancelled)
    (fun _ {_ _} h => h.orderly) ?_ ?_ ?_ ?_ ?_ ?_ ?_ (fun _ => ⟨id, id⟩) ?_ ?_ ?_ ?_ ?_
    finalSteps_stand
  · exact fun h => (initOrder_stands h).proceeds fun _ horderly => horderly
  · exact fun _ {_ _} ⟨_, h⟩ => h.stands
  · exact fun ⟨_, h⟩ => (processOrder_stands h).proceeds fun reason hstopped => hstopped.reason reason
  · exact fun h => (failOrder_stands h).kept fun _ horderly => horderly
  · exact fun _ {_ _} ⟨_, h⟩ => h.stopped .inl
  · exact fun _ {_ _} ⟨_, h⟩ =>
      (applyVoucher_stands h).proceeds fun reason hstopped => hstopped.reason reason
  · exact fun _ {_ _ _} h =>
      (reverseVoucher_stopped h).kept fun reason hstopped => hstopped.reason reason
  · exact fun _ {_ _} ⟨_, h⟩ => h.stopped .inl
  · exact fun ⟨_, h⟩ => (initLedger_stands h).proceeds fun reason hstopped => hstopped.reason reason
  · exact fun h => (cancelLedger_stopped h).kept fun reason hstopped => hstopped.reason reason
  · exact fun _ {_ _} ⟨_, _, _, h, _⟩ => h.stopped
  · exact fun ⟨_, _, _, h, hsettled⟩ =>
      (callBank_stands h hsettled).proceeds fun reason hstopped => hstopped.reason reason

theorem otpSteps_stand (config : FlowConfig) (otp : String) :
    Path (.smooth .ordinary (Begun registry))
      (.smooth .ordinary fun _ _ g => Orderly registry none g)
      (otpSteps ⟨registry, config⟩ otp)
      (.smooth .ordinary fun _ g => Orderly registry none g)
      (.smooth .ordinary fun _ s g => Stopped registry s g Cancellable) := by
  refine .otpSteps (L := fun s g => ∃ o id t, Registered registry s g o id t ∧
      s.awaitingOtp = false ∧ o.awaitingOtp = true)
    (fun _ {_ _} h => h.orderly) ?_ ?_ ?_ ?_ finalSteps_stand
  · exact fun h => (loadOrder_stands h).proceeds fun _ horderly => horderly
  · exact fun _ {_ _} ⟨_, _, _, h, _, hotp⟩ => h.stands hotp
  · exact fun ⟨_, _, _, h, hsettled, hotp⟩ =>
      (verifyOtp_stands h hsettled hotp).proceeds fun reason hstopped => hstopped.reason reason
  · exact fun h => (abortOtp_stands h).kept fun _ horderly => horderly

/-- A play on such a path leaves the books orderly, if it was smooth. -/
theorem Path.orderly {settings : FlowSettings} {name : String} {steps : List (Step FlowError FlowM)}
    {operation : Context} {T : Stops} {p : Past}
    (path : Path (.smooth .ordinary (Begun registry))
      (.smooth .ordinary fun _ _ g => Orderly registry none g) steps
      (.smooth .ordinary fun _ g => Orderly registry none g) T)
    (h : Smooth .ordinary p.events → Begun registry s p.gist) :
    (Flow.play settings ⟨name, steps⟩ s operation).Always p fun _ p =>
      Smooth .ordinary p.events → Orderly registry none p.gist := by
  apply (path.flow h).mono
  intro r p hr
  cases r with
  | error crash => exact fun hsmooth => (hr hsmooth).orderly
  | ok o =>
      obtain ⟨s', _, ho⟩ := hr
      cases herror : o.execution.error with
      | none => exact (ho.completed herror).1
      | some e => exact ho.stopped herror

/-- A flow that is played smoothly leaves orderly books orderly. -/
theorem always_orderly {p : Past} (config : FlowConfig) (call : FlowCall) (operation : Context)
    (h : Smooth .ordinary p.events → Orderly registry none p.gist) :
    (call.program ⟨registry, config⟩ operation).Always p fun _ p =>
      Smooth .ordinary p.events → Orderly registry none p.gist := by
  cases call with
  | pay kind request =>
      exact (paymentSteps_stand config request.voucherCode.isSome).orderly fun hsmooth =>
        ⟨h hsmooth, rfl, rfl, rfl, rfl⟩
  | resume key otp =>
      exact (otpSteps_stand config otp).orderly fun hsmooth => ⟨h hsmooth, rfl, rfl, rfl, rfl⟩

end

end Wallet.Flow
