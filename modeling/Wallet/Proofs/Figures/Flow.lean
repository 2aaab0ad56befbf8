import Wallet.Proofs.Figures.Drafts
import Wallet.Proofs.Flow.Futile
import Wallet.Proofs.Transaction.NetAmount

/-!
# The figures of payments

A payment is cut in two before it asks the bank. Up to there it draws its bill, and no call goes to the
bank, also when it fails and is undone. From there on it keeps to the terms of the bill, in all that
follows. So whenever the bank is asked, the request, the stored order and the ledger record agree on
the amount, and they go on agreeing until the payment has ended (`payment_figures`), and also when a
cash-in is resumed.
-/

namespace Wallet

open Wallet.Flow

theorem Money.least_minor (a b : Money) : (a.least b).minor = min a.minor b.minor := by
  unfold least
  split <;> omega

namespace Flow

variable {vouchers : Table String Money} {kind : FlowKind} {request : PaymentRequest} {d : Money}
  {s : FlowState} {b : Books}

/-! ## Up to the bank -/

/-- The steps of a payment before it asks the bank. -/
def draftSteps (settings : FlowSettings) (withVoucher : Bool) : List (Step FlowError FlowM) :=
  [step "init_order" (initOrder settings), undoableStep "process_order" processOrder failOrder] ++
    voucherSteps withVoucher ++ [undoableStep "init_ledger" initLedger cancelLedger]

theorem paymentSteps_eq (settings : FlowSettings) (withVoucher : Bool) :
    paymentSteps settings withVoucher = draftSteps settings withVoucher ++
      step "call_bank" (callBank settings) :: finalSteps := by
  simp [paymentSteps, draftSteps]

/-- Either all steps went through, and `P` holds, or the payment is still quiet. -/
def Through (kind : FlowKind) (request : PaymentRequest) (P : FlowState → Books → Prop)
    (x : List StepOutcome × Option (ExecutionError FlowError)) (s : FlowState) (b : Books) : Prop :=
  match x.2 with
  | none => P s b
  | some _ => (Terms.quiet kind request).State s

theorem follows_action {part : StepM Unit} {P : FlowState → Books → Prop}
    (h : Draws vouchers part s b (Otherwise kind request P)) (c : Context) :
    Follows vouchers (action part c) s b (Otherwise kind request P) := by
  refine follows_bind (h.mono ?_)
  rintro (e | _) s b hend
  · exact follows_bind (follows_modify (follows_pure (hend.same rfl rfl rfl rfl)))
  · exact follows_bind (follows_modify (follows_pure hend))

/-- A step goes through and the others follow, or the payment stays quiet. -/
theorem follows_advance_cons {step : Step FlowError FlowM} {part : StepM Unit}
    {rest : List (Step FlowError FlowM)} {P R : FlowState → Books → Prop} {operation : Context}
    (hstep : step.forward = some (action part)) (hquiet : (Terms.quiet kind request).State s)
    (hpart : Draws vouchers part s b (Otherwise kind request P))
    (hrest : ∀ s b, P s b → Follows vouchers (Saga.advance conductor operation rest) s b
      (Through kind request R)) :
    Follows vouchers (Saga.advance conductor operation (step :: rest)) s b
      (Through kind request R) := by
  unfold Saga.advance
  refine follows_bind (follows_idle rfl rfl fun ended => ?_)
  split
  · exact follows_pure hquiet
  unfold Saga.attempt Step.runForward
  rw [hstep]
  refine follows_bind (follows_bind (follows_idle rfl rfl fun started => ?_))
  refine follows_bind ((follows_action hpart operation).mono ?_)
  intro result s b hend
  refine follows_bind (follows_idle rfl rfl fun ended => follows_pure ?_)
  cases result with
  | error e => exact follows_pure hend
  | ok _ =>
      refine follows_bind ((hrest s b hend).mono ?_)
      intro y s b hend
      exact follows_pure hend

/-- The bill of the payment is drawn up. -/
def Drawn (vouchers : Table String Money) (kind : FlowKind) (request : PaymentRequest)
    (s : FlowState) (books : Books) : Prop :=
  0 < request.amount.minor ∧ ∃ b : Bill, b.kind = kind ∧ b.request = request ∧
    Due vouchers request b.discount ∧ Billed b s books

/-- Where the record is registered the bill is complete. -/
theorem follows_lastDraft {operation : Context} (hdue : Due vouchers request d)
    (h : Draft kind request d s) :
    Follows vouchers (Saga.advance conductor operation
      [undoableStep "init_ledger" initLedger cancelLedger]) s b
      (Through kind request (Drawn vouchers kind request)) := by
  refine follows_advance_cons rfl h.state (initLedger_draws h) ?_
  rintro s books ⟨bill, hkind, hrequest, hdiscount, hbilled⟩
  exact follows_pure ⟨h.positive, bill, hkind, hrequest, hdiscount ▸ hdue, hbilled⟩

/-- The steps before the bank is asked draw the bill. -/
theorem follows_draftSteps {settings : FlowSettings} {operation : Context}
    (h : Sketch kind request .zero s) :
    Follows vouchers (Saga.advance conductor operation
      (draftSteps settings request.voucherCode.isSome)) s b
      (Through kind request (Drawn vouchers kind request)) := by
  refine follows_advance_cons rfl h.state (initOrder_draws settings h) fun s b h => ?_
  refine follows_advance_cons rfl h.state (processOrder_draws h) fun s b h => ?_
  cases hcode : request.voucherCode with
  | none =>
      refine follows_lastDraft ?_ h
      unfold Due
      rw [hcode]
  | some code =>
      refine follows_advance_cons rfl h.state (applyVoucher_draws hcode h) ?_
      rintro s b ⟨value, hvalue, h⟩
      refine follows_lastDraft ?_ h
      unfold Due
      rw [hcode]
      exact ⟨value, hvalue, rfl⟩

/-! ## From the bank on -/

/-- What is said of a call to the bank, of the scenes that follow and of the end: all of it is as some
bill has it. -/
def AsBilled (vouchers : Table String Money) (kind : FlowKind) (request : PaymentRequest)
    (r : Bank.Request) (u : Services) (later : List (Call × Services)) (w : Services) : Prop :=
  0 < request.amount.minor ∧ ∃ b : Bill, b.kind = kind ∧ b.request = request ∧
    Due vouchers request b.discount ∧ r = kind.bankCall b.bankRequest ∧
    b.On u.books ∧ (∀ scene ∈ later, b.On scene.2.books) ∧ b.On w.books

theorem forwards_bankSteps (settings : FlowSettings) (b : Bill) :
    ∀ step ∈ Flow.step "call_bank" (callBank settings) :: finalSteps, b.terms.Forwards step := by
  rintro step (_ | ⟨_, hstep⟩)
  · exact Terms.forwards_step (Terms.keeps_callBank settings fun _ _ => Bill.terms_bankCall)
  · exact Terms.forwards_finalSteps step hstep

/-- A flow whose first part does not call the bank. -/
theorem Follows.banks {α β : Type} {x : FlowM α} {f : α → FlowM β} {v : Services}
    {Q : α → FlowState → Books → Prop}
    {P : Bank.Request → Services → List (Call × Services) → Services → Prop}
    (hx : Follows v.promotion.vouchers x s v.books Q)
    (hf : ∀ a s w, w.promotion.vouchers = v.promotion.vouchers → Q a s w.books →
      ((f a).run s).Banks w P) : ((x >>= f).run s).Banks v P := by
  rw [StateT.run_bind]
  refine Program.banks_bind (hx v rfl rfl) ?_
  rintro ⟨a, s'⟩ w ⟨hvouchers, hend⟩
  exact hf a s' w hvouchers hend

/-- A flow that complies with the terms of a bill that is complete. -/
theorem banks_of_maintains {α : Type} {x : FlowM α} {bill : Bill} {v : Services}
    (hx : bill.terms.Maintains x) (hpositive : 0 < bill.request.amount.minor)
    (hdue : Due vouchers bill.request bill.discount) (hbilled : Billed bill s v.books) :
    (x.run s).Banks v (AsBilled vouchers bill.kind bill.request) := by
  intro schedule n before r u later hscenes
  obtain ⟨⟨hu, hr⟩, hlater, -, -, hw⟩ :=
    Program.banks_of_guarded (hx s v hbilled.state hbilled.books) schedule n before r u later hscenes
  exact ⟨hpositive, bill, rfl, rfl, hdue, hr, hu, fun scene hscene => (hlater scene hscene).1, hw⟩

/-- Whenever a payment calls the bank, that call and what follows are as some bill has it. -/
theorem play_banks (settings : FlowSettings) (kind : FlowKind) (request : PaymentRequest)
    (operation compensation : Context) (v : Services) :
    (((⟨kind.name, paymentSteps settings request.voucherCode.isSome⟩ :
      Saga FlowError FlowM).play conductor operation compensation).run
        (.starting kind request)).Banks v (AsBilled v.promotion.vouchers kind request) := by
  have hconclude {T : Terms} (x : List StepOutcome × Option (ExecutionError FlowError)) :
      T.Maintains (Saga.conclude conductor
        ⟨kind.name, paymentSteps settings request.voucherCode.isSome⟩ compensation x) :=
    Terms.maintains_conclude (T.undoes_paymentSteps settings _) compensation x
  have hcount : Follows v.promotion.vouchers (conductor.count (Saga.metric "saga_executions_total"
      kind.name)) (.starting kind request) v.books fun _ s _ => s = .starting kind request :=
    follows_idle rfl rfl fun _ => rfl
  have hstart : Sketch kind request .zero (.starting kind request) := ⟨rfl, rfl, rfl, rfl⟩
  rw [Saga.play_eq_of_append (paymentSteps_eq settings _)]
  refine hcount.banks ?_
  rintro - _ u hu rfl
  refine Follows.banks (follows_draftSteps hstart) ?_
  rintro ⟨attempted, error⟩ s w hw hend
  rw [hu] at hw hend
  cases error with
  | some e =>
      -- the payment has failed before the bank, and undoing it does not call the bank either
      have hrest := hconclude (attempted, some e) s w hend trivial
      exact Program.banks_of_offBank (hrest.weaken fun _ _ hguard => hguard.2)
  | none =>
      -- the bill is drawn up, and what is left of the payment keeps to its terms
      obtain ⟨hpositive, bill, rfl, rfl, hdue, hbilled⟩ := hend
      refine banks_of_maintains ?_ hpositive hdue hbilled
      refine Terms.maintains_bind ?_ hconclude
      refine Terms.maintains_bind ?_ fun y => Terms.maintains_pure _
      exact Terms.maintains_advance (forwards_bankSteps settings bill) operation

/-- Whenever a payment is run and calls the bank, that call and what follows are as some bill has
it. -/
theorem pay_banks (settings : FlowSettings) (kind : FlowKind) (request : PaymentRequest)
    (operation : Context) (v : Services) :
    (pay settings kind request operation).Banks v (AsBilled v.promotion.vouchers kind request) := by
  unfold pay Flow.play
  refine Program.banks_bind (Q := fun _ w => w.promotion.vouchers = v.promotion.vouchers) ?_ ?_
  · exact ⟨rfl, fun t => v.undergo_vouchers t _⟩
  · rintro (crash | compensation) w hw
    · exact Program.banks_of_offBank (Q := fun _ _ => True) trivial
    · rw [← hw]
      exact (play_banks settings kind request operation compensation w).map _

/-! ## When it is resumed -/

/-- A flow is guarded by the terms that its saga complies with. -/
theorem guarded_play {settings : FlowSettings} {saga : Saga FlowError FlowM} {T : Terms}
    {operation : Context} {v : Services}
    (hsaga : ∀ compensation, T.Maintains (saga.play conductor operation compensation))
    (hs : T.State s) (hv : T.services v) :
    (Flow.play settings saga s operation).Guarded T.guard v fun _ w => T.services w := by
  unfold Flow.play
  refine (Program.guarded_bind _ _ _ _).mpr ⟨⟨hv, T.routine rfl⟩, fun t => ?_⟩
  have hv : T.services (v.undergo t (.budget settings.config.compensationTimeout)).2 :=
    T.kept t hv (T.routine rfl)
  generalize v.undergo t (.budget settings.config.compensationTimeout) = answered at hv
  obtain ⟨crash | compensation, w⟩ := answered
  · exact hv
  · exact (Program.guarded_bind _ _ _ _).mpr
      ((hsaga compensation s w hs hv).mono fun _ _ hend => hend.2)

/-- Resuming a payment changes no figure of its bill. -/
theorem resume_on (settings : FlowSettings) (bill : Bill) (a : OtpAttempt) {v : Services}
    (h : bill.On v.books) :
    (∀ scene ∈ a.schedule.scenes (a.program settings bill.order) (0, v), bill.On scene.2.books) ∧
      bill.On (a.leaves settings bill.order v).books := by
  have hstart : (bill.resumed a.otp).State (.resuming .cashIn bill.order) := {
    kind := rfl
    request := rfl
    resume := fun _ hid => (Option.some.inj hid).symm
    order := by
      intro o ho
      cases ho }
  have hsaga (compensation : Context) : (bill.resumed a.otp).Maintains
      (Saga.play conductor ⟨"cash_in_verify_otp", otpSteps settings a.otp⟩ a.operation
        compensation) :=
    Terms.maintains_play (Terms.forwards_otpSteps settings fun _ => Bill.resumed_verifyOtp)
      (Terms.undoes_otpSteps settings a.otp) a.operation compensation
  have hresumed : (a.program settings bill.order).Guarded (bill.resumed a.otp).guard v
      fun _ w => bill.On w.books := by
    unfold OtpAttempt.program resumeCashIn
    exact guarded_play hsaga hstart h
  obtain ⟨hscenes, hend⟩ := hresumed.sound a.schedule 0
  exact ⟨fun scene hscene => (hscenes scene hscene).1, hend⟩

theorem on_entered (settings : FlowSettings) {bill : Bill} (attempts : List OtpAttempt)
    {v : Services} (h : bill.On v.books) :
    bill.On (v.entered settings bill.order attempts).books := by
  induction attempts generalizing v with
  | nil => exact h
  | cons a attempts ih => exact ih (resume_on settings bill a h).2

/-! ## Figures that agree -/

/-- The user is the one party that the record names: the payee where the flow credits the user, and
else the payer. -/
def Party (kind : FlowKind) (user : UserId) (t : Transaction) : Prop :=
  match kind with
  | .cashIn | .refund => t.payeeId = some user ∧ t.payerId = none
  | .cashOut | .interBankTransfer => t.payerId = some user ∧ t.payeeId = none

/-- The order and the record belong together and have the figures of the request. The net amount is
what remains after the discount. -/
structure Agree (kind : FlowKind) (request : PaymentRequest) (discount : Money) (o : Order)
    (t : Transaction) : Prop where
  ordered : o.amount = request.amount
  recorded : t.amount = request.amount
  orderId : t.orderId = o.id
  transactionId : o.transactionId = some t.id
  party : Party kind request.userId t
  discounted : t.discount = discount
  net : ∃ net, t.netAmount = .ok net ∧ net.minor = request.amount.minor - discount.minor ∧
    0 ≤ net.minor ∧ net.minor ≤ request.amount.minor

/-- The order with the identifier and its record are stored, and their figures agree. -/
def Agreed (kind : FlowKind) (request : PaymentRequest) (discount : Money) (id : OrderId)
    (v : Services) : Prop :=
  ∃ o t, v.orders.get? id = some o ∧ o.id = id ∧ v.ledger.get? t.id = some t ∧
    Agree kind request discount o t

/-- The figures agree from a call to the bank on: as the bank is called, at every later call, at the
end, and however often a one-time password is entered afterwards, at every call and at the end. -/
structure AgreedFrom (settings : FlowSettings) (kind : FlowKind) (request : PaymentRequest)
    (discount : Money) (id : OrderId) (u : Services) (rest : List (Call × Services))
    (w : Services) : Prop where
  asked : Agreed kind request discount id u
  later : ∀ scene ∈ rest, Agreed kind request discount id scene.2
  ended : Agreed kind request discount id w
  resumed : ∀ (attempts : List OtpAttempt) (a : OtpAttempt),
    ∀ scene ∈ a.schedule.scenes (a.program settings id) (0, w.entered settings id attempts),
      Agreed kind request discount id scene.2
  entered : ∀ attempts : List OtpAttempt,
    Agreed kind request discount id (w.entered settings id attempts)

/-- What is due lies between nothing and the amount, if no voucher has a negative value. -/
theorem Due.bounds (h : Due vouchers request d) (hpositive : 0 < request.amount.minor)
    (hvalue : ∀ code value, request.voucherCode = some code → vouchers.get? code = some value →
      0 ≤ value.minor) : 0 ≤ d.minor ∧ d.minor ≤ request.amount.minor := by
  unfold Due at h
  cases hcode : request.voucherCode with
  | none =>
      rw [hcode] at h
      subst h
      exact ⟨le_rfl, hpositive.le⟩
  | some code =>
      rw [hcode] at h
      obtain ⟨value, hregistered, rfl⟩ := h
      rw [Money.least_minor]
      exact ⟨le_min (hvalue code value hcode hregistered) hpositive.le, min_le_right _ _⟩

end Flow

namespace Bill

variable {b : Bill} {o : Order} {t : Transaction}

/-- An order and a record that have the figures of a bill agree. -/
theorem Enters.agree (h : b.Enters t) (ho : b.Carries o) (hnonneg : 0 ≤ b.discount.minor)
    (hle : b.discount.minor ≤ b.request.amount.minor) :
    Agree b.kind b.request b.discount o t where
  ordered := ho.amount
  recorded := h.amount
  orderId := h.orderId.trans ho.id.symm
  transactionId := ho.link.trans (congrArg some h.id.symm)
  party := by
    have hpayer := h.payerId
    have hpayee := h.payeeId
    unfold Party
    cases hkind : b.kind <;> rw [hkind] at hpayer hpayee
    all_goals first | exact ⟨hpayee, hpayer⟩ | exact ⟨hpayer, hpayee⟩
  discounted := h.discount
  net := by
    have hgross : t.gross = b.request.amount.minor := by
      unfold Transaction.gross
      rw [h.amount, h.fee]
      exact Int.add_zero _
    have hexact : t.exactNet = b.request.amount.minor - b.discount.minor := by
      unfold Transaction.exactNet
      rw [hgross, h.discount]
      exact max_eq_right (by omega)
    obtain ⟨net, hnet, hminor⟩ := Transaction.netAmount_of_fits (hgross ▸ b.request.amount.fits)
    have hmax := b.request.amount.le_max
    rw [hexact] at hminor
    exact ⟨net, hnet, by omega, by omega, by omega⟩

theorem On.agreed {v : Services} (h : b.On v.books) (hnonneg : 0 ≤ b.discount.minor)
    (hle : b.discount.minor ≤ b.request.amount.minor) :
    Agreed b.kind b.request b.discount b.order v := by
  obtain ⟨⟨o, ho, hcarries⟩, t, ht, henters⟩ := h
  refine ⟨o, t, ho, hcarries.id, ?_, henters.agree hcarries hnonneg hle⟩
  rw [henters.id]
  exact ht

end Bill

namespace Flow

/-- **The figures of payments agree.** Whenever a payment calls the bank, along any schedule and with
any services, the amount of the request is positive, and the bank is asked for it, on behalf of an
order that is stored. The order, its ledger record and the request agree on the amount, the order and
the record refer to each other, the record names the user as its one party, and its discount is zero
without a voucher and else the value of the voucher, at most the amount. The net amount is amount less
discount, between zero and the amount. They go on agreeing until the payment has ended, and however
often it is resumed with a one-time password. -/
theorem payment_figures (settings : FlowSettings) (kind : FlowKind) (request : PaymentRequest)
    (operation : Context) (v : Services) (schedule : Schedule) (n : Nat)
    {before later : List (Call × Services)} {r : Bank.Request} {u : Services}
    (hvalue : ∀ code value, request.voucherCode = some code →
      v.promotion.vouchers.get? code = some value → 0 ≤ value.minor)
    (hbank : schedule.scenes (pay settings kind request operation) (n, v) =
      before ++ (.bank r, u) :: later) :
    0 < request.amount.minor ∧ ∃ (id : OrderId) (discount : Money),
      r = kind.bankCall
        ⟨id, request.userId, request.amount, request.provider, request.destination⟩ ∧
      (request.voucherCode = none → discount.minor = 0) ∧
      (∀ code, request.voucherCode = some code → ∃ value,
        v.promotion.vouchers.get? code = some value ∧
          discount.minor = min value.minor request.amount.minor) ∧
      AgreedFrom settings kind request discount id u later
        (schedule.run (pay settings kind request operation) (n, v)).2.2 := by
  obtain ⟨hpositive, bill, rfl, rfl, hdue, hr, hu, hlater, hended⟩ :=
    pay_banks settings kind request operation v schedule n before r u later hbank
  obtain ⟨hnonneg, hle⟩ := hdue.bounds hpositive hvalue
  refine ⟨hpositive, bill.order, bill.discount, hr, fun hcode => ?_, fun code hcode => ?_, ?_⟩
  · unfold Due at hdue
    rw [hcode] at hdue
    exact congrArg Money.minor hdue
  · unfold Due at hdue
    rw [hcode] at hdue
    obtain ⟨value, hregistered, hdiscount⟩ := hdue
    exact ⟨value, hregistered, hdiscount ▸ Money.least_minor _ _⟩
  · have hagreed {w : Services} (h : bill.On w.books) := h.agreed hnonneg hle
    have hentered (attempts : List OtpAttempt) := on_entered settings attempts hended
    exact {
      asked := hagreed hu
      later := fun scene hscene => hagreed (hlater scene hscene)
      ended := hagreed hended
      resumed := fun attempts a scene hscene =>
        hagreed ((resume_on settings bill a (hentered attempts)).1 scene hscene)
      entered := fun attempts => hagreed (hentered attempts) }

/-! ### A voucher that is worth more than the amount -/

/-- A cash-out of 15000 with a voucher of 20000. -/
def cashOutUsing : PaymentRequest :=
  ⟨default, (Money.ofInt? 15000).getD .zero, .of "BIDV", some "TET", .wallet, none⟩

/-- The bank agrees, and every identifier is a new one. -/
def agreeing : Schedule := fun k => .fair (.ofNat k) "200"

/-- The cash-out calls the bank, and what the voucher takes off is the amount. -/
theorem payment_figures_voucher :
    let program := pay ⟨.standard, .standard⟩ .cashOut cashOutUsing .background
    ∃ (r : BankRequest) (u : Services),
      (.bank (.cashOut r), u) ∈ agreeing.scenes program (0, FlowCall.unvisited) ∧
      r.amount = cashOutUsing.amount ∧
      Agreed .cashOut cashOutUsing cashOutUsing.amount r.orderId u ∧
      Agreed .cashOut cashOutUsing cashOutUsing.amount r.orderId
        (agreeing.run program (0, FlowCall.unvisited)).2.2 := by
  dsimp only
  have hcalls : (agreeing.scenes (pay ⟨.standard, .standard⟩ .cashOut cashOutUsing .background)
      (0, FlowCall.unvisited)).any (·.1.isBank) = true := by
    decide +kernel
  obtain ⟨⟨c, u⟩, hscene, hbank⟩ := List.any_eq_true.mp hcalls
  obtain ⟨r, rfl⟩ := Call.exists_of_isBank hbank
  obtain ⟨before, later, hscenes⟩ := List.append_of_mem hscene
  have hregistered : FlowCall.unvisited.promotion.vouchers.get? "TET" =
      some ((Money.ofInt? 20000).getD .zero) := by decide +kernel
  have hvalue (code : String) (value : Money) (hcode : cashOutUsing.voucherCode = some code)
      (hvalue : FlowCall.unvisited.promotion.vouchers.get? code = some value) :
      0 ≤ value.minor := by
    obtain rfl := Option.some.inj hcode
    obtain rfl := Option.some.inj (hregistered.symm.trans hvalue)
    decide
  obtain ⟨-, id, discount, hr, -, hdiscount, hagreed⟩ := payment_figures ⟨.standard, .standard⟩
    .cashOut cashOutUsing .background FlowCall.unvisited agreeing 0 hvalue hscenes
  obtain ⟨value, hvalue, hminor⟩ := hdiscount "TET" rfl
  obtain rfl := Option.some.inj (hregistered.symm.trans hvalue)
  have hall : discount = cashOutUsing.amount := by
    obtain ⟨minor, _, _⟩ := discount
    obtain rfl : minor = 15000 := hminor
    rfl
  subst hall hr
  exact ⟨_, u, hscene, rfl, hagreed.asked, hagreed.ended⟩

end Flow

end Wallet
