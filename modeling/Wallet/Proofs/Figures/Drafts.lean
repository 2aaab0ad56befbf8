import Wallet.Proofs.Figures.Bill

/-!
# Drafts

Before it comes to the bank a payment makes its order, starts to process it, may use a voucher, and
registers its ledger record. `Draws` follows these parts along all occasions: none of them calls the
bank, and what they leave is a draft of the bill, until the record is linked and the bill is complete.

An answer that is an error may have been served all the same, so nothing is said of the books then.
-/

namespace Wallet

namespace Flow

variable {α β : Type} {vouchers : Table String Money} {s : FlowState} {b : Books} {v : Services}

/-- Whatever the occasions are, the part does not call the bank and leaves the registered vouchers as
they are, and it ends with a value, a state and books that satisfy `Q`. -/
def Follows (vouchers : Table String Money) (x : FlowM α) (s : FlowState) (b : Books)
    (Q : α → FlowState → Books → Prop) : Prop :=
  ∀ v : Services, v.books = b → v.promotion.vouchers = vouchers →
    (x.run s).Guarded Call.offBank v fun r w =>
      w.promotion.vouchers = vouchers ∧ Q r.1 r.2 w.books

/-- The same of a part that may fail. -/
def Draws (vouchers : Table String Money) (x : StepM α) (s : FlowState) (b : Books)
    (Q : Except FlowError α → FlowState → Books → Prop) : Prop :=
  Follows vouchers x.run s b Q

/-! ## Rules -/

theorem follows_pure {a : α} {Q : α → FlowState → Books → Prop} (h : Q a s b) :
    Follows vouchers (pure a) s b Q := by
  rintro v rfl rfl
  exact ⟨rfl, h⟩

theorem follows_modify {f : FlowState → FlowState} {Q : Unit → FlowState → Books → Prop}
    (h : Q () (f s) b) : Follows vouchers (modify f) s b Q := by
  rintro v rfl rfl
  exact ⟨rfl, h⟩

theorem Follows.mono {x : FlowM α} {Q R : α → FlowState → Books → Prop}
    (h : Follows vouchers x s b Q) (hQR : ∀ a s b, Q a s b → R a s b) :
    Follows vouchers x s b R :=
  fun v hbooks hvouchers => (h v hbooks hvouchers).mono fun _ _ hend => ⟨hend.1, hQR _ _ _ hend.2⟩

theorem follows_bind {x : FlowM β} {f : β → FlowM α} {Q : α → FlowState → Books → Prop}
    (h : Follows vouchers x s b fun a s b => Follows vouchers (f a) s b Q) :
    Follows vouchers (x >>= f) s b Q := by
  intro v hbooks hvouchers
  rw [StateT.run_bind, Program.guarded_bind]
  refine (h v hbooks hvouchers).mono ?_
  rintro ⟨a, s'⟩ w ⟨hvouchers, hend⟩
  exact hend w rfl hvouchers

/-- A call that neither goes to the bank nor writes. -/
theorem follows_idle {c : Call} {Q : c.Answer → FlowState → Books → Prop}
    (hbank : c.isBank = false) (hidle : c.writes = false) (h : ∀ x, Q x s b) :
    Follows vouchers (StateT.lift (Program.request c)) s b Q := by
  rintro v rfl rfl
  refine ⟨hbank, fun t => ⟨v.undergo_vouchers t c, ?_⟩⟩
  rw [v.books_of_idle t hidle]
  exact h _

section

variable {Q : Except FlowError α → FlowState → Books → Prop}

theorem draws_pure {a : α} (h : Q (.ok a) s b) : Draws vouchers (pure a) s b Q := by
  rintro v rfl rfl
  exact ⟨rfl, h⟩

theorem draws_throw {e : FlowError} (h : Q (.error e) s b) : Draws vouchers (throw e) s b Q := by
  rintro v rfl rfl
  exact ⟨rfl, h⟩

theorem draws_bind {x : StepM β} {f : β → StepM α}
    (h : Draws vouchers x s b fun r s b => match r with
      | .ok a => Draws vouchers (f a) s b Q
      | .error e => Q (.error e) s b) : Draws vouchers (x >>= f) s b Q := by
  unfold Draws
  rw [ExceptT.run_bind]
  refine follows_bind (h.mono ?_)
  rintro (e | a) s b hend
  · exact follows_pure hend
  · exact hend

end

theorem draws_get {Q : Except FlowError FlowState → FlowState → Books → Prop} (h : Q (.ok s) s b) :
    Draws vouchers get s b Q := by
  rintro v rfl rfl
  exact ⟨rfl, h⟩

theorem draws_modify {Q : Except FlowError Unit → FlowState → Books → Prop}
    {f : FlowState → FlowState} (h : Q (.ok ()) (f s) b) : Draws vouchers (modify f) s b Q := by
  rintro v rfl rfl
  exact ⟨rfl, h⟩

theorem draws_request {Q : Except FlowError PaymentRequest → FlowState → Books → Prop}
    {request : PaymentRequest} (hrequest : s.request = some request) (h : Q (.ok request) s b) :
    Draws vouchers StepM.request s b Q := by
  refine draws_bind (draws_get ?_)
  simp only [hrequest]
  exact draws_pure h

theorem draws_order {Q : Except FlowError Order → FlowState → Books → Prop} {o : Order}
    (horder : s.order = some o) (h : Q (.ok o) s b) : Draws vouchers StepM.order s b Q := by
  refine draws_bind (draws_get ?_)
  simp only [horder]
  exact draws_pure h

theorem draws_accept {Q : Except FlowError Order → FlowState → Books → Prop}
    {change : Except OrderError Order} (herror : ∀ e, Q (.error e) s b)
    (h : ∀ o, change = .ok o → Q (.ok o) s b) : Draws vouchers (StepM.accept change) s b Q := by
  rintro v rfl rfl
  refine ⟨rfl, ?_⟩
  cases change with
  | ok o => exact h o rfl
  | error e => exact herror _

/-! ## Calls -/

theorem draws_idle {c : Call} {Q : Except FlowError c.Answer → FlowState → Books → Prop}
    (hbank : c.isBank = false) (hidle : c.writes = false) (h : ∀ x, Q (.ok x) s b) :
    Draws vouchers (StepM.perform (Program.request c)) s b Q :=
  follows_bind (follows_idle hbank hidle fun x => follows_pure (h x))

theorem draws_now {Q : Except FlowError Timestamp → FlowState → Books → Prop}
    (h : ∀ now, Q (.ok now) s b) : Draws vouchers (StepM.perform .now) s b Q :=
  draws_idle rfl rfl h

theorem draws_askOrders {r : OrderStore.Request}
    {Q : Except FlowError r.Result → FlowState → Books → Prop}
    (herror : ∀ e b, Q (.error e) s b)
    (h : ∀ x, b.Allows (.orders r) (.ok x) → Q (.ok x) s (b.after ⟨.orders r, .ok x⟩)) :
    Draws vouchers (StepM.ask (Program.orders r)) s b Q := by
  rintro v rfl rfl
  refine ⟨rfl, fun t => ⟨v.undergo_vouchers t _, ?_⟩⟩
  show Q ((v.undergo t (.orders r)).1.mapError .service) s (v.undergo t (.orders r)).2.books
  cases hanswer : (v.undergo t (.orders r)).1 with
  | error e => exact herror _ _
  | ok x =>
      obtain ⟨hallows, hafter⟩ := Services.undergo_orders hanswer
      rw [hafter]
      exact h x hallows

theorem draws_askLedger {r : Ledger.Request}
    {Q : Except FlowError Transaction → FlowState → Books → Prop}
    (herror : ∀ e b, Q (.error e) s b)
    (h : ∀ x, b.Allows (.ledger r) (.ok x) → Q (.ok x) s (b.after ⟨.ledger r, .ok x⟩)) :
    Draws vouchers (StepM.ask (Program.ledger r)) s b Q := by
  rintro v rfl rfl
  refine ⟨rfl, fun t => ⟨v.undergo_vouchers t _, ?_⟩⟩
  show Q ((v.undergo t (.ledger r)).1.mapError .service) s (v.undergo t (.ledger r)).2.books
  cases hanswer : (v.undergo t (.ledger r)).1 with
  | error e => exact herror _ _
  | ok x =>
      obtain ⟨hallows, hafter⟩ := Services.undergo_ledger hanswer
      rw [hafter]
      exact h x hallows

theorem draws_create {o : Order} {Q : Except FlowError Order → FlowState → Books → Prop}
    (herror : ∀ e b, Q (.error e) s b) (h : Q (.ok o) s (b.file o)) :
    Draws vouchers (StepM.ask (.orders (.create o)) : StepM Order) s b Q :=
  draws_askOrders herror fun _ hallows => hallows.1 ▸ h

theorem draws_replace {o : Order} {Q : Except FlowError Order → FlowState → Books → Prop}
    (herror : ∀ e b, Q (.error e) s b) (h : Q (.ok o) s (b.file o)) :
    Draws vouchers (StepM.ask (.orders (.replace o)) : StepM Order) s b Q :=
  draws_askOrders herror fun _ hallows => hallows.1 ▸ h

theorem draws_process {o : Order} {Q : Except FlowError Order → FlowState → Books → Prop}
    (herror : ∀ e b, Q (.error e) s b) (h : Q (.ok o) s (b.file o)) :
    Draws vouchers (StepM.ask (.orders (.process o)) : StepM Order) s b Q := by
  refine draws_askOrders herror fun x hallows => ?_
  rcases hallows with hreplaces | ⟨_, _, _, _, hexpired⟩
  · exact hreplaces.1 ▸ h
  · cases hexpired

theorem draws_init {t : Transaction} {Q : Except FlowError Transaction → FlowState → Books → Prop}
    (herror : ∀ e b, Q (.error e) s b) (h : Q (.ok t) s (b.enter t.id t)) :
    Draws vouchers (StepM.ask (.ledger (.init t))) s b Q := by
  refine draws_askLedger herror fun x hallows => ?_
  obtain rfl : x = t := hallows
  exact h

/-- A voucher takes off its registered value, at most the amount. -/
theorem draws_useVoucher {code trace : String} {user : UserId} {amount : Money}
    {Q : Except FlowError (Except ServiceError Discount) → FlowState → Books → Prop}
    (herror : ∀ e, Q (.ok (.error e)) s b)
    (h : ∀ value d, vouchers.get? code = some value → d.amount = value.least amount →
      Q (.ok (.ok d)) s b) :
    Draws vouchers (StepM.perform (.promotion (.useVoucher code user trace amount)) :
      StepM (Except ServiceError Discount)) s b Q := by
  rintro v rfl rfl
  refine ⟨rfl, fun t => ⟨v.undergo_vouchers t _, ?_⟩⟩
  have hbooks :
      (v.undergo t (.promotion (.useVoucher code user trace amount))).2.books = v.books := by
    rcases v.undergo_books t (.promotion (.useVoucher code user trace amount)) with
      hsame | ⟨x, -, hafter⟩
    · exact hsame
    · exact hafter
  show Q (.ok (v.undergo t (.promotion (.useVoucher code user trace amount))).1) s
    (v.undergo t (.promotion (.useVoucher code user trace amount))).2.books
  rw [hbooks]
  cases hanswer : (v.undergo t (.promotion (.useVoucher code user trace amount))).1 with
  | error e => exact herror e
  | ok d =>
      obtain ⟨value, hvalue, hamount⟩ := Services.undergo_useVoucher hanswer
      exact h value d hvalue hamount

/-! ## Drafts of a bill -/

/-- A payment for a request, with what is taken off so far. -/
structure Sketch (kind : FlowKind) (request : PaymentRequest) (d : Money) (s : FlowState) :
    Prop where
  kind : s.kind = kind
  asked : s.request = some request
  started : s.resume = none
  discount : (s.discount.map Discount.amount).getD .zero = d

/-- A payment for a request that has made its order. -/
structure Draft (kind : FlowKind) (request : PaymentRequest) (d : Money) (s : FlowState) : Prop
    extends Sketch kind request d s where
  positive : 0 < request.amount.minor
  order : ∃ o, s.order = some o ∧ o.userId = request.userId ∧ o.amount = request.amount

/-- What a voucher takes off: nothing without one, and else its registered value, at most the
amount. -/
def Due (vouchers : Table String Money) (request : PaymentRequest) (d : Money) : Prop :=
  match request.voucherCode with
  | none => d = .zero
  | some code => ∃ value, vouchers.get? code = some value ∧ d = value.least request.amount

/-- The bill of a payment is complete: its order and its record are stored. -/
structure Billed (b : Bill) (s : FlowState) (books : Books) : Prop where
  state : b.terms.State s
  books : b.On books

variable {kind : FlowKind} {request : PaymentRequest} {d : Money}

theorem Sketch.state (h : Sketch kind request d s) : (Terms.quiet kind request).State s where
  kind := h.kind
  request := h.asked
  resume _ _ := trivial
  order _ _ := trivial

/-- Either the part has not failed, and `P` holds, or the payment is still quiet. -/
def Otherwise (kind : FlowKind) (request : PaymentRequest) (P : FlowState → Books → Prop)
    (r : Except FlowError Unit) (s : FlowState) (b : Books) : Prop :=
  match r with
  | .ok _ => P s b
  | .error _ => (Terms.quiet kind request).State s

theorem initOrder_draws (settings : FlowSettings) (h : Sketch kind request d s) :
    Draws vouchers (initOrder settings) s b
      (Otherwise kind request fun s _ => Draft kind request d s) := by
  unfold initOrder
  refine draws_bind (draws_get ?_)
  refine draws_bind (draws_request h.asked ?_)
  dsimp only
  split
  · exact draws_bind (draws_throw h.state)
  next hpositive =>
  split
  · exact draws_bind (draws_throw h.state)
  refine draws_bind (draws_now fun now => ?_)
  refine draws_bind (draws_idle rfl rfl fun id => ?_)
  refine draws_bind (draws_create (fun _ _ => h.state) ?_)
  refine draws_modify ?_
  exact { h with
    positive := by simpa [Money.isPositive] using hpositive
    order := ⟨_, rfl, rfl, rfl⟩ }

theorem processOrder_draws (h : Draft kind request d s) :
    Draws vouchers processOrder s b
      (Otherwise kind request fun s _ => Draft kind request d s) := by
  unfold processOrder
  obtain ⟨o, horder, huser, hamount⟩ := h.order
  refine draws_bind (draws_order horder ?_)
  refine draws_bind (draws_now fun now => ?_)
  refine draws_bind (draws_accept (fun _ => h.state) fun o' ho' => ?_)
  obtain ⟨-, rfl⟩ := Order.transition_ok ho'
  refine draws_bind (draws_process (fun _ _ => h.state) ?_)
  refine draws_modify ?_
  exact { h with order := ⟨_, rfl, huser, hamount⟩ }

theorem applyVoucher_draws {code : String} (hcode : request.voucherCode = some code)
    (h : Draft kind request d s) :
    Draws vouchers applyVoucher s b (Otherwise kind request fun s _ =>
      ∃ value, vouchers.get? code = some value ∧
        Draft kind request (value.least request.amount) s) := by
  unfold applyVoucher
  obtain ⟨o, horder, huser, hamount⟩ := h.order
  refine draws_bind (draws_get ?_)
  simp only [h.asked, Option.bind_some, hcode]
  refine draws_bind (draws_order horder ?_)
  refine draws_bind (draws_useVoucher (fun e => draws_throw h.state) fun value d hvalue hd => ?_)
  refine draws_modify ⟨value, hvalue, ?_⟩
  rw [← hamount]
  exact { h with discount := hd }

/-- The record of an order has the figures that the order has. -/
theorem intent_enters {discount : Option Discount} {o : Order} (hkind : s.kind = kind)
    (hdiscount : (discount.map Discount.amount).getD .zero = d)
    (huser : o.userId = request.userId) (hamount : o.amount = request.amount)
    (id : TransactionId) (now : Timestamp) :
    (⟨kind, request, d, o.id, id⟩ : Bill).Enters (intent s.kind discount o id now) where
  id := rfl
  orderId := rfl
  amount := hamount
  fee := rfl
  discount := hdiscount
  payerId := by
    show (if s.kind.creditsUser then none else some o.userId) = _
    rw [hkind, huser]
  payeeId := by
    show (if s.kind.creditsUser then some o.userId else none) = _
    rw [hkind, huser]

theorem initLedger_draws (h : Draft kind request d s) :
    Draws vouchers initLedger s b (Otherwise kind request fun s books =>
      ∃ b : Bill, b.kind = kind ∧ b.request = request ∧ b.discount = d ∧ Billed b s books) := by
  unfold initLedger
  obtain ⟨o, horder, huser, hamount⟩ := h.order
  refine draws_bind (draws_order horder ?_)
  refine draws_bind (draws_get ?_)
  refine draws_bind (draws_idle rfl rfl fun id => ?_)
  refine draws_bind (draws_now fun now => ?_)
  refine draws_bind (draws_init (fun _ _ => h.state) ?_)
  refine draws_bind (draws_now fun later => ?_)
  refine draws_bind (draws_accept (fun _ => h.state) fun linked hlinked => ?_)
  obtain ⟨-, rfl⟩ := Order.linkTransaction_ok hlinked
  refine draws_bind (draws_replace (fun _ _ => h.state) ?_)
  refine draws_modify ⟨⟨kind, request, d, o.id, id⟩, rfl, rfl, rfl, ?_⟩
  -- the order is written once more with the link, and only then are both as the bill has them
  have hcarries : (⟨kind, request, d, o.id, id⟩ : Bill).Carries
      { o with transactionId := some id, updatedAt := later } := ⟨rfl, huser, hamount, rfl⟩
  have henters := intent_enters h.kind h.discount huser hamount id now
  exact {
    state := {
      kind := h.kind
      request := h.asked
      resume := by
        intro id hid
        cases h.started.symm.trans hid
      order := by
        rintro _ ⟨⟩
        exact hcarries }
    books := {
      order := ⟨_, Books.file_self _ _, hcarries⟩
      record := ⟨_, Books.enter_self _ _ _, henters⟩ } }

end Flow

end Wallet
