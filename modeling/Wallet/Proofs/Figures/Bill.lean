import Wallet.Proofs.Figures.Play

/-!
# Bills

A bill says what the figures of a payment are: its request, what a voucher takes off, and under which
identifiers the order and the ledger record are stored. Once both are stored with these figures no
write that ends the payment or undoes it changes a figure, so the payment can go on under the terms of
its bill (`Bill.terms`): it asks the bank for the amount of the request, and for nothing else.
-/

namespace Wallet

/-! ## What an order and a record keep -/

namespace Order

variable {o o' : Order}

/-- Two versions of an order have the same figures. -/
structure Alike (o o' : Order) : Prop where
  id : o'.id = o.id
  userId : o'.userId = o.userId
  amount : o'.amount = o.amount
  link : o'.transactionId = o.transactionId

theorem Closes.alike (h : o.Closes o') : o.Alike o' := by
  cases h with
  | parked h =>
      obtain ⟨-, rfl⟩ := transitionFor_ok h
      exact ⟨rfl, rfl, rfl, rfl⟩
  | succeeded h =>
      obtain ⟨-, rfl⟩ := transition_ok h
      exact ⟨rfl, rfl, rfl, rfl⟩
  | settled h =>
      obtain ⟨-, rfl⟩ := settle_ok h
      exact ⟨rfl, rfl, rfl, rfl⟩
  | withdrawn h =>
      obtain ⟨-, -, rfl⟩ := failUnlessResolved?_some h
      exact ⟨rfl, rfl, rfl, rfl⟩

theorem Marks.alike (h : o.Marks o') : o.Alike o' := by
  cases h with
  | traced trace now => exact ⟨rfl, rfl, rfl, rfl⟩
  | awaiting h =>
      obtain ⟨-, rfl⟩ := markAwaitingOtp_ok h
      exact ⟨rfl, rfl, rfl, rfl⟩

end Order

namespace Transaction

variable {t t' : Transaction} {now : Timestamp} {reason : String}

/-- Two versions of a record have the same figures. -/
structure Alike (t t' : Transaction) : Prop where
  id : t'.id = t.id
  orderId : t'.orderId = t.orderId
  amount : t'.amount = t.amount
  fee : t'.fee = t.fee
  discount : t'.discount = t.discount
  payerId : t'.payerId = t.payerId
  payeeId : t'.payeeId = t.payeeId

theorem alike_of_moveTo {next : TransactionStatus} (h : t.moveTo next now = .ok t') :
    t.Alike t' := by
  obtain ⟨-, rfl⟩ := moveTo_ok h
  exact ⟨rfl, rfl, rfl, rfl, rfl, rfl, rfl⟩

theorem alike_of_fail (h : t.fail reason now = .ok t') : t.Alike t' := by
  obtain ⟨-, rfl⟩ := fail_ok h
  exact ⟨rfl, rfl, rfl, rfl, rfl, rfl, rfl⟩

end Transaction

/-! ## The figures of a payment -/

/-- The figures of a payment. -/
structure Bill where
  kind : FlowKind
  request : PaymentRequest
  /-- What a voucher takes off. -/
  discount : Money
  order : OrderId
  record : TransactionId

namespace Bill

/-- The order has the figures of the bill. -/
structure Carries (b : Bill) (o : Order) : Prop where
  id : o.id = b.order
  userId : o.userId = b.request.userId
  amount : o.amount = b.request.amount
  link : o.transactionId = some b.record

/-- The ledger record has the figures of the bill. -/
structure Enters (b : Bill) (t : Transaction) : Prop where
  id : t.id = b.record
  orderId : t.orderId = b.order
  amount : t.amount = b.request.amount
  fee : t.fee = .zero
  discount : t.discount = b.discount
  payerId : t.payerId = if b.kind.creditsUser then none else some b.request.userId
  payeeId : t.payeeId = if b.kind.creditsUser then some b.request.userId else none

/-- The order and the record of the bill are in the books with its figures. -/
structure On (b : Bill) (books : Books) : Prop where
  order : ∃ o, books.orders b.order = some o ∧ b.Carries o
  record : ∃ t, books.records b.record = some t ∧ b.Enters t

/-- The request that goes to the bank. -/
def bankRequest (b : Bill) : BankRequest :=
  ⟨b.order, b.request.userId, b.request.amount, b.request.provider, b.request.destination⟩

/-- The calls that a flow may make under the bill, with the one to the bank. -/
def Permits (b : Bill) (call : Bank.Request) : Call → Prop
  | .orders (.replace o) => b.Carries o
  | .bank r => r = call
  | c => c.isRoutine = true

variable {b : Bill} {call : Bank.Request} {o o' : Order} {t t' : Transaction} {books : Books}

theorem Carries.alike (h : b.Carries o) (halike : o.Alike o') : b.Carries o' where
  id := halike.id.trans h.id
  userId := halike.userId.trans h.userId
  amount := halike.amount.trans h.amount
  link := halike.link.trans h.link

theorem Enters.alike (h : b.Enters t) (halike : t.Alike t') : b.Enters t' where
  id := halike.id.trans h.id
  orderId := halike.orderId.trans h.orderId
  amount := halike.amount.trans h.amount
  fee := halike.fee.trans h.fee
  discount := halike.discount.trans h.discount
  payerId := halike.payerId.trans h.payerId
  payeeId := halike.payeeId.trans h.payeeId

/-! ## Books that keep the figures -/

theorem On.file (h : b.On books) (ho : b.Carries o) : b.On (books.file o) where
  order := ⟨o, by rw [← ho.id]; exact books.file_self o, ho⟩
  record := h.record

theorem On.enter {id : TransactionId} (h : b.On books) (hid : books.records id = some t)
    (halike : t.Alike t') : b.On (books.enter id t') where
  order := h.order
  record := by
    obtain ⟨u, hu, henters⟩ := h.record
    by_cases heq : b.record = id
    · subst heq
      cases hu.symm.trans hid
      exact ⟨t', books.enter_self _ t', henters.alike halike⟩
    · exact ⟨u, (books.enter_of_ne t' heq).trans hu, henters⟩

theorem On.moved {id : TransactionId} {x : Except ServiceError Transaction}
    {transition : Timestamp → Transaction → Except TransactionError Transaction}
    (h : b.On books) (hmoves : books.Moves id transition x)
    (halike : ∀ {now t t'}, transition now t = .ok t' → t.Alike t') :
    b.On (match x with | .ok t' => books.enter id t' | .error _ => books) := by
  cases x with
  | error e => exact h
  | ok t' =>
      obtain ⟨t, now, ht, hmoved⟩ := hmoves
      exact h.enter ht (halike hmoved)

/-- No answer to a call that the bill permits changes a figure in the books. -/
theorem On.after {c : Call} {x : c.Answer} (h : b.On books) (hc : b.Permits call c)
    (hallows : books.Allows c x) : b.On (books.after ⟨c, x⟩) := by
  cases c with
  | orders r =>
      cases r with
      | replace o =>
          -- the one write to the order store that the bill permits is that of an order like its own
          cases x with
          | error e => exact h
          | ok o' =>
              have ho : b.Carries o' := by
                rw [show o' = o from hallows.1]
                exact hc
              exact h.file ho
      | create o => cases hc
      | process o => cases hc
      | find id => cases x <;> exact h
      | findExpired now limit => cases x <;> exact h
  | ledger r =>
      cases r with
      | init t => cases hc
      | find id => cases x <;> exact h
      | confirm id =>
          have hmoved := h.moved hallows Transaction.alike_of_moveTo
          cases x <;> exact hmoved
      | setPending id =>
          have hmoved := h.moved hallows Transaction.alike_of_moveTo
          cases x <;> exact hmoved
      | cancel id reason =>
          have hmoved := h.moved hallows
            fun hcancel => Transaction.alike_of_fail (Transaction.cancel_ok hcancel).2
          cases x <;> exact hmoved
      | fail id reason =>
          have hmoved := h.moved hallows Transaction.alike_of_fail
          cases x <;> exact hmoved
  | _ => exact h

theorem On.undergo {v : Services} {c : Call} (h : b.On v.books) (t : Occasion)
    (hc : b.Permits call c) : b.On (v.undergo t c).2.books := by
  rcases v.undergo_books t c with hsame | ⟨x, hallows, hafter⟩
  · rw [hsame]
    exact h
  · rw [hafter]
    exact h.after hc hallows

/-- What is found where the order of the bill is stored carries its figures. -/
theorem On.found {v : Services} (h : b.On v.books) (t : Occasion)
    (hfound : (v.undergo t (.orders (.find b.order))).1 = .ok (some o)) : b.Carries o := by
  obtain ⟨hfinds, -⟩ := Services.undergo_orders hfound
  obtain ⟨stored, hstored, hcarries⟩ := h.order
  have hsame : some o = v.books.orders b.order := hfinds
  rw [hstored] at hsame
  cases hsame
  exact hcarries

/-! ## The terms of a bill -/

theorem permits_of_isRoutine {c : Call} (h : c.isRoutine = true) : b.Permits call c := by
  cases c with
  | orders r => cases r <;> first | exact h | cases h
  | bank r => cases h
  | _ => exact h

/-- A flow under the bill, which makes one request to the bank. -/
def under (b : Bill) (kind : FlowKind) (request : Option PaymentRequest) (call : Bank.Request) :
    Terms where
  kind := kind
  request := request
  known id := id = b.order
  order := b.Carries
  services v := b.On v.books
  permits := b.Permits call
  knows h := h.id
  closes h hcloses := h.alike hcloses.alike
  marks h hmarks := h.alike hmarks.alike
  replaces h := h
  routine := permits_of_isRoutine
  kept t h hc := h.undergo t hc
  found t h hid hfound := h.found t (hid ▸ hfound)

/-- The payment under its bill. -/
def terms (b : Bill) : Terms := b.under b.kind (some b.request) (b.kind.bankCall b.bankRequest)

theorem terms_bankCall {payment : PaymentRequest} (ho : b.terms.order o)
    (hpayment : b.terms.request = some payment) :
    b.terms.permits (.bank (b.terms.kind.bankCall
      ⟨o.id, o.userId, o.amount, payment.provider, payment.destination⟩)) := by
  have ho : b.Carries o := ho
  cases hpayment
  show b.kind.bankCall _ = b.kind.bankCall _
  unfold bankRequest
  rw [ho.id, ho.userId, ho.amount]

/-- A one-time password is entered for the order of the bill. -/
def resumed (b : Bill) (otp : String) : Terms := b.under .cashIn none (.verifyOtp b.order otp)

theorem resumed_verifyOtp {otp : String} (ho : (b.resumed otp).order o) :
    (b.resumed otp).permits (.bank (.verifyOtp o.id otp)) := by
  have ho : b.Carries o := ho
  show Bank.Request.verifyOtp o.id otp = .verifyOtp b.order otp
  rw [ho.id]

end Bill

/-- The terms of a payment that has not come to the bank yet: it does not call the bank. -/
def Terms.quiet (kind : FlowKind) (request : PaymentRequest) : Terms where
  kind := kind
  request := some request
  known _ := True
  order _ := True
  services _ := True
  permits c := c.isBank = false
  knows _ := trivial
  closes _ _ := trivial
  marks _ _ := trivial
  replaces _ := rfl
  routine {c} hc := by cases c <;> first | rfl | cases hc
  kept _ _ _ := trivial
  found _ _ _ _ := trivial

end Wallet
