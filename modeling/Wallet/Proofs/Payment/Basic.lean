import Wallet.Proofs.Flow.Smooth
import Wallet.Proofs.World.Tally

/-!
# Verdicts on payments

The answer of the bank to a payment is a verdict, and unless there is a mishap the verdict alone says
how the payment ends: what the caller is told, and how the order, its ledger record and the voucher
stand then. This module says what mishaps are and what each verdict means.
-/

namespace Wallet

/-! ## Mishaps -/

/-- Whether a refusal is a mishap: the collaborator is out of reach, an identifier is in use, the
ledger turns the record down, the voucher is not on offer, or the deadline has passed. What the bank
answers is no mishap. -/
def Call.mishap : Call → ServiceError → Bool
  | .bank _, _ => false
  | .orders (.create _), _ | .ledger (.init _), _ | .promotion _, _ => true
  | .orders (.process _), .expired _ => true
  | _, .unavailable _ => true
  | _, _ => false

/-- Whether an event is a mishap: a refusal that is one, a context that is found ended, or one that
cannot be made. -/
def Event.mishap : Event → Bool
  | ⟨.orders r, .error e⟩ => Call.mishap (.orders r) e
  | ⟨.ledger r, .error e⟩ => Call.mishap (.ledger r) e
  | ⟨.promotion r, .error e⟩ => Call.mishap (.promotion r) e
  | ⟨.hasEnded _, ended⟩ => ended
  | ⟨.budget _, .error _⟩ => true
  | _ => false

/-- There are no mishaps. -/
def Faults.fair : Faults := ⟨fun c e => c.mishap e = false, False, False⟩

theorem Faults.fair_inReach : Faults.fair.InReach := by
  intro c what h
  cases c with
  | bank r => exact ⟨r, rfl⟩
  | orders r | ledger r => cases r <;> cases h
  | _ => cases h

theorem Call.permits_fair {c : Call} {x : c.Answer} (h : Event.mishap ⟨c, x⟩ = false) :
    c.Permits .fair x := by
  cases c with
  | orders r | ledger r | promotion r =>
      cases x with
      | ok _ => trivial
      | error e => exact h
  | bank r =>
      cases x with
      | ok _ => trivial
      | error e => rfl
  | hasEnded c =>
      cases x with
      | true => cases h
      | false => trivial
  | budget d =>
      cases x with
      | ok _ => trivial
      | error e => cases h
  | _ => trivial

/-- Without mishaps nothing is undone too late. -/
theorem smooth_fair {events : List Event} (h : ∀ e ∈ events, e.mishap = false) :
    Smooth .fair events where
  permitted e he := Call.permits_fair (h e he)
  inTime := by
    rintro ⟨c, saga, hwithin⟩
    have hended := h ⟨.hasEnded c, true⟩ (hwithin.subset (by simp))
    cases hended

/-! ## Verdicts -/

/-- A request that a flow of a kind does not turn down. -/
structure PaymentRequest.Valid (kind : FlowKind) (request : PaymentRequest) : Prop where
  positive : request.amount.isPositive = true
  destination : kind = .interBankTransfer → request.destination.isSome = true

/-- What the answer of the bank means for a payment. -/
inductive Verdict where
  /-- The bank has moved the money. -/
  | paid
  /-- The bank waits for a one-time password. -/
  | awaiting
  /-- Nobody knows whether the bank has moved the money. -/
  | unknown
  /-- The bank has not moved the money. -/
  | refused (e : FlowError)
deriving DecidableEq

/-- The verdict of an answer to a payment of a kind. -/
def ClassifierRegistry.verdict (registry : ClassifierRegistry) (kind : FlowKind)
    (provider : ProviderCode) : Except ServiceError ProviderResponse → Verdict
  | .ok response =>
      match registry.classify (some provider) response.code with
      | .success => .paid
      | .verifying => .unknown
      | .needsOtp =>
          if kind = .cashIn then .awaiting
          else .refused (.bankRejected response.code response.reason)
      | .failure | .notEligibleForBypass | .maxOtpAttemptsExceeded | .wrongOtp =>
          .refused (.bankRejected response.code response.reason)
  | .error (.rejected reason) => .refused (.service (.rejected reason))
  | .error _ => .unknown

section

variable {registry : ClassifierRegistry} {kind : FlowKind} {provider : ProviderCode}
  {response : ProviderResponse}

theorem verdict_success (h : registry.classify (some provider) response.code = .success) :
    registry.verdict kind provider (.ok response) = .paid := by
  simp only [ClassifierRegistry.verdict, h]

theorem verdict_verifying (h : registry.classify (some provider) response.code = .verifying) :
    registry.verdict kind provider (.ok response) = .unknown := by
  simp only [ClassifierRegistry.verdict, h]

theorem FlowKind.otpAllowed_iff : kind.otpAllowed = true ↔ kind = .cashIn := by
  cases kind <;> decide

theorem verdict_needsOtp (h : registry.classify (some provider) response.code = .needsOtp)
    (hallowed : kind.otpAllowed = true) :
    registry.verdict kind provider (.ok response) = .awaiting := by
  simp only [ClassifierRegistry.verdict, h, FlowKind.otpAllowed_iff.mp hallowed, if_true]

theorem verdict_refused {outcome : Outcome}
    (h : registry.classify (some provider) response.code = outcome) (hsuccess : outcome ≠ .success)
    (hverifying : outcome ≠ .verifying) (hotp : ¬(outcome = .needsOtp ∧ kind.otpAllowed = true)) :
    registry.verdict kind provider (.ok response) =
      .refused (.bankRejected response.code response.reason) := by
  rw [FlowKind.otpAllowed_iff] at hotp
  simp only [ClassifierRegistry.verdict, h]
  cases outcome with
  | success => exact absurd rfl hsuccess
  | verifying => exact absurd rfl hverifying
  | needsOtp => exact if_neg fun hcashIn => hotp ⟨rfl, hcashIn⟩
  | _ => rfl

theorem verdict_error {e : ServiceError} (h : ∀ reason, e ≠ .rejected reason) :
    registry.verdict kind provider (.error e) = .unknown := by
  cases e with
  | rejected reason => exact absurd rfl (h reason)
  | _ => rfl

end

/-- What the bank is asked for an order that was made for a request. -/
def PaymentRequest.forBank (request : PaymentRequest) (id : OrderId) : BankRequest :=
  ⟨id, request.userId, request.amount, request.provider, request.destination⟩

/-- The tally once the voucher of a request, if it has one, is used for an order. -/
def Tally.withVoucher (t : Tally) (request : PaymentRequest) (o : Order) : Tally :=
  match request.voucherCode with
  | none => t
  | some code => t.use (Flow.voucherTrace o) code

/-- The tally once the voucher of a request, if it has one, is not used for an order. -/
def Tally.withoutVoucher (t : Tally) (request : PaymentRequest) (o : Order) : Tally :=
  match request.voucherCode with
  | none => t
  | some _ => t.takeBack (Flow.voucherTrace o)

/-- The tally once the bank has answered what it was asked for an order of a request. -/
def Tally.inquired (t : Tally) (kind : FlowKind) (request : PaymentRequest) (id : OrderId)
    (answer : Except ServiceError ProviderResponse) : Tally :=
  t.inquire (kind.bankCall (request.forBank id)) answer

namespace Tally

variable {request : PaymentRequest}

theorem inquire_withVoucher (t : Tally) (r : Bank.Request)
    (answer : Except ServiceError ProviderResponse) (request : PaymentRequest) (o : Order) :
    (t.withVoucher request o).inquire r answer = (t.inquire r answer).withVoucher request o := by
  unfold withVoucher
  cases request.voucherCode <;> rfl

theorem withVoucher_inquiries (t : Tally) (request : PaymentRequest) (o : Order) :
    (t.withVoucher request o).inquiries = t.inquiries := by
  unfold withVoucher
  cases request.voucherCode <;> rfl

theorem withoutVoucher_inquiries (t : Tally) (request : PaymentRequest) (o : Order) :
    (t.withoutVoucher request o).inquiries = t.inquiries := by
  unfold withoutVoucher
  cases request.voucherCode <;> rfl

theorem withVoucher_none (hcode : request.voucherCode.isSome = false) (t : Tally) (o : Order) :
    t.withVoucher request o = t := by
  have hnone : request.voucherCode = none := by simpa using hcode
  rw [withVoucher, hnone]

theorem withoutVoucher_none (hcode : request.voucherCode.isSome = false) (t : Tally) (o : Order) :
    t.withoutVoucher request o = t := by
  have hnone : request.voucherCode = none := by simpa using hcode
  rw [withoutVoucher, hnone]

/-- Taking the voucher back undoes its use. -/
theorem cancel_takeBack (hcode : request.voucherCode.isSome = true) (t : Tally) (o : Order) :
    (t.withVoucher request o).cancel.takeBack (Flow.voucherTrace o) =
      (t.withoutVoucher request o).cancel := by
  obtain ⟨code, hcode⟩ := Option.isSome_iff_exists.mp hcode
  simp only [withVoucher, withoutVoucher, hcode, use, takeBack, cancel, Function.update_idem]

end Tally

namespace Verdict

/-- The error of the flow that asked the bank, if it fails. -/
def error? (id : OrderId) : Verdict → Option FlowError
  | .paid | .awaiting => none
  | .unknown => some (.pending id)
  | .refused e => some e

/-- How an order, its record and the tally stand once a payment has ended. The voucher stays in use
unless the bank has refused; then the record has been cancelled, and nothing else. -/
def Settles (request : PaymentRequest) (asked : Tally) (o : Order) (t : Transaction)
    (after : Tally) : Verdict → Prop
  | .paid => o.status = .success ∧ t.status = .finish ∧ after = asked.withVoucher request o
  | .awaiting => o.status = .processing ∧ o.awaitingOtp = true ∧ t.state = .initial ∧
      after = asked.withVoucher request o
  | .unknown => o.status = .verifying ∧ t.status = .pending ∧ after = asked.withVoucher request o
  | .refused e => o.status = .failed ∧ o.failReason = some e.message ∧
      t.status = .failed ∧ t.failReason = some e.message ∧
      after = (asked.withoutVoucher request o).cancel

/-- What the caller is told, and that nothing was undone unless the flow has failed. -/
structure Concludes (id : OrderId) (r : FlowOutcome) (v : Verdict) : Prop where
  orderId : r.orderId = some id
  error : r.execution.error = (v.error? id).map (.failed "call_bank")
  nextAction : r.nextAction = if v = .awaiting then .enterOtp else .none
  completed : v.error? id = none →
    r.execution.state = .completed ∧ ∀ step ∈ r.execution.steps, step.compensation = none

/-- Nothing else is asked of the bank. -/
theorem Settles.inquiries {request : PaymentRequest} {asked after : Tally} {o : Order}
    {t : Transaction} {v : Verdict} (h : v.Settles request asked o t after) :
    after.inquiries = asked.inquiries := by
  cases v with
  | paid => rw [h.2.2, Tally.withVoucher_inquiries]
  | awaiting => rw [h.2.2.2, Tally.withVoucher_inquiries]
  | unknown => rw [h.2.2, Tally.withVoucher_inquiries]
  | refused e =>
      rw [h.2.2.2.2]
      exact asked.withoutVoucher_inquiries request o

end Verdict

/-- A payment has ended as the answer of the bank says. The tally was `before` and is `after`. -/
structure PaymentEnd (registry : ClassifierRegistry) (kind : FlowKind) (request : PaymentRequest)
    (before : Tally) (b : Books) (after : Tally) (r : FlowOutcome)
    (answer : Except ServiceError ProviderResponse) (o : Order) (t : Transaction) : Prop where
  stored : b.orders o.id = some o
  link : o.transactionId = some t.id
  record : b.records t.id = some t
  concludes : (registry.verdict kind request.provider answer).Concludes o.id r
  settles : (registry.verdict kind request.provider answer).Settles request
    (before.inquired kind request o.id answer) o t after

/-- The bank was asked once. -/
theorem PaymentEnd.asked {registry : ClassifierRegistry} {kind : FlowKind} {request : PaymentRequest}
    {before after : Tally} {b : Books} {r : FlowOutcome}
    {answer : Except ServiceError ProviderResponse} {o : Order} {t : Transaction}
    (h : PaymentEnd registry kind request before b after r answer o t) :
    after.inquiries = before.inquiries ++ [(kind.bankCall (request.forBank o.id), answer)] :=
  h.settles.inquiries

end Wallet
