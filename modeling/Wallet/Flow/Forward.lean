import Wallet.Flow.Park

/-!
# The steps of the flows

What each step of a flow does. Everything a step learns it keeps in the state of the flow.
-/

namespace Wallet

/-- The order that a flow makes of a request. -/
def PaymentRequest.draft (request : PaymentRequest) (kind : FlowKind) (id : OrderId)
    (now expiredAt : Timestamp) : Order :=
  { Order.create id now request.userId kind.orderType request.amount expiredAt with
    provider := some request.provider, sourceOfFund := request.sourceOfFund }

namespace Flow

open StepM

/-- Makes the order. -/
def initOrder (settings : FlowSettings) : StepM Unit := do
  let kind := (← get).kind
  let request ← request
  if !request.amount.isPositive then
    throw (.invalidRequest "amount must be positive")
  if kind = .interBankTransfer ∧ request.destination.isNone then
    throw (.invalidRequest Bank.noDestination)
  let now ← perform .now
  let id ← perform (.request .freshOrderId)
  keep (← ask (.orders (.create
    (request.draft kind id now (settings.config.deadlineFrom now)))))

/-- Starts processing the order, unless its deadline has passed. -/
def processOrder : StepM Unit := do
  let order ← order
  let order ← accept (order.startProcessing (← perform .now))
  keep (← ask (.orders (.process order)))

/-- The trace id under which the voucher of an order is used. -/
def voucherTrace (o : Order) : String := toString o.id

/-- Uses the voucher of the request, if it has one. -/
def applyVoucher : StepM Unit := do
  match (← get).request.bind PaymentRequest.voucherCode with
  | none => pure ()
  | some code => do
      let order ← order
      match ← perform
          (.promotion (.useVoucher code order.userId (voucherTrace order) order.amount)) with
      | .ok discount => modify fun s => { s with discount := some discount }
      | .error e => throw (.ofVoucherError e)

/-- The ledger record of an order. -/
def intent (kind : FlowKind) (discount : Option Discount) (o : Order) (id : TransactionId)
    (now : Timestamp) : Transaction :=
  { Transaction.create id now o.id o.amount with
    discount := (discount.map Discount.amount).getD .zero
    payeeId := if kind.creditsUser then some o.userId else none
    payerId := if kind.creditsUser then none else some o.userId }

/-- Registers the ledger record and links the order to it. -/
def initLedger : StepM Unit := do
  let order ← order
  let state ← get
  let id ← perform (.request .freshTransactionId)
  let now ← perform .now
  let record ← ask (.ledger (.init (intent state.kind state.discount order id now)))
  let linked ← accept (order.linkTransaction record.id (← perform .now))
  store linked

/-- Goes on as the bank's answer is classified. -/
def handleAnswer (settings : FlowSettings) (response : ProviderResponse) : StepM Unit := do
  let order ← order
  let outcome := settings.classifiers.classify order.provider response.code
  modify fun s => { s with outcome := some outcome }
  match outcome.kind with
  | .success => pure ()
  | .pending => park response.reason
  | .failure => throw (.bankRejected response.code response.reason)
  | .needsAuth => do
      if outcome = .needsOtp ∧ (← get).kind.otpAllowed then
        store (← accept (order.markAwaitingOtp (← perform .now)))
        modify fun s => { s with awaitingOtp := true }
      else
        throw (.bankRejected response.code response.reason)

/-- Stores the trace id of an answer that has one. -/
def keepTrace (order : Order) (response : ProviderResponse) : StepM Unit := do
  match response.traceId with
  | none => pure ()
  | some traceId => store (order.setBankTraceId traceId (← perform .now))

/-- Asks the bank to move the money. Only a refusal means that it has not. -/
def callBank (settings : FlowSettings) : StepM Unit := do
  let order ← order
  let payment ← request
  let kind := (← get).kind
  let answer ← perform (.bank (kind.bankCall
    ⟨order.id, order.userId, order.amount, payment.provider, payment.destination⟩))
  match answer with
  | .ok response => do
      keepTrace order response
      handleAnswer settings response
  | .error (.rejected reason) => throw (.service (.rejected reason))
  | .error e => park s!"bank call did not complete: {e.message}"

/-- Confirms the ledger record, unless a one-time password is awaited. The bank has moved the money
already, so the order is parked when the ledger does not confirm. -/
def confirmLedger : StepM Unit := do
  if (← get).awaitingOtp then pure ()
  else
    let id ← transactionId
    match ← perform (.ledger (.confirm id)) with
    | .ok _ => pure ()
    | .error e => park (unconfirmed e)

/-- Ends the order, or tells the user to enter the one-time password. -/
def successOrder : StepM Unit := do
  let order ← order
  if (← get).awaitingOtp then
    notify order .otpRequired "enter the OTP sent by your bank"
  else
    let order ← accept (order.succeed (← perform .now))
    let order ← ask (.orders (.replace order))
    notify order .orderSucceeded "order completed"
    keep order

/-! ## Resuming an order -/

/-- Whether an order waits for a one-time password of this kind of flow. -/
def isResumable (kind : FlowKind) (o : Order) : Bool :=
  o.type == kind.orderType && o.awaitingOtp && o.transactionId.isSome

/-- Loads an order that waits for a one-time password. -/
def loadOrder : StepM Unit := do
  let state ← get
  match state.resume with
  | none => throw (.invalidRequest "no order to resume")
  | some id => do
      let order ← stored id
      if order.isPastDeadline (← perform .now) then throw (.service (.expired id))
      else if isResumable state.kind order then keep order
      else throw (.otpRejected s!"order {id} is not awaiting an OTP")

/-- Hands the one-time password to the bank. -/
def verifyOtp (settings : FlowSettings) (otp : String) : StepM Unit := do
  let order ← order
  match ← perform (.bank (.verifyOtp order.id otp)) with
  | .error e => park s!"OTP verification did not complete: {e.message}"
  | .ok response => do
      let outcome := settings.classifiers.classify order.provider response.code
      modify fun s => { s with outcome := some outcome }
      match outcome with
      | .success => pure ()
      | .wrongOtp | .needsOtp => do
          modify fun s => { s with retryAllowed := true }
          throw (.otpRejected "wrong OTP, please try again")
      | .maxOtpAttemptsExceeded => throw (.otpRejected "too many wrong OTP attempts")
      | .notEligibleForBypass => throw (.otpRejected "OTP is required for this transaction")
      | .verifying => park response.reason
      | .failure => throw (.bankRejected response.code response.reason)

end Flow

end Wallet
