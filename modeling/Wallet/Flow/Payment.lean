import Wallet.Flow.Rollback
import Wallet.Saga.Play

/-!
# The flows

A flow is a saga over the steps above. The four flows that move money differ in their kind and in
whether a voucher is applied; a cash-in that waits for a one-time password is resumed by a saga of
its own.
-/

namespace Wallet

/-- What a flow came to. -/
structure FlowOutcome where
  /-- The order, once there is one. -/
  orderId : Option OrderId
  nextAction : NextAction
  execution : Execution FlowError

namespace FlowOutcome

def isSuccess (o : FlowOutcome) : Bool := o.execution.isSuccess

/-- Whether the order was parked. -/
def isPending (o : FlowOutcome) : Bool :=
  (o.execution.error.bind ExecutionError.domainError?).any FlowError.isPending

end FlowOutcome

namespace Flow

/-- Keeps the first error of any action as the reason for what is undone. -/
def keepReason (r : Except FlowError Unit) (s : FlowState) : FlowState :=
  match r with
  | .ok () => s
  | .error e => { s with failureReason := s.failureReason <|> some e.message }

/-- The part of a step as an action. -/
def action (part : StepM Unit) : Action FlowError FlowM := fun _ => do
  let result ← part.run
  modify (keepReason result)
  pure result

def step (name : String) (forward : StepM Unit) : Step FlowError FlowM :=
  { Step.named name with forward := some (action forward) }

def undoableStep (name : String) (forward compensate : StepM Unit) : Step FlowError FlowM :=
  { step name forward with compensate := some (action compensate) }

/-- The steps with which every flow ends once the bank has moved the money. -/
def finalSteps : List (Step FlowError FlowM) :=
  [step "confirm_ledger" confirmLedger, step "success_order" successOrder]

/-- The step that uses a voucher, if there is one. -/
def voucherSteps (withVoucher : Bool) : List (Step FlowError FlowM) :=
  if withVoucher then [undoableStep "apply_voucher" applyVoucher reverseVoucher] else []

/-- The steps of a flow that moves money. -/
def paymentSteps (settings : FlowSettings) (withVoucher : Bool) : List (Step FlowError FlowM) :=
  [step "init_order" (initOrder settings), undoableStep "process_order" processOrder failOrder] ++
    voucherSteps withVoucher ++
    [undoableStep "init_ledger" initLedger cancelLedger, step "call_bank" (callBank settings)] ++
    finalSteps

/-- The steps that resume a cash-in. -/
def otpSteps (settings : FlowSettings) (otp : String) : List (Step FlowError FlowM) :=
  [step "load_order" loadOrder, undoableStep "verify_otp" (verifyOtp settings otp) abortOtp] ++
    finalSteps

/-- A flow conducts its saga through the collaborators. -/
def conductor : Conductor FlowM where
  clocks := StateT.lift (.request .clocks)
  hasEnded c := StateT.lift (.request (.hasEnded c))
  count metric := StateT.lift (.count metric)
  sample metric := StateT.lift (.request (.sample metric))
  record saga outcomes := StateT.lift (.request (.record saga outcomes))

def nextAction (s : FlowState) (x : Execution FlowError) : NextAction :=
  if x.isSuccess && s.awaitingOtp then .enterOtp else .none

/-- The outcome of a flow from its state and its execution. -/
def outcome (s : FlowState) (x : Execution FlowError) : FlowOutcome :=
  ⟨s.order.map Order.id <|> s.resume, nextAction s x, x⟩

/-- Plays a saga under the operation context and a new compensation context. -/
def play (settings : FlowSettings) (saga : Saga FlowError FlowM) (state : FlowState)
    (operation : Context) : Program (Except Crash FlowOutcome) := do
  match ← Program.request (.budget settings.config.compensationTimeout) with
  | .error crash => pure (.error crash)
  | .ok compensation => do
      let (x, s) ← (saga.play conductor operation compensation).run state
      pure (.ok (outcome s x))

/-- Runs a flow that moves money. -/
def pay (settings : FlowSettings) (kind : FlowKind) (request : PaymentRequest)
    (operation : Context) : Program (Except Crash FlowOutcome) :=
  play settings ⟨kind.name, paymentSteps settings request.voucherCode.isSome⟩
    (.starting kind request) operation

/-- Goes on with a cash-in that waits for a one-time password. -/
def resumeCashIn (settings : FlowSettings) (id : OrderId) (otp : String) (operation : Context) :
    Program (Except Crash FlowOutcome) :=
  play settings ⟨"cash_in_verify_otp", otpSteps settings otp⟩ (.resuming .cashIn id) operation

end Flow

end Wallet
