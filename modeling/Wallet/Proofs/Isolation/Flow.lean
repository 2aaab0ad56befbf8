import Wallet.Proofs.Isolation.Play
import Wallet.Proofs.World.Run

/-!
# Calls are independent of all else

A call of a flow is run along two schedules that differ in nothing but the civil time, the state of the
worker pool and the identifiers that are made, and from two contents of the services that agree on the
entries the call is about. Then both runs end alike: with the same outcome, the same order, ledger record
and usage of a voucher, and the same entry in the log; and every other entry is left as it was.
-/

namespace Wallet

/-! ## What the runs start with -/

/-- The services can be reached alike, the ledger refuses alike, and the same vouchers are registered. -/
structure Services.SameTerms (v u : Services) : Prop where
  storeUnavailable : v.orders.unavailable = u.orders.unavailable
  ledgerUnavailable : v.ledger.unavailable = u.ledger.unavailable
  rejectInit : v.ledger.rejectInit = u.ledger.rejectInit
  failOnCancel : v.ledger.failOnCancel = u.ledger.failOnCancel
  vouchers : ∀ code, v.promotion.vouchers.get? code = u.promotion.vouchers.get? code

namespace FlowCall

def paying : FlowCall → Bool
  | .pay _ _ => true
  | .resume _ _ => false

/-- The services agree on the entries that the call is about. For a payment these are none, and nothing
is known of the identifiers that it is offered; a resumed flow finds the same order and the same linked
record. The deadline of the order passes at the same call of both schedules. -/
inductive Shares (config : FlowConfig) (left right : Schedule) (v u : Services) : FlowCall → Prop
  | pay {kind : FlowKind} {request : PaymentRequest}
      (deadline : ∀ n, left.SameDeadline right (config.deadlineFrom (left n).clock.tick)
        (config.deadlineFrom (right n).clock.tick))
      (leftUnused : ∀ n, v.Unused (left n).id) (rightUnused : ∀ n, u.Unused (right n).id) :
      Shares config left right v u (.pay kind request)
  | resume {id : OrderId} {otp : String}
      (stored : v.orders.get? id = u.orders.get? id)
      (filed : ∀ o, v.orders.get? id = some o → o.id = id)
      (deadline : ∀ o, v.orders.get? id = some o → left.SameDeadline right o.expiredAt o.expiredAt)
      (linked : ∀ o a, v.orders.get? id = some o → o.transactionId = some a →
        v.ledger.get? a = u.ledger.get? a) :
      Shares config left right v u (.resume id otp)

/-- The identifiers of the order and the ledger record of the call in both runs: those that have been
made for a payment, and those of the order that is resumed. -/
def Owns (left right : Schedule) (v : Services) (order : Option (OrderId × OrderId))
    (record : Option (TransactionId × TransactionId)) : FlowCall → Prop
  | .pay _ _ => Pairing.Made left right OrderId.mk none order ∧
      Pairing.Made left right TransactionId.mk none record
  | .resume id _ => order = some (id, id) ∧
      record = ((v.orders.get? id).bind Order.transactionId).map fun a => (a, a)

end FlowCall

namespace Pairing

open Wallet.Flow

variable {ρ : Pairing}

/-! ## What the runs end with -/

/-- How the runs of a call have ended: both have crashed, with nothing logged, or both have ended with the
same outcome, the same entries of the call, and the same record in the log. -/
inductive Concluded (ρ : Pairing) : Except Crash FlowOutcome × Services →
    Except Crash FlowOutcome × Services → Prop
  | crashed {v u : Services} (crash : Crash) (services : ρ.InStep v u) :
      Concluded ρ (.error crash, v) (.error crash, u)
  | played {x x' : FlowOutcome} {v u : Services} {r r' : ExecutionRecord}
      (outcome : ρ.SameOutcome x x') (entries : ρ.SameEntries v u) (record : ρ.SamePlay r r')
      (left : v.log = ρ.leftStart.log.sendAll r ρ.leftStart.sinks)
      (right : u.log = ρ.rightStart.log.sendAll r' ρ.rightStart.sinks) :
      Concluded ρ (.ok x, v) (.ok x', u)

/-- Once a play has been enacted it goes into the log, and no entry is changed. -/
theorem run_play_of_enact {schedule : Schedule} {saga : Saga FlowError FlowM}
    {operation compensation : Context} {s t : FlowState} {p : Nat × Services}
    {x : Execution FlowError} {m : Nat} {v : Services}
    (h : schedule.run ((saga.enact conductor operation compensation).run s) p = ((x, t), m, v)) :
    ∃ w, schedule.run ((saga.play conductor operation compensation).run s) p =
        ((x, t), m + 2, w) ∧
      w.orders = v.orders ∧ w.ledger = v.ledger ∧ w.promotion = v.promotion ∧
      w.log = v.log.sendAll ⟨x.sagaName, x.steps, (schedule m).clock.tick⟩ v.sinks := by
  have hrecord : (v.undergo (schedule m) (.record x.sagaName x.steps)).2 =
      (v.around (schedule m)).recordPlay x.sagaName x.steps := by
    unfold Services.undergo
    cases (schedule m).fault <;> rfl
  have hsample (v : Services) (metric : Metric) :
      (v.undergo (schedule (m + 1)) (.sample metric)).2 =
        { v.around (schedule (m + 1)) with metrics := v.metrics.sample metric } := by
    unfold Services.undergo
    cases (schedule (m + 1)).fault <;> rfl
  rw [Saga.play_eq_enact, StateT.run_bind, Schedule.run_bind, h]
  refine ⟨((v.undergo (schedule m) (.record x.sagaName x.steps)).2.undergo (schedule (m + 1))
    (.sample (Saga.metric "saga_duration_seconds" x.sagaName))).2, rfl, ?_⟩
  rw [hsample, hrecord]
  exact ⟨rfl, rfl, rfl, rfl⟩

theorem SameExecution.isSuccess {x x' : Execution FlowError} (h : ρ.SameExecution x x') :
    x.isSuccess = x'.isSuccess := by
  have herror := h.error
  unfold Execution.isSuccess
  generalize x.error = e at herror ⊢
  generalize x'.error = e' at herror ⊢
  cases herror <;> rfl

theorem outcome_same {s t : FlowState} {x x' : Execution FlowError} (hstate : ρ.SameState s t)
    (hx : ρ.SameExecution x x') : ρ.SameOutcome (outcome s x) (outcome t x') where
  orderId := by
    have horder := hstate.order
    have hresumed := hstate.resumed
    show Option.Rel _ (s.order.map Order.id <|> s.resume) (t.order.map Order.id <|> t.resume)
    rw [← hstate.resume]
    generalize s.order = o at horder ⊢
    generalize t.order = o' at horder ⊢
    cases horder with
    | some ho => exact .some ho.id
    | none =>
        cases hresume : s.resume with
        | none => exact .none
        | some id => exact .some (hresumed id hresume)
  nextAction := by
    show nextAction s x = nextAction t x'
    unfold nextAction
    rw [hx.isSuccess, hstate.awaitingOtp]
  execution := hx

/-- A flow whose steps lead through identifiers of the call ends alike in both runs. -/
theorem Course.flow {P T : Pairing → Prop} (settings : FlowSettings) (saga : Saga FlowError FlowM)
    (operation : Context) {s : FlowState} (h : Course T P saga.steps) (hP : P ρ)
    (hstate : ρ.SameState s s) (n : Nat) {v u : Services} (hstep : ρ.InStep v u) :
    let l := ρ.left.run (play settings saga s operation) (n, v)
    let r := ρ.right.run (play settings saga s operation) (n, u)
    ∃ ρ', ρ.Grows ρ' ∧ T ρ' ∧ ρ'.Concluded (l.1, l.2.2) (r.1, r.2.2) := by
  obtain ⟨hbudget, hstep⟩ := answered_budget settings.config.compensationTimeout n hstep
  unfold play
  simp only [Schedule.run_bind, Program.request, Schedule.run_call, Schedule.run_done]
  rw [hbudget]
  generalize (v.undergo (ρ.left n) (.budget settings.config.compensationTimeout)).2 = v at hstep ⊢
  generalize u.undergo (ρ.right n) (.budget settings.config.compensationTimeout) = answered
    at hstep ⊢
  obtain ⟨opened, u⟩ := answered
  cases opened with
  | error crash => exact ⟨ρ, .refl ρ, h.stop hP, .crashed crash hstep⟩
  | ok compensation =>
      obtain ⟨ρ', hgrows, henacted⟩ :=
        h.enact hP operation compensation s s hstate (n + 1) hstep
      rcases hl : ρ.left.run ((saga.enact conductor operation compensation).run s) (n + 1, v) with
        ⟨⟨x, t⟩, m, v'⟩
      rcases hr : ρ.right.run ((saga.enact conductor operation compensation).run s) (n + 1, u) with
        ⟨⟨x', t'⟩, m', u'⟩
      obtain ⟨w, hleft, horders, hledger, hpromotion, hlog⟩ := run_play_of_enact hl
      obtain ⟨w', hright, horders', hledger', hpromotion', hlog'⟩ := run_play_of_enact hr
      rw [hl, hr] at henacted
      obtain ⟨⟨⟨hT, hx⟩, hstate⟩, hcalls, hstep⟩ := henacted
      have hstep : ρ'.InStep v' u' := hstep
      rw [hstep.leftLog, hstep.leftSinks] at hlog
      rw [hstep.rightLog, hstep.rightSinks] at hlog'
      have hentries : ρ'.SameEntries w w' := {
        orders := by
          rw [horders, horders']
          exact hstep.orders
        ledger := by
          rw [hledger, hledger']
          exact hstep.ledger
        promotion := by
          rw [hpromotion, hpromotion']
          exact hstep.promotion }
      simp only [Schedule.run_bind, hleft, hright]
      refine ⟨ρ', hgrows, hT, .played (outcome_same hstate hx) hentries ?_ hlog hlog'⟩
      exact ⟨hx.sagaName, hx.steps⟩

/-! ## The flows -/

theorem finalSteps_course {T P : Pairing → Prop} (hkeeps : ∀ {ρ}, P ρ → T ρ) :
    Course T P finalSteps :=
  .throughStep hkeeps (reaches_of_agrees confirmLedger_agrees)
    (.throughStep hkeeps (reaches_of_agrees successOrder_agrees) (.nil hkeeps))

theorem paymentSteps_course (settings : FlowSettings) (withVoucher : Bool) :
    Course (fun ρ => ρ.Fresh settings.config)
      (fun ρ => ρ.Fresh settings.config ∧ ρ.order = none ∧ ρ.record = none)
      (paymentSteps settings withVoucher) := by
  -- until the record is registered its identifiers are unknown
  have hbank : Course (fun ρ => ρ.Fresh settings.config) (fun ρ => ρ.Fresh settings.config)
      (step "call_bank" (callBank settings) :: finalSteps) :=
    .throughStep id (fun hP => reaches_of_agrees (callBank_agrees settings) hP)
      (finalSteps_course id)
  have hledger : Course (fun ρ => ρ.Fresh settings.config)
      (fun ρ => ρ.Fresh settings.config ∧ ρ.record = none)
      (undoableStep "init_ledger" initLedger cancelLedger ::
        step "call_bank" (callBank settings) :: finalSteps) :=
    .throughUndoable And.left (fun hP => initLedger_reaches hP.1 hP.2)
      (fun _ => cancelLedger_agrees) hbank
  have hvoucher : Course (fun ρ => ρ.Fresh settings.config)
      (fun ρ => ρ.Fresh settings.config ∧ ρ.record = none)
      (voucherSteps withVoucher ++ undoableStep "init_ledger" initLedger cancelLedger ::
        step "call_bank" (callBank settings) :: finalSteps) := by
    cases withVoucher with
    | false => exact hledger
    | true =>
        exact .throughUndoable And.left
          (fun hP => reaches_of_agrees (applyVoucher_agrees hP.1.paying) hP)
          (fun hT => reverseVoucher_agrees hT.paying) hledger
  unfold paymentSteps
  rw [List.append_assoc, List.append_assoc, List.cons_append, List.cons_append]
  exact .throughStep And.left (fun hP => initOrder_reaches hP.1 hP.2.1 hP.2.2)
    (.throughUndoable And.left (fun hP => reaches_of_agrees processOrder_agrees hP)
      (fun _ => failOrder_agrees) hvoucher)

theorem otpSteps_course (settings : FlowSettings) (otp : String) (ρ₀ : Pairing) :
    Course (fun ρ => ρ = ρ₀) (fun ρ => ρ = ρ₀) (otpSteps settings otp) := by
  have hverify : Course (fun ρ => ρ = ρ₀) (fun ρ => ρ = ρ₀)
      (undoableStep "verify_otp" (verifyOtp settings otp) abortOtp :: finalSteps) :=
    .throughUndoable id (fun hP => reaches_of_agrees (verifyOtp_agrees settings otp) hP)
      (fun _ => abortOtp_agrees) (finalSteps_course id)
  exact .throughStep id (fun hP => reaches_of_agrees loadOrder_agrees hP) hverify

/-- A payment ends alike in both runs, once its identifiers are known. -/
theorem pay_concluded (settings : FlowSettings) (kind : FlowKind) (request : PaymentRequest)
    (operation : Context) (hfresh : ρ.Fresh settings.config) (horder : ρ.order = none)
    (hrecord : ρ.record = none) (n : Nat) {v u : Services} (hstep : ρ.InStep v u) :
    let l := ρ.left.run (pay settings kind request operation) (n, v)
    let r := ρ.right.run (pay settings kind request operation) (n, u)
    ∃ ρ', ρ.Grows ρ' ∧ ρ'.Concluded (l.1, l.2.2) (r.1, r.2.2) := by
  have hstate : ρ.SameState (.starting kind request) (.starting kind request) :=
    ⟨rfl, rfl, rfl, nofun, .none, .none, rfl, rfl, rfl, rfl, .none⟩
  obtain ⟨ρ', hgrows, -, hends⟩ := Course.flow settings
    ⟨kind.name, paymentSteps settings request.voucherCode.isSome⟩ operation
    (paymentSteps_course settings _) ⟨hfresh, horder, hrecord⟩ hstate n hstep
  exact ⟨ρ', hgrows, hends⟩

/-- A flow that resumes the order of the call ends alike in both runs. -/
theorem resume_concluded (settings : FlowSettings) (id : OrderId) (otp : String)
    (operation : Context) (hown : ρ.order = some (id, id)) (n : Nat) {v u : Services}
    (hstep : ρ.InStep v u) :
    let l := ρ.left.run (resumeCashIn settings id otp operation) (n, v)
    let r := ρ.right.run (resumeCashIn settings id otp operation) (n, u)
    ρ.Concluded (l.1, l.2.2) (r.1, r.2.2) := by
  have hstate : ρ.SameState (.resuming .cashIn id) (.resuming .cashIn id) :=
    ⟨rfl, rfl, rfl, fun _ hid => by cases hid; exact hown, .none, .none, rfl, rfl, rfl, rfl, .none⟩
  obtain ⟨ρ', _, hsame, hends⟩ := Course.flow settings
    ⟨"cash_in_verify_otp", otpSteps settings otp⟩ operation (otpSteps_course settings otp ρ) rfl
    hstate n hstep
  exact hsame ▸ hends

/-! ## The start of the runs -/

theorem SameOrder.refl {o : Order} (hid : ρ.order = some (o.id, o.id))
    (hlink : ∀ a, o.transactionId = some a → ρ.record = some (a, a))
    (hdeadline : ρ.left.SameDeadline ρ.right o.expiredAt o.expiredAt) : ρ.SameOrder o o where
  id := hid
  link := by
    cases hlinked : o.transactionId with
    | none => exact .none
    | some a => exact .some (hlink a hlinked)
  deadline := hdeadline
  failReason := by
    cases o.failReason with
    | none => exact .none
    | some reason => exact .some (.same reason)
  rest := rfl

theorem SameRecord.refl (t : Transaction) : ρ.SameRecord t t where
  id := .inl rfl
  orderId := .inl rfl
  failReason := by
    cases t.failReason with
    | none => exact .none
    | some reason => exact .some (.same reason)
  rest := rfl

/-- The runs start in step if they find the same entries of the call. -/
theorem inStep_start (hterms : ρ.leftStart.SameTerms ρ.rightStart)
    (horder : ∀ {a b}, ρ.order = some (a, b) →
      Option.Rel ρ.SameOrder (ρ.leftStart.orders.get? a) (ρ.rightStart.orders.get? b))
    (hrecord : ∀ {a b}, ρ.record = some (a, b) →
      Option.Rel ρ.SameRecord (ρ.leftStart.ledger.get? a) (ρ.rightStart.ledger.get? b))
    (husage : ∀ {a b}, ρ.order = some (a, b) → ρ.paying = false) :
    ρ.InStep ρ.leftStart ρ.rightStart where
  orders := ⟨hterms.storeUnavailable, horder, fun _ _ => rfl, fun _ _ => rfl⟩
  ledger := ⟨hterms.ledgerUnavailable, hterms.rejectInit, hterms.failOnCancel, hrecord,
    fun _ _ => rfl, fun _ _ => rfl⟩
  promotion := ⟨hterms.vouchers,
    fun hown hpaying => absurd (hpaying.symm.trans (husage hown)) (by decide),
    fun _ _ => rfl, fun _ _ => rfl, rfl, rfl⟩
  leftLog := rfl
  rightLog := rfl
  leftSinks := rfl
  rightSinks := rfl

end Pairing

/-- **Calls are independent of all else.** A call of a flow is run along two schedules that are alike,
from two contents of the services with the same terms that agree on the entries the call is about. There
are identifiers of the call in both runs such that the runs end alike. -/
theorem FlowCall.isolated (call : FlowCall) (settings : FlowSettings) (operation : Context)
    {left right : Schedule} (halike : ∀ n, (left n).Alike (right n)) {v u : Services}
    (hterms : v.SameTerms u) (hshares : call.Shares settings.config left right v u) (n : Nat) :
    ∃ order record, call.Owns left right v order record ∧
      let ρ : Pairing := ⟨left, right, halike, v, u, call.paying, order, record⟩
      let l := left.run (call.program settings operation) (n, v)
      let r := right.run (call.program settings operation) (n, u)
      ρ.Concluded (l.1, l.2.2) (r.1, r.2.2) := by
  cases hshares with
  -- nothing is known of the identifiers of a payment, so there is no entry yet to agree on
  | @pay kind request hdeadline hleft hright =>
      obtain ⟨ρ', hgrows, hends⟩ := Pairing.pay_concluded
        (ρ := ⟨left, right, halike, v, u, true, none, none⟩) settings kind request operation
        ⟨rfl, hdeadline, hleft, hright⟩ rfl rfl n (Pairing.inStep_start hterms nofun nofun nofun)
      rw [hgrows.eq] at hends
      exact ⟨ρ'.order, ρ'.record, ⟨hgrows.madeOrder, hgrows.madeRecord⟩, hends⟩
  | @resume id otp hstored hfiled hdeadline hlinked =>
      refine ⟨_, _, ⟨rfl, rfl⟩, Pairing.resume_concluded settings id otp operation rfl n
        (Pairing.inStep_start hterms ?_ ?_ fun _ => rfl)⟩
      · intro a b hown
        cases hown
        show Option.Rel _ (v.orders.get? id) (u.orders.get? id)
        rw [← hstored]
        cases hfound : v.orders.get? id with
        | none => exact .none
        | some o =>
            refine .some (.refl ?_ ?_ (hdeadline o hfound))
            · rw [hfiled o hfound]
            · intro a hlink
              simp [hlink]
      · intro a b hown
        obtain ⟨_, hlink, heq⟩ := Option.map_eq_some_iff.mp hown
        cases heq
        obtain ⟨o, hfound, hlink⟩ := Option.bind_eq_some_iff.mp hlink
        show Option.Rel _ (v.ledger.get? a) (u.ledger.get? a)
        rw [← hlinked o a hfound hlink]
        cases v.ledger.get? a with
        | none => exact .none
        | some t => exact .some (.refl t)

/-! ### A cash-in beside somebody else's orders -/

namespace FlowCall

/-- A cash-in that uses a voucher. -/
def payInUsing : FlowCall :=
  .pay .cashIn ⟨default, (Money.ofInt? 200000).getD .zero, .of "BIDV", some "TET", .wallet, none⟩

/-- Services that nobody has called, with one voucher. -/
def unvisited : Services :=
  { Services.start .standard [.memory] default with
    promotion := Promotion.empty.addVoucher "TET" ((Money.ofInt? 20000).getD .zero) }

/-- The same services with an order, a record and a usage of somebody else. -/
def visited : Services :=
  let order := Order.create ⟨.ofNat 7⟩ default default .cashOut .zero default
  { unvisited with
    orders := OrderStore.empty.insert order
    ledger := Ledger.empty.insert (Transaction.create ⟨.ofNat 8⟩ default order.id .zero)
    promotion := { unvisited.promotion with
      usages := Table.empty.put (toString order.id) ⟨"TET", .zero, toString order.id⟩ } }

/-- The bank agrees, and no slot of the pool is taken. -/
def quiet : Schedule := fun _ => .fair (.ofNat 1) "200"

/-- The bank agrees, but the pool is full. -/
def crowded : Schedule := fun _ => { Occasion.fair (.ofNat 2) "200" with pool := ⟨32, 0, [], 0⟩ }

theorem quiet_alike (n : Nat) : (quiet n).Alike (crowded n) := ⟨rfl, rfl, rfl⟩

/-- The cash-in succeeds in quiet, and so it ends alike in a crowd. -/
theorem isolated_crowded :
    let program := payInUsing.program ⟨.standard, .standard⟩ .background
    let l := quiet.run program (0, unvisited)
    let r := crowded.run program (0, visited)
    l.1.toOption.any FlowOutcome.isSuccess = true ∧
      ∃ order record, payInUsing.Owns quiet crowded unvisited order record ∧
        (Pairing.mk quiet crowded quiet_alike unvisited visited true order record).Concluded
          (l.1, l.2.2) (r.1, r.2.2) := by
  have hterms : unvisited.SameTerms visited := ⟨rfl, rfl, rfl, rfl, fun _ => rfl⟩
  have hunused : visited.Unused (.ofNat 2) := ⟨rfl, rfl, by decide +kernel⟩
  have hshares : payInUsing.Shares .standard quiet crowded unvisited visited :=
    .pay (fun _ _ => rfl) (fun _ => ⟨rfl, rfl, rfl⟩) (fun _ => hunused)
  exact ⟨by decide +kernel,
    isolated payInUsing ⟨.standard, .standard⟩ .background quiet_alike hterms hshares 0⟩

end FlowCall

end Wallet
