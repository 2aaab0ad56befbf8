import Wallet.Proofs.Flow.Path

/-!
# Chains of steps

A path on which it does not matter why a play stops, nor whether there is still time to undo it.
Between two steps an assertion holds, and beside it stands another one: that which holds again once
the steps so far have been undone, whatever the error. A `Chain` lists both for all steps.
-/

namespace Wallet

namespace Flow

/-- Something said of the state of a flow and the past that conducting a play does not disturb. -/
structure Assertion where
  Holds : FlowState → Past → Prop
  conduct : ∀ {s : FlowState} {p : Past} {c : Call} (x : c.Answer), c.Conducts → Holds s p →
    Holds s (p.note c x)
  reason : ∀ {s : FlowState} {p : Past} (reason : Option String), Holds s p →
    Holds { s with failureReason := reason } p

instance : CoeFun Assertion fun _ => FlowState → Past → Prop := ⟨Assertion.Holds⟩

/-- What holds at the end of a part, which may have failed. -/
def Either (B R : FlowState → Past → Prop) (r : Except FlowError Unit) (s : FlowState) (p : Past) :
    Prop :=
  match r with
  | .ok () => B s p
  | .error _ => R s p

theorem Ensures.either {part : StepM Unit} {s : FlowState} {p : Past} {B R : FlowState → Past → Prop}
    (h : Ensures part s p fun _ s p => B s p) (hstop : ∀ {s p}, B s p → R s p) :
    Ensures part s p (Either B R) := by
  apply h.mono
  intro r s p h
  cases r with
  | ok u => exact h
  | error e => exact hstop h

/-- Undoing a step leads from `S` back to `R`, and so does leaving it as it is. -/
structure LeadsBack (step : Step FlowError FlowM) (S R : Assertion) : Prop where
  left : ∀ {s p}, S s p → R s p
  undone : ∀ {action}, step.compensate = some action → ∀ {c s p}, S s p →
    Ends (action c) s p fun _ s p => R s p

/-- A chain leads through the steps of a saga from `A` to `B`. A play that stops on the way leads
back to `R`; one that stopped after the last step would have to be undone from `S`. -/
inductive Chain : Assertion → Assertion → List (Step FlowError FlowM) → Assertion → Assertion →
    Prop where
  | nil (A R : Assertion) : Chain A R [] A R
  | cons {A R B S C T : Assertion} {step : Step FlowError FlowM}
      {rest : List (Step FlowError FlowM)} : (∀ {s p}, A s p → R s p) →
      (∀ {c s p}, A s p → Ends (step.runForward c) s p (Either B S)) → LeadsBack step S R →
      Chain B S rest C T → Chain A R (step :: rest) C T

section

variable {s : FlowState} {p : Past} {A B R S : Assertion}

/-- The error of an action is kept as a reason, and no assertion is about that. -/
theorem ends_either {part : StepM Unit} (c : Context) (h : Ensures part s p (Either B S)) :
    Ends (action part c) s p (Either B S) := by
  rw [ends_action]
  apply h.mono
  intro r s p hr
  cases r with
  | ok u => exact hr
  | error e => exact S.reason _ hr

namespace Chain

variable {C T : Assertion} {name : String} {rest : List (Step FlowError FlowM)}

theorem step {forward : StepM Unit} (hstop : ∀ {s p}, A s p → R s p)
    (hforward : ∀ {s p}, A s p → Ensures forward s p (Either B S))
    (hback : ∀ {s p}, S s p → R s p) (hrest : Chain B S rest C T) :
    Chain A R (Flow.step name forward :: rest) C T :=
  .cons hstop (@fun c _ _ hA => ends_either c (hforward hA)) ⟨hback, fun h => by cases h⟩ hrest

theorem undoableStep {forward compensate : StepM Unit} (hstop : ∀ {s p}, A s p → R s p)
    (hforward : ∀ {s p}, A s p → Ensures forward s p (Either B S))
    (hback : ∀ {s p}, S s p → R s p)
    (hundo : ∀ {s p}, S s p → Ensures compensate s p fun _ s p => R s p)
    (hrest : Chain B S rest C T) :
    Chain A R (Flow.undoableStep name forward compensate :: rest) C T := by
  refine .cons hstop (@fun c _ _ hA => ends_either c (hforward hA)) ⟨hback, fun h => ?_⟩ hrest
  cases h
  intro c s p hS
  refine Ends.mono (ends_either (B := R) (S := R) c ?_) fun r s p hr => by cases r <;> exact hr
  exact (hundo hS).mono fun r s p hr => by cases r <;> exact hr

/-! ## The steps of the flows -/

/-- The last two steps lead from `D` through `E` to `S`. -/
theorem finalSteps {D E S : Assertion} (hdecided : ∀ {s p}, D s p → S s p)
    (hcompletable : ∀ {s p}, E s p → S s p)
    (hconfirm : ∀ {s p}, D s p → Ensures confirmLedger s p (Either E S))
    (hsuccess : ∀ {s p}, E s p → Ensures successOrder s p fun _ s p => S s p) :
    Chain D S Flow.finalSteps S S := by
  have hlast : Chain E S [Flow.step "success_order" successOrder] S S :=
    .step hcompletable (fun h => (hsuccess h).either id) id (.nil S S)
  exact .step hdecided hconfirm id hlast

/-- A payment leads from `A` through `B`, once its order is processing, and `C`, once its record is
registered, to `D`, once the bank was asked. What undoes a step keeps `S`, and what stops on the way
may be undone from there. -/
theorem paymentSteps {A B C D S : Assertion} {settings : FlowSettings} {withVoucher : Bool}
    (hopened : ∀ {s p}, A s p → S s p) (hunderway : ∀ {s p}, B s p → S s p)
    (hregistered : ∀ {s p}, C s p → S s p)
    (hinit : ∀ {s p}, A s p → Ensures (initOrder settings) s p fun _ s p => A s p)
    (hprocess : ∀ {s p}, A s p → Ensures processOrder s p (Either B S))
    (hvoucher : ∀ {s p}, B s p → Ensures applyVoucher s p fun _ s p => B s p)
    (hledger : ∀ {s p}, B s p → Ensures initLedger s p (Either C S))
    (hbank : ∀ {s p}, C s p → Ensures (callBank settings) s p (Either D S))
    (hfail : ∀ {s p}, S s p → Ensures failOrder s p fun _ s p => S s p)
    (hreverse : ∀ {s p}, S s p → Ensures reverseVoucher s p fun _ s p => S s p)
    (hcancel : ∀ {s p}, S s p → Ensures cancelLedger s p fun _ s p => S s p)
    (hfinal : Chain D S Flow.finalSteps S S) :
    Chain A S (Flow.paymentSteps settings withVoucher) S S := by
  have hasked : Chain C S (Flow.step "call_bank" (callBank settings) :: Flow.finalSteps) S S :=
    .step hregistered hbank id hfinal
  have hentered : Chain B S (Flow.undoableStep "init_ledger" initLedger cancelLedger ::
      Flow.step "call_bank" (callBank settings) :: Flow.finalSteps) S S :=
    .undoableStep hunderway hledger id hcancel hasked
  have hdiscounted : Chain B S (voucherSteps withVoucher ++
      Flow.undoableStep "init_ledger" initLedger cancelLedger ::
        Flow.step "call_bank" (callBank settings) :: Flow.finalSteps) S S := by
    cases withVoucher with
    | false => exact hentered
    | true =>
        exact .undoableStep hunderway (fun h => (hvoucher h).either hunderway) id hreverse hentered
  unfold Flow.paymentSteps
  rw [List.append_assoc, List.append_assoc, List.cons_append, List.cons_append]
  refine .step hopened (fun h => (hinit h).either hopened) id ?_
  exact .undoableStep hopened hprocess id hfail hdiscounted

/-- A cash-in that is resumed leads from `A` through `L`, once its order was loaded, to `D`. Undoing
it leads back from `S` to `R`. -/
theorem otpSteps {A L D R S : Assertion} {settings : FlowSettings} {otp : String}
    (hresumed : ∀ {s p}, A s p → R s p) (hloaded : ∀ {s p}, L s p → R s p)
    (hback : ∀ {s p}, S s p → R s p)
    (hload : ∀ {s p}, A s p → Ensures loadOrder s p (Either L R))
    (hverify : ∀ {s p}, L s p → Ensures (verifyOtp settings otp) s p (Either D S))
    (habort : ∀ {s p}, S s p → Ensures abortOtp s p fun _ s p => R s p)
    (hfinal : Chain D S Flow.finalSteps S S) :
    Chain A R (Flow.otpSteps settings otp) S S := by
  refine .step hresumed hload id ?_
  exact .undoableStep hloaded hverify hback habort hfinal

end Chain

/-! ## The whole play -/

/-- The assertion as a stage of a play. -/
def Assertion.stage (A : Assertion) : Stage := ⟨A.Holds, A.conduct⟩

theorem LeadsBack.undoes {step : Step FlowError FlowM} (h : LeadsBack step S R) :
    Undoes step S.stage R.stage := by
  refine ⟨fun _ => h.left, fun hundo => h.undone hundo, ?_⟩
  intro _ _ c saga s p hS
  have hS := S.conduct (c := .hasEnded c) true trivial hS
  exact h.left (S.conduct (c := .count _) () trivial hS)

theorem Chain.path {T : Assertion} {steps : List (Step FlowError FlowM)}
    (chain : Chain A R steps B T) :
    Path A.stage (fun _ => R.stage) steps B.stage fun _ => T.stage := by
  induction chain with
  | nil A R => exact .nil A.stage fun _ => R.stage
  | @cons A R B S C T step rest hstop hforward hback hrest ih =>
      refine .cons ?_ ?_ (fun _ => hback.undoes) ih
      · intro c s p hA
        exact R.conduct (c := .hasEnded c) true trivial (hstop hA)
      · intro c s p hA
        exact (hforward hA).mono fun r _ _ hr => by cases r <;> exact hr

/-- A flow whose steps are a chain from `A` to `B` ends with `B`, or with an error and `R`. It does
nothing when no compensation context can be made. -/
theorem Chain.flow {T : Assertion} {settings : FlowSettings} {name : String}
    {steps : List (Step FlowError FlowM)} {operation : Context} {Q : Past → Prop}
    (chain : Chain A R steps B T) (hA : A s p) (hcrash : ∀ {p}, A s p → Q p)
    (hdone : ∀ {s p}, B s p → Q p) (hstopped : ∀ {s p}, R s p → Q p) :
    (Flow.play settings ⟨name, steps⟩ s operation).Always p fun _ p => Q p := by
  apply (chain.path.flow hA).mono
  intro r p hr
  cases r with
  | error crash => exact hcrash hr
  | ok o =>
      obtain ⟨s', _, ho⟩ := hr
      cases herror : o.execution.error with
      | none => exact hdone (ho.completed herror).1
      | some e => exact hstopped (ho.stopped herror)

end

end Flow

end Wallet
