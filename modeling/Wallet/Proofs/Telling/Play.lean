import Wallet.Proofs.Consistency.Basic
import Wallet.Proofs.Telling.Flow

/-!
# What a play has told

A play follows its path from the past in which it began. If nothing stops it the user was told that
the order has succeeded, or asked for a one-time password. If it is stopped what was told, if
anything was, is how the order stands.
-/

namespace Wallet.Telling

open Wallet.Flow

section

variable {before p : Past} {s : FlowState} {o : Order} {c : Call} {x : c.Answer}
  {settings : FlowSettings}

/-! ## The stages of a play -/

theorem notice?_of_conducts (h : c.Conducts) : (Event.mk c x).notice? = none := by
  cases c <;> first | rfl | cases h

/-- What is said of a play that no call disturbs which writes nothing and tells nothing. -/
def stage (A : FlowState → Past → Prop)
    (hquiet : ∀ {s p c} {x : Call.Answer c}, A s p → (Event.mk c x).notice? = none →
      (p.note c x).books = p.books → A s (p.note c x)) : Flow.Stage :=
  ⟨A, fun x hc h => hquiet h (notice?_of_conducts hc) (Past.note_books_of_conducts x hc)⟩

theorem Calm.quiet {A : FlowState → Past → Prop} (h : Calm A) (hA : A s p)
    (hnotice : (Event.mk c x).notice? = none) (hbooks : (p.note c x).books = p.books) :
    A s (p.note c x) :=
  h.call hA hnotice (congrArg Books.orders hbooks)

theorem Drafted.quiet (h : Drafted before s p) (hnotice : (Event.mk c x).notice? = none)
    (hbooks : (p.note c x).books = p.books) : Drafted before s (p.note c x) := by
  obtain ⟨hanswered, o, h⟩ := h
  exact ⟨hanswered, o, h.quiet hnotice hbooks⟩

theorem Registered.quiet (h : Registered before s p) (hnotice : (Event.mk c x).notice? = none)
    (hbooks : (p.note c x).books = p.books) : Registered before s (p.note c x) := by
  obtain ⟨hanswered, o, h, hinitial⟩ := h
  exact ⟨hanswered, o, h.quiet hnotice hbooks, hinitial.quiet hbooks⟩

theorem Asked.quiet (h : Asked before s p) (hnotice : (Event.mk c x).notice? = none)
    (hbooks : (p.note c x).books = p.books) : Asked before s (p.note c x) := by
  obtain ⟨o, h⟩ := h
  exact ⟨o, h.quiet hnotice hbooks⟩

theorem Completed.quiet (h : Completed before s p) (hnotice : (Event.mk c x).notice? = none)
    (hbooks : (p.note c x).books = p.books) : Completed before s (p.note c x) := by
  rcases h with ⟨hawaiting, o, n, h, ⟨hprocessing, hwaits, hinitial⟩, hn⟩ | ⟨hanswered, h⟩
  · exact .inl ⟨hawaiting, o, n, h.call hnotice (congrArg Books.orders hbooks),
      ⟨hprocessing, hwaits, hinitial.quiet hbooks⟩, hn⟩
  · exact .inr ⟨hanswered, calm_told.quiet h hnotice hbooks⟩

variable (before)

def launched : Flow.Stage :=
  stage (Launched before) fun h hnotice hbooks => h.quiet hnotice (congrArg Books.orders hbooks)

def drafted : Flow.Stage := stage (Drafted before) Drafted.quiet

def registered : Flow.Stage := stage (Registered before) Registered.quiet

def asked : Flow.Stage := stage (Asked before) Asked.quiet

def completed : Flow.Stage := stage (Completed before) Completed.quiet

def stopped : Stops := fun e => stage (Stopped before (Puts e)) calm_stopped.quiet

def ended : Stops := fun e => stage (Ended before (Puts e)) calm_ended.quiet

variable {before}

/-! ## The paths -/

theorem leads_stopped {B : Flow.Stage} {name : String} {part : StepM Unit}
    (h : Ensures part s p (Proceeds before B)) :
    Ensures part s p (Leads B (stopped before) name) := by
  refine h.mono fun r s p hr => ?_
  cases r with
  | ok u => exact hr
  | error e =>
      show Stopped before (Puts (.failed name e)) (keepReason (.error e) s) p
      exact calm_stopped.same hr rfl rfl

/-- What a part has told that is not undone by anything stays as it is. -/
theorem leads_ended {B : Flow.Stage} {name : String} {part : StepM Unit}
    (h : Ensures part s p (Proceeds before B)) :
    Ensures part s p (Leads B (ended before) name) := by
  refine h.mono fun r s p hr => ?_
  cases r with
  | ok u => exact hr
  | error e =>
      show Ended before (Puts (.failed name e)) (keepReason (.error e) s) p
      exact calm_ended.same (Stopped.ended hr) rfl rfl

theorem keepReason_calm {A : FlowState → Past → Prop} (hcalm : Calm A) (h : A s p)
    (r : Except FlowError Unit) : A (keepReason r s) p :=
  hcalm.same h (by cases r <;> rfl) (by cases r <;> rfl)

theorem finalSteps_telling :
    Path (asked before) (stopped before) finalSteps (completed before) (stopped before) :=
  Path.throughFinalSteps (B := asked before) (fun ⟨_, h⟩ => h.stopped)
    (fun h => leads_stopped (confirmLedger_asked h)) (fun ⟨_, h⟩ => h.stopped)
    fun h => leads_stopped (successOrder_completed h)

theorem failOrder_reverts (e : ExecutionError FlowError) :
    Reverts failOrder (stopped before e) (ended before e) :=
  fun h => (failOrder_ended h).mono fun r _ _ h => keepReason_calm calm_ended h r

theorem paymentSteps_telling {withVoucher : Bool} :
    Path (launched before) (ended before) (paymentSteps settings withVoucher) (completed before)
      (stopped before) := by
  refine Path.throughPayment (B := drafted before) (C := drafted before) (D := registered before)
    (E := asked before) (S := stopped before) (fun h => h.stopped.ended)
    (fun h => leads_ended (initOrder_drafted h))
    (fun ⟨_, _, h⟩ => h.stopped.ended)
    (fun h => leads_stopped (processOrder_drafted h)) (fun ⟨_, _, h⟩ => h.stopped)
    (fun h => leads_stopped (applyVoucher_drafted h))
    (fun h => leads_stopped (initLedger_registered h))
    (fun ⟨_, _, h, _⟩ => h.stopped)
    (fun h => leads_stopped (callBank_asked h)) Stopped.ended failOrder_reverts
    (fun _ {_ _} h => ?_) id (fun _ {_ _} h => ?_) finalSteps_telling
  · exact (calm_stopped.reverseVoucher h).mono fun r _ _ h => keepReason_calm calm_stopped h r
  · exact (calm_stopped.cancelLedger h).mono fun r _ _ h => keepReason_calm calm_stopped h r

theorem otpSteps_telling {otp : String}
    (htidy : ∀ key o, before.books.orders key = some o →
      o.id = key ∧ (o.awaitingOtp = true → o.status = .processing)) :
    Path (launched before) (ended before) (otpSteps settings otp) (completed before)
      (stopped before) := by
  refine Path.throughOtp (L := drafted before) (E := asked before) (fun h => h.stopped.ended)
    (fun h => leads_ended (loadOrder_drafted h htidy))
    (fun ⟨_, _, h⟩ => h.stopped.ended)
    (fun h => leads_stopped (verifyOtp_asked h)) Stopped.ended
    (fun _ {_ _} h => ?_) finalSteps_telling
  exact (abortOtp_ended h).mono fun r _ _ h => keepReason_calm calm_ended h r

/-! ## Whole plays -/

/-- How things stand at the end of a flow. If no compensation context can be made nothing has
happened. -/
inductive Reported (before : Past) (p : Past) : Except Crash FlowOutcome → Prop
  | crashed {crash : Crash} {s : FlowState} : Unbegun before s p → Reported before p (.error crash)
  | completed {s : FlowState} {x : Execution FlowError} : x.error = none → Completed before s p →
      Reported before p (.ok (outcome s x))
  | stopped {s : FlowState} {x : Execution FlowError} {e : ExecutionError FlowError} :
      x.error = some e → Ended before (Puts e) s p → Reported before p (.ok (outcome s x))

theorem reported_of_returned {r : Except Crash FlowOutcome}
    (h : Returned (launched before) (completed before) (ended before) r s p) :
    Reported before p r := by
  cases r with
  | error crash => exact .crashed (Launched.toUnbegun h)
  | ok o =>
      obtain ⟨s', ho, hconcluded⟩ := h
      rw [ho]
      cases herror : o.execution.error with
      | none => exact .completed herror (hconcluded.completed herror).1
      | some e => exact .stopped herror (hconcluded.stopped herror)

/-- Every play reports how things stand. -/
theorem always_reported {registry : ClassifierRegistry} (config : FlowConfig) (call : FlowCall)
    (operation : Context) (h : Consistent registry p) :
    (call.program ⟨registry, config⟩ operation).Always p fun r after => Reported p after r := by
  have hlaunched {s : FlowState} (horder : s.order = none) (hparked : s.parked = false)
      (hanswered : s.awaitingOtp = false) : Launched p s p :=
    ⟨⟨horder, rfl, rfl⟩, hparked, hanswered⟩
  cases call with
  | pay kind request =>
      have hstart : launched p (.starting kind request) p := hlaunched rfl rfl rfl
      exact (paymentSteps_telling.flow hstart).mono fun _ _ => reported_of_returned
  | resume key otp =>
      have hstart : launched p (.resuming .cashIn key) p := hlaunched rfl rfl rfl
      exact ((otpSteps_telling fun _ _ ho => ⟨h.filed ho, (h.fits ho).awaiting⟩).flow hstart).mono
        fun _ _ => reported_of_returned

end

end Wallet.Telling
