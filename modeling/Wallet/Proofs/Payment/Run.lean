import Wallet.Proofs.Payment.Flow

/-!
# Payments end as the bank says

The stages of a payment put together: a whole run without mishaps asks the bank once, and ends as the
verdict on the answer says.
-/

namespace Wallet

open Wallet.Flow

namespace Payment

variable {kind : FlowKind} {request : PaymentRequest} {before : Tally} {settings : FlowSettings}

theorem finalSteps_fair : Path
    (.smooth .fair fun s g => Accepted kind request before s g settings.classifiers .processing)
    (.smooth .fair fun e s g => Halted kind request before s g settings.classifiers
      (fun _ => NoneDropped request) e) finalSteps
    (.smooth .fair fun s g => ∃ answer o t,
      Done kind request before s g settings.classifiers answer o t)
    (.smooth .fair fun e s g => Halted kind request before s g settings.classifiers
      (fun _ => NoneDropped request) e) :=
  .finalSteps nofun confirmLedger_fair nofun successOrder_fair

theorem paymentSteps_fair (settings : FlowSettings) (hvalid : request.Valid kind) : Path
    (.smooth .fair (Launched kind request before))
    (.smooth .fair fun e s g => Halted kind request before s g settings.classifiers
      (AllDropped request) e)
    (paymentSteps settings request.voucherCode.isSome)
    (.smooth .fair fun s g => ∃ answer o t,
      Done kind request before s g settings.classifiers answer o t)
    (.smooth .fair fun e s g => Halted kind request before s g settings.classifiers
      (fun _ => NoneDropped request) e) := by
  refine .paymentSteps (B := fun s g => ∃ o, Unlinked kind request before s g .pending before o)
    (C := fun s g => ∃ o, Unlinked kind request before s g .processing before o)
    (D := fun s g => ∃ o,
      Unlinked kind request before s g .processing (before.withVoucher request o) o)
    (E := fun s g => ∃ o t, Linked kind request before s g (before.withVoucher request o) o t)
    (S := fun e s g => Halted kind request before s g settings.classifiers
      (VoucherDropped request) e)
    (T := fun e s g => Halted kind request before s g settings.classifiers
      (RecordDropped request) e)
    nofun (initOrder_fair hvalid) nofun ?_ failOrder_fair nofun ?_ ?_ ?_ nofun ?_ cancelLedger_fair
    nofun ?_ finalSteps_fair
  · exact fun ⟨_, h⟩ => processOrder_fair h
  · exact fun _ {_ _} ⟨_, h⟩ => applyVoucher_fair h
  · exact fun hcode {_ _ _} h => reverseVoucher_fair hcode h
  -- without a voucher there is one stage less, on the way there and on the way back
  · refine fun hcode => ⟨fun {s g} ⟨o, h⟩ => ⟨o, ?_⟩, Halted.without hcode⟩
    rw [Tally.withVoucher_none hcode]
    exact h
  · exact fun ⟨_, h⟩ => initLedger_fair h
  · exact fun ⟨_, _, h⟩ => callBank_fair h

/-! ## What the caller is told -/

variable {registry : ClassifierRegistry} {s : FlowState} {g : Past} {x : Execution FlowError}
  {answer : Except ServiceError ProviderResponse} {o : Order} {t : Transaction}

theorem Placed.orderId (h : Placed s g o t) : (outcome s x).orderId = some o.id := by
  simp [outcome, h.order]

theorem Done.concludes (h : Done kind request before s g registry answer o t)
    (herror : x.error = none) (hcompleted : x.state = .completed)
    (hkept : ∀ step ∈ x.steps, step.compensation = none) :
    (registry.verdict kind request.provider answer).Concludes o.id (outcome s x) where
  orderId := h.orderId
  error := by
    rw [h.error]
    exact herror
  nextAction := by
    simp [outcome, nextAction, Execution.isSuccess, herror, h.awaiting]
  completed _ := ⟨hcompleted, hkept⟩

/-- A flow that fails says why. -/
theorem concludes_failed {v : Verdict} {e : FlowError} (h : Placed s g o t)
    (hv : v.error? o.id = some e) (herror : x.error = some (.failed "call_bank" e)) :
    v.Concludes o.id (outcome s x) where
  orderId := h.orderId
  error := by
    rw [hv]
    exact herror
  nextAction := by
    have hawaiting : v ≠ .awaiting := by
      rintro rfl
      cases hv
    simp [outcome, nextAction, Execution.isSuccess, herror, hawaiting]
  completed hnone := by
    rw [hv] at hnone
    cases hnone

theorem Done.ended (h : Done kind request before s g registry answer o t)
    (herror : x.error = none) (hcompleted : x.state = .completed)
    (hkept : ∀ step ∈ x.steps, step.compensation = none) :
    PaymentEnd registry kind request before g.books (before.along g.events) (outcome s x) answer o
      t where
  stored := h.stored
  link := h.link
  record := h.record
  concludes := h.concludes herror hcompleted hkept
  settles := h.settles

theorem Halted.ended {e : ExecutionError FlowError}
    (h : Halted kind request before s g registry (AllDropped request) e)
    (herror : x.error = some e) : ∃ answer o t,
    PaymentEnd registry kind request before g.books (before.along g.events) (outcome s x) answer o
      t := by
  cases h with
  | @parked answer o t hplaced hverdict he _ hsettles =>
      refine ⟨answer, o, t, hplaced.stored, hplaced.link, hplaced.record, ?_, hverdict ▸ hsettles⟩
      rw [hverdict]
      exact concludes_failed hplaced rfl (herror.trans (congrArg some he))
  | @refused answer o t error hplaced hverdict he _ hsettles =>
      refine ⟨answer, o, t, hplaced.stored, hplaced.link, hplaced.record, ?_, hverdict ▸ hsettles⟩
      rw [hverdict]
      exact concludes_failed hplaced rfl (herror.trans (congrArg some he))

end Payment

/-! ## Whole payments -/

section

variable {kind : FlowKind} {request : PaymentRequest} {before : Tally} {settings : FlowSettings}

/-- A play crashes only when no compensation context can be made. -/
theorem play_crashed (settings : FlowSettings) (saga : Saga FlowError FlowM) (s : FlowState)
    (operation : Context) (p : Past) :
    (Flow.play settings saga s operation).Always p fun r p =>
      ∀ crash, r = .error crash → ∃ d, Event.mk (.budget d) (.error crash) ∈ p.events := by
  unfold Flow.play
  rw [Program.always_bind]
  intro budget _
  cases budget with
  | error crash =>
      rintro _ ⟨⟩
      exact ⟨settings.config.compensationTimeout, by simp⟩
  | ok compensation =>
      refine (Program.always_bind _ _ _ _).mpr ((Program.always_grows _ _).mono ?_)
      rintro _ _ _ _ ⟨⟩

/-- A payment goes through its steps or stops at the bank's answer, and cannot crash. -/
theorem pay_fair {operation : Context} {p : Past} (hvalid : request.Valid kind)
    (hnew : p.events = []) :
    (Flow.pay settings kind request operation).Always p fun result p =>
      (∀ e ∈ p.events, e.mishap = false) → ∃ r answer o t, result = .ok r ∧
        PaymentEnd settings.classifiers kind request before p.books (before.along p.events) r answer o
          t := by
  have hlaunched : Stage.smooth .fair (Payment.Launched kind request before) (.starting kind request) p := by
    refine fun _ => ⟨rfl, ?_⟩
    rw [Past.gist, hnew]
    rfl
  have hplay : (Flow.pay settings kind request operation).Always p _ :=
    ((Payment.paymentSteps_fair settings hvalid).flow hlaunched).and (play_crashed settings _ _ operation p)
  refine hplay.mono ?_
  rintro result p ⟨hreturned, hcrashed⟩ hfair
  rw [← before.along_counts]
  cases result with
  | error crash =>
      obtain ⟨d, hd⟩ := hcrashed crash rfl
      cases hfair _ hd
  | ok r =>
      obtain ⟨s, hr, hconcluded⟩ := hreturned
      cases herror : r.execution.error with
      | none =>
          obtain ⟨hdone, hcompleted, hkept⟩ := hconcluded.completed herror
          obtain ⟨answer, o, t, hdone⟩ := hdone (smooth_fair hfair)
          have hended := hdone.ended herror hcompleted hkept
          rw [← hr] at hended
          exact ⟨r, answer, o, t, rfl, hended⟩
      | some e =>
          obtain ⟨answer, o, t, hended⟩ :=
            (hconcluded.stopped herror (smooth_fair hfair)).ended herror
          rw [← hr] at hended
          exact ⟨r, answer, o, t, rfl, hended⟩

/-- **A payment ends as the answer of the bank says.** Unless there is a mishap, a payment of a valid
request ends without a crash and has asked the bank once, and the verdict on the answer settles
everything. Paid: no error, nothing undone, the order successful, the record finished. A one-time
password awaited: no error, the caller has to enter it, the order processing, the record initial.
Unknown: the error says so, the order is verifying and the record pending. In these cases a voucher of
the request is in use and nothing has been cancelled. Refused: the order has failed for the reason that
is the text of the error, the record has been cancelled, no other has, and the voucher is not in use. -/
theorem payment_settled {operation : Context} {services : Services}
    {result : Except Crash FlowOutcome} {w : World} (hvalid : request.Valid kind)
    (hrun : (Flow.pay settings kind request operation).Yields ⟨services, []⟩ result w)
    (hfair : ∀ e ∈ w.history, e.mishap = false) :
    ∃ r answer o t, result = .ok r ∧ PaymentEnd settings.classifiers kind request
      (World.tally ⟨services, []⟩) w.services.books w.tally r answer o t := by
  rw [Program.tally_of_yields (t := World.tally ⟨services, []⟩) hrun rfl]
  exact (pay_fair hvalid rfl).sound hrun hfair

end

/-! ### A refused payment -/

/-- Somebody sends money away with a voucher. -/
def vouchered : PaymentRequest :=
  ⟨⟨.ofNat 1⟩, (Money.ofInt? 200000).getD .zero, ⟨"BIDV"⟩, some "TET", .wallet, none⟩

/-- The bank refuses a payment with a voucher. -/
theorem payment_settled_refused : ∃ result w, vouchered.Valid .cashOut ∧
    (Flow.pay ⟨.standard, .standard⟩ .cashOut vouchered .background).Yields (.start .standard [] default)
      result w ∧
    (∀ e ∈ w.history, e.mishap = false) ∧ w.tally.cancels = 1 ∧
    ∃ r answer o t, result = .ok r ∧ PaymentEnd .standard .cashOut vouchered
      (World.tally (.start .standard [] default)) w.services.books w.tally r answer o t := by
  have hcheck : ((Flow.pay ⟨.standard, .standard⟩ .cashOut vouchered .background).follow
      (List.replicate 100 (.fair "400")) (.start .standard [] default)).any (fun r =>
        !r.2.history.any Event.mishap && decide (r.2.tally.cancels = 1)) = true := by
    decide +kernel
  obtain ⟨⟨result, w⟩, hfollow, hr⟩ := (Option.any_eq_true _ _).mp hcheck
  simp only [Bool.and_eq_true, Bool.not_eq_true', decide_eq_true_eq] at hr
  have hvalid : vouchered.Valid .cashOut := ⟨by decide, nofun⟩
  have hrun := Program.yields_of_follow hfollow
  have hfair : ∀ e ∈ w.history, e.mishap = false := fun e he => by
    simpa using List.any_eq_false.mp hr.1 e he
  exact ⟨result, w, hvalid, hrun, hfair, hr.2, payment_settled hvalid hrun hfair⟩

end Wallet
