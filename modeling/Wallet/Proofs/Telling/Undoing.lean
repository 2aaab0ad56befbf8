import Wallet.Proofs.Flow.Steps
import Wallet.Proofs.Telling.Basic

/-!
# Telling while a flow is undone

An order is parked, completed or failed at most once while a flow is undone, and each of these tells
the user what it has written. Nothing that is done before that writes an order, and nothing that is
done after it touches a parked one.
-/

namespace Wallet.Telling

open Wallet.Flow

/-- Whether a play stopped because the outcome of its order is unknown. -/
def Puts (e : ExecutionError FlowError) : Bool := e.domainError?.any FlowError.isPending

/-- How a play that has stopped may end. -/
structure Ended (before : Past) (pending : Bool) (s : FlowState) (p : Past) : Prop where
  settled : Settled before s p
  verifying : pending = true → Told before .verifying s p

/-- A play has stopped: nothing was told, or its order is parked. -/
inductive Stopped (before : Past) (pending : Bool) (s : FlowState) (p : Past) : Prop
  | untold : s.parked = false → pending = false → Untold before s p → Stopped before pending s p
  | parked : s.parked = true → Ended before pending s p → Stopped before pending s p

section

variable {before p : Past} {s : FlowState} {o o' : Order} {pending : Bool} {reason message : String}

theorem Untold.ended (h : Untold before s p) : Ended before false s p :=
  ⟨.inl h, nofun⟩

theorem Settled.ended (h : Settled before s p) : Ended before false s p :=
  ⟨h, nofun⟩

theorem Stopped.ended (h : Stopped before pending s p) : Ended before pending s p := by
  cases h with
  | untold _ hpending h =>
      rw [hpending]
      exact h.ended
  | parked _ h => exact h

theorem calm_ended : Calm (Ended before pending) where
  call h hnotice horders :=
    ⟨calm_settled.call h.settled hnotice horders,
      fun hpending => calm_told.call (h.verifying hpending) hnotice horders⟩
  same h horder hparked :=
    ⟨calm_settled.same h.settled horder hparked,
      fun hpending => calm_told.same (h.verifying hpending) horder hparked⟩

theorem calm_stopped : Calm (Stopped before pending) where
  call h hnotice horders := by
    cases h with
    | untold hparked hpending h =>
        exact .untold hparked hpending (calm_untold.call h hnotice horders)
    | parked hparked h => exact .parked hparked (calm_ended.call h hnotice horders)
  same h horder hsame := by
    cases h with
    | untold hparked hpending h =>
        exact .untold (hsame.trans hparked) hpending (calm_untold.same h horder hsame)
    | parked hparked h => exact .parked (hsame.trans hparked) (calm_ended.same h horder hsame)

/-! ## Parts that write no order -/

section

variable {A : FlowState → Past → Prop}

theorem Calm.hold (hcalm : Calm A) (h : A s p) (link : Option TransactionId) :
    Ensures (hold link) s p fun r s' p => (r = .ok () ∧ s' = s) ∧ A s' p := by
  unfold Flow.hold
  cases link with
  | none => exact ⟨⟨rfl, rfl⟩, h⟩
  | some id =>
      simp only [ensures_bind, ensures_setPending, ensures_pure, true_and]
      exact ⟨fun _ _ => hcalm.call h rfl rfl, fun _ _ _ _ _ => hcalm.call h rfl rfl⟩

theorem Calm.cancelIfInitial (hcalm : Calm A) (h : A s p) (id : TransactionId) :
    Ensures (cancelIfInitial id) s p fun _ s' p => s' = s ∧ A s' p := by
  unfold Flow.cancelIfInitial
  simp only [ensures_bind, ensures_findRecord, true_and]
  refine ⟨fun _ _ => hcalm.call h rfl rfl, fun record _ => ?_⟩
  have h := hcalm.call (c := .ledger (.find id)) (x := .ok record) h rfl rfl
  split
  · simp only [ensures_bind, ensures_get, ensures_cancel, ensures_pure, true_and]
    exact ⟨fun _ _ => hcalm.call h rfl rfl, fun _ _ _ _ _ => hcalm.call h rfl rfl⟩
  · exact ⟨rfl, h⟩

theorem Calm.cancelLedger (hcalm : Calm A) (h : A s p) :
    Ensures cancelLedger s p fun _ s p => A s p := by
  unfold Flow.cancelLedger
  simp only [ensures_bind, ensures_get]
  split
  · exact h
  · cases s.transactionId? with
    | none => exact h
    | some id => exact (hcalm.cancelIfInitial h id).mono fun _ _ _ h => h.2

theorem Calm.reverseVoucher (hcalm : Calm A) (h : A s p) :
    Ensures reverseVoucher s p fun _ s p => A s p := by
  unfold Flow.reverseVoucher
  simp only [ensures_bind, ensures_get]
  split
  · exact h
  · cases s.order with
    | none => exact h
    | some order =>
        simp only [ensures_reverse]
        exact fun _ => hcalm.call h rfl rfl

end

/-! ## Parking and completing -/

theorem calm_keeping : Calm fun s p => Keeping before [] s p o where
  call h hnotice horders := h.call hnotice horders
  same h horder _ := h.of_same horder

/-- Parking has come to an end, which is an error. -/
def Parked (before : Past) (r : Except FlowError Unit) (s : FlowState) (p : Past) : Prop :=
  ∃ e, r = .error e ∧ s.parked = true ∧ Ended before e.isPending s p

/-- An order that is parked while it is on its way is verifying afterwards, or it could not be
parked. -/
theorem park_parked (h : Keeping before [] s p o) (hopen : Midway o) :
    Ensures (park reason) s p (Parked before) := by
  have hagain : (!o.isVerifying && !o.isTerminal) = true := by
    rcases hopen with hstatus | hstatus <;>
      simp [Order.isVerifying, Order.isTerminal, OrderStatus.isTerminal, hstatus]
  have hfailed {e : FlowError} {s : FlowState} {p : Past} (he : e.isPending = false)
      (hparked : s.parked = true) (h : Keeping before [] s p o) : Parked before (.error e) s p := by
    refine ⟨e, rfl, hparked, ?_⟩
    rw [he]
    exact Untold.ended (.midway h hopen)
  unfold park
  simp only [ensures_bind, ensures_modify, ensures_order]
  have h : Keeping before [] { s with parked := true } p o := h.of_same rfl
  refine ⟨fun hnone => ?_, fun order horder => ?_⟩
  · cases h.order.symm.trans hnone
  cases h.order.symm.trans horder
  apply (calm_keeping.hold h _).mono
  rintro r s p ⟨⟨rfl, rfl⟩, h⟩
  simp only [ensures_stored]
  refine ⟨fun e _ => hfailed rfl rfl (h.call rfl rfl), fun hnone => ?_, fun current hcurrent => ?_⟩
  · cases h.stored.symm.trans hnone
  cases h.stored.symm.trans hcurrent
  simp only [hagain, if_true, ensures_bind, ensures_now, ensures_accept, ensures_replace,
    ensures_notify, ensures_keep, ensures_throw, OrderStore.Request.Result]
  intro now
  have h := (h.found o.id (some o)).now now
  refine ⟨fun e _ => hfailed rfl rfl h, fun verifying hverifying => ?_⟩
  have hsame : verifying.id = o.id ∧ verifying.status = .verifying := by
    obtain ⟨_, rfl⟩ := Order.transitionFor_ok hverifying
    exact ⟨rfl, rfl⟩
  refine ⟨fun e _ => hfailed rfl rfl (h.call rfl rfl), fun _ _ _ => ?_⟩
  have htold := h.announce hsame.1 (n := ⟨verifying.userId, verifying.id, .orderVerifying, reason⟩)
    rfl (by rw [hsame.2]; rfl)
  rw [hsame.2] at htold
  exact ⟨_, rfl, rfl, .inr ⟨_, htold⟩, fun _ => htold⟩

theorem parkQuietly_settled (h : Keeping before [] s p o) (hopen : Midway o) :
    Ensures (parkQuietly reason) s p fun _ s p => Settled before s p := by
  unfold parkQuietly
  rw [ensures_tryCatch]
  apply (park_parked h hopen).mono
  rintro r s p ⟨e, rfl, _, hended⟩
  cases e <;> exact hended.settled

/-- An order is written in its place with another status, or it is left as it is. -/
theorem writeResolved_settled {kind : NotificationKind} (h : Keeping before [] s p o)
    (hopen : Midway o) (hid : o'.id = o.id) (hkind : kind.status? = some o'.status) :
    Ensures (writeResolved o' kind message) s p fun _ s p => Settled before s p := by
  unfold writeResolved
  simp only [ensures_bind, ensures_perform_replace, OrderStore.Request.Result]
  refine ⟨fun e _ => ?_, fun _ _ _ => ?_⟩
  · have h := h.call (c := .orders (.replace o')) (x := .error e) rfl rfl
    cases e <;> exact .inl (.midway h hopen)
  · simp only [ensures_notify, ensures_keep]
    exact .inr ⟨_, h.announce hid (n := ⟨o'.userId, o'.id, kind, message⟩) rfl hkind⟩

theorem settleOrder_settled (h : Keeping before [] s p o) (hopen : Midway o) :
    Ensures (settleOrder o.id) s p fun _ s p => Settled before s p := by
  unfold settleOrder
  simp only [ensures_bind, ensures_stored]
  refine ⟨fun e _ => .inl (.midway (h.call rfl rfl) hopen), fun hnone => ?_,
    fun current hcurrent => ?_⟩
  · cases h.stored.symm.trans hnone
  cases h.stored.symm.trans hcurrent
  have h := h.found o.id (some o)
  split
  · exact .inl (.midway h hopen)
  · simp only [ensures_bind, ensures_now, ensures_accept]
    intro now
    have h := h.now now
    refine ⟨fun e _ => .inl (.midway h hopen), fun settled hsettled => ?_⟩
    obtain ⟨_, rfl⟩ := Order.settle_ok hsettled
    exact writeResolved_settled h hopen rfl rfl

theorem completeOrder_settled (h : Untold before s p) :
    Ensures completeOrder s p fun _ s p => Settled before s p := by
  unfold completeOrder
  simp only [ensures_bind, ensures_order, ensures_transactionId, ensures_findRecord]
  refine ⟨fun _ => .inl h, fun order horder => ⟨fun _ => .inl h, fun linked _ =>
    ⟨fun _ => .inl h, fun id _ => ⟨fun e _ => ?_, fun record _ => ?_⟩⟩⟩⟩
  · exact .inl (calm_untold.call h rfl rfl)
  cases h with
  | unbegun h => cases h.order.symm.trans horder
  | @midway o h hopen =>
      cases h.order.symm.trans horder
      have h := h.call (c := .ledger (.find id)) (x := .ok record) rfl rfl
      split
      · exact settleOrder_settled h hopen
      · simp only [ensures_bind, ensures_confirm]
        exact ⟨fun e _ => parkQuietly_settled (h.call rfl rfl) hopen,
          fun _ _ _ _ _ => settleOrder_settled (h.call rfl rfl) hopen⟩

/-! ## Undoing -/

theorem failOrder_ended (h : Stopped before pending s p) :
    Ensures failOrder s p fun _ s p => Ended before pending s p := by
  unfold failOrder
  simp only [ensures_bind, ensures_get]
  split
  · exact h.ended
  next hflags =>
  simp only [Bool.or_eq_true, not_or, Bool.not_eq_true] at hflags
  cases h with
  | parked hparked _ => cases hparked.symm.trans hflags.1
  | untold _ hpending h =>
      subst hpending
      split
      · exact (completeOrder_settled h).mono fun _ _ _ h => h.ended
      cases horder : s.order with
      | none => exact h.ended
      | some order =>
          cases h with
          | unbegun h => cases h.order.symm.trans horder
          | @midway o h hopen =>
              obtain rfl : o = order := Option.some.inj (h.order.symm.trans horder)
              simp only [ensures_bind, ensures_find, OrderStore.Request.Result]
              refine ⟨fun e _ => Untold.ended (.midway (h.call rfl rfl) hopen), ?_⟩
              rw [h.stored]
              simp only [ensures_bind, ensures_now]
              intro now
              have h := (h.found o.id (some o)).now now
              cases hfailed : o.failUnlessResolved? s.rollbackReason now with
              | none => exact Untold.ended (.midway h hopen)
              | some failed =>
                  obtain ⟨_, _, rfl⟩ := Order.failUnlessResolved?_some hfailed
                  refine Ensures.mono (writeResolved_settled h hopen ?_ ?_) fun _ _ _ h => h.ended
                  · rfl
                  · rfl

theorem abortOtp_ended (h : Stopped before pending s p) :
    Ensures abortOtp s p fun _ s p => Ended before pending s p := by
  unfold abortOtp
  simp only [ensures_bind, ensures_get]
  split
  · exact h.ended
  next hflags =>
  simp only [Bool.or_eq_true, not_or, Bool.not_eq_true] at hflags
  split
  · cases h with
    | parked hparked _ => cases hparked.symm.trans hflags.1
    | untold _ hpending h =>
        subst hpending
        exact (completeOrder_settled h).mono fun _ _ _ h => h.ended
  · cases s.transactionId? with
    | none => exact failOrder_ended h
    | some id =>
        rw [ensures_bind]
        apply (calm_stopped.cancelIfInitial h id).mono
        rintro r s p ⟨_, h⟩
        cases r with
        | ok u => exact failOrder_ended h
        | error e => exact h.ended

end

end Wallet.Telling
