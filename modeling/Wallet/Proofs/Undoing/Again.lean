import Wallet.Proofs.Undoing.Parts

/-!
# Undoing again

An undoing action that finds the state in which it left everything changes nothing but the clock: it
reads what it has to know, and is turned away where it asks for more.
-/

namespace Wallet.Flow

section

variable {c : Bool} {s s' : FlowState} {v v' : Services} {o : Order}

theorem completeOrder_idle (h : Complete s v) :
    Leaves completeOrder s v fun _ _ v' => v.Idle v' := by
  unfold Flow.completeOrder
  simp only [leaves_bind, leaves_order, leaves_transactionId, leaves_findRecord]
  refine ⟨fun _ => rfl, fun order horder => ⟨fun _ => rfl, fun _ hsame => ?_⟩⟩
  cases horder.symm.trans hsame
  refine ⟨fun _ => rfl, fun id hlink => ⟨fun _ _ => rfl, ?_⟩⟩
  intro t ht
  obtain ⟨hfinish, hfixes⟩ := h order id t horder hlink ht
  rw [if_pos hfinish]
  unfold Flow.settleOrder
  simp only [leaves_bind, leaves_stored]
  refine ⟨fun _ => rfl, fun hreached => ⟨fun _ => rfl, fun current hcurrent => ?_⟩⟩
  rcases hfixes hreached current hcurrent with hterminal | ⟨⟨⟩, _⟩
  rw [if_pos hterminal]
  rfl

theorem failOrder_idle (h : Failed s v) : Leaves failOrder s v fun _ _ v' => v.Idle v' := by
  unfold Flow.failOrder
  simp only [leaves_bind, leaves_get]
  split
  · rfl
  next hgoes =>
  simp only [Bool.or_eq_true, not_or] at hgoes
  rcases h with hparked | hretry | ⟨hbank, hcomplete⟩ | ⟨hbank, hfixes⟩
  · exact absurd hparked hgoes.1
  · exact absurd hretry hgoes.2
  · rw [if_pos hbank]
    exact completeOrder_idle hcomplete
  · rw [if_neg (by simp [hbank])]
    cases horder : s.order with
    | none => rfl
    | some order =>
        simp only [leaves_bind, leaves_find]
        refine ⟨fun _ => rfl, fun hreached => ?_⟩
        cases hcurrent : v.orders.get? order.id with
        | none => rfl
        | some current =>
            have hnone (now : Timestamp) :
                current.failUnlessResolved? s.rollbackReason now = none := by
              unfold Order.failUnlessResolved?
              rw [if_pos]
              rcases hfixes order horder hreached current hcurrent with hterminal | ⟨_, hverifying⟩
              · simp [hterminal]
              · simp [hverifying]
            simp only [leaves_bind, leaves_now, hnone]
            rfl

theorem cancelIfInitial_passes {id : TransactionId}
    {Q : Except FlowError Unit → FlowState → Services → Prop} (h : v.ledger.Passed id)
    (hQ : ∀ v', v.Idle v' → Q (.ok ()) s v') : Leaves (cancelIfInitial id) s v Q := by
  obtain ⟨t, ht, hresolved⟩ := h
  unfold Flow.cancelIfInitial
  simp only [leaves_bind, leaves_findRecord]
  refine ⟨fun e he => ?_, fun t' ht' => ?_⟩
  · cases he.symm.trans ht
  · cases ht.symm.trans ht'
    rw [if_neg (by simp [hresolved])]
    exact hQ _ rfl

theorem cancelIfInitial_barred {id : TransactionId}
    {Q : Except FlowError Unit → FlowState → Services → Prop} (h : v.ledger.Barred id)
    (hQ : ∀ e v', v.Idle v' → Q (.error e) s v') : Leaves (cancelIfInitial id) s v Q := by
  unfold Flow.cancelIfInitial
  simp only [leaves_bind, leaves_findRecord]
  refine ⟨fun e _ => hQ _ _ rfl, fun t ht => ?_⟩
  obtain ⟨hcancellable, hrefused⟩ := h t ht
  rw [if_pos hcancellable]
  simp only [leaves_bind, leaves_get]
  obtain ⟨e, he⟩ := hrefused s.rollbackReason v.ticked.clock.tick
  exact leaves_askRefused he (hQ _ _ rfl)

theorem cancelLedger_idle (h : Withdrawn s v) :
    Leaves cancelLedger s v fun _ _ v' => v.Idle v' := by
  unfold Flow.cancelLedger
  simp only [leaves_bind, leaves_get]
  split
  · rfl
  next hgoes =>
  simp only [Bool.or_eq_true, not_or] at hgoes
  split
  · rfl
  next id hlink =>
  rcases h with hparked | hretry | hbank | hrecord
  · exact absurd hparked hgoes.1.1
  · exact absurd hretry hgoes.1.2
  · exact absurd hbank hgoes.2
  · rcases hrecord id hlink with hpassed | hbarred
    · exact cancelIfInitial_passes hpassed fun _ hidle => hidle
    · exact cancelIfInitial_barred hbarred fun _ _ hidle => hidle

theorem abortOtp_idle (h : Aborted s v) : Leaves abortOtp s v fun _ _ v' => v.Idle v' := by
  unfold Flow.abortOtp
  simp only [leaves_bind, leaves_get]
  split
  · rfl
  next hgoes =>
  simp only [Bool.or_eq_true, not_or] at hgoes
  rcases h with hparked | hretry | ⟨hbank, hcomplete⟩ | ⟨hbank, hrecord⟩
  · exact absurd hparked hgoes.1
  · exact absurd hretry hgoes.2
  · rw [if_pos hbank]
    exact completeOrder_idle hcomplete
  rw [if_neg (by simp [hbank])]
  rcases hrecord with ⟨id, hlink, hbarred⟩ | ⟨hpassed, hfixes⟩
  · rw [hlink]
    simp only [leaves_bind]
    exact cancelIfInitial_barred hbarred fun _ _ hidle => hidle
  -- the order is left alone too, once the record has been read at most
  have hfail {v' : Services} (hidle : v.Idle v') :
      Leaves failOrder s v' fun _ _ v'' => v.Idle v'' := by
    have hfailed : Failed s v' := by
      refine .inr (.inr (.inr ⟨hbank, fun o ho => ?_⟩))
      rw [hidle.orders]
      exact hfixes o ho
    exact (failOrder_idle hfailed).mono fun _ _ _ h => hidle.trans h
  cases hlink : s.transactionId? with
  | none => exact hfail rfl
  | some id =>
      simp only [leaves_bind]
      exact cancelIfInitial_passes (hpassed id hlink) fun _ hidle => hfail hidle

theorem reverseVoucher_idle (h : Reversed s v) :
    Leaves reverseVoucher s v fun _ _ v' => v.Idle v' := by
  unfold Flow.reverseVoucher
  simp only [leaves_bind, leaves_get]
  split
  · rfl
  next hgoes =>
  simp only [Bool.or_eq_true, Bool.not_eq_true', not_or] at hgoes
  split
  · rfl
  next order horder =>
  rcases h with hparked | hbank | hnone | hunused
  · exact absurd hparked hgoes.1.1
  · exact absurd hbank hgoes.1.2
  · exact absurd hnone hgoes.2
  · simp only [leaves_reverse, Promotion.reverse, hunused order horder]
    rfl

/-! ## Undoing actions -/

/-- What an undoing action makes of a flow and of the services that it finds: it spares what it has to,
and when it is run again and nobody has written anything in between, nothing changes but the clock. -/
structure UndoesOnce (part : StepM Unit) (s : FlowState) (v : Services) : Prop where
  spares : Leaves part s v fun _ _ v' => v.Spares s.bankSucceeded v'
  again : InTouch s v → Leaves part s v fun r s' v' => ∀ v₁ : Services, v₁.orders = v'.orders →
    v₁.ledger = v'.ledger → v₁.promotion = v'.promotion →
      Leaves part (keepReason r s') v₁ fun _ _ v₂ => v₁.Idle v₂

/-- An action undoes a flow once if it leaves the flow in a state which it then leaves alone. -/
theorem UndoesOnce.of_settled {part : StepM Unit} {D : FlowState → Services → Prop}
    (hfirst : Leaves part s v fun _ s' v' =>
      v.Spares s.bankSucceeded v' ∧ (InTouch s v → D s' v'))
    (hreason : ∀ {r s v}, D s v → D (keepReason r s) v)
    (hsame : ∀ {s v v₁}, D s v → v₁.orders = v.orders → v₁.ledger = v.ledger →
      v₁.promotion = v.promotion → D s v₁)
    (hagain : ∀ {s v}, D s v → Leaves part s v fun _ _ v' => v.Idle v') : UndoesOnce part s v where
  spares := hfirst.mono fun _ _ _ h => h.1
  again htouch := hfirst.mono fun _ _ _ h _ horders hledger hpromotion =>
    hagain (hsame (hreason (h.2 htouch)) horders hledger hpromotion)

theorem failOrder_undoesOnce (hfiled : v.orders.Filed) : UndoesOnce failOrder s v := by
  refine .of_settled (failOrder_fails hfiled) ?_ ?_ failOrder_idle
  · intro r s v h
    cases r <;> exact h
  · intro s v v₁ h horders hledger _
    unfold Failed Complete at h ⊢
    rw [horders, hledger]
    exact h

theorem cancelLedger_undoesOnce : UndoesOnce cancelLedger s v := by
  refine .of_settled (cancelLedger_leaves.mono fun _ _ _ h => ⟨h.1, fun _ => h.2⟩) ?_ ?_
    cancelLedger_idle
  · intro r s v h
    cases r <;> exact h
  · intro s v v₁ h _ hledger _
    unfold Withdrawn at h ⊢
    rw [hledger]
    exact h

theorem abortOtp_undoesOnce (hfiled : v.orders.Filed)
    (hlinked : s.parked = true ∨ ∃ id, s.transactionId? = some id) : UndoesOnce abortOtp s v := by
  refine .of_settled (abortOtp_aborts hfiled hlinked) ?_ ?_ abortOtp_idle
  · intro r s v h
    cases r <;> exact h
  · intro s v v₁ h horders hledger _
    unfold Aborted Complete at h ⊢
    rw [horders, hledger]
    exact h

theorem reverseVoucher_undoesOnce : UndoesOnce reverseVoucher s v := by
  refine .of_settled (reverseVoucher_leaves.mono fun _ _ _ h => ⟨h.1, fun _ => h.2⟩) ?_ ?_
    reverseVoucher_idle
  · intro r s v h
    cases r <;> exact h
  · intro s v v₁ h _ _ hpromotion
    unfold Reversed at h ⊢
    rw [hpromotion]
    exact h

end

end Wallet.Flow
