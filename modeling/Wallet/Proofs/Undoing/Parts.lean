import Wallet.Proofs.Undoing.Basic

/-!
# Undoing once

What each undoing action does to a flow and to whatever services it finds: it spares what it has to, and
it ends in a state in which nothing is left for it to do. What that is differs: an order is in none of
the statuses that are failed or settled, a record is confirmed or cannot be cancelled any more, a voucher
is not in use, or the flow is parked.
-/

namespace Wallet

namespace Flow

/-- The flow goes on as it was, or with a new version of the stored order. -/
def Renewed (s : FlowState) (v : Services) (s' : FlowState) : Prop :=
  s' = s ∨ ∃ o stored o', s.order = some o ∧ v.orders.get? o.id = some stored ∧
    o'.transactionId = stored.transactionId ∧ s' = { s with order := some o' }

/-- How a flow is left when its order was resolved, or could not be, or need not be. -/
structure Closes (c : Bool) (s : FlowState) (v : Services) (s' : FlowState) (v' : Services) :
    Prop where
  spares : v.Spares c v'
  ledger : v'.ledger = v.ledger
  renewed : Renewed s v s'
  fixed : ∀ o, s'.order = some o → v'.orders.Fixes c o.id

/-- The order of a flow, once it is linked, is linked to no other record in the store. -/
def InTouch (s : FlowState) (v : Services) : Prop :=
  ∀ o id stored other, s.order = some o → o.transactionId = some id →
    v.orders.get? o.id = some stored → stored.transactionId = some other → other = id

section

variable {c : Bool} {s s' : FlowState} {v v' : Services} {o : Order}

/-! ## Parking and completing -/

theorem hold_leaves (id : Option TransactionId)
    {Q : Except FlowError Unit → FlowState → Services → Prop}
    (hQ : ∀ v', v'.orders = v.orders → v.Spares true v' → Q (.ok ()) s v') :
    Leaves (hold id) s v Q := by
  unfold Flow.hold
  cases id with
  | none => exact hQ v rfl (.of_eq rfl rfl)
  | some id =>
      simp only [leaves_bind]
      refine leaves_moving (r := .setPending id) rfl (fun e _ => hQ _ rfl (.of_eq rfl rfl)) ?_
      intro t t' ht hmoves
      exact hQ _ rfl (.moved ht (Transaction.not_fixed_of_moveTo hmoves))

/-- The flow has been parked, and undoing it has spared what it has to. -/
structure Parks (v : Services) (s' : FlowState) (v' : Services) : Prop where
  parked : s'.parked = true
  spares : v.Spares true v'

theorem park_leaves (reason : String)
    (hfiled : v.orders.Filed) :
    Leaves (park reason) s v fun _ s' v' => Parks v s' v' := by
  unfold Flow.park
  simp only [leaves_bind, leaves_modify, leaves_order]
  refine ⟨fun _ => ⟨rfl, .of_eq rfl rfl⟩, fun order horder => ?_⟩
  apply hold_leaves
  intro v' horders hspares
  have hread {v'' : Services} (horders : v''.orders = v'.orders) (hledger : v''.ledger = v'.ledger) :
      v.Spares true v'' := hspares.trans (.of_eq horders hledger)
  simp only [leaves_stored]
  refine ⟨fun _ => ⟨rfl, hread rfl rfl⟩, fun _ => ⟨fun _ => ⟨rfl, hread rfl rfl⟩, ?_⟩⟩
  intro current hcurrent
  split
  · next hopen =>
      simp only [Bool.and_eq_true, Bool.not_eq_true'] at hopen
      simp only [leaves_bind, leaves_now, leaves_accept]
      refine ⟨fun _ _ => ⟨rfl, hread rfl rfl⟩, fun verifying hverifying => ?_⟩
      obtain ⟨_, rfl⟩ := Order.transitionFor_ok hverifying
      refine leaves_askReplace (fun _ => ⟨rfl, hread rfl rfl⟩) fun stored hstored => ?_
      -- what is replaced is what was read, since an order is filed under its own identifier
      have hid : current.id = order.id := by
        rw [horders] at hcurrent
        exact hfiled hcurrent
      have hsame : stored = current := by
        rw [← hid] at hcurrent
        exact Option.some.inj (hstored.symm.trans hcurrent)
      have hnot : ¬stored.Fixed true := by
        rw [hsame]
        rintro (hterminal | ⟨⟨⟩, _⟩)
        rw [hopen.2] at hterminal
        cases hterminal
      simp only [leaves_notify, leaves_keep, leaves_throw]
      exact ⟨rfl, hspares.trans (.replacing (Services.submitJob_orders _)
        (Services.submitJob_ledger _) hstored hnot)⟩
  · exact ⟨rfl, hread rfl rfl⟩

theorem parkQuietly_leaves (reason : String)
    (hfiled : v.orders.Filed) :
    Leaves (parkQuietly reason) s v fun _ s' v' => Parks v s' v' := by
  unfold Flow.parkQuietly
  rw [leaves_tryCatch]
  apply (park_leaves reason hfiled).mono
  rintro (e | u) s' v' h
  · cases e <;> exact h
  · exact h

theorem Closes.left (horder : s.order = some o) (horders : v'.orders = v.orders)
    (hledger : v'.ledger = v.ledger) (hfixes : v'.orders.Fixes c o.id) : Closes c s v s v' := by
  refine ⟨.of_eq horders hledger, hledger, .inl rfl, fun other hother => ?_⟩
  cases horder.symm.trans hother
  exact hfixes

theorem Closes.since {v₁ : Services} (h : Closes c s v₁ s' v') (horders : v₁.orders = v.orders)
    (hledger : v₁.ledger = v.ledger) : Closes c s v s' v' := by
  refine ⟨.trans (.of_eq horders hledger) h.spares, h.ledger.trans hledger, ?_, h.fixed⟩
  have hrenewed := h.renewed
  unfold Renewed at hrenewed ⊢
  rw [← horders]
  exact hrenewed

/-- An order that is not to be left alone is written as resolved. -/
theorem writeResolved_closes {current o' : Order} {kind : NotificationKind} {message : String}
    (hfiled : v.orders.Filed) (horder : s.order = some o)
    (hreached : v.orders.unavailable = false) (hcurrent : v.orders.get? o.id = some current)
    (hopen : ¬current.Fixed c) (hends : current.Ends o') :
    Leaves (writeResolved o' kind message) s v fun _ s' v' => Closes c s v s' v' := by
  have hstored : v.orders.get? o'.id = some current := by
    rw [hends.id, hfiled hcurrent]
    exact hcurrent
  unfold Flow.writeResolved
  simp only [leaves_bind]
  refine leaves_replace (fun e hholds => ?_) fun _ _ _ => ?_
  · have hgives := hends.gives
    rw [hholds current hreached hstored] at hgives
    cases hgives
  · simp only [leaves_bind, leaves_notify, leaves_keep]
    refine ⟨.replacing (Services.submitJob_orders _) (Services.submitJob_ledger _) hstored hopen,
      Services.submitJob_ledger _,
      .inr ⟨o, current, o', horder, hcurrent, hends.link, rfl⟩, ?_⟩
    intro other hother
    cases hother
    rw [Services.submitJob_orders]
    exact OrderStore.fixes_replacing hends.resolved

/-- The order is settled, unless it is resolved or cannot be read. -/
theorem settleOrder_closes (hfiled : v.orders.Filed)
    (horder : s.order = some o) :
    Leaves (settleOrder o.id) s v fun _ s' v' => Closes true s v s' v' := by
  unfold Flow.settleOrder
  simp only [leaves_bind, leaves_stored]
  refine ⟨fun hdown => ?_, fun hreached => ⟨fun hnone => ?_, fun current hcurrent => ?_⟩⟩
  · exact .left horder rfl rfl (.of_down hdown)
  · exact .left horder rfl rfl (.of_none hnone)
  split
  · next hterminal => exact .left horder rfl rfl (.of_stored hcurrent (.inl hterminal))
  · next hopen =>
      simp only [Bool.not_eq_true] at hopen
      have hunresolved := Order.isUnresolved_of_not_isTerminal hopen
      have hnot : ¬current.Fixed true := by
        rintro (hterminal | ⟨⟨⟩, _⟩)
        rw [hopen] at hterminal
        cases hterminal
      simp only [leaves_bind, leaves_now, leaves_accept]
      constructor
      · intro e he
        rw [Order.settle, if_pos hunresolved] at he
        cases he
      · intro settled hsettled
        exact (writeResolved_closes (v := v.ticked.ticked) hfiled horder hreached hcurrent hnot
          (.settled hsettled)).mono fun _ _ _ h => h.since rfl rfl

theorem InTouch.of_orders (h : InTouch s v) (horders : v'.orders = v.orders) : InTouch s v' := by
  unfold InTouch at h ⊢
  rw [horders]
  exact h

/-- A flow goes on with an order that is linked to the same record, if it is linked. -/
theorem Renewed.link {id other : TransactionId} (h : Renewed s v s') (htouch : InTouch s v)
    (hlink : s.transactionId? = some id) (hother : s'.transactionId? = some other) : other = id := by
  obtain ⟨o, horder, hid⟩ := Option.bind_eq_some_iff.mp hlink
  rcases h with rfl | ⟨_, stored, o', hsame, hstored, hlink', rfl⟩
  · exact Option.some.inj (hother.symm.trans hlink)
  · cases horder.symm.trans hsame
    exact htouch o id stored other horder hid hstored (hlink'.symm.trans hother)

theorem Renewed.flags (h : Renewed s v s') :
    s'.parked = s.parked ∧ s'.retryAllowed = s.retryAllowed ∧ s'.bankSucceeded = s.bankSucceeded := by
  rcases h with rfl | ⟨_, _, _, _, _, _, rfl⟩ <;> exact ⟨rfl, rfl, rfl⟩

/-- The record of a flow is confirmed and its order resolved, as far as both can be read. -/
def Complete (s : FlowState) (v : Services) : Prop :=
  ∀ o id t, s.order = some o → o.transactionId = some id → v.ledger.find id = .ok t →
    t.status = .finish ∧ v.orders.Fixes true o.id

/-- How a flow is left that has been completed, or parked when the record was not confirmed. -/
structure Completes (s : FlowState) (v : Services) (s' : FlowState) (v' : Services) : Prop where
  spares : v.Spares true v'
  done : InTouch s v → s'.parked = true ∨ s'.bankSucceeded = s.bankSucceeded ∧ Complete s' v'

/-- Settling the order completes the flow once the record is confirmed. -/
theorem settleOrder_completes {v₁ : Services} {id : TransactionId}
    (hfiled : v.orders.Filed) (horder : s.order = some o) (hlink : o.transactionId = some id)
    (horders : v₁.orders = v.orders) (hspares : v.Spares true v₁)
    (hrecord : ∀ t, v₁.ledger.find id = .ok t → t.status = .finish) :
    Leaves (settleOrder o.id) s v₁ fun _ s' v' => Completes s v s' v' := by
  have hfiled₁ : v₁.orders.Filed := by
    rw [horders]
    exact hfiled
  apply (settleOrder_closes hfiled₁ horder).mono
  rintro _ s' v' h
  refine ⟨hspares.trans h.spares, fun htouch => .inr ⟨h.renewed.flags.2.2, ?_⟩⟩
  intro o' id' t ho' hlink' ht
  have hown : s.transactionId? = some id := Option.bind_eq_some_iff.mpr ⟨o, horder, hlink⟩
  have hown' : s'.transactionId? = some id' := Option.bind_eq_some_iff.mpr ⟨o', ho', hlink'⟩
  cases h.renewed.link (htouch.of_orders horders) hown hown'
  rw [h.ledger] at ht
  exact ⟨hrecord t ht, h.fixed o' ho'⟩

theorem completeOrder_completes (hfiled : v.orders.Filed) :
    Leaves completeOrder s v fun _ s' v' => Completes s v s' v' := by
  unfold Flow.completeOrder
  simp only [leaves_bind, leaves_order, leaves_transactionId, leaves_findRecord]
  constructor
  · intro hnone
    refine ⟨.of_eq rfl rfl, fun _ => .inr ⟨rfl, fun o _ _ ho => ?_⟩⟩
    cases hnone.symm.trans ho
  intro order horder
  constructor
  · intro hnone
    cases hnone.symm.trans horder
  intro _ hsame
  cases horder.symm.trans hsame
  constructor
  · intro hunlinked
    refine ⟨.of_eq rfl rfl, fun _ => .inr ⟨rfl, fun o id _ ho hid => ?_⟩⟩
    cases horder.symm.trans ho
    cases hunlinked.symm.trans hid
  intro id hlink
  constructor
  · intro e he
    refine ⟨.of_eq rfl rfl, fun _ => .inr ⟨rfl, fun o id' t ho hid ht => ?_⟩⟩
    cases horder.symm.trans ho
    cases hlink.symm.trans hid
    cases he.symm.trans ht
  intro t ht
  split
  · next hfinish =>
      refine settleOrder_completes hfiled horder hlink rfl (.of_eq rfl rfl) ?_
      intro t' ht'
      cases ht.symm.trans ht'
      exact hfinish
  · simp only [leaves_bind]
    refine leaves_moving (r := .confirm id) rfl (fun e _ => ?_) fun stored t' hstored hmoves => ?_
    -- a record that could not be confirmed: the flow is parked, whatever becomes of its order
    · refine (parkQuietly_leaves (v := v.ticked.ticked) _ hfiled).mono fun _ _ _ h => ?_
      have hread : v.Spares true v.ticked.ticked := .of_eq rfl rfl
      exact ⟨hread.trans h.spares, fun _ => .inl h.parked⟩
    · have hread : v.Spares true v.ticked := .of_eq rfl rfl
      have hopen : ¬stored.Fixed true := Transaction.not_fixed_of_moveTo hmoves
      have hmoved : v.ticked.Spares true
          { v.ticked.ticked with ledger := v.ledger.moved (.confirm id) id t' } :=
        .moved hstored hopen
      refine settleOrder_completes hfiled horder hlink rfl (hread.trans hmoved) ?_
      intro u hu
      cases (Ledger.find_moved ht).symm.trans hu
      obtain ⟨_, rfl⟩ := Transaction.moveTo_ok hmoves
      rfl

/-! ## Undoing -/

/-- A flow whose money has not been moved is failed, and no record is touched. -/
theorem failOrder_closes (hfiled : v.orders.Filed)
    (hgoes : (s.parked || s.retryAllowed) = false) (hbank : s.bankSucceeded = false) :
    Leaves failOrder s v fun _ s' v' => Closes false s v s' v' := by
  unfold Flow.failOrder
  simp only [leaves_bind, leaves_get, hgoes, hbank, Bool.false_eq_true, if_false]
  cases horder : s.order with
  | none =>
      refine ⟨.of_eq rfl rfl, rfl, .inl rfl, fun o ho => ?_⟩
      cases horder.symm.trans ho
  | some order =>
      simp only [leaves_bind, leaves_find]
      refine ⟨fun hdown => .left horder rfl rfl (.of_down hdown), fun hreached => ?_⟩
      cases hcurrent : v.orders.get? order.id with
      | none => exact .left horder rfl rfl (.of_none hcurrent)
      | some current =>
          simp only [leaves_bind, leaves_now]
          split
          · next hnot =>
              have hfixed := Order.fixed_of_failUnlessResolved? hnot
              exact .left horder rfl rfl (.of_stored hcurrent hfixed)
          · next failed hfailed =>
              have hopen : ¬current.Fixed false := by
                obtain ⟨hverifying, hterminal, _⟩ := Order.failUnlessResolved?_some hfailed
                simp [Order.Fixed, hverifying, hterminal]
              exact (writeResolved_closes (v := v.ticked.ticked) hfiled horder hreached hcurrent
                hopen (.failed hfailed)).mono fun _ _ _ h => h.since rfl rfl

/-- Undoing the flow leaves its order alone: the flow is parked, or a password may be entered again, or
the money has been moved and the flow is complete, or the order is not one to be failed. -/
def Failed (s : FlowState) (v : Services) : Prop :=
  s.parked = true ∨ s.retryAllowed = true ∨ (s.bankSucceeded = true ∧ Complete s v) ∨
    (s.bankSucceeded = false ∧ ∀ o, s.order = some o → v.orders.Fixes false o.id)

theorem Completes.failed (h : Completes s v s' v') (hbank : s.bankSucceeded = true)
    (htouch : InTouch s v) : Failed s' v' := by
  rcases h.done htouch with hparked | ⟨hsame, hcomplete⟩
  · exact .inl hparked
  · exact .inr (.inr (.inl ⟨hsame.trans hbank, hcomplete⟩))

theorem failOrder_fails (hfiled : v.orders.Filed) :
    Leaves failOrder s v fun _ s' v' =>
      v.Spares s.bankSucceeded v' ∧ (InTouch s v → Failed s' v') := by
  cases hleft : s.parked || s.retryAllowed with
  | true =>
      unfold Flow.failOrder
      simp only [leaves_bind, leaves_get, hleft, if_true, leaves_pure]
      rcases (Bool.or_eq_true _ _).mp hleft with hparked | hretry
      · exact ⟨.of_eq rfl rfl, fun _ => .inl hparked⟩
      · exact ⟨.of_eq rfl rfl, fun _ => .inr (.inl hretry)⟩
  | false =>
      cases hbank : s.bankSucceeded with
      | true =>
          unfold Flow.failOrder
          simp only [leaves_bind, leaves_get, hleft, hbank, Bool.false_eq_true, if_false, if_true]
          apply (completeOrder_completes hfiled).mono
          intro _ _ _ h
          exact ⟨h.spares, h.failed hbank⟩
      | false =>
          apply (failOrder_closes hfiled hleft hbank).mono
          intro _ _ _ h
          exact ⟨h.spares,
            fun _ => .inr (.inr (.inr ⟨h.renewed.flags.2.2.trans hbank, h.fixed⟩))⟩

/-- How a flow is left when its record was cancelled, or could not be, or need not be. -/
structure Withdraws (c : Bool) (id : TransactionId) (r : Except FlowError Unit) (s : FlowState)
    (v : Services) (s' : FlowState) (v' : Services) : Prop where
  state : s' = s
  orders : v'.orders = v.orders
  spares : v.Spares c v'
  record : match r with
    | .ok () => v'.ledger.Passed id
    | .error _ => v'.ledger.Barred id

theorem cancelIfInitial_withdraws (id : TransactionId) :
    Leaves (cancelIfInitial id) s v fun r s' v' => Withdraws c id r s v s' v' := by
  unfold Flow.cancelIfInitial
  simp only [leaves_bind, leaves_findRecord]
  constructor
  · intro e he
    refine ⟨rfl, rfl, .of_eq rfl rfl, fun t ht => ?_⟩
    cases he.symm.trans ht
  intro t ht
  split
  · next hcancellable =>
      simp only [leaves_bind, leaves_get]
      refine leaves_askMoving (r := .cancel id s.rollbackReason) rfl (fun e he => ?_) ?_
      · refine ⟨rfl, rfl, .of_eq rfl rfl, fun t' ht' => ?_⟩
        cases ht.symm.trans ht'
        exact ⟨hcancellable, fun _ _ => Ledger.cancel_refused he⟩
      · intro stored t' hstored hcancelled
        have hread : v.Spares c v.ticked := .of_eq rfl rfl
        have hopen : ¬stored.Fixed c := Transaction.not_fixed_of_cancel hcancelled
        refine ⟨rfl, rfl, hread.trans (.moved hstored hopen), t', Ledger.find_moved ht, ?_⟩
        obtain ⟨_, rfl⟩ := Transaction.fail_ok (Transaction.cancel_ok hcancelled).2
        rfl
  · next hresolved => exact ⟨rfl, rfl, .of_eq rfl rfl, t, ht, by simpa using hresolved⟩

/-- Undoing the flow leaves its record alone. -/
def Withdrawn (s : FlowState) (v : Services) : Prop :=
  s.parked = true ∨ s.retryAllowed = true ∨ s.bankSucceeded = true ∨
    ∀ id, s.transactionId? = some id → v.ledger.Passed id ∨ v.ledger.Barred id

theorem cancelLedger_leaves :
    Leaves cancelLedger s v fun _ s' v' => v.Spares c v' ∧ Withdrawn s' v' := by
  unfold Flow.cancelLedger
  simp only [leaves_bind, leaves_get]
  split
  · next hleft =>
      simp only [Bool.or_eq_true] at hleft
      rcases hleft with (hparked | hretry) | hbank
      · exact ⟨.of_eq rfl rfl, .inl hparked⟩
      · exact ⟨.of_eq rfl rfl, .inr (.inl hretry)⟩
      · exact ⟨.of_eq rfl rfl, .inr (.inr (.inl hbank))⟩
  split
  · next hnone =>
      refine ⟨.of_eq rfl rfl, .inr (.inr (.inr fun id hid => ?_))⟩
      cases hnone.symm.trans hid
  · next id hid =>
      apply (cancelIfInitial_withdraws (c := c) id).mono
      rintro r s' v' ⟨rfl, _, hspares, hrecord⟩
      refine ⟨hspares, .inr (.inr (.inr fun other hother => ?_))⟩
      cases hid.symm.trans hother
      cases r with
      | ok u => exact .inl hrecord
      | error e => exact .inr hrecord

/-- Undoing the resumed flow leaves its order and its record alone. -/
def Aborted (s : FlowState) (v : Services) : Prop :=
  s.parked = true ∨ s.retryAllowed = true ∨ (s.bankSucceeded = true ∧ Complete s v) ∨
    (s.bankSucceeded = false ∧ ((∃ id, s.transactionId? = some id ∧ v.ledger.Barred id) ∨
      (∀ id, s.transactionId? = some id → v.ledger.Passed id) ∧
        ∀ o, s.order = some o → v.orders.Fixes false o.id))

theorem abortOtp_aborts (hfiled : v.orders.Filed)
    (hlinked : s.parked = true ∨ ∃ id, s.transactionId? = some id) :
    Leaves abortOtp s v fun _ s' v' =>
      v.Spares s.bankSucceeded v' ∧ (InTouch s v → Aborted s' v') := by
  unfold Flow.abortOtp
  simp only [leaves_bind, leaves_get]
  split
  · next hleft =>
      rcases (Bool.or_eq_true _ _).mp hleft with hparked | hretry
      · exact ⟨.of_eq rfl rfl, fun _ => .inl hparked⟩
      · exact ⟨.of_eq rfl rfl, fun _ => .inr (.inl hretry)⟩
  next hgoes =>
  split
  · next hbank =>
      apply (completeOrder_completes hfiled).mono
      intro _ _ _ h
      rw [hbank]
      refine ⟨h.spares, fun htouch => ?_⟩
      rcases h.done htouch with hparked | ⟨hsame, hcomplete⟩
      · exact .inl hparked
      · exact .inr (.inr (.inl ⟨hsame.trans hbank, hcomplete⟩))
  next hbank =>
  simp only [Bool.not_eq_true] at hgoes hbank
  rw [hbank]
  rcases hlinked with hparked | ⟨id, hlink⟩
  · simp [hparked] at hgoes
  rw [hlink]
  simp only [leaves_bind]
  apply (cancelIfInitial_withdraws (c := false) id).mono
  rintro (e | u) s' v' ⟨rfl, horders, hspares, hrecord⟩
  · exact ⟨hspares, fun _ => .inr (.inr (.inr ⟨hbank, .inl ⟨id, hlink, hrecord⟩⟩))⟩
  have hfiled' : v'.orders.Filed := by
    rw [horders]
    exact hfiled
  apply (failOrder_closes hfiled' hgoes hbank).mono
  intro r s'' v'' h
  refine ⟨hspares.trans h.spares, fun htouch => ?_⟩
  refine .inr (.inr (.inr ⟨h.renewed.flags.2.2.trans hbank, .inr ⟨fun other hother => ?_, h.fixed⟩⟩))
  cases h.renewed.link (htouch.of_orders horders) hlink hother
  rw [h.ledger]
  exact hrecord

/-- Undoing the flow leaves the usages of vouchers alone. -/
def Reversed (s : FlowState) (v : Services) : Prop :=
  s.parked = true ∨ s.bankSucceeded = true ∨
    (s.request.bind PaymentRequest.voucherCode).isSome = false ∨
      ∀ o, s.order = some o → v.promotion.usages.get? (voucherTrace o) = none

theorem reverseVoucher_leaves :
    Leaves reverseVoucher s v fun _ s' v' => v.Spares c v' ∧ Reversed s' v' := by
  unfold Flow.reverseVoucher
  simp only [leaves_bind, leaves_get]
  split
  · next hleft =>
      simp only [Bool.or_eq_true, Bool.not_eq_true'] at hleft
      rcases hleft with (hparked | hbank) | hnone
      · exact ⟨.of_eq rfl rfl, .inl hparked⟩
      · exact ⟨.of_eq rfl rfl, .inr (.inl hbank)⟩
      · exact ⟨.of_eq rfl rfl, .inr (.inr (.inl hnone))⟩
  split
  · next hnone =>
      refine ⟨.of_eq rfl rfl, .inr (.inr (.inr fun o ho => ?_))⟩
      cases hnone.symm.trans ho
  · next order horder =>
      refine ⟨.of_eq rfl rfl, .inr (.inr (.inr fun o ho => ?_))⟩
      cases horder.symm.trans ho
      exact Promotion.usages_reverse v.promotion (voucherTrace order)

end

end Flow

end Wallet
