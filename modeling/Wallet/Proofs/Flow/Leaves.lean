import Wallet.Flow.Payment
import Wallet.Proofs.Store.Basic
import Wallet.Proofs.Store.Records
import Wallet.Services

/-!
# What parts of flows leave

When the services themselves answer all its calls, a part of a flow ends in one way only. `Leaves` says
with which value or error, state and services that is. Unlike `Ensures` and `Reaches` it speaks of all
that the services hold, so it can say that a part changes nothing at all.
-/

namespace Wallet

namespace Services

/-- The services once the civil clock has been read. -/
def ticked (v : Services) : Services := { v with clock := v.clock.tick }

/-- Nothing has changed but the civil clock. -/
def Idle (v v' : Services) : Prop := v' = { v with clock := v'.clock }

variable {v v' v'' : Services}

@[simp] theorem submitJob_orders (n : Notification) : (v.submitJob n).orders = v.orders := by
  unfold submitJob takeSlot
  cases v.pool.submit? <;> rfl

@[simp] theorem submitJob_ledger (n : Notification) : (v.submitJob n).ledger = v.ledger := by
  unfold submitJob takeSlot
  cases v.pool.submit? <;> rfl

theorem Idle.trans (h : v.Idle v') (h' : v'.Idle v'') : v.Idle v'' := by
  unfold Idle at h h'
  rw [h', h]
  rfl

theorem Idle.orders (h : v.Idle v') : v'.orders = v.orders := by
  unfold Idle at h
  rw [h]

end Services

namespace Flow

variable {α β : Type} {s : FlowState} {v : Services}

/-- The part ends with a value or an error, a state and services that satisfy `Q`. -/
def Leaves (x : StepM α) (s : FlowState) (v : Services)
    (Q : Except FlowError α → FlowState → Services → Prop) : Prop :=
  Q (v.run (x.run.run s)).1.1 (v.run (x.run.run s)).1.2 (v.run (x.run.run s)).2

theorem Leaves.mono {x : StepM α} {Q R : Except FlowError α → FlowState → Services → Prop}
    (h : Leaves x s v Q) (hQR : ∀ r s v, Q r s v → R r s v) : Leaves x s v R :=
  hQR _ _ _ h

/-! ## Parts without calls -/

@[simp] theorem leaves_pure (a : α) (Q : Except FlowError α → FlowState → Services → Prop) :
    Leaves (pure a) s v Q ↔ Q (.ok a) s v := Iff.rfl

@[simp] theorem leaves_throw (e : FlowError) (Q : Except FlowError α → FlowState → Services → Prop) :
    Leaves (throw e) s v Q ↔ Q (.error e) s v := Iff.rfl

@[simp] theorem leaves_get (Q : Except FlowError FlowState → FlowState → Services → Prop) :
    Leaves get s v Q ↔ Q (.ok s) s v := Iff.rfl

@[simp] theorem leaves_modify (f : FlowState → FlowState)
    (Q : Except FlowError Unit → FlowState → Services → Prop) :
    Leaves (modify f) s v Q ↔ Q (.ok ()) (f s) v := Iff.rfl

/-- A part whose error is handled goes on where it ended. -/
theorem leaves_handled (x : StepM α) (f : Except FlowError α → FlowM β)
    (Q : β → FlowState → Services → Prop) :
    Q (v.run ((x.run >>= f).run s)).1.1 (v.run ((x.run >>= f).run s)).1.2
        (v.run ((x.run >>= f).run s)).2 ↔
      Leaves x s v fun r s v =>
        Q (v.run ((f r).run s)).1.1 (v.run ((f r).run s)).1.2 (v.run ((f r).run s)).2 := by
  have hrun : v.run ((x.run >>= f).run s) =
      (v.run (x.run.run s)).2.run
        ((f (v.run (x.run.run s)).1.1).run (v.run (x.run.run s)).1.2) :=
    Program.run_bind Services.answer (x.run.run s) _ v
  rw [hrun]
  rfl

@[simp] theorem leaves_bind (x : StepM α) (f : α → StepM β)
    (Q : Except FlowError β → FlowState → Services → Prop) :
    Leaves (x >>= f) s v Q ↔ Leaves x s v fun r s v => match r with
      | .ok a => Leaves (f a) s v Q
      | .error e => Q (.error e) s v := by
  refine (leaves_handled x _ Q).trans (iff_of_eq (congrArg (Leaves x s v) ?_))
  funext r s v
  cases r <;> rfl

theorem leaves_tryCatch (x : StepM α) (handle : FlowError → StepM α)
    (Q : Except FlowError α → FlowState → Services → Prop) :
    Leaves (tryCatch x handle) s v Q ↔ Leaves x s v fun r s v => match r with
      | .ok a => Q (.ok a) s v
      | .error e => Leaves (handle e) s v Q := by
  show Leaves (ExceptT.tryCatch x handle) s v Q ↔ _
  unfold ExceptT.tryCatch
  refine (leaves_handled x _ Q).trans (iff_of_eq (congrArg (Leaves x s v) ?_))
  funext r s v
  cases r <;> rfl

@[simp] theorem leaves_accept (change : Except OrderError Order)
    (Q : Except FlowError Order → FlowState → Services → Prop) :
    Leaves (StepM.accept change) s v Q ↔
      (∀ e, change = .error e → Q (.error (.order e)) s v) ∧
        ∀ o, change = .ok o → Q (.ok o) s v :=
  Books.mapError_iff (P := fun r => Q r s v)

@[simp] theorem leaves_keep (o : Order) (Q : Except FlowError Unit → FlowState → Services → Prop) :
    Leaves (StepM.keep o) s v Q ↔ Q (.ok ()) { s with order := some o } v := Iff.rfl

@[simp] theorem leaves_order (Q : Except FlowError Order → FlowState → Services → Prop) :
    Leaves StepM.order s v Q ↔
      (s.order = none → Q (.error (.invalidRequest "order was not created")) s v) ∧
        ∀ o, s.order = some o → Q (.ok o) s v := by
  unfold StepM.order
  simp only [leaves_bind, leaves_get]
  cases s.order <;> simp

@[simp] theorem leaves_transactionId
    (Q : Except FlowError TransactionId → FlowState → Services → Prop) :
    Leaves StepM.transactionId s v Q ↔
      (s.order = none → Q (.error (.invalidRequest "order was not created")) s v) ∧
      ∀ o, s.order = some o →
        (o.transactionId = none → Q (.error (.invalidRequest "order has no ledger record")) s v) ∧
        ∀ id, o.transactionId = some id → Q (.ok id) s v := by
  unfold StepM.transactionId
  simp only [leaves_bind, leaves_order]
  refine and_congr Iff.rfl (forall_congr' fun o => imp_congr_right fun _ => ?_)
  cases o.transactionId <;> simp

/-! ## Calls -/

@[simp] theorem leaves_now (Q : Except FlowError Timestamp → FlowState → Services → Prop) :
    Leaves (StepM.perform .now) s v Q ↔ Q (.ok v.clock.tick) s v.ticked := Iff.rfl

@[simp] theorem leaves_notify (o : Order) (kind : NotificationKind) (message : String)
    (Q : Except FlowError Unit → FlowState → Services → Prop) :
    Leaves (StepM.notify o kind message) s v Q ↔
      Q (.ok ()) s (v.submitJob ⟨o.userId, o.id, kind, message⟩) := Iff.rfl

@[simp] theorem leaves_find (id : OrderId)
    (Q : Except FlowError (Option Order) → FlowState → Services → Prop) :
    Leaves (StepM.ask (.orders (.find id)) : StepM (Option Order)) s v Q ↔
      (v.orders.unavailable = true → Q (.error (.service OrderStore.down)) s v.ticked) ∧
      (v.orders.unavailable = false → Q (.ok (v.orders.get? id)) s v.ticked) := by
  show Q ((v.orders.find id).mapError .service) s v.ticked ↔ _
  unfold OrderStore.find
  cases v.orders.unavailable with
  | true =>
      show Q (.error (.service OrderStore.down)) s v.ticked ↔ _
      simp
  | false =>
      show Q (.ok (v.orders.get? id)) s v.ticked ↔ _
      simp

@[simp] theorem leaves_stored (id : OrderId)
    (Q : Except FlowError Order → FlowState → Services → Prop) :
    Leaves (stored id) s v Q ↔
      (v.orders.unavailable = true → Q (.error (.service OrderStore.down)) s v.ticked) ∧
      (v.orders.unavailable = false →
        (v.orders.get? id = none → Q (.error (.service (OrderStore.missing id))) s v.ticked) ∧
        ∀ o, v.orders.get? id = some o → Q (.ok o) s v.ticked) := by
  unfold stored
  simp only [leaves_bind, leaves_find]
  refine and_congr Iff.rfl (imp_congr_right fun _ => ?_)
  cases v.orders.get? id <;> simp

/-- A stored order is replaced if it gives way, and else nothing changes. -/
theorem leaves_replace {o : Order}
    {Q : Except FlowError (Except ServiceError Order) → FlowState → Services → Prop}
    (hrefused : ∀ e, (∀ stored, v.orders.unavailable = false → v.orders.get? o.id = some stored →
      stored.status.acceptsOverwrite o.status = false) → Q (.ok (.error e)) s v.ticked)
    (hreplaced : ∀ stored, v.orders.unavailable = false → v.orders.get? o.id = some stored →
      Q (.ok (.ok o)) s { v.ticked with orders := v.orders.replacing o }) :
    Leaves (StepM.perform (.orders (.replace o)) : StepM (Except ServiceError Order)) s v Q := by
  show Q (.ok (v.orders.serve v.clock.tick (.replace o)).1) s
    { v.ticked with orders := (v.orders.serve v.clock.tick (.replace o)).2 }
  rcases v.orders.serve_replace_cases v.clock.tick o with
    ⟨stored, hreached, hstored, _, hserve⟩ | ⟨e, hserve, hholds⟩
  · rw [hserve]
    exact hreplaced stored hreached hstored
  · rw [hserve]
    exact hrefused e hholds

/-- A replacement that has to succeed for the part to go on. -/
theorem leaves_askReplace {o : Order} {Q : Except FlowError Order → FlowState → Services → Prop}
    (hrefused : ∀ e, Q (.error (.service e)) s v.ticked)
    (hreplaced : ∀ stored, v.orders.get? o.id = some stored →
      Q (.ok o) s { v.ticked with orders := v.orders.replacing o }) :
    Leaves (StepM.ask (.orders (.replace o)) : StepM Order) s v Q :=
  leaves_replace
    (Q := fun x s v => match x with
      | .ok answer => Q (answer.mapError .service) s v
      | .error e => Q (.error e) s v)
    (fun e _ => hrefused e) fun stored _ => hreplaced stored

@[simp] theorem leaves_findRecord (id : TransactionId)
    (Q : Except FlowError Transaction → FlowState → Services → Prop) :
    Leaves (StepM.ask (.ledger (.find id))) s v Q ↔
      (∀ e, v.ledger.find id = .error e → Q (.error (.service e)) s v.ticked) ∧
      ∀ t, v.ledger.find id = .ok t → Q (.ok t) s v.ticked :=
  Books.mapError_iff (x := v.ledger.find id) (P := fun r => Q r s v.ticked)

/-- What a request does that moves a record. -/
theorem leaves_moving {r : Ledger.Request} {id : TransactionId} (hr : r.moves? = some id)
    {Q : Except FlowError (Except ServiceError Transaction) → FlowState → Services → Prop}
    (hrefused : ∀ e, v.ledger.serve v.clock.tick r = (.error e, v.ledger) →
      Q (.ok (.error e)) s v.ticked)
    (hmoved : ∀ t t', v.ledger.get? id = some t → r.transition v.clock.tick t = .ok t' →
      Q (.ok (.ok t')) s { v.ticked with ledger := v.ledger.moved r id t' }) :
    Leaves (StepM.perform (.ledger r)) s v Q := by
  show Q (.ok (v.ledger.serve v.clock.tick r).1) s
    { v.ticked with ledger := (v.ledger.serve v.clock.tick r).2 }
  rcases v.ledger.serve_moving_cases v.clock.tick hr with ⟨e, hserve⟩ | ⟨t, t', ht, hmoves, hserve⟩
  · rw [hserve]
    exact hrefused e hserve
  · rw [hserve]
    exact hmoved t t' ht hmoves

/-- A request that moves a record and has to succeed for the part to go on. -/
theorem leaves_askMoving {r : Ledger.Request} {id : TransactionId} (hr : r.moves? = some id)
    {Q : Except FlowError Transaction → FlowState → Services → Prop}
    (hrefused : ∀ e, v.ledger.serve v.clock.tick r = (.error e, v.ledger) →
      Q (.error (.service e)) s v.ticked)
    (hmoved : ∀ t t', v.ledger.get? id = some t → r.transition v.clock.tick t = .ok t' →
      Q (.ok t') s { v.ticked with ledger := v.ledger.moved r id t' }) :
    Leaves (StepM.ask (.ledger r)) s v Q :=
  leaves_moving hr
    (Q := fun x s v => match x with
      | .ok answer => Q (answer.mapError .service) s v
      | .error e => Q (.error e) s v)
    hrefused hmoved

theorem leaves_askRefused {r : Ledger.Request} {e : ServiceError}
    {Q : Except FlowError Transaction → FlowState → Services → Prop}
    (h : v.ledger.serve v.clock.tick r = (.error e, v.ledger))
    (hQ : Q (.error (.service e)) s v.ticked) : Leaves (StepM.ask (.ledger r)) s v Q := by
  show Q ((v.ledger.serve v.clock.tick r).1.mapError .service) s
    { v.ticked with ledger := (v.ledger.serve v.clock.tick r).2 }
  rw [h]
  exact hQ

@[simp] theorem leaves_reverse (trace : String)
    (Q : Except FlowError Unit → FlowState → Services → Prop) :
    Leaves (StepM.ask (.promotion (.reverse trace)) : StepM Unit) s v Q ↔
      Q (.ok ()) s { v with promotion := v.promotion.reverse trace } := Iff.rfl

end Flow

end Wallet
