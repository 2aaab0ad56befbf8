import Wallet.Flow.Payment
import Wallet.Proofs.World.Run

/-!
# What parts of flows ensure

`Ends` is for parts over the state of a flow, `Ensures` for parts that may also fail. Both say what
holds of the value, the state and the past at the end, whatever agrees with the books is answered.
There is one rule for each way of building a part and one for each call.
-/

namespace Wallet.Flow

variable {α β : Type} {s : FlowState} {p : Past}

/-- The part ends with a value, a state and a past that satisfy `Q`. -/
def Ends (x : FlowM α) (s : FlowState) (p : Past) (Q : α → FlowState → Past → Prop) : Prop :=
  (x.run s).Always p fun r p => Q r.1 r.2 p

/-- The part ends with a value or an error, a state and a past that satisfy `Q`. -/
def Ensures (x : StepM α) (s : FlowState) (p : Past)
    (Q : Except FlowError α → FlowState → Past → Prop) : Prop :=
  Ends x.run s p Q

theorem Ends.mono {x : FlowM α} {Q R : α → FlowState → Past → Prop} (h : Ends x s p Q)
    (hQR : ∀ a s p, Q a s p → R a s p) : Ends x s p R :=
  Program.Always.mono h fun r p => hQR r.1 r.2 p

theorem Ensures.mono {x : StepM α} {Q R : Except FlowError α → FlowState → Past → Prop}
    (h : Ensures x s p Q) (hQR : ∀ r s p, Q r s p → R r s p) : Ensures x s p R :=
  Ends.mono h hQR

/-! ## Parts that do not fail -/

@[simp] theorem ends_pure (a : α) (Q : α → FlowState → Past → Prop) :
    Ends (pure a) s p Q ↔ Q a s p := Iff.rfl

@[simp] theorem ends_bind (x : FlowM α) (f : α → FlowM β) (Q : β → FlowState → Past → Prop) :
    Ends (x >>= f) s p Q ↔ Ends x s p fun a s p => Ends (f a) s p Q :=
  Program.always_bind (x.run s) _ p _

@[simp] theorem ends_modify (f : FlowState → FlowState) (Q : Unit → FlowState → Past → Prop) :
    Ends (modify f) s p Q ↔ Q () (f s) p := Iff.rfl

/-! ## Parts that may fail -/

@[simp] theorem ensures_pure (a : α) (Q : Except FlowError α → FlowState → Past → Prop) :
    Ensures (pure a) s p Q ↔ Q (.ok a) s p := Iff.rfl

@[simp] theorem ensures_throw (e : FlowError) (Q : Except FlowError α → FlowState → Past → Prop) :
    Ensures (throw e) s p Q ↔ Q (.error e) s p := Iff.rfl

@[simp] theorem ensures_get (Q : Except FlowError FlowState → FlowState → Past → Prop) :
    Ensures get s p Q ↔ Q (.ok s) s p := Iff.rfl

@[simp] theorem ensures_modify (f : FlowState → FlowState)
    (Q : Except FlowError Unit → FlowState → Past → Prop) :
    Ensures (modify f) s p Q ↔ Q (.ok ()) (f s) p := Iff.rfl

@[simp] theorem ensures_bind (x : StepM α) (f : α → StepM β)
    (Q : Except FlowError β → FlowState → Past → Prop) :
    Ensures (x >>= f) s p Q ↔ Ensures x s p fun r s p => match r with
      | .ok a => Ensures (f a) s p Q
      | .error e => Q (.error e) s p := by
  show Ends (x.run >>= _) s p _ ↔ _
  rw [ends_bind]
  refine iff_of_eq (congrArg (Ends x.run s p) ?_)
  funext r s p
  cases r <;> rfl

theorem ensures_tryCatch (x : StepM α) (handle : FlowError → StepM α)
    (Q : Except FlowError α → FlowState → Past → Prop) :
    Ensures (tryCatch x handle) s p Q ↔ Ensures x s p fun r s p => match r with
      | .ok a => Q (.ok a) s p
      | .error e => Ensures (handle e) s p Q := by
  show Ends (ExceptT.tryCatch x handle).run s p _ ↔ _
  unfold ExceptT.tryCatch
  show Ends (x.run >>= _) s p _ ↔ _
  rw [ends_bind]
  refine iff_of_eq (congrArg (Ends x.run s p) ?_)
  funext r s p
  cases r <;> rfl

@[simp] theorem ensures_accept (change : Except OrderError Order)
    (Q : Except FlowError Order → FlowState → Past → Prop) :
    Ensures (StepM.accept change) s p Q ↔
      (∀ e, change = .error e → Q (.error (.order e)) s p) ∧
        ∀ o, change = .ok o → Q (.ok o) s p :=
  Books.mapError_iff (P := fun r => Q r s p)

@[simp] theorem ensures_keep (o : Order) (Q : Except FlowError Unit → FlowState → Past → Prop) :
    Ensures (StepM.keep o) s p Q ↔ Q (.ok ()) { s with order := some o } p := Iff.rfl

@[simp] theorem ensures_request (Q : Except FlowError PaymentRequest → FlowState → Past → Prop) :
    Ensures StepM.request s p Q ↔
      (s.request = none → Q (.error (.invalidRequest "no payment request")) s p) ∧
        ∀ r, s.request = some r → Q (.ok r) s p := by
  unfold StepM.request
  simp only [ensures_bind, ensures_get]
  cases s.request <;> simp

@[simp] theorem ensures_order (Q : Except FlowError Order → FlowState → Past → Prop) :
    Ensures StepM.order s p Q ↔
      (s.order = none → Q (.error (.invalidRequest "order was not created")) s p) ∧
        ∀ o, s.order = some o → Q (.ok o) s p := by
  unfold StepM.order
  simp only [ensures_bind, ensures_get]
  cases s.order <;> simp

@[simp] theorem ensures_transactionId
    (Q : Except FlowError TransactionId → FlowState → Past → Prop) :
    Ensures StepM.transactionId s p Q ↔
      (s.order = none → Q (.error (.invalidRequest "order was not created")) s p) ∧
      ∀ o, s.order = some o →
        (o.transactionId = none → Q (.error (.invalidRequest "order has no ledger record")) s p) ∧
        ∀ id, o.transactionId = some id → Q (.ok id) s p := by
  unfold StepM.transactionId
  simp only [ensures_bind, ensures_order]
  refine and_congr Iff.rfl (forall_congr' fun o => imp_congr_right fun _ => ?_)
  cases o.transactionId <;> simp

/-! ## Calls

An answer that is an error leaves the books as they are; what any other answer says of the books is
a premise of its case.
-/

attribute [simp] OrderStore.Request.Result Promotion.Request.Result

@[simp] theorem ensures_now (Q : Except FlowError Timestamp → FlowState → Past → Prop) :
    Ensures (StepM.perform .now) s p Q ↔ ∀ now, Q (.ok now) s (p.note .now now) :=
  ⟨fun h now => h now trivial, fun h now _ => h now⟩

@[simp] theorem ensures_freshOrderId (Q : Except FlowError OrderId → FlowState → Past → Prop) :
    Ensures (StepM.perform (.request .freshOrderId) : StepM OrderId) s p Q ↔
      ∀ id, Q (.ok id) s (p.note .freshOrderId id) :=
  ⟨fun h id => h id trivial, fun h id _ => h id⟩

@[simp] theorem ensures_freshTransactionId
    (Q : Except FlowError TransactionId → FlowState → Past → Prop) :
    Ensures (StepM.perform (.request .freshTransactionId) : StepM TransactionId) s p Q ↔
      ∀ id, p.books.records id = none → Q (.ok id) s (p.note .freshTransactionId id) := Iff.rfl

@[simp] theorem ensures_bank (r : Bank.Request)
    (Q : Except FlowError (Except ServiceError ProviderResponse) → FlowState → Past → Prop) :
    Ensures (StepM.perform (.bank r)) s p Q ↔ ∀ x, Q (.ok x) s (p.note (.bank r) x) :=
  ⟨fun h x => h x trivial, fun h x _ => h x⟩

@[simp] theorem ensures_notify (o : Order) (kind : NotificationKind) (message : String)
    (Q : Except FlowError Unit → FlowState → Past → Prop) :
    Ensures (StepM.notify o kind message) s p Q ↔
      Q (.ok ()) s (p.note (.submit ⟨o.userId, o.id, kind, message⟩) ()) :=
  ⟨fun h => h () trivial, fun h _ _ => h⟩

@[simp] theorem ensures_create (o : Order)
    (Q : Except FlowError Order → FlowState → Past → Prop) :
    Ensures (StepM.ask (.orders (.create o)) : StepM Order) s p Q ↔
      (∀ e, p.books.Creates o (.error e) →
        Q (.error (.service e)) s (p.note (.orders (.create o)) (.error e))) ∧
      (p.books.orders o.id = none → Q (.ok o) s (p.note (.orders (.create o)) (.ok o))) :=
  Books.forall_creates

@[simp] theorem ensures_process (o : Order)
    (Q : Except FlowError Order → FlowState → Past → Prop) :
    Ensures (StepM.ask (.orders (.process o)) : StepM Order) s p Q ↔
      (∀ e, p.books.Processes o (.error e) →
        Q (.error (.service e)) s (p.note (.orders (.process o)) (.error e))) ∧
      ∀ stored, p.books.orders o.id = some stored →
        stored.status.acceptsOverwrite o.status = true →
          Q (.ok o) s (p.note (.orders (.process o)) (.ok o)) :=
  Books.forall_processes

@[simp] theorem ensures_replace (o : Order)
    (Q : Except FlowError Order → FlowState → Past → Prop) :
    Ensures (StepM.ask (.orders (.replace o)) : StepM Order) s p Q ↔
      (∀ e, p.books.Replaces o (.error e) →
        Q (.error (.service e)) s (p.note (.orders (.replace o)) (.error e))) ∧
      ∀ stored, p.books.orders o.id = some stored →
        stored.status.acceptsOverwrite o.status = true →
          Q (.ok o) s (p.note (.orders (.replace o)) (.ok o)) :=
  Books.forall_replaces

@[simp] theorem ensures_store (o : Order)
    (Q : Except FlowError Unit → FlowState → Past → Prop) :
    Ensures (StepM.store o) s p Q ↔
      (∀ e, p.books.Replaces o (.error e) →
        Q (.error (.service e)) s (p.note (.orders (.replace o)) (.error e))) ∧
      ∀ stored, p.books.orders o.id = some stored →
        stored.status.acceptsOverwrite o.status = true →
          Q (.ok ()) { s with order := some o } (p.note (.orders (.replace o)) (.ok o)) := by
  unfold StepM.store
  simp only [ensures_bind, ensures_replace, ensures_keep, OrderStore.Request.Result]

@[simp] theorem ensures_perform_replace (o : Order)
    (Q : Except FlowError (Except ServiceError Order) → FlowState → Past → Prop) :
    Ensures (StepM.perform (.orders (.replace o)) : StepM (Except ServiceError Order)) s p Q ↔
      (∀ e, p.books.Replaces o (.error e) →
        Q (.ok (.error e)) s (p.note (.orders (.replace o)) (.error e))) ∧
      ∀ stored, p.books.orders o.id = some stored →
        stored.status.acceptsOverwrite o.status = true →
          Q (.ok (.ok o)) s (p.note (.orders (.replace o)) (.ok o)) :=
  Books.forall_replaces

@[simp] theorem ensures_find (id : OrderId)
    (Q : Except FlowError (Option Order) → FlowState → Past → Prop) :
    Ensures (StepM.ask (.orders (.find id)) : StepM (Option Order)) s p Q ↔
      (∀ e, p.books.Finds id (.error e) →
        Q (.error (.service e)) s (p.note (.orders (.find id)) (.error e))) ∧
      Q (.ok (p.books.orders id)) s (p.note (.orders (.find id)) (.ok (p.books.orders id))) :=
  Books.forall_finds

@[simp] theorem ensures_stored (id : OrderId)
    (Q : Except FlowError Order → FlowState → Past → Prop) :
    Ensures (stored id) s p Q ↔
      (∀ e, p.books.Finds id (.error e) →
        Q (.error (.service e)) s (p.note (.orders (.find id)) (.error e))) ∧
      (p.books.orders id = none →
        Q (.error (.service (OrderStore.missing id))) s (p.note (.orders (.find id)) (.ok none))) ∧
      ∀ o, p.books.orders id = some o →
        Q (.ok o) s (p.note (.orders (.find id)) (.ok (some o))) := by
  unfold stored
  simp only [ensures_bind, ensures_find, OrderStore.Request.Result]
  cases p.books.orders id <;> simp

@[simp] theorem ensures_init (t : Transaction)
    (Q : Except FlowError Transaction → FlowState → Past → Prop) :
    Ensures (StepM.ask (.ledger (.init t))) s p Q ↔
      (∀ e, Books.Registers t (.error e) →
        Q (.error (.service e)) s (p.note (.ledger (.init t)) (.error e))) ∧
      Q (.ok t) s (p.note (.ledger (.init t)) (.ok t)) :=
  Books.forall_registers

@[simp] theorem ensures_findRecord (id : TransactionId)
    (Q : Except FlowError Transaction → FlowState → Past → Prop) :
    Ensures (StepM.ask (.ledger (.find id))) s p Q ↔
      (∀ e, p.books.FindsRecord id (.error e) →
        Q (.error (.service e)) s (p.note (.ledger (.find id)) (.error e))) ∧
      ∀ t, p.books.records id = some t → Q (.ok t) s (p.note (.ledger (.find id)) (.ok t)) :=
  Books.forall_findsRecord

@[simp] theorem ensures_cancel (id : TransactionId) (reason : String)
    (Q : Except FlowError Transaction → FlowState → Past → Prop) :
    Ensures (StepM.ask (.ledger (.cancel id reason))) s p Q ↔
      (∀ e, p.books.Moves id (fun now t => t.cancel reason now) (.error e) →
        Q (.error (.service e)) s (p.note (.ledger (.cancel id reason)) (.error e))) ∧
      ∀ t' t, p.books.records id = some t → ∀ now, t.cancel reason now = .ok t' →
        Q (.ok t') s (p.note (.ledger (.cancel id reason)) (.ok t')) :=
  Books.forall_moves

@[simp] theorem ensures_confirm (id : TransactionId)
    (Q : Except FlowError (Except ServiceError Transaction) → FlowState → Past → Prop) :
    Ensures (StepM.perform (.ledger (.confirm id))) s p Q ↔
      (∀ e, p.books.Moves id (fun now t => t.confirm now) (.error e) →
        Q (.ok (.error e)) s (p.note (.ledger (.confirm id)) (.error e))) ∧
      ∀ t' t, p.books.records id = some t → ∀ now, t.confirm now = .ok t' →
        Q (.ok (.ok t')) s (p.note (.ledger (.confirm id)) (.ok t')) :=
  Books.forall_moves

@[simp] theorem ensures_setPending (id : TransactionId)
    (Q : Except FlowError (Except ServiceError Transaction) → FlowState → Past → Prop) :
    Ensures (StepM.perform (.ledger (.setPending id))) s p Q ↔
      (∀ e, p.books.Moves id (fun now t => t.setPending now) (.error e) →
        Q (.ok (.error e)) s (p.note (.ledger (.setPending id)) (.error e))) ∧
      ∀ t' t, p.books.records id = some t → ∀ now, t.setPending now = .ok t' →
        Q (.ok (.ok t')) s (p.note (.ledger (.setPending id)) (.ok t')) :=
  Books.forall_moves

@[simp] theorem ensures_useVoucher (code : String) (user : UserId) (trace : String) (amount : Money)
    (Q : Except FlowError (Except ServiceError Discount) → FlowState → Past → Prop) :
    Ensures (StepM.perform (.promotion (.useVoucher code user trace amount)) :
      StepM (Except ServiceError Discount)) s p Q ↔
      ∀ x, Q (.ok x) s (p.note (.promotion (.useVoucher code user trace amount)) x) :=
  ⟨fun h x => h x trivial, fun h x _ => h x⟩

@[simp] theorem ensures_reverse (trace : String)
    (Q : Except FlowError Unit → FlowState → Past → Prop) :
    Ensures (StepM.ask (.promotion (.reverse trace)) : StepM Unit) s p Q ↔
      ∀ x, Q (x.mapError .service) s (p.note (.promotion (.reverse trace)) x) :=
  ⟨fun h x => h x trivial, fun h x _ => h x⟩

end Wallet.Flow
