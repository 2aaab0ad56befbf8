import Wallet.Proofs.Flow.Ensures
import Wallet.Proofs.World.Gist

/-!
# What parts of flows reach

`Reaches` says with which value or error, state and gist a part of a flow ends, for all answers that
agree with the books, as long as nothing goes wrong but what may. Calls that leave no trace do not
change the gist, and neither does a refusal.
-/

namespace Wallet.Flow

variable {α β : Type} {may : Faults} {s : FlowState} {g : Past}

/-- The part ends with a value or an error, a state and a gist that satisfy `Q`. -/
def Reaches (may : Faults) (x : StepM α) (s : FlowState) (g : Past)
    (Q : Except FlowError α → FlowState → Past → Prop) : Prop :=
  (x.run.run s).Meets may g fun r g => Q r.1 r.2 g

theorem Reaches.mono {x : StepM α} {Q R : Except FlowError α → FlowState → Past → Prop}
    (h : Reaches may x s g Q) (hQR : ∀ r s g, Q r s g → R r s g) : Reaches may x s g R :=
  Program.Meets.mono h fun r g => hQR r.1 r.2 g

theorem Reaches.ensures {x : StepM α} {p : Past}
    {Q : Except FlowError α → FlowState → Past → Prop} (h : Reaches may x s p.gist Q) :
    Ensures x s p fun r s p => Permitted may p.events → Q r s p.gist :=
  Program.Meets.sound h

theorem Reaches.ensures_any {x : StepM α} {p : Past}
    {Q : Except FlowError α → FlowState → Past → Prop} (h : Reaches .any x s p.gist Q) :
    Ensures x s p fun r s p => Q r s p.gist :=
  h.ensures.mono fun _ _ p h => h (permitted_any p.events)

/-! ## Parts without calls -/

@[simp] theorem reaches_pure (a : α) (Q : Except FlowError α → FlowState → Past → Prop) :
    Reaches may (pure a) s g Q ↔ Q (.ok a) s g := Iff.rfl

@[simp] theorem reaches_throw (e : FlowError) (Q : Except FlowError α → FlowState → Past → Prop) :
    Reaches may (throw e) s g Q ↔ Q (.error e) s g := Iff.rfl

@[simp] theorem reaches_get (Q : Except FlowError FlowState → FlowState → Past → Prop) :
    Reaches may get s g Q ↔ Q (.ok s) s g := Iff.rfl

@[simp] theorem reaches_modify (f : FlowState → FlowState)
    (Q : Except FlowError Unit → FlowState → Past → Prop) :
    Reaches may (modify f) s g Q ↔ Q (.ok ()) (f s) g := Iff.rfl

/-- A part whose error is handled goes on where it ended. -/
theorem meets_handled (x : StepM α) (f : Except FlowError α → FlowM β)
    (Q : β × FlowState → Past → Prop) :
    ((x.run >>= f).run s).Meets may g Q ↔
      Reaches may x s g fun r s g => ((f r).run s).Meets may g Q :=
  Program.meets_bind (x.run.run s) _ g _

@[simp] theorem reaches_bind (x : StepM α) (f : α → StepM β)
    (Q : Except FlowError β → FlowState → Past → Prop) :
    Reaches may (x >>= f) s g Q ↔ Reaches may x s g fun r s g => match r with
      | .ok a => Reaches may (f a) s g Q
      | .error e => Q (.error e) s g := by
  refine (meets_handled x _ _).trans (iff_of_eq (congrArg (Reaches may x s g) ?_))
  funext r s g
  cases r <;> rfl

theorem reaches_tryCatch (x : StepM α) (handle : FlowError → StepM α)
    (Q : Except FlowError α → FlowState → Past → Prop) :
    Reaches may (tryCatch x handle) s g Q ↔ Reaches may x s g fun r s g => match r with
      | .ok a => Q (.ok a) s g
      | .error e => Reaches may (handle e) s g Q := by
  show Reaches may (ExceptT.tryCatch x handle) s g Q ↔ _
  unfold ExceptT.tryCatch
  refine (meets_handled x _ _).trans (iff_of_eq (congrArg (Reaches may x s g) ?_))
  funext r s g
  cases r <;> rfl

@[simp] theorem reaches_accept (change : Except OrderError Order)
    (Q : Except FlowError Order → FlowState → Past → Prop) :
    Reaches may (StepM.accept change) s g Q ↔
      (∀ e, change = .error e → Q (.error (.order e)) s g) ∧
        ∀ o, change = .ok o → Q (.ok o) s g :=
  Books.mapError_iff (P := fun r => Q r s g)

@[simp] theorem reaches_keep (o : Order) (Q : Except FlowError Unit → FlowState → Past → Prop) :
    Reaches may (StepM.keep o) s g Q ↔ Q (.ok ()) { s with order := some o } g := Iff.rfl

@[simp] theorem reaches_request (Q : Except FlowError PaymentRequest → FlowState → Past → Prop) :
    Reaches may StepM.request s g Q ↔
      (s.request = none → Q (.error (.invalidRequest "no payment request")) s g) ∧
        ∀ r, s.request = some r → Q (.ok r) s g := by
  unfold StepM.request
  simp only [reaches_bind, reaches_get]
  cases s.request <;> simp

@[simp] theorem reaches_order (Q : Except FlowError Order → FlowState → Past → Prop) :
    Reaches may StepM.order s g Q ↔
      (s.order = none → Q (.error (.invalidRequest "order was not created")) s g) ∧
        ∀ o, s.order = some o → Q (.ok o) s g := by
  unfold StepM.order
  simp only [reaches_bind, reaches_get]
  cases s.order <;> simp

@[simp] theorem reaches_transactionId
    (Q : Except FlowError TransactionId → FlowState → Past → Prop) :
    Reaches may StepM.transactionId s g Q ↔
      (s.order = none → Q (.error (.invalidRequest "order was not created")) s g) ∧
      ∀ o, s.order = some o →
        (o.transactionId = none → Q (.error (.invalidRequest "order has no ledger record")) s g) ∧
        ∀ id, o.transactionId = some id → Q (.ok id) s g := by
  unfold StepM.transactionId
  simp only [reaches_bind, reaches_order]
  refine and_congr Iff.rfl (forall_congr' fun o => imp_congr_right fun _ => ?_)
  cases o.transactionId <;> simp

/-! ## Calls without a trace -/

@[simp] theorem reaches_now (Q : Except FlowError Timestamp → FlowState → Past → Prop) :
    Reaches may (StepM.perform .now) s g Q ↔ ∀ now, Q (.ok now) s g :=
  ⟨fun h now => h now trivial trivial, fun h now _ _ => h now⟩

@[simp] theorem reaches_freshOrderId (Q : Except FlowError OrderId → FlowState → Past → Prop) :
    Reaches may (StepM.perform (.request .freshOrderId) : StepM OrderId) s g Q ↔
      ∀ id, Q (.ok id) s g :=
  ⟨fun h id => h id trivial trivial, fun h id _ _ => h id⟩

@[simp] theorem reaches_freshTransactionId
    (Q : Except FlowError TransactionId → FlowState → Past → Prop) :
    Reaches may (StepM.perform (.request .freshTransactionId) : StepM TransactionId) s g Q ↔
      ∀ id, g.books.records id = none → Q (.ok id) s g :=
  ⟨fun h id hfresh => h id hfresh trivial, fun h id hfresh _ => h id hfresh⟩

@[simp] theorem reaches_notify (o : Order) (kind : NotificationKind) (message : String)
    (Q : Except FlowError Unit → FlowState → Past → Prop) :
    Reaches may (StepM.notify o kind message) s g Q ↔ Q (.ok ()) s g :=
  ⟨fun h => h () trivial trivial, fun h _ _ _ => h⟩

@[simp] theorem reaches_find (id : OrderId)
    (Q : Except FlowError (Option Order) → FlowState → Past → Prop) :
    Reaches may (StepM.ask (.orders (.find id)) : StepM (Option Order)) s g Q ↔
      (∀ e, g.books.Finds id (.error e) → may.refuses (.orders (.find id)) e →
        Q (.error (.service e)) s g) ∧ Q (.ok (g.books.orders id)) s g :=
  Books.forall_finds.trans (and_congr Iff.rfl true_imp_iff)

@[simp] theorem reaches_stored (id : OrderId)
    (Q : Except FlowError Order → FlowState → Past → Prop) :
    Reaches may (stored id) s g Q ↔
      (∀ e, g.books.Finds id (.error e) → may.refuses (.orders (.find id)) e →
        Q (.error (.service e)) s g) ∧
      (g.books.orders id = none → Q (.error (.service (OrderStore.missing id))) s g) ∧
      ∀ o, g.books.orders id = some o → Q (.ok o) s g := by
  unfold stored
  simp only [reaches_bind, reaches_find, OrderStore.Request.Result]
  cases g.books.orders id <;> simp

@[simp] theorem reaches_findRecord (id : TransactionId)
    (Q : Except FlowError Transaction → FlowState → Past → Prop) :
    Reaches may (StepM.ask (.ledger (.find id))) s g Q ↔
      (∀ e, g.books.FindsRecord id (.error e) → may.refuses (.ledger (.find id)) e →
        Q (.error (.service e)) s g) ∧
      ∀ t, g.books.records id = some t → Q (.ok t) s g :=
  Books.forall_findsRecord.trans
    (and_congr Iff.rfl (forall_congr' fun _ => imp_congr_right fun _ => true_imp_iff))

/-! ## Calls that count -/

@[simp] theorem reaches_bank (r : Bank.Request)
    (Q : Except FlowError (Except ServiceError ProviderResponse) → FlowState → Past → Prop) :
    Reaches may (StepM.perform (.bank r)) s g Q ↔
      (∀ e, may.refuses (.bank r) e → Q (.ok (.error e)) s (g.note (.bank r) (.error e))) ∧
      ∀ response, Q (.ok (.ok response)) s (g.note (.bank r) (.ok response)) := by
  constructor
  · intro h
    exact ⟨fun e hmay => h (.error e) trivial hmay, fun response => h (.ok response) trivial trivial⟩
  · rintro ⟨herror, hok⟩ (e | response) _ hmay
    · exact herror e hmay
    · exact hok response

@[simp] theorem reaches_create (o : Order)
    (Q : Except FlowError Order → FlowState → Past → Prop) :
    Reaches may (StepM.ask (.orders (.create o)) : StepM Order) s g Q ↔
      (∀ e, g.books.Creates o (.error e) → may.refuses (.orders (.create o)) e →
        Q (.error (.service e)) s g) ∧
      (g.books.orders o.id = none → Q (.ok o) s (g.note (.orders (.create o)) (.ok o))) :=
  Books.forall_creates.trans (and_congr Iff.rfl (imp_congr_right fun _ => true_imp_iff))

@[simp] theorem reaches_process (o : Order)
    (Q : Except FlowError Order → FlowState → Past → Prop) :
    Reaches may (StepM.ask (.orders (.process o)) : StepM Order) s g Q ↔
      (∀ e, g.books.Processes o (.error e) → may.refuses (.orders (.process o)) e →
        Q (.error (.service e)) s g) ∧
      ∀ stored, g.books.orders o.id = some stored →
        stored.status.acceptsOverwrite o.status = true →
          Q (.ok o) s (g.note (.orders (.process o)) (.ok o)) :=
  Books.forall_processes.trans (and_congr Iff.rfl
    (forall_congr' fun _ => imp_congr_right fun _ => imp_congr_right fun _ => true_imp_iff))

@[simp] theorem reaches_perform_replace (o : Order)
    (Q : Except FlowError (Except ServiceError Order) → FlowState → Past → Prop) :
    Reaches may (StepM.perform (.orders (.replace o)) : StepM (Except ServiceError Order)) s g Q ↔
      (∀ e, g.books.Replaces o (.error e) → may.refuses (.orders (.replace o)) e →
        Q (.ok (.error e)) s g) ∧
      ∀ stored, g.books.orders o.id = some stored →
        stored.status.acceptsOverwrite o.status = true →
          Q (.ok (.ok o)) s (g.note (.orders (.replace o)) (.ok o)) :=
  Books.forall_replaces.trans (and_congr Iff.rfl
    (forall_congr' fun _ => imp_congr_right fun _ => imp_congr_right fun _ => true_imp_iff))

@[simp] theorem reaches_replace (o : Order)
    (Q : Except FlowError Order → FlowState → Past → Prop) :
    Reaches may (StepM.ask (.orders (.replace o)) : StepM Order) s g Q ↔
      (∀ e, g.books.Replaces o (.error e) → may.refuses (.orders (.replace o)) e →
        Q (.error (.service e)) s g) ∧
      ∀ stored, g.books.orders o.id = some stored →
        stored.status.acceptsOverwrite o.status = true →
          Q (.ok o) s (g.note (.orders (.replace o)) (.ok o)) :=
  Books.forall_replaces.trans (and_congr Iff.rfl
    (forall_congr' fun _ => imp_congr_right fun _ => imp_congr_right fun _ => true_imp_iff))

@[simp] theorem reaches_store (o : Order)
    (Q : Except FlowError Unit → FlowState → Past → Prop) :
    Reaches may (StepM.store o) s g Q ↔
      (∀ e, g.books.Replaces o (.error e) → may.refuses (.orders (.replace o)) e →
        Q (.error (.service e)) s g) ∧
      ∀ stored, g.books.orders o.id = some stored →
        stored.status.acceptsOverwrite o.status = true →
          Q (.ok ()) { s with order := some o } (g.note (.orders (.replace o)) (.ok o)) := by
  unfold StepM.store
  simp only [reaches_bind, reaches_replace, reaches_keep, OrderStore.Request.Result]

@[simp] theorem reaches_init (t : Transaction)
    (Q : Except FlowError Transaction → FlowState → Past → Prop) :
    Reaches may (StepM.ask (.ledger (.init t))) s g Q ↔
      (∀ e, Books.Registers t (.error e) → may.refuses (.ledger (.init t)) e →
        Q (.error (.service e)) s g) ∧
      Q (.ok t) s (g.note (.ledger (.init t)) (.ok t)) :=
  Books.forall_registers.trans (and_congr Iff.rfl true_imp_iff)

@[simp] theorem reaches_cancel (id : TransactionId) (reason : String)
    (Q : Except FlowError Transaction → FlowState → Past → Prop) :
    Reaches may (StepM.ask (.ledger (.cancel id reason))) s g Q ↔
      (∀ e, g.books.Moves id (fun now t => t.cancel reason now) (.error e) →
        may.refuses (.ledger (.cancel id reason)) e → Q (.error (.service e)) s g) ∧
      ∀ t' t, g.books.records id = some t → ∀ now, t.cancel reason now = .ok t' →
        Q (.ok t') s (g.note (.ledger (.cancel id reason)) (.ok t')) :=
  Books.forall_moves_permitted fun _ => trivial

@[simp] theorem reaches_confirm (id : TransactionId)
    (Q : Except FlowError (Except ServiceError Transaction) → FlowState → Past → Prop) :
    Reaches may (StepM.perform (.ledger (.confirm id))) s g Q ↔
      (∀ e, g.books.Moves id (fun now t => t.confirm now) (.error e) →
        may.refuses (.ledger (.confirm id)) e → Q (.ok (.error e)) s g) ∧
      ∀ t' t, g.books.records id = some t → ∀ now, t.confirm now = .ok t' →
        Q (.ok (.ok t')) s (g.note (.ledger (.confirm id)) (.ok t')) :=
  Books.forall_moves_permitted fun _ => trivial

@[simp] theorem reaches_setPending (id : TransactionId)
    (Q : Except FlowError (Except ServiceError Transaction) → FlowState → Past → Prop) :
    Reaches may (StepM.perform (.ledger (.setPending id))) s g Q ↔
      (∀ e, g.books.Moves id (fun now t => t.setPending now) (.error e) →
        may.refuses (.ledger (.setPending id)) e → Q (.ok (.error e)) s g) ∧
      ∀ t' t, g.books.records id = some t → ∀ now, t.setPending now = .ok t' →
        Q (.ok (.ok t')) s (g.note (.ledger (.setPending id)) (.ok t')) :=
  Books.forall_moves_permitted fun _ => trivial

@[simp] theorem reaches_useVoucher (code : String) (user : UserId) (trace : String) (amount : Money)
    (Q : Except FlowError (Except ServiceError Discount) → FlowState → Past → Prop) :
    Reaches may (StepM.perform (.promotion (.useVoucher code user trace amount)) :
      StepM (Except ServiceError Discount)) s g Q ↔
      (∀ e, may.refuses (.promotion (.useVoucher code user trace amount)) e → Q (.ok (.error e)) s g) ∧
      ∀ discount, Q (.ok (.ok discount)) s
        (g.note (.promotion (.useVoucher code user trace amount)) (.ok discount)) := by
  constructor
  · intro h
    exact ⟨fun e hmay => h (.error e) trivial hmay, fun discount => h (.ok discount) trivial trivial⟩
  · rintro ⟨herror, hok⟩ (e | discount) _ hmay
    · exact herror e hmay
    · exact hok discount

@[simp] theorem reaches_reverse (trace : String)
    (Q : Except FlowError Unit → FlowState → Past → Prop) :
    Reaches may (StepM.ask (.promotion (.reverse trace)) : StepM Unit) s g Q ↔
      (∀ e, may.refuses (.promotion (.reverse trace)) e → Q (.error (.service e)) s g) ∧
      Q (.ok ()) s (g.note (.promotion (.reverse trace)) (.ok ())) := by
  constructor
  · intro h
    exact ⟨fun e hmay => h (.error e) trivial hmay, h (.ok ()) trivial trivial⟩
  · rintro ⟨herror, hok⟩ (e | _) _ hmay
    · exact herror e hmay
    · exact hok

end Wallet.Flow
