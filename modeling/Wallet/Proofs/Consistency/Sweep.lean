import Wallet.Proofs.Consistency.Basic
import Wallet.Proofs.World.Run

/-!
# Sweeps keep the books consistent

A sweep works on one order after the other. While it works on an order it writes at most the record
of that order, and last the order itself; all other orders stay as they were listed.
-/

namespace Wallet.Reconciler

variable {α β : Type} {p : Past}

/-! ## What parts of reconciling conclude -/

/-- The part ends with a value or an error and a past that satisfy `Q`. -/
def Concludes (x : ReconcileM α) (p : Past) (Q : Except ServiceError α → Past → Prop) : Prop :=
  x.run.Always p Q

@[simp] theorem concludes_pure (a : α) (Q : Except ServiceError α → Past → Prop) :
    Concludes (pure a) p Q ↔ Q (.ok a) p := Iff.rfl

@[simp] theorem concludes_bind (x : ReconcileM α) (f : α → ReconcileM β)
    (Q : Except ServiceError β → Past → Prop) :
    Concludes (x >>= f) p Q ↔ Concludes x p fun r p => match r with
      | .ok a => Concludes (f a) p Q
      | .error e => Q (.error e) p := by
  show Program.Always (x.run >>= _) p _ ↔ _
  rw [Program.always_bind]
  refine iff_of_eq (congrArg (Program.Always x.run p) ?_)
  funext r p
  cases r <;> rfl

@[simp] theorem concludes_accept (change : Except OrderError Order)
    (Q : Except ServiceError Order → Past → Prop) :
    Concludes (accept change) p Q ↔
      (∀ e, change = .error e → Q (.error (.ofOrderError e)) p) ∧
        ∀ o, change = .ok o → Q (.ok o) p :=
  Books.mapError_iff (P := fun r => Q r p)

@[simp] theorem concludes_now (Q : Except ServiceError Timestamp → Past → Prop) :
    Concludes now p Q ↔ ∀ t, Q (.ok t) (p.note .now t) :=
  ⟨fun h t => h t trivial, fun h t _ => h t⟩

@[simp] theorem concludes_bank (r : Bank.Request)
    (Q : Except ServiceError ProviderResponse → Past → Prop) :
    Concludes (ask (.bank r)) p Q ↔ ∀ x, Q x (p.note (.bank r) x) :=
  ⟨fun h x => h x trivial, fun h x _ => h x⟩

@[simp] theorem concludes_confirm (id : TransactionId)
    (Q : Except ServiceError Transaction → Past → Prop) :
    Concludes (ask (.ledger (.confirm id))) p Q ↔
      (∀ e, p.books.Moves id (fun now t => t.confirm now) (.error e) →
        Q (.error e) (p.note (.ledger (.confirm id)) (.error e))) ∧
      ∀ t' t, p.books.records id = some t → ∀ now, t.confirm now = .ok t' →
        Q (.ok t') (p.note (.ledger (.confirm id)) (.ok t')) :=
  Books.forall_moves

@[simp] theorem concludes_cancel (id : TransactionId) (reason : String)
    (Q : Except ServiceError Transaction → Past → Prop) :
    Concludes (ask (.ledger (.cancel id reason))) p Q ↔
      (∀ e, p.books.Moves id (fun now t => t.cancel reason now) (.error e) →
        Q (.error e) (p.note (.ledger (.cancel id reason)) (.error e))) ∧
      ∀ t' t, p.books.records id = some t → ∀ now, t.cancel reason now = .ok t' →
        Q (.ok t') (p.note (.ledger (.cancel id reason)) (.ok t')) :=
  Books.forall_moves

@[simp] theorem concludes_fail (id : TransactionId) (reason : String)
    (Q : Except ServiceError Transaction → Past → Prop) :
    Concludes (ask (.ledger (.fail id reason))) p Q ↔
      (∀ e, p.books.Moves id (fun now t => t.fail reason now) (.error e) →
        Q (.error e) (p.note (.ledger (.fail id reason)) (.error e))) ∧
      ∀ t' t, p.books.records id = some t → ∀ now, t.fail reason now = .ok t' →
        Q (.ok t') (p.note (.ledger (.fail id reason)) (.ok t')) :=
  Books.forall_moves

@[simp] theorem concludes_linked (o : Order)
    (Q : Except ServiceError (Option Transaction) → Past → Prop) :
    Concludes (linked o) p Q ↔
      (o.transactionId = none → Q (.ok none) p) ∧
      ∀ id, o.transactionId = some id →
        (∀ e, p.books.FindsRecord id (.error e) →
          Q (.error e) (p.note (.ledger (.find id)) (.error e))) ∧
        ∀ t, p.books.records id = some t →
          Q (.ok (some t)) (p.note (.ledger (.find id)) (.ok t)) := by
  unfold linked
  cases o.transactionId with
  | none => simp
  | some id =>
      simp only [reduceCtorEq, false_implies, Option.some.injEq, forall_eq', true_and]
      exact Books.forall_findsRecord

/-! ## Work on one order -/

/-- The books are consistent, and all orders but one are as they were. -/
structure Left (registry : ClassifierRegistry) (id : OrderId) (orders : OrderId → Option Order)
    (p : Past) : Prop where
  consistent : Consistent registry p
  others : ∀ key, key ≠ id → p.books.orders key = orders key

/-- The order that is worked on is not dropped and still as it was listed. -/
structure Working (registry : ClassifierRegistry) (o : Order) (orders : OrderId → Option Order)
    (p : Past) : Prop extends Left registry o.id orders p where
  stored : p.books.orders o.id = some o
  kept : ¬o.Dropped

section

variable {registry : ClassifierRegistry} {id : OrderId} {orders : OrderId → Option Order}
  {c : Call} {x : c.Answer} {o o' : Order} {t t' : Transaction} {record : TransactionId}

theorem Left.quiet (h : Left registry id orders p) (hbooks : (p.note c x).books = p.books) :
    Left registry id orders (p.note c x) :=
  ⟨h.consistent.quiet hbooks, by rw [hbooks]; exact h.others⟩

theorem Working.quiet (h : Working registry o orders p) (hbooks : (p.note c x).books = p.books) :
    Working registry o orders (p.note c x) :=
  ⟨h.toLeft.quiet hbooks, by rw [hbooks]; exact h.stored, h.kept⟩

theorem Working.halt (h : Working registry o orders p)
    (hbooks : (p.note c x).books = p.books.enter record t')
    (ht : p.books.records record = some t) (hhalts : t.Halts t') :
    Working registry o orders (p.note c x) :=
  ⟨⟨h.consistent.halt hbooks ht hhalts, by rw [hbooks]; exact h.others⟩,
    by rw [hbooks]; exact h.stored, h.kept⟩

theorem Working.file (h : Working registry o orders p) (hid : o'.id = o.id)
    (hprovider : o'.provider = o.provider) (hfits : Fits registry p o')
    (hbooks : (p.note c x).books = p.books.file o') : Left registry o.id orders (p.note c x) := by
  have hsame : ∀ stored, p.books.orders o'.id = some stored → stored.provider = o'.provider := by
    intro stored hstored
    rw [hid, h.stored] at hstored
    cases hstored
    exact hprovider.symm
  refine ⟨h.consistent.file hbooks hfits hsame, ?_⟩
  intro key hne
  have hother : key ≠ o'.id := by
    rw [hid]
    exact hne
  rw [hbooks]
  exact (Function.update_of_ne hother _ _).trans (h.others key hne)

theorem write_left {resolution : Resolution} (h : Working registry o orders p)
    (hsame : o.SameTies o') (hsucceeded : o'.status = .success → Finished p o)
    (hdropped : o'.Dropped → Droppable registry p o) (hawaiting : o'.awaitingOtp = false) :
    Concludes (write o' resolution) p fun _ p => Left registry o.id orders p := by
  have hfits : Fits registry p o' := (h.consistent.fits h.stored).of_same hsame hsucceeded hdropped
    (by simp [hawaiting])
  have hall := (Books.forall_replaces (b := p.books) (o := o') (P := fun x =>
    Left registry o.id orders (p.note (.orders (.replace o')) x))).mpr
    ⟨fun e _ => h.toLeft.quiet rfl, fun _ _ _ => h.file hsame.id hsame.provider hfits rfl⟩
  intro x hx
  have hleft := hall x hx
  cases x with
  | ok written => exact hleft
  | error e => cases e <;> exact hleft

theorem settle_left {success : Bool} {reason : Option String} (h : Working registry o orders p)
    (hsuccess : success = true → Finished p o)
    (hfailure : success = false → Droppable registry p o) :
    Concludes (settle o success reason) p fun _ p => Left registry o.id orders p := by
  unfold settle
  simp only [concludes_bind, concludes_now, concludes_accept]
  intro settledAt
  have h := h.quiet (c := .now) (x := settledAt) rfl
  constructor
  · intro e _
    exact h.toLeft
  intro settled hsettled retrievedAt
  have h := h.quiet (c := .now) (x := retrievedAt) rfl
  obtain ⟨_, rfl⟩ := Order.settle_ok hsettled
  refine write_left h ⟨rfl, rfl, rfl⟩ ?_ ?_ rfl
  · cases success with
    | true => exact fun _ => hsuccess rfl
    | false => simp [Order.markRetrieved]
  · cases success with
    | true => simp [Order.Dropped, Order.markRetrieved]
    | false => exact fun _ => ((hfailure rfl).note rfl).note rfl

/-- A listed order that the bank says has succeeded. -/
theorem resolveSuccess_left (h : Working registry o orders p)
    (happroved : Approved registry p.events o.id o.provider) :
    Concludes (resolveSuccess o) p fun _ p => Left registry o.id orders p := by
  unfold resolveSuccess
  simp only [concludes_bind, concludes_linked]
  constructor
  · intro _
    exact h.toLeft
  intro id hlink
  constructor
  · intro e _
    exact h.toLeft.quiet rfl
  intro t ht
  have hid := h.consistent.entered ht
  have h := h.quiet (c := .ledger (.find id)) (x := .ok t) rfl
  have hconfirm : Concludes (do
      let _ ← ask (.ledger (.confirm t.id))
      settle o true none) (p.note (.ledger (.find id)) (.ok t)) fun _ p =>
        Left registry o.id orders p := by
    simp only [concludes_bind, concludes_confirm]
    rw [hid]
    constructor
    · intro e _
      exact h.toLeft.quiet rfl
    intro t' before hbefore now hconfirmed
    obtain ⟨hconsistent, hfinished⟩ := h.consistent.confirm h.stored hlink h.kept
      (happroved.mono (Past.events_le ..)) hbefore hconfirmed
    exact settle_left ⟨⟨hconsistent, h.others⟩, h.stored, h.kept⟩ (fun _ => hfinished) (by simp)
  cases hstatus : t.status with
  | finish => exact settle_left h (fun _ => ⟨id, t, hlink, ht, hstatus⟩) (by simp)
  | failed => exact h.toLeft
  | processing => exact hconfirm
  | pending => exact hconfirm

/-- An order whose record is known and not finished may be dropped. -/
theorem droppable_of_record (hlink : o.transactionId = some record)
    (ht : p.books.records record = some t) (hopen : t.status ≠ .finish) :
    Droppable registry p o := by
  intro id t' hid ht' hfinish
  rw [hlink] at hid
  cases hid
  rw [ht] at ht'
  cases ht'
  exact absurd hfinish hopen

theorem droppable_of_unlinked (hlink : o.transactionId = none) : Droppable registry p o := by
  intro id t hid
  rw [hlink] at hid
  cases hid

/-- A listed order that the bank says has failed. -/
theorem resolveFailure_left {reason : String} (h : Working registry o orders p) :
    Concludes (resolveFailure o reason) p fun _ p => Left registry o.id orders p := by
  unfold resolveFailure
  simp only [concludes_bind, concludes_linked]
  constructor
  · intro hlink
    exact settle_left h (by simp) fun _ => droppable_of_unlinked hlink
  intro id hlink
  constructor
  · intro e _
    exact h.toLeft.quiet rfl
  intro t ht
  have hid := h.consistent.entered ht
  have h := h.quiet (c := .ledger (.find id)) (x := .ok t) rfl
  have hwithdraw : Concludes (do
      let _ ← ask (.ledger (if t.isCancellable then .cancel t.id reason else .fail t.id reason))
      settle o false (some reason)) (p.note (.ledger (.find id)) (.ok t)) fun _ p =>
        Left registry o.id orders p := by
    rw [hid]
    split
    · simp only [concludes_bind, concludes_cancel]
      constructor
      · intro e _
        exact h.toLeft.quiet rfl
      intro t' before hbefore now hcancel
      have hhalts := Transaction.halts_cancel hcancel
      exact settle_left (h.halt (Past.note_cancel ..) hbefore hhalts) (by simp)
        fun _ => .of_halted (Past.note_cancel ..) hhalts hlink
    · simp only [concludes_bind, concludes_fail]
      constructor
      · intro e _
        exact h.toLeft.quiet rfl
      intro t' before hbefore now hfail
      have hhalts := Transaction.halts_fail hfail
      exact settle_left (h.halt (Past.note_fail ..) hbefore hhalts) (by simp)
        fun _ => .of_halted (Past.note_fail ..) hhalts hlink
  cases hstatus : t.status with
  | failed =>
      exact settle_left h (by simp) fun _ => droppable_of_record hlink ht (by simp [hstatus])
  | finish => exact h.toLeft
  | processing => exact hwithdraw
  | pending => exact hwithdraw

theorem retrieve_left {r : Reconciler} (h : Working r.classifiers o orders p) :
    Concludes (r.retrieve o) p fun _ p => Left r.classifiers o.id orders p := by
  unfold retrieve
  simp only [concludes_bind, concludes_bank]
  intro x
  have h := h.quiet (c := .bank (.retrieveStatus o.id o.bankTraceId)) (x := x) rfl
  cases x with
  | error e => exact h.toLeft
  | ok response =>
      dsimp only
      cases houtcome : r.classifiers.classify o.provider response.code with
      | success =>
          show Concludes (resolveSuccess o) _ _
          exact resolveSuccess_left h
            ⟨.retrieveStatus o.id o.bankTraceId, response, by simp, rfl, houtcome⟩
      | verifying => exact h.toLeft
      | _ =>
          show Concludes (resolveFailure o response.reason) _ _
          exact resolveFailure_left h

theorem writeExpired_left {r : Reconciler} (h : Working registry o orders p)
    (hdroppable : Droppable registry p o) :
    Concludes (r.writeExpired o) p fun _ p => Left registry o.id orders p := by
  unfold writeExpired
  simp only [concludes_bind, concludes_now, concludes_accept]
  intro now
  have h := h.quiet (c := .now) (x := now) rfl
  constructor
  · intro e _
    exact h.toLeft
  intro expired hexpired
  obtain ⟨_, rfl⟩ := Order.expire_ok hexpired
  exact write_left h ⟨rfl, rfl, rfl⟩ (by simp) (fun _ => hdroppable.note rfl) rfl

theorem expire_left {r : Reconciler} (h : Working r.classifiers o orders p) :
    Concludes (r.expire o) p fun _ p => Left r.classifiers o.id orders p := by
  unfold expire
  simp only [concludes_bind, concludes_linked]
  constructor
  · intro hlink
    exact writeExpired_left h (droppable_of_unlinked hlink)
  intro id hlink
  constructor
  · intro e _
    exact h.toLeft.quiet rfl
  intro t ht
  have hid := h.consistent.entered ht
  have h := h.quiet (c := .ledger (.find id)) (x := .ok t) rfl
  have hwithdraw (hopen : t.status ≠ .finish) : Concludes (do
      if t.isCancellable then
        let _ ← ask (.ledger (.cancel t.id r.config.expiredReason))
        r.writeExpired o
      else r.writeExpired o) (p.note (.ledger (.find id)) (.ok t)) fun _ p =>
        Left r.classifiers o.id orders p := by
    rw [hid]
    split
    · simp only [concludes_bind, concludes_cancel]
      constructor
      · intro e _
        exact h.toLeft.quiet rfl
      intro t' before hbefore now hcancel
      have hhalts := Transaction.halts_cancel hcancel
      exact writeExpired_left (h.halt (Past.note_cancel ..) hbefore hhalts)
        (.of_halted (Past.note_cancel ..) hhalts hlink)
    · exact writeExpired_left h (droppable_of_record hlink ht hopen)
  cases hstatus : t.status with
  | pending => exact retrieve_left h
  | processing => exact hwithdraw (by simp [hstatus])
  | failed => exact hwithdraw (by simp [hstatus])
  | finish =>
      -- only the write of the order was lost
      simp only [concludes_bind, concludes_now, concludes_accept]
      intro now
      have h := h.quiet (c := .now) (x := now) rfl
      constructor
      · intro e _
        exact h.toLeft
      intro settled hsettled
      obtain ⟨_, rfl⟩ := Order.settle_ok hsettled
      exact write_left h ⟨rfl, rfl, rfl⟩ (fun _ => ⟨id, t, hlink, ht, hstatus⟩)
        (by simp [Order.Dropped]) rfl

/-- Reconciling an order leaves consistent books, and all other orders as they are. -/
theorem reconcile_left {r : Reconciler} (h : Consistent r.classifiers p)
    (hstored : p.books.orders o.id = some o) :
    Concludes (r.reconcile o) p fun _ after => Left r.classifiers o.id p.books.orders after := by
  unfold reconcile
  by_cases hopen : o.isUnresolved = true
  · have hkept : ¬o.Dropped := by
      rintro (hfailed | hcancelled)
      · simp [Order.isUnresolved, OrderStatus.isUnresolved, hfailed] at hopen
      · simp [Order.isUnresolved, OrderStatus.isUnresolved, hcancelled] at hopen
    have hworking : Working r.classifiers o p.books.orders p :=
      ⟨⟨h, fun _ _ => rfl⟩, hstored, hkept⟩
    simp only [hopen, Bool.not_true, Bool.false_eq_true, if_false]
    split
    · exact retrieve_left hworking
    · exact expire_left hworking
  · simp only [hopen, Bool.not_false, if_true]
    exact ⟨h, fun _ _ => rfl⟩

end

/-! ## Whole sweeps -/

/-- The orders still to come are stored as they were listed, for none of them is listed twice. -/
theorem reconcileAll_consistent {r : Reconciler} {candidates : List Order} {report : SweepReport}
    (h : Consistent r.classifiers p) (hstored : ∀ o ∈ candidates, p.books.orders o.id = some o)
    (hdistinct : (candidates.map Order.id).Nodup) :
    (r.reconcileAll candidates report).Always p fun _ p => Consistent r.classifiers p := by
  induction candidates generalizing p report with
  | nil => exact h
  | cons o rest ih =>
      rw [List.map_cons, List.nodup_cons] at hdistinct
      unfold reconcileAll
      rw [Program.always_bind]
      apply (reconcile_left h (hstored o (by simp))).mono
      intro result after hleft
      rw [Program.always_bind]
      intro _ _
      have hleft := hleft.quiet (c := .count (resultMetric result)) (x := ()) rfl
      -- what was written for `o` is not among the orders still to come
      have hrest : ∀ o' ∈ rest, after.books.orders o'.id = some o' := by
        intro o' ho'
        have hne : o'.id ≠ o.id := by
          intro heq
          exact hdistinct.1 (heq ▸ List.mem_map_of_mem ho')
        exact (hleft.others o'.id hne).trans (hstored o' (by simp [ho']))
      exact ih hleft.consistent hrest hdistinct.2

/-- Sweeps keep the books consistent. -/
theorem sweep_consistent {r : Reconciler} (h : Consistent r.classifiers p) :
    r.sweep.Always p fun _ p => Consistent r.classifiers p := by
  unfold sweep
  rw [Program.always_bind]
  intro _ _
  have h := h.quiet (c := .count sweepsMetric) (x := ()) rfl
  show (Program.now >>= _).Always _ _
  rw [Program.always_bind]
  intro now _
  have h := h.quiet (c := .now) (x := now) rfl
  show (Program.orders (.findExpired now r.config.batchLimit) >>= _).Always _ _
  rw [Program.always_bind]
  intro listed hlisted
  have h := h.quiet (c := .orders (.findExpired now r.config.batchLimit)) (x := listed) rfl
  cases listed with
  | error e => exact h
  | ok candidates =>
      obtain ⟨rows, rfl, hdistinct, hrows⟩ := hlisted
      have hids : ∀ row ∈ rows, row.2.id = row.1 := fun row hrow => h.filed (hrows row hrow).1
      have hstored : ∀ o ∈ rows.map Prod.snd, p.books.orders o.id = some o := by
        intro o ho
        obtain ⟨row, hrow, rfl⟩ := List.mem_map.mp ho
        rw [hids row hrow]
        exact (hrows row hrow).1
      have hmap : rows.map (Order.id ∘ Prod.snd) = rows.map Prod.fst :=
        List.map_congr_left hids
      have hnodup : ((rows.map Prod.snd).map Order.id).Nodup := by
        rw [List.map_map, hmap]
        exact hdistinct
      exact (Program.always_bind _ _ _ _).mpr (reconcileAll_consistent h hstored hnodup)

end Wallet.Reconciler
