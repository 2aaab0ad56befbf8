import Wallet.Proofs.Changes
import Wallet.Proofs.World.Gist
import Wallet.Reconciliation.Sweep

/-!
# What parts of sweeps attain

`Attains` says with which value or error and with which gist a part of reconciling an order ends, for
all answers that agree with the books, as long as nothing goes wrong but what may.

Work on an order asks the bank, changes the record of the order, and writes the order last, so what
each of these keeps the whole work keeps (`Keeps.reconcile`). All other orders stay as they are
meanwhile, so what is kept with one order is kept in a whole sweep (`sweep_meets`).
-/

namespace Wallet.Reconciler

variable {α β : Type} {may : Faults} {g : Past}

/-- The part ends with a value or an error and a gist that satisfy `Q`. -/
def Attains (may : Faults) (x : ReconcileM α) (g : Past)
    (Q : Except ServiceError α → Past → Prop) : Prop :=
  x.run.Meets may g Q

theorem Attains.mono {x : ReconcileM α} {Q R : Except ServiceError α → Past → Prop}
    (h : Attains may x g Q) (hQR : ∀ r g, Q r g → R r g) : Attains may x g R :=
  Program.Meets.mono h hQR

@[simp] theorem attains_pure (a : α) (Q : Except ServiceError α → Past → Prop) :
    Attains may (pure a) g Q ↔ Q (.ok a) g := Iff.rfl

@[simp] theorem attains_bind (x : ReconcileM α) (f : α → ReconcileM β)
    (Q : Except ServiceError β → Past → Prop) :
    Attains may (x >>= f) g Q ↔ Attains may x g fun r g => match r with
      | .ok a => Attains may (f a) g Q
      | .error e => Q (.error e) g := by
  refine (Program.meets_bind x.run _ g Q).trans (iff_of_eq (congrArg (Program.Meets may x.run g) ?_))
  funext r g
  cases r <;> rfl

@[simp] theorem attains_accept (change : Except OrderError Order)
    (Q : Except ServiceError Order → Past → Prop) :
    Attains may (accept change) g Q ↔
      (∀ e, change = .error e → Q (.error (.ofOrderError e)) g) ∧
        ∀ o, change = .ok o → Q (.ok o) g :=
  Books.mapError_iff (P := fun r => Q r g)

@[simp] theorem attains_now (Q : Except ServiceError Timestamp → Past → Prop) :
    Attains may now g Q ↔ ∀ t, Q (.ok t) g :=
  ⟨fun h t => h t trivial trivial, fun h t _ _ => h t⟩

@[simp] theorem attains_bank (r : Bank.Request)
    (Q : Except ServiceError ProviderResponse → Past → Prop) :
    Attains may (ask (.bank r)) g Q ↔
      (∀ e, may.refuses (.bank r) e → Q (.error e) (g.note (.bank r) (.error e))) ∧
      ∀ response, Q (.ok response) (g.note (.bank r) (.ok response)) := by
  constructor
  · intro h
    exact ⟨fun e hmay => h (.error e) trivial hmay, fun response => h (.ok response) trivial trivial⟩
  · rintro ⟨herror, hok⟩ (e | response) _ hmay
    · exact herror e hmay
    · exact hok response

@[simp] theorem attains_confirm (id : TransactionId)
    (Q : Except ServiceError Transaction → Past → Prop) :
    Attains may (ask (.ledger (.confirm id))) g Q ↔
      (∀ e, g.books.Moves id (fun now t => t.confirm now) (.error e) →
        may.refuses (.ledger (.confirm id)) e → Q (.error e) g) ∧
      ∀ t' t, g.books.records id = some t → ∀ now, t.confirm now = .ok t' →
        Q (.ok t') (g.note (.ledger (.confirm id)) (.ok t')) :=
  Books.forall_moves_permitted fun _ => trivial

@[simp] theorem attains_cancel (id : TransactionId) (reason : String)
    (Q : Except ServiceError Transaction → Past → Prop) :
    Attains may (ask (.ledger (.cancel id reason))) g Q ↔
      (∀ e, g.books.Moves id (fun now t => t.cancel reason now) (.error e) →
        may.refuses (.ledger (.cancel id reason)) e → Q (.error e) g) ∧
      ∀ t' t, g.books.records id = some t → ∀ now, t.cancel reason now = .ok t' →
        Q (.ok t') (g.note (.ledger (.cancel id reason)) (.ok t')) :=
  Books.forall_moves_permitted fun _ => trivial

@[simp] theorem attains_fail (id : TransactionId) (reason : String)
    (Q : Except ServiceError Transaction → Past → Prop) :
    Attains may (ask (.ledger (.fail id reason))) g Q ↔
      (∀ e, g.books.Moves id (fun now t => t.fail reason now) (.error e) →
        may.refuses (.ledger (.fail id reason)) e → Q (.error e) g) ∧
      ∀ t' t, g.books.records id = some t → ∀ now, t.fail reason now = .ok t' →
        Q (.ok t') (g.note (.ledger (.fail id reason)) (.ok t')) :=
  Books.forall_moves_permitted fun _ => trivial

@[simp] theorem attains_linked (o : Order)
    (Q : Except ServiceError (Option Transaction) → Past → Prop) :
    Attains may (linked o) g Q ↔
      (o.transactionId = none → Q (.ok none) g) ∧
      ∀ id, o.transactionId = some id →
        (∀ e, g.books.FindsRecord id (.error e) → may.refuses (.ledger (.find id)) e → Q (.error e) g) ∧
        ∀ t, g.books.records id = some t → Q (.ok (some t)) g := by
  unfold linked
  cases o.transactionId with
  | none => simp
  | some id =>
      simp only [reduceCtorEq, false_implies, Option.some.injEq, forall_eq', true_and]
      exact Books.forall_findsRecord.trans
        (and_congr Iff.rfl (forall_congr' fun _ => imp_congr_right fun _ => true_imp_iff))

/-- An order that somebody else has resolved meanwhile is skipped. -/
def unwritten : ServiceError → Except ServiceError Resolution
  | .conflict _ => .ok .skipped
  | e => .error e

@[simp] theorem attains_write (o : Order) (resolution : Resolution)
    (Q : Except ServiceError Resolution → Past → Prop) :
    Attains may (write o resolution) g Q ↔
      (∀ e, g.books.Replaces o (.error e) → may.refuses (.orders (.replace o)) e → Q (unwritten e) g) ∧
      ∀ stored, g.books.orders o.id = some stored →
        stored.status.acceptsOverwrite o.status = true →
          Q (.ok resolution) (g.note (.orders (.replace o)) (.ok o)) := by
  constructor
  · intro h
    constructor
    · intro e he hmay
      have hwritten := h (.error e) he hmay
      cases e <;> exact hwritten
    · intro stored hstored haccepts
      exact h (.ok o) ⟨rfl, stored, hstored, haccepts⟩ trivial
  · rintro ⟨herror, hok⟩
    refine Books.forall_replaces.mpr ⟨fun e he hmay => ?_, fun stored hstored haccepts _ => ?_⟩
    · have hrefused := herror e he hmay
      cases e <;> exact hrefused
    · exact hok stored hstored haccepts

/-! ## Work on one order -/

/-- While an order is worked on `I` is kept, and in the end there is `J`. -/
structure Keeps (may : Faults) (o : Order) (I J : Past → Prop) : Prop where
  left : ∀ {g}, I g → J g
  asked : ∀ {g} (x : Except ServiceError ProviderResponse), I g →
    I (g.note (.bank (.retrieveStatus o.id o.bankTraceId)) x)
  moved : ∀ {g r} {x : Except ServiceError Transaction} {id t stored t'}, I g →
    o.transactionId = some id → g.books.records id = some t → g.books.records t.id = some stored →
    (g.note (.ledger r) x).books = g.books.enter t.id t' → t'.id = stored.id →
    t'.orderId = stored.orderId → I (g.note (.ledger r) x)
  written : ∀ {g o'}, I g → o.Resolves o' → J (g.note (.orders (.replace o')) (.ok o'))

namespace Keeps

variable {o : Order} {I J : Past → Prop}

theorem write {o' : Order} {resolution : Resolution} (h : Keeps may o I J) (hI : I g)
    (hresolves : o.Resolves o') : Attains may (write o' resolution) g fun _ g => J g := by
  simp only [attains_write]
  exact ⟨fun _ _ _ => h.left hI, fun _ _ _ => h.written hI hresolves⟩

theorem settle {success : Bool} {reason : Option String} (h : Keeps may o I J) (hI : I g) :
    Attains may (settle o success reason) g fun _ g => J g := by
  unfold Reconciler.settle
  simp only [attains_bind, attains_now, attains_accept]
  refine fun _ => ⟨fun _ _ => h.left hI, fun settled hsettled _ => ?_⟩
  exact h.write hI (.retrieved hsettled)

theorem writeExpired {r : Reconciler} (h : Keeps may o I J) (hI : I g) :
    Attains may (r.writeExpired o) g fun _ g => J g := by
  unfold Reconciler.writeExpired
  simp only [attains_bind, attains_now, attains_accept]
  exact fun _ => ⟨fun _ _ => h.left hI, fun expired hexpired => h.write hI (.expired hexpired)⟩

theorem resolveSuccess (h : Keeps may o I J) (hI : I g) :
    Attains may (resolveSuccess o) g fun _ g => J g := by
  unfold Reconciler.resolveSuccess
  simp only [attains_bind, attains_linked]
  refine ⟨fun _ => h.left hI, fun id hid => ⟨fun _ _ _ => h.left hI, fun t ht => ?_⟩⟩
  have hconfirm : Attains may (do
      let _ ← ask (.ledger (.confirm t.id))
      Reconciler.settle o true none) g fun _ g => J g := by
    simp only [attains_bind, attains_confirm]
    refine ⟨fun _ _ _ => h.left hI, fun t' stored hstored now hconfirmed => h.settle ?_⟩
    obtain ⟨_, rfl⟩ := Transaction.moveTo_ok hconfirmed
    exact h.moved hI hid ht hstored (Past.note_confirm ..) rfl rfl
  cases t.status with
  | finish => exact h.settle hI
  | failed => exact h.left hI
  | processing => exact hconfirm
  | pending => exact hconfirm

theorem cancelled {id : TransactionId} {t t' stored : Transaction} {reason : String}
    {now : Timestamp} (h : Keeps may o I J) (hI : I g) (hid : o.transactionId = some id)
    (ht : g.books.records id = some t) (hstored : g.books.records t.id = some stored)
    (hcancelled : stored.cancel reason now = .ok t') :
    I (g.note (.ledger (.cancel t.id reason)) (.ok t')) := by
  obtain ⟨_, rfl⟩ := Transaction.fail_ok (Transaction.cancel_ok hcancelled).2
  exact h.moved hI hid ht hstored (Past.note_cancel ..) rfl rfl

theorem resolveFailure {reason : String} (h : Keeps may o I J) (hI : I g) :
    Attains may (resolveFailure o reason) g fun _ g => J g := by
  unfold Reconciler.resolveFailure
  simp only [attains_bind, attains_linked]
  refine ⟨fun _ => h.settle hI, fun id hid => ⟨fun _ _ _ => h.left hI, fun t ht => ?_⟩⟩
  have hwithdraw : Attains may (do
      let _ ← ask (.ledger (if t.isCancellable then .cancel t.id reason else .fail t.id reason))
      Reconciler.settle o false (some reason)) g fun _ g => J g := by
    split
    · simp only [attains_bind, attains_cancel]
      exact ⟨fun _ _ _ => h.left hI, fun t' stored hstored now hcancelled =>
        h.settle (h.cancelled hI hid ht hstored hcancelled)⟩
    · simp only [attains_bind, attains_fail]
      refine ⟨fun _ _ _ => h.left hI, fun t' stored hstored now hfailed => h.settle ?_⟩
      obtain ⟨_, rfl⟩ := Transaction.fail_ok hfailed
      exact h.moved hI hid ht hstored (Past.note_fail ..) rfl rfl
  cases t.status with
  | failed => exact h.settle hI
  | finish => exact h.left hI
  | processing => exact hwithdraw
  | pending => exact hwithdraw

theorem retrieve {r : Reconciler} (h : Keeps may o I J) (hI : I g) :
    Attains may (r.retrieve o) g fun _ g => J g := by
  unfold Reconciler.retrieve
  simp only [attains_bind, attains_bank]
  refine ⟨fun e _ => h.left (h.asked (.error e) hI), fun response => ?_⟩
  have hI := h.asked (.ok response) hI
  cases (r.classifiers.classify o.provider response.code).kind with
  | success => exact h.resolveSuccess hI
  | pending => exact h.left hI
  | failure => exact h.resolveFailure hI
  | needsAuth => exact h.resolveFailure hI

theorem expire {r : Reconciler} (h : Keeps may o I J) (hI : I g) :
    Attains may (r.expire o) g fun _ g => J g := by
  unfold Reconciler.expire
  simp only [attains_bind, attains_linked]
  refine ⟨fun _ => h.writeExpired hI, fun id hid => ⟨fun _ _ _ => h.left hI, fun t ht => ?_⟩⟩
  have hwithdraw : Attains may (do
      if t.isCancellable then
        let _ ← ask (.ledger (.cancel t.id r.config.expiredReason))
        r.writeExpired o
      else r.writeExpired o) g fun _ g => J g := by
    split
    · simp only [attains_bind, attains_cancel]
      exact ⟨fun _ _ _ => h.left hI, fun t' stored hstored now hcancelled =>
        h.writeExpired (h.cancelled hI hid ht hstored hcancelled)⟩
    · exact h.writeExpired hI
  cases t.status with
  | pending => exact h.retrieve hI
  | processing => exact hwithdraw
  | failed => exact hwithdraw
  | finish =>
      simp only [attains_bind, attains_now, attains_accept]
      exact fun _ => ⟨fun _ _ => h.left hI, fun settled hsettled => h.write hI (.settled hsettled)⟩

theorem reconcile {r : Reconciler} (h : Keeps may o I J) (hI : I g) :
    Attains may (r.reconcile o) g fun _ g => J g := by
  unfold Reconciler.reconcile
  split
  · exact h.left hI
  split
  · exact h.retrieve hI
  · exact h.expire hI

end Keeps

/-! ## Whole sweeps -/

/-- All orders but one are as they were. -/
def Others (id : OrderId) (orders : OrderId → Option Order) (g : Past) : Prop :=
  ∀ key, key ≠ id → g.books.orders key = orders key

section

variable {r : Reconciler} {I : Past → Prop} {c : Call} {x : c.Answer} {id : OrderId} {o : Order}
  {orders : OrderId → Option Order}

theorem Others.of_eq (h : g.books.orders = orders) : Others id orders g :=
  fun key _ => congrFun h key

theorem Others.file (h : g.books.orders = orders) (hid : o.id = id)
    (hbooks : (g.note c x).books = g.books.file o) : Others id orders (g.note c x) := by
  intro key hne
  rw [hbooks, ← h]
  exact Function.update_of_ne (hid ▸ hne) _ _

/-- What reconciling one stored order keeps, as long as it leaves all others alone. -/
def Tends (may : Faults) (r : Reconciler) (I : Past → Prop) : Prop :=
  ∀ (o : Order) (g : Past), I g → g.books.orders o.id = some o →
    Attains may (r.reconcile o) g fun _ after => I after ∧ Others o.id g.books.orders after

/-- The orders still to come are stored as they were listed, for none of them is listed twice. -/
theorem reconcileAll_meets (hone : Tends may r I) {candidates : List Order} {report : SweepReport}
    (h : I g) (hstored : ∀ o ∈ candidates, g.books.orders o.id = some o)
    (hdistinct : (candidates.map Order.id).Nodup) :
    (r.reconcileAll candidates report).Meets may g fun _ g => I g := by
  induction candidates generalizing g report with
  | nil => exact h
  | cons o rest ih =>
      rw [List.map_cons, List.nodup_cons] at hdistinct
      unfold reconcileAll
      rw [Program.meets_bind]
      apply (hone o g h (hstored o (by simp))).mono
      rintro result after ⟨hafter, hothers⟩ _ _ _
      -- what was written for `o` is not among the orders still to come
      refine ih hafter ?_ hdistinct.2
      intro o' ho'
      have hne : o'.id ≠ o.id := by
        intro heq
        exact hdistinct.1 (heq ▸ List.mem_map_of_mem ho')
      exact (hothers o'.id hne).trans (hstored o' (by simp [ho']))

/-- What reconciling one stored order keeps, a sweep keeps. -/
theorem sweep_meets (hone : Tends may r I)
    (hfiled : ∀ {key o}, g.books.orders key = some o → o.id = key) (h : I g) :
    r.sweep.Meets may g fun _ g => I g := by
  unfold sweep
  rw [Program.meets_bind]
  intro _ _ _
  show (Program.now >>= _).Meets _ _ _
  rw [Program.meets_bind]
  intro now _ _
  show (Program.orders (.findExpired now r.config.batchLimit) >>= _).Meets _ _ _
  rw [Program.meets_bind]
  rintro (e | candidates) hlisted _
  · exact h
  obtain ⟨rows, rfl, hdistinct, hrows⟩ := hlisted
  have hids : ∀ row ∈ rows, row.2.id = row.1 := fun row hrow => hfiled (hrows row hrow).1
  refine (Program.meets_bind _ _ _ _).mpr (reconcileAll_meets hone h ?_ ?_)
  · intro o ho
    obtain ⟨row, hrow, rfl⟩ := List.mem_map.mp ho
    rw [hids row hrow]
    exact (hrows row hrow).1
  · have hmap : rows.map (Order.id ∘ Prod.snd) = rows.map Prod.fst := List.map_congr_left hids
    rw [List.map_map, hmap]
    exact hdistinct

end

end Wallet.Reconciler
