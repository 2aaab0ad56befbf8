import Wallet.Proofs.Reconciliation.Attains
import Wallet.Proofs.Standing.Basic

/-!
# Sweeps leave orders standing

A sweep takes up an unresolved order that stands in some way, so the order is not linked, or its
record can still be confirmed or withdrawn. Once that was done the order is written to match, and
stands again. As long as order store and ledger can be reached nothing comes in between.
-/

namespace Wallet

theorem Order.settle_of_unresolved {o : Order} (h : o.isUnresolved = true) (success : Bool)
    (reason : Option String) (now : Timestamp) : ∃ o', o.settle success reason now = .ok o' :=
  ⟨_, if_pos h⟩

namespace Reconciler

section

variable (registry : ClassifierRegistry) (o : Order) (orders : OrderId → Option Order) (g : Past)

/-- All orders stand, no other order was written, and the order that is worked on is unresolved. -/
structure Listed : Prop where
  orderly : Orderly registry none g
  unwritten : g.books.orders = orders
  listed : orders o.id = some o
  unresolved : o.isUnresolved = true

/-- The record of the order is settled, or withdrawn if there is one, and the order is to follow. -/
structure Decided (success : Bool) : Prop where
  orderly : Orderly registry (some o.id) g
  unwritten : g.books.orders = orders
  listed : orders o.id = some o
  unresolved : o.isUnresolved = true
  matched : if success then g.books.Linked o fun t => t.status = .finish
    else o.transactionId = none ∨ g.books.Linked o fun t => t.status = .failed
  unpaid : ¬Paid registry g.events o

/-- All orders stand, and no other order was written. -/
def AllStand : Prop := Orderly registry none g ∧ Others o.id orders g

end

section

variable {registry : ClassifierRegistry} {o o' : Order} {orders : OrderId → Option Order} {g : Past}
  {id : TransactionId} {t : Transaction} {success : Bool} {reason : Option String} {r : Reconciler}

theorem Listed.allStand (h : Listed registry o orders g) : AllStand registry o orders g :=
  ⟨h.orderly, .of_eq h.unwritten⟩

theorem Listed.stored (h : Listed registry o orders g) : g.books.orders o.id = some o :=
  h.unwritten ▸ h.listed

theorem Listed.unpaid (h : Listed registry o orders g) : ¬Paid registry g.events o := by
  intro hpaid
  have hsuccess := h.orderly.paid (by simp) h.stored hpaid
  have hopen := h.unresolved
  rw [Order.isUnresolved, hsuccess] at hopen
  cases hopen

/-- An unresolved order that is linked has a record that is still open. -/
theorem Listed.record (h : Listed registry o orders g) (hid : o.transactionId = some id)
    (ht : g.books.records id = some t) :
    t.state = .initial ∧ t.status = .processing ∨ t.status = .pending := by
  obtain ⟨k, hk⟩ := h.orderly.stands (by simp) h.stored
  have hopen := h.unresolved
  rw [Order.isUnresolved, hk.status_eq] at hopen
  have hthis {P : Transaction → Prop} : g.books.Linked o P → P t := by
    rintro ⟨id', t', hid', ht', hP⟩
    rw [hid] at hid'
    cases hid'
    rw [ht] at ht'
    cases ht'
    exact hP
  cases k with
  | opened =>
      rw [hk.2] at hid
      cases hid
  | awaiting =>
      have hinitial := hthis hk.2.2
      exact .inl ⟨hinitial, h.orderly.initial ht hinitial⟩
  | verifying => exact .inr (hthis hk.2)
  | succeeded => cases hopen
  | failed => cases hopen

/-- The bank is asked how the order stands. -/
theorem Listed.ask (h : Listed registry o orders g) (x : Except ServiceError ProviderResponse) :
    Listed registry o orders (g.note (.bank (.retrieveStatus o.id o.bankTraceId)) x) :=
  ⟨h.orderly.ask h.stored nofun, h.unwritten, h.listed, h.unresolved⟩

theorem Listed.unlinked (h : Listed registry o orders g) (hunlinked : o.transactionId = none) :
    Decided registry o orders g false :=
  ⟨h.orderly.attend o.id, h.unwritten, h.listed, h.unresolved, .inl hunlinked, h.unpaid⟩

/-- The record was resolved as the order is to be. -/
theorem Listed.decide {c : Call} {x : c.Answer} {t' : Transaction} (h : Listed registry o orders g)
    (hid : o.transactionId = some id) (ht : g.books.records id = some t)
    (hbooks : (g.note c x).books = g.books.enter id t') (hc : ∀ r, c ≠ .bank r)
    (hsame : t'.id = t.id) (hback : t'.orderId = t.orderId) (hresolved : t'.state = .resolved)
    (hstatus : t'.status = if success then .finish else .failed) :
    Decided registry o orders (g.note c x) success where
  orderly := (h.orderly.attend o.id).resolve h.stored hid ht hbooks hc hsame hback hresolved
  unwritten := by
    rw [hbooks]
    exact h.unwritten
  listed := h.listed
  unresolved := h.unresolved
  matched := by
    have hself : (g.note c x).books.records id = some t' := by
      rw [hbooks]
      exact Books.enter_self ..
    cases success with
    | true => exact ⟨id, t', hid, hself, hstatus⟩
    | false => exact .inr ⟨id, t', hid, hself, hstatus⟩
  unpaid hpaid := h.unpaid (hpaid.of_note hc)

/-! ## Writing the order -/

theorem write_stands {resolution : Resolution} (h : Decided registry o orders g success)
    (hsame : o.SameTies o') (hawaiting : o'.awaitingOtp = false)
    (hstatus : o'.status = if success then .success else .failed) :
    Attains .ordinary (write o' resolution) g fun _ g => AllStand registry o orders g := by
  have hstored : g.books.orders o.id = some o := h.unwritten ▸ h.listed
  have haccepts : o.status.acceptsOverwrite o'.status = true := by
    have hopen : o.status.isUnresolved = true := h.unresolved
    rw [hstatus]
    cases success <;> cases hs : o.status <;> first | rfl | (rw [hs] at hopen; cases hopen)
  have hconclude {k : Standing} (hstands : k.Of g.books o')
      (hpaid : Paid registry g.events o → o'.status = .success) :
      AllStand registry o orders (g.note (.orders (.replace o')) (.ok o')) :=
    ⟨h.orderly.conclude o' hstored hsame (Past.note_replace ..) (by simp) (by simp [hawaiting]) hstands
      hpaid, .file h.unwritten hsame.id (Past.note_replace ..)⟩
  simp only [attains_write]
  refine ⟨fun e he hmay => ?_, fun _ _ _ => ?_⟩
  · refine absurd he (Faults.ordinary_inReach.not_replaces ?_ haccepts hmay)
    rw [hsame.id]
    exact hstored
  have hmatched := h.matched
  cases success with
  | true =>
      exact hconclude (k := .succeeded) ⟨hstatus, hmatched.of_same hsame.link fun _ _ => rfl⟩
        fun _ => hstatus
  | false =>
      refine hconclude (k := .failed) ⟨hstatus, ?_⟩ fun hpaid => absurd hpaid h.unpaid
      rcases hmatched with hunlinked | hlinked
      · exact .inl (hsame.link.trans hunlinked)
      · exact .inr (hlinked.of_same hsame.link fun _ _ => rfl)

theorem settle_stands (h : Decided registry o orders g success) :
    Attains .ordinary (settle o success reason) g fun _ g => AllStand registry o orders g := by
  unfold settle
  simp only [attains_bind, attains_now, attains_accept]
  refine fun now => ⟨fun e he => ?_, fun settled hsettled _ => ?_⟩
  · obtain ⟨o', ho'⟩ := Order.settle_of_unresolved h.unresolved success reason now
    rw [ho'] at he
    cases he
  · obtain ⟨_, rfl⟩ := Order.settle_ok hsettled
    exact write_stands h ⟨rfl, rfl, rfl⟩ rfl rfl

theorem writeExpired_stands (h : Decided registry o orders g false) :
    Attains .ordinary (r.writeExpired o) g fun _ g => AllStand registry o orders g := by
  unfold writeExpired
  simp only [attains_bind, attains_now, attains_accept]
  refine fun now => ⟨fun e he => ?_, fun expired hexpired => ?_⟩
  · obtain ⟨o', ho'⟩ := Order.settle_of_unresolved h.unresolved false (some r.config.expiredReason) now
    rw [Order.expire, ho'] at he
    cases he
  · obtain ⟨_, rfl⟩ := Order.expire_ok hexpired
    exact write_stands h ⟨rfl, rfl, rfl⟩ rfl rfl

/-! ## Settling as the bank says -/

theorem resolveSuccess_stands (h : Listed registry o orders g) :
    Attains .ordinary (resolveSuccess o) g fun _ g => AllStand registry o orders g := by
  unfold resolveSuccess
  simp only [attains_bind, attains_linked]
  refine ⟨fun _ => h.allStand, fun id hid => ⟨fun _ _ _ => h.allStand, fun t ht => ?_⟩⟩
  cases h.orderly.entered ht
  have hconfirm : Attains .ordinary (do
      let _ ← ask (.ledger (.confirm t.id))
      settle o true none) g fun _ g => AllStand registry o orders g := by
    simp only [attains_bind, attains_confirm]
    refine ⟨fun _ _ _ => h.allStand, fun t' stored hstored now hconfirmed => ?_⟩
    obtain ⟨_, rfl⟩ := Transaction.moveTo_ok hconfirmed
    exact settle_stands (h.decide hid hstored (Past.note_confirm ..) (by simp) rfl rfl rfl rfl)
  rcases h.record hid ht with ⟨_, hstatus⟩ | hstatus
  · simp only [hstatus]
    exact hconfirm
  · simp only [hstatus]
    exact hconfirm

/-- The record is withdrawn, and then the order. -/
theorem withdraw_stands (part : ReconcileM Resolution) (why : String)
    (h : Listed registry o orders g) (hid : o.transactionId = some id)
    (ht : g.books.records id = some t)
    (hpart : ∀ {g}, Decided registry o orders g false →
      Attains .ordinary part g fun _ g => AllStand registry o orders g) :
    Attains .ordinary (do
      let _ ← ask (.ledger (if t.isCancellable then .cancel t.id why else .fail t.id why))
      part) g fun _ g => AllStand registry o orders g := by
  cases h.orderly.entered ht
  split
  · simp only [attains_bind, attains_cancel]
    refine ⟨fun _ _ _ => h.allStand, fun t' stored hstored now hcancelled => hpart ?_⟩
    obtain ⟨_, rfl⟩ := Transaction.fail_ok (Transaction.cancel_ok hcancelled).2
    exact h.decide hid hstored (Past.note_cancel ..) (by simp) rfl rfl rfl rfl
  · simp only [attains_bind, attains_fail]
    refine ⟨fun _ _ _ => h.allStand, fun t' stored hstored now hfailed => hpart ?_⟩
    obtain ⟨_, rfl⟩ := Transaction.fail_ok hfailed
    exact h.decide hid hstored (Past.note_fail ..) (by simp) rfl rfl rfl rfl

theorem resolveFailure_stands {why : String} (h : Listed registry o orders g) :
    Attains .ordinary (resolveFailure o why) g fun _ g => AllStand registry o orders g := by
  unfold resolveFailure
  simp only [attains_bind, attains_linked]
  refine ⟨fun hunlinked => settle_stands (h.unlinked hunlinked), fun id hid =>
    ⟨fun _ _ _ => h.allStand, fun t ht => ?_⟩⟩
  have hwithdraw := withdraw_stands (settle o false (some why)) why h hid ht settle_stands
  rcases h.record hid ht with ⟨_, hstatus⟩ | hstatus
  · simp only [hstatus]
    exact hwithdraw
  · simp only [hstatus]
    exact hwithdraw

theorem retrieve_stands (h : Listed registry o orders g) :
    Attains .ordinary (r.retrieve o) g fun _ g => AllStand registry o orders g := by
  unfold retrieve
  simp only [attains_bind, attains_bank]
  refine ⟨fun e _ => (h.ask (.error e)).allStand, fun response => ?_⟩
  have h := h.ask (.ok response)
  cases (r.classifiers.classify o.provider response.code).kind with
  | success => exact resolveSuccess_stands h
  | pending => exact h.allStand
  | failure => exact resolveFailure_stands h
  | needsAuth => exact resolveFailure_stands h

/-! ## Expiring -/

theorem expire_stands (h : Listed registry o orders g) :
    Attains .ordinary (r.expire o) g fun _ g => AllStand registry o orders g := by
  unfold expire
  simp only [attains_bind, attains_linked]
  refine ⟨fun hunlinked => writeExpired_stands (h.unlinked hunlinked), fun id hid =>
    ⟨fun _ _ _ => h.allStand, fun t ht => ?_⟩⟩
  rcases h.record hid ht with ⟨hinitial, hstatus⟩ | hstatus
  · have hcancellable : t.isCancellable = true := by simp [Transaction.isCancellable, hinitial]
    have hwithdraw := withdraw_stands (r.writeExpired o) r.config.expiredReason h hid ht
      writeExpired_stands
    simp only [hcancellable, if_true] at hwithdraw
    simp only [hstatus, hcancellable, if_true]
    exact hwithdraw
  · simp only [hstatus]
    exact retrieve_stands h

theorem tends_orderly : Tends .ordinary r (Orderly registry none) := by
  intro o g h hstored
  unfold reconcile
  split
  · exact ⟨h, .of_eq rfl⟩
  next hopen =>
    have hlisted : Listed registry o g.books.orders g :=
      ⟨h, rfl, hstored, by simpa using hopen⟩
    split
    · exact retrieve_stands hlisted
    · exact expire_stands hlisted

/-- A sweep leaves orderly books orderly. -/
theorem sweep_orderly {p : Past} (h : Orderly registry none p.gist) :
    r.sweep.Always p fun _ p => Permitted .ordinary p.events → Orderly registry none p.gist :=
  (sweep_meets tends_orderly h.filed h).sound

end

end Reconciler

end Wallet
