import Wallet.Proofs.Changes
import Wallet.Proofs.Flow.Leaves

/-!
# What undoing leaves alone

Between the steps of a flow and the actions that undo them anybody may have changed what is stored.
Undoing spares the orders and records that have been resolved meanwhile, and those that wait to be
reconciled unless the money has been moved (`Services.Spares`). The rest of this module says what it
takes for a write to spare them, and for a record and an order to be in a state that undoing finds
nothing to do for.
-/

namespace Wallet

/-- An order that undoing leaves as it is: one that is resolved, and one that waits to be reconciled
unless the bank has moved its money and the flow is to be completed. -/
def Order.Fixed (completing : Bool) (o : Order) : Prop :=
  o.isTerminal = true ∨ completing = false ∧ o.isVerifying = true

/-- A ledger record that undoing leaves as it is. -/
def Transaction.Fixed (completing : Bool) (t : Transaction) : Prop :=
  t.status.isFinal = true ∨ completing = false ∧ t.state = .resolved

/-- Every stored order and record that undoing has to leave alone is still there as it was. -/
structure Services.Spares (completing : Bool) (v v' : Services) : Prop where
  orders : ∀ {key o}, v.orders.get? key = some o → o.Fixed completing →
    v'.orders.get? key = some o
  records : ∀ {id t}, v.ledger.get? id = some t → t.Fixed completing → v'.ledger.get? id = some t

namespace Services.Spares

variable {c : Bool} {v v' v'' : Services}

theorem of_eq (horders : v'.orders = v.orders) (hledger : v'.ledger = v.ledger) :
    v.Spares c v' := by
  constructor
  · intro key o ho _
    rw [horders]
    exact ho
  · intro id t ht _
    rw [hledger]
    exact ht

theorem trans (h : v.Spares c v') (h' : v'.Spares c v'') : v.Spares c v'' :=
  ⟨fun ho hfixed => h'.orders (h.orders ho hfixed) hfixed,
    fun ht hfixed => h'.records (h.records ht hfixed) hfixed⟩

theorem replacing {o o' : Order} (horders : v'.orders = v.orders.replacing o')
    (hledger : v'.ledger = v.ledger) (hstored : v.orders.get? o'.id = some o)
    (hopen : ¬o.Fixed c) : v.Spares c v' := by
  constructor
  · intro key other hother hfixed
    by_cases heq : key = o'.id
    · subst heq
      cases hstored.symm.trans hother
      exact absurd hfixed hopen
    · rw [horders]
      exact (v.orders.get?_insert_of_ne heq).trans hother
  · intro id t ht _
    rw [hledger]
    exact ht

theorem moved {r : Ledger.Request} {id : TransactionId} {t t' : Transaction}
    (ht : v.ledger.get? id = some t) (hopen : ¬t.Fixed c) :
    v.Spares c { v.ticked with ledger := v.ledger.moved r id t' } := by
  constructor
  · intro key o ho _
    exact ho
  · intro other u hu hfixed
    by_cases heq : other = id
    · subst heq
      cases ht.symm.trans hu
      exact absurd hfixed hopen
    · exact (Ledger.get?_moved_of_ne heq).trans hu

end Services.Spares

namespace Transaction

variable {t t' : Transaction} {next : TransactionStatus} {now : Timestamp} {reason : String}

theorem not_fixed_of_moveTo (h : t.moveTo next now = .ok t') : ¬t.Fixed true := by
  rintro (hfinal | ⟨⟨⟩, _⟩)
  rw [not_isFinal_of_canTransitionTo (moveTo_ok h).1] at hfinal
  cases hfinal

theorem not_fixed_of_cancel {c : Bool} (h : t.cancel reason now = .ok t') : ¬t.Fixed c := by
  obtain ⟨hinitial, hfailed⟩ := cancel_ok h
  rintro (hfinal | ⟨_, hresolved⟩)
  · rw [not_isFinal_of_canTransitionTo (fail_ok hfailed).1] at hfinal
    cases hfinal
  · rw [hinitial] at hresolved
    cases hresolved

end Transaction

/-! ## States that are left alone -/

/-- Every order is stored under its own identifier. -/
def OrderStore.Filed (s : OrderStore) : Prop := ∀ {key o}, s.get? key = some o → o.id = key

/-- Undoing leaves the order that is stored under an identifier as it is, as far as it can be read. -/
def OrderStore.Fixes (completing : Bool) (s : OrderStore) (id : OrderId) : Prop :=
  s.unavailable = false → ∀ o, s.get? id = some o → o.Fixed completing

namespace Ledger

/-- A record that is there and need not be cancelled. -/
def Passed (l : Ledger) (id : TransactionId) : Prop :=
  ∃ t, l.find id = .ok t ∧ t.isCancellable = false

/-- A record that cannot be read, or that would have to be cancelled and cannot be. -/
def Barred (l : Ledger) (id : TransactionId) : Prop :=
  ∀ t, l.find id = .ok t → t.isCancellable = true ∧
    ∀ reason now, ∃ e, l.serve now (.cancel id reason) = (.error e, l)

end Ledger

theorem OrderStatus.acceptsOverwrite_of_isUnresolved {stored next : OrderStatus}
    (hopen : stored.isUnresolved = true) (hresolved : next.isTerminal = true) :
    stored.acceptsOverwrite next = true := by
  cases stored <;> cases next <;>
    first | rfl | exact absurd hopen (by decide) | exact absurd hresolved (by decide)

/-- An order that is not failed has to be left as it is. -/
theorem Order.fixed_of_failUnlessResolved? {o : Order} {reason : String} {now : Timestamp}
    (h : o.failUnlessResolved? reason now = none) : o.Fixed false := by
  unfold failUnlessResolved? at h
  split at h
  · next hclosed =>
      rcases (Bool.or_eq_true _ _).mp hclosed with hverifying | hterminal
      · exact .inr ⟨rfl, hverifying⟩
      · exact .inl hterminal
  · next hopen =>
      unfold isVerifying isTerminal at hopen
      cases hstatus : o.status <;>
        simp_all [fail, transitionFor, transition, OrderStatus.canTransitionTo, Except.map,
          Except.toOption, OrderStatus.isTerminal]

/-- An order that may be written in place of another one, and resolves it. -/
structure Order.Ends (o o' : Order) : Prop where
  id : o'.id = o.id
  link : o'.transactionId = o.transactionId
  gives : o.status.acceptsOverwrite o'.status = true
  resolved : o'.isTerminal = true

namespace Order.Ends

variable {o o' : Order} {now : Timestamp} {reason : String}

theorem settled (h : o.settle true none now = .ok o') : o.Ends o' := by
  obtain ⟨hopen, rfl⟩ := settle_ok h
  exact ⟨rfl, rfl, OrderStatus.acceptsOverwrite_of_isUnresolved hopen rfl, rfl⟩

theorem failed (h : o.failUnlessResolved? reason now = some o') : o.Ends o' := by
  obtain ⟨_, hterminal, rfl⟩ := failUnlessResolved?_some h
  have hopen := isUnresolved_of_not_isTerminal hterminal
  exact ⟨rfl, rfl, OrderStatus.acceptsOverwrite_of_isUnresolved hopen rfl, rfl⟩

end Order.Ends

namespace OrderStore

variable {c : Bool} {orders : OrderStore} {id : OrderId}

theorem Fixes.of_down (h : orders.unavailable = true) : orders.Fixes c id := by
  intro hreached
  rw [h] at hreached
  cases hreached

theorem Fixes.of_none (h : orders.get? id = none) : orders.Fixes c id := by
  intro _ o ho
  cases h.symm.trans ho

theorem Fixes.of_stored {o : Order} (h : orders.get? id = some o) (hfixed : o.Fixed c) :
    orders.Fixes c id := by
  intro _ other hother
  cases h.symm.trans hother
  exact hfixed

end OrderStore

theorem OrderStore.fixes_replacing {c : Bool} {orders : OrderStore} {o : Order}
    (h : o.isTerminal = true) : (orders.replacing o).Fixes c o.id := by
  intro _ stored hstored
  cases (orders.get?_insert_self o).symm.trans hstored
  exact .inl h

theorem Promotion.usages_reverse (p : Promotion) (trace : String) :
    (p.reverse trace).usages.get? trace = none := by
  unfold Promotion.reverse
  cases hused : p.usages.get? trace with
  | none => exact hused
  | some discount =>
      simp only [Table.get?_erase, if_true]

end Wallet
