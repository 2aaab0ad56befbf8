import Wallet.Proofs.Asking.Flow
import Wallet.Proofs.Consistency.Reachable
import Wallet.Proofs.Reconciliation.Attains

/-!
# Money is asked for while the record holds it

Sweeps ask the bank how orders stand, and leave none of them processing. So in every reachable world
the bank was only asked to move money for an order that was stored as processing and linked to a record
of its own, and the record was initial unless it had been changed and the order not written since.

Such a change does happen: a one-time password is refused for good, the record is cancelled, and the
write by which the order would fail is refused. The order still waits for its one-time password, and
when that is handed in again the bank is asked for money that nobody holds.
-/

namespace Wallet

namespace Reconciler

/-- The past is watched, and no order was written. -/
structure Inspected (orders : OrderId → Option Order) (g : Past) : Prop extends Watched g where
  unwritten : g.books.orders = orders

/-- The past is watched, and no other order was written. -/
structure Reconciled (id : OrderId) (orders : OrderId → Option Order) (g : Past) : Prop extends
    Watched g where
  others : Others id orders g

variable {o : Order} {orders : OrderId → Option Order} {r : Reconciler} {p : Past}

/-- An order that is written is resolved, so how its record stands does not matter. -/
theorem keeps_watched : Keeps .any o (Inspected orders) (Reconciled o.id orders) where
  left h := ⟨h.toWatched, .of_eq h.unwritten⟩
  asked {g} x h := by
    refine ⟨h.toWatched.other rfl ?_, h.unwritten⟩
    rintro _ ⟨⟩ ⟨⟩
  moved {g request x id t stored t'} h _ _ _ hbooks _ _ := by
    refine ⟨h.toWatched.other rfl (by rintro _ ⟨⟩), ?_⟩
    rw [hbooks]
    exact h.unwritten
  written {g o'} h hresolves := by
    have hclosed : o'.status ≠ .processing := by
      cases hresolves with
      | settled h | retrieved h =>
          obtain ⟨_, rfl⟩ := Order.settle_ok h
          simp only [Order.markRetrieved]
          split <;> simp
      | expired h =>
          obtain ⟨_, rfl⟩ := Order.expire_ok h
          simp
    exact ⟨h.toWatched.file rfl (Past.note_replace ..) fun hprocessing => absurd hprocessing hclosed,
      .file h.unwritten hresolves.ties.1 (Past.note_replace ..)⟩

theorem tends_watched : Tends .any r Watched := by
  intro o g h _
  have hinspected : Inspected g.books.orders g := ⟨h, rfl⟩
  exact (keeps_watched.reconcile hinspected).mono fun _ _ h => ⟨h.toWatched, h.others⟩

/-- Sweeps keep the past watched. -/
theorem sweep_watched (hfiled : ∀ {key o}, p.books.orders key = some o → o.id = key)
    (h : Watched p.gist) : r.sweep.Always p fun _ p => Watched p.gist := by
  have hsweep := (sweep_meets (g := p.gist) (r := r) tends_watched hfiled h).sound
  exact hsweep.mono fun _ p h => h (permitted_any p.events)

end Reconciler

section

variable {registry : ClassifierRegistry} {w : World} {before after : List Event}
  {r : Bank.Request} {x : Except ServiceError ProviderResponse}

theorem Act.keeps_watched (a : Act) {p : Past} (hconsistent : Consistent registry p)
    (h : Watched p.gist) : (a.program registry).Always p fun _ p => Watched p.gist := by
  cases a with
  | flow config call operation =>
      exact (Program.always_bind _ _ _ _).mpr
        (Flow.always_watched config call operation hconsistent h)
  | sweep config =>
      exact (Program.always_bind _ _ _ _).mpr (Reconciler.sweep_watched hconsistent.filed h)

theorem Reachable.watched (h : Reachable registry w) : Watched w.past.gist := by
  have hboth : Consistent registry w.past ∧ Watched w.past.gist := by
    refine h.invariant (I := fun p => Consistent registry p ∧ Watched p.gist)
      ⟨consistent_empty registry, watched_empty⟩ ?_
    rintro a p ⟨hconsistent, hwatched⟩
    exact (a.keeps_consistent hconsistent).and (a.keeps_watched hconsistent hwatched)
  exact hboth.2

/-- Whenever the bank is asked to move money for an order, the order is poised. -/
theorem Reachable.poised (h : Reachable registry w)
    (hsplit : w.history = before ++ ⟨.bank r, x⟩ :: after) (hmoves : r.movesMoney = true) :
    Poised ⟨.replay before, before⟩ r.orderId := by
  have hgist : w.past.gist.events =
      before.filter Event.counts ++ ⟨.bank r, x⟩ :: after.filter Event.counts := by
    show w.history.filter Event.counts = _
    rw [hsplit, List.filter_append, List.filter_cons_of_pos rfl]
  obtain ⟨o, id, t, ho, hprocessing, hlink, ht, hown, hinitial⟩ :=
    h.watched.asked _ r x _ hgist hmoves
  rw [Books.replay_filter_counts] at ho ht
  exact ⟨o, id, t, ho, hprocessing, hlink, ht, hown, hinitial.of_counts⟩

/-- **Money is asked for while the record holds it.** At every point of the history of a reachable world
at which the bank is asked to move money, the order is stored as processing and linked to a record of
its own. That record is initial, provided that each time it was entered before the order was written
afterwards. -/
theorem asked_while_initial (h : Reachable registry w)
    (hsplit : w.history = before ++ ⟨.bank r, x⟩ :: after) (hmoves : r.movesMoney = true)
    (hfollowed : ∀ o id, (Books.replay before).orders r.orderId = some o →
      o.transactionId = some id → Followed r.orderId id before) :
    ∃ o id t, (Books.replay before).orders r.orderId = some o ∧ o.status = .processing ∧
      o.transactionId = some id ∧ (Books.replay before).records id = some t ∧
      t.orderId = r.orderId ∧ t.state = .initial := by
  obtain ⟨o, id, t, ho, hprocessing, hlink, ht, hown, hinitial⟩ := h.poised hsplit hmoves
  have hstill := hinitial.still (hfollowed o id ho hlink) ht
  exact ⟨o, id, t, ho, hprocessing, hlink, ht, hown, hstill⟩

/-! ### Handing in a one-time password -/

/-- Whether an event asks the bank to move money for the first order. -/
def Event.asksForFirst : Event → Bool
  | ⟨.bank r, _⟩ => r.movesMoney && r.orderId == firstOrder
  | _ => false

theorem split_at_asking {events : List Event} {n : Nat}
    (h : events[n]?.any Event.asksForFirst = true) :
    ∃ r x, events = events.take n ++ ⟨.bank r, x⟩ :: events.drop (n + 1) ∧ r.movesMoney = true ∧
      r.orderId = firstOrder := by
  obtain ⟨e, he, hasks⟩ := (Option.any_eq_true _ _).mp h
  obtain ⟨hn, rfl⟩ := List.getElem?_eq_some_iff.mp he
  have hsplit : events = events.take n ++ events[n] :: events.drop (n + 1) := by
    rw [List.getElem_cons_drop, List.take_append_drop]
  revert hsplit hasks
  generalize events[n] = e
  intro hasks hsplit
  obtain ⟨c, x⟩ := e
  cases c with
  | bank r =>
      simp only [Event.asksForFirst, Bool.and_eq_true, beq_iff_eq] at hasks
      exact ⟨r, x, hsplit, hasks⟩
  | _ => cases hasks

/-- The state of the record of the first order after so many calls. -/
def World.recordAt (w : World) (calls : Nat) : Option TransactionState := do
  let o ← (Books.replay (w.history.take calls)).orders firstOrder
  let id ← o.transactionId
  ((Books.replay (w.history.take calls)).records id).map Transaction.state

/-- Whether every change of the record of the first order was followed after so many calls. -/
def World.followedAt (w : World) (calls : Nat) : Bool :=
  ((Books.replay (w.history.take calls)).orders firstOrder).all fun o =>
    o.transactionId.all fun id => decide (Followed firstOrder id (w.history.take calls))

/-- A one-time password is handed in by the forty-ninth call, when nothing has gone wrong. -/
theorem asked_while_initial_handIn : ∃ w before after r x o id t, Reachable .standard w ∧
    w.history = before ++ ⟨.bank r, x⟩ :: after ∧ r.movesMoney = true ∧
    (Books.replay before).orders r.orderId = some o ∧ o.status = .processing ∧
    o.transactionId = some id ∧ (Books.replay before).records id = some t ∧
    t.orderId = r.orderId ∧ t.state = .initial := by
  have hcheck : (visited [(payIn, calm "103"), (handIn, calm "200")]).any (fun w =>
      w.history[48]?.any Event.asksForFirst && w.followedAt 48) = true := by decide +kernel
  obtain ⟨w, hvisited, hw⟩ := (Option.any_eq_true _ _).mp hcheck
  obtain ⟨hasks, hfollowed⟩ := Bool.and_eq_true_iff.mp hw
  have hreachable := reachable_of_visited hvisited
  obtain ⟨r, x, hsplit, hmoves, hfirst⟩ := split_at_asking hasks
  obtain ⟨o, id, t, hasked⟩ := asked_while_initial hreachable hsplit hmoves (by
    intro o id ho hlink
    rw [hfirst] at ho ⊢
    simpa [World.followedAt, ho, hlink] using hfollowed)
  exact ⟨w, _, _, r, x, o, id, t, hreachable, hsplit, hmoves, hasked⟩

/-- The one-time password is refused for good and the record cancelled, but the order is not written.
The password is handed in again, and the bank is asked for money that the record does not hold. -/
theorem asked_while_resolved : ∃ w before after r x o id t, Reachable .standard w ∧
    w.history = before ++ ⟨.bank r, x⟩ :: after ∧ r.movesMoney = true ∧
    (Books.replay before).orders r.orderId = some o ∧ o.transactionId = some id ∧
    (Books.replay before).records id = some t ∧ t.state ≠ .initial := by
  have hcheck : (visited [(payIn, calm "103"), (handIn, (calm "406").set 17 .down),
      (handIn, calm "200")]).any (fun w =>
        w.history[70]?.any Event.asksForFirst && decide (w.recordAt 70 = some .resolved)) = true := by
    decide +kernel
  obtain ⟨w, hvisited, hw⟩ := (Option.any_eq_true _ _).mp hcheck
  obtain ⟨hasks, hrecord⟩ := Bool.and_eq_true_iff.mp hw
  obtain ⟨r, x, hsplit, hmoves, hfirst⟩ := split_at_asking hasks
  have hrecord := of_decide_eq_true hrecord
  unfold World.recordAt at hrecord
  simp only [Option.bind_eq_bind, Option.bind_eq_some_iff, Option.map_eq_some_iff] at hrecord
  obtain ⟨o, ho, id, hlink, t, ht, hresolved⟩ := hrecord
  rw [← hfirst] at ho
  exact ⟨w, _, _, r, x, o, id, t, reachable_of_visited hvisited, hsplit, hmoves, ho, hlink, ht,
    by simp [hresolved]⟩

end

end Wallet
