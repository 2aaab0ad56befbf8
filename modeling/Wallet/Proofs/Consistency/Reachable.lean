import Wallet.Proofs.Consistency.Flow
import Wallet.Proofs.Consistency.Sweep

/-!
# Reachable worlds are consistent

Whatever flows and sweeps are run one after the other, and whichever of their calls are refused, the
books stay consistent. So a finished record always has the bank's approval, and a successful order a
finished record. A dropped order has none, but for one gap: an order whose success could not be
written still waits for its one-time password, and is dropped when that is refused the second time.
-/

namespace Wallet

section

variable {registry : ClassifierRegistry} {w : World}

theorem Act.keeps_consistent (a : Act) {p : Past} (h : Consistent registry p) :
    (a.program registry).Always p fun _ p => Consistent registry p := by
  cases a with
  | flow config call operation =>
      exact (Program.always_bind _ _ _ _).mpr (Flow.always_consistent config call operation h)
  | sweep config => exact (Program.always_bind _ _ _ _).mpr (Reconciler.sweep_consistent h)

theorem Reachable.consistent (h : Reachable registry w) : Consistent registry w.past :=
  h.invariant (consistent_empty registry) fun a _ hp => a.keeps_consistent hp

/-! ### The first payment of a process -/

/-- The identifiers of the first order and of its record. -/
def firstOrder : OrderId := ⟨.stamped 0 0⟩

def firstRecord : TransactionId := ⟨.stamped 0 1⟩

/-- Somebody brings in money. -/
def payIn : Act :=
  .flow .standard
    (.pay .cashIn ⟨⟨.ofNat 1⟩, (Money.ofInt? 200000).getD .zero, ⟨"BIDV"⟩, none, .wallet, none⟩)
    .background

/-- The one-time password of the first order is handed in. -/
def handIn : Act := .flow .standard (.resume firstOrder "123456") .background

/-- Moments in which the bank answers with a code. -/
def calm (code : String) : List Moment := List.replicate 100 (.fair code)

/-- The world that acts reach from empty services. -/
def visited (acts : List (Act × List Moment)) : Option World :=
  World.visit .standard acts (.start .standard [] default)

/-- How the first order and its record stand, if they are linked. -/
def World.standing (w : World) : Option (OrderStatus × TransactionStatus) := do
  let o ← w.services.orders.get? firstOrder
  let t ← w.services.ledger.get? firstRecord
  if o.transactionId = some firstRecord then some (o.status, t.status) else none

theorem World.standing_eq {status : OrderStatus} {recordStatus : TransactionStatus}
    (h : w.standing = some (status, recordStatus)) :
    ∃ o t, w.services.orders.get? firstOrder = some o ∧
      w.services.ledger.get? firstRecord = some t ∧ o.transactionId = some firstRecord ∧
      o.status = status ∧ t.status = recordStatus := by
  unfold standing at h
  simp only [Option.bind_eq_bind, Option.bind_eq_some_iff] at h
  obtain ⟨o, ho, t, ht, hlinked⟩ := h
  split at hlinked
  · next hlink =>
      cases hlinked
      exact ⟨o, t, ho, ht, hlink, rfl, rfl⟩
  · cases hlinked

theorem reachable_of_visited {acts : List (Act × List Moment)} (h : visited acts = some w) :
    Reachable .standard w :=
  (Reachable.start .standard [] default).of_visit h

/-! ## Success -/

/-- **Success has its reasons.** In every reachable world, a finished ledger record belongs to a
stored order about which the bank has given an answer that means success to the order's provider,
and a successful order is linked to a finished record. -/
theorem success_backed (h : Reachable registry w) :
    (∀ id t, w.services.ledger.get? id = some t → t.status = .finish →
      ∃ o, w.services.orders.get? t.orderId = some o ∧
        Approved registry w.history t.orderId o.provider) ∧
    ∀ key o, w.services.orders.get? key = some o → o.status = .success →
      ∃ id t, o.transactionId = some id ∧ w.services.ledger.get? id = some t ∧
        t.orderId = key ∧ t.status = .finish := by
  have hconsistent := h.consistent
  constructor
  · intro id t ht hfinish
    exact (hconsistent.backed ht hfinish).approved
  · intro key o ho hsuccess
    obtain ⟨id, t, hlink, ht, hfinish⟩ := (hconsistent.fits ho).succeeded hsuccess
    obtain ⟨linked, hlinked, hback⟩ := (hconsistent.fits ho).linked id hlink
    have heq : some linked = some t := hlinked.symm.trans ht
    cases heq
    exact ⟨id, t, hlink, ht, hback.trans (hconsistent.filed ho), hfinish⟩

/-- The bank agrees to a payment at once. -/
theorem success_backed_payIn : ∃ w, Reachable .standard w ∧
    w.standing = some (.success, .finish) ∧
    ∃ o, w.services.orders.get? firstOrder = some o ∧
      Approved .standard w.history firstOrder o.provider := by
  have hcheck : (visited [(payIn, calm "200")]).any (fun w =>
      decide (w.standing = some (.success, .finish))) = true := by decide +kernel
  obtain ⟨w, hvisited, hw⟩ := (Option.any_eq_true _ _).mp hcheck
  have hreachable := reachable_of_visited hvisited
  have hstanding := of_decide_eq_true hw
  obtain ⟨o, t, ho, ht, hlink, hsuccess, hfinish⟩ := World.standing_eq hstanding
  obtain ⟨hbacked, hlinked⟩ := success_backed hreachable
  obtain ⟨id, t', hid, ht', hback, _⟩ := hlinked firstOrder o ho hsuccess
  rw [hlink] at hid
  cases hid
  rw [ht] at ht'
  cases ht'
  refine ⟨w, hreachable, hstanding, ?_⟩
  rw [← hback]
  exact hbacked firstRecord t ht hfinish

/-! ## Dropping -/

/-- **A dropped order was not paid.** In every reachable world, the ledger record of an order that
has failed or was cancelled is not finished, unless the bank refused a one-time password of the
order after the ledger had confirmed the record. -/
theorem dropped_not_finished {key : OrderId} {o : Order} {id : TransactionId} {t : Transaction}
    (h : Reachable registry w) (ho : w.services.orders.get? key = some o) (hdropped : o.Dropped)
    (hlink : o.transactionId = some id) (ht : w.services.ledger.get? id = some t)
    (hnot : ¬Reentered registry w.history o id) : t.status ≠ .finish := by
  intro hfinish
  exact hnot ((h.consistent.fits ho).dropped hdropped id t hlink ht hfinish)

/-- Whether an event hands a one-time password to the bank. -/
def Event.handsIn : Event → Bool
  | ⟨.bank (.verifyOtp _ _), _⟩ => true
  | _ => false

theorem not_reentered {events : List Event} {o : Order} {id : TransactionId}
    (h : events.any Event.handsIn = false) : ¬Reentered registry events o id := by
  rintro ⟨t, otp, response, hsub, _⟩
  rw [List.any_eq_false] at h
  exact h ⟨.bank (.verifyOtp o.id otp), .ok response⟩ (hsub.subset (by simp)) rfl

/-- The bank refuses a payment. -/
theorem dropped_not_finished_refused : ∃ w o t, Reachable .standard w ∧
    w.services.orders.get? firstOrder = some o ∧ o.Dropped ∧
    o.transactionId = some firstRecord ∧ w.services.ledger.get? firstRecord = some t ∧
    ¬Reentered .standard w.history o firstRecord ∧ t.status ≠ .finish := by
  have hcheck : (visited [(payIn, calm "400")]).any (fun w =>
      decide (w.standing = some (.failed, .failed)) && !w.history.any Event.handsIn) = true := by
    decide +kernel
  obtain ⟨w, hvisited, hw⟩ := (Option.any_eq_true _ _).mp hcheck
  simp only [Bool.and_eq_true, decide_eq_true_eq, Bool.not_eq_true'] at hw
  obtain ⟨o, t, ho, ht, hlink, hfailed, _⟩ := World.standing_eq hw.1
  have hreachable := reachable_of_visited hvisited
  have hnot : ¬Reentered .standard w.history o firstRecord := not_reentered hw.2
  exact ⟨w, o, t, hreachable, ho, .inl hfailed, hlink, ht, hnot,
    dropped_not_finished hreachable ho (.inl hfailed) hlink ht hnot⟩

/-- The one-time password is right, but once the record is confirmed neither the write of the order
nor the reading of the record gets through. The password is handed in again, and refused. -/
theorem dropped_finished : ∃ w o t, Reachable .standard w ∧
    w.services.orders.get? firstOrder = some o ∧ o.Dropped ∧
    o.transactionId = some firstRecord ∧ w.services.ledger.get? firstRecord = some t ∧
    t.status = .finish := by
  have hcheck : (visited [(payIn, calm "103"),
      (handIn, ((calm "200").set 18 .down).set 22 .down), (handIn, calm "406")]).any (fun w =>
        decide (w.standing = some (.failed, .finish))) = true := by decide +kernel
  obtain ⟨w, hvisited, hw⟩ := (Option.any_eq_true _ _).mp hcheck
  obtain ⟨o, t, ho, ht, hlink, hfailed, hfinish⟩ := World.standing_eq (of_decide_eq_true hw)
  exact ⟨w, o, t, reachable_of_visited hvisited, ho, .inl hfailed, hlink, ht, hfinish⟩

end

end Wallet
