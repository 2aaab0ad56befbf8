import Wallet.Proofs.Consistency.Reachable
import Wallet.Proofs.Versions.Flow
import Wallet.Proofs.Versions.Sweep

/-!
# Orders only go forward

Whatever flows and sweeps are run one after the other, and whichever of their calls are refused, what
is stored at one point of the history is stored in a later version at every point after it.
-/

namespace Wallet

section

variable {registry : ClassifierRegistry} {w : World}

theorem Act.keeps_lawful (a : Act) {p : Past} (h : Lawful p.gist) :
    (a.program registry).Always p fun _ p => Lawful p.gist := by
  cases a with
  | flow config call operation =>
      exact (Program.always_bind _ _ _ _).mpr (Flow.always_lawful config call operation h)
  | sweep config => exact (Program.always_bind _ _ _ _).mpr (Reconciler.sweep_lawful h)

theorem Reachable.lawful (h : Reachable registry w) : Lawful w.past.gist :=
  h.invariant (I := fun p => Lawful p.gist) lawful_empty fun a _ hp => a.keeps_lawful hp

/-- **Orders only go forward.** In every reachable world the stored orders are those that the history
leaves of empty books. Of any two points of the history, an order that is stored at the earlier is
stored at the later in a version that it precedes: the same in all that it is about, linked to the
same record if it was linked, no less far along, and altogether the same if it was resolved. -/
theorem versions_precede (h : Reachable registry w) :
    w.services.orders.get? = (Books.replay w.history).orders ∧
      ∀ before after, before <+: after → after <+: w.history →
        ∀ key o, (Books.replay before).orders key = some o →
          ∃ o', (Books.replay after).orders key = some o' ∧ o.Precedes o' := by
  have hlawful := h.lawful
  constructor
  · rw [← Books.replay_filter_counts]
    exact congrArg Books.orders hlawful.replayed
  · intro before after hbefore hafter
    rw [← Books.replay_filter_counts before, ← Books.replay_filter_counts after]
    exact hlawful.versions (hbefore.filter _) (hafter.filter _)

/-- The status of the first order after so many calls. -/
def World.statusAt (w : World) (calls : Nat) : Option OrderStatus :=
  ((Books.replay (w.history.take calls)).orders firstOrder).map Order.status

/-- The first order is created by the seventh call of a payment, and then the payment succeeds. -/
theorem versions_precede_payIn : ∃ w o o', Reachable .standard w ∧
    (Books.replay (w.history.take 7)).orders firstOrder = some o ∧ o.status = .pending ∧
    w.services.orders.get? firstOrder = some o' ∧ o'.status = .success ∧ o.Precedes o' := by
  have hcheck : (visited [(payIn, calm "200")]).any (fun w =>
      decide (w.statusAt 7 = some .pending ∧ w.standing = some (.success, .finish))) = true := by
    decide +kernel
  obtain ⟨w, hvisited, hw⟩ := (Option.any_eq_true _ _).mp hcheck
  obtain ⟨hpending, hstanding⟩ := of_decide_eq_true hw
  have hreachable := reachable_of_visited hvisited
  obtain ⟨hbooks, hversions⟩ := versions_precede hreachable
  obtain ⟨o, ho, hstatus⟩ := Option.map_eq_some_iff.mp hpending
  obtain ⟨o', ho', hprecedes⟩ :=
    hversions (w.history.take 7) w.history ⟨w.history.drop 7, List.take_append_drop 7 _⟩
      List.prefix_rfl firstOrder o ho
  obtain ⟨stored, _, hstored, _, _, hsuccess, _⟩ := World.standing_eq hstanding
  rw [← hbooks, hstored] at ho'
  cases ho'
  exact ⟨w, o, o', hreachable, ho, hstatus, hstored, hsuccess, hprecedes⟩

end

end Wallet
