import Wallet.Proofs.Consistency.Reachable
import Wallet.Proofs.Standing.Flow
import Wallet.Proofs.Standing.Sweep

/-!
# Reachable worlds are orderly

Whatever flows and sweeps are run one after the other, as long as order store, ledger and promotion
service can be reached and no rollback runs out of time, every order stands in some way whenever
nothing is going on.
-/

namespace Wallet

/-- A call of the order store, the ledger or the promotion service that did not get through. -/
def Event.outage : Event → Bool
  | ⟨.orders _, .error (.unavailable _)⟩ => true
  | ⟨.ledger _, .error (.unavailable _)⟩ => true
  | ⟨.promotion _, .error (.unavailable _)⟩ => true
  | _ => false

theorem Call.permits_ordinary {c : Call} {x : c.Answer} (h : Event.outage ⟨c, x⟩ = false) :
    c.Permits .ordinary x := by
  cases c with
  | orders r | ledger r | promotion r =>
      cases x with
      | ok _ => trivial
      | error e =>
          rintro ⟨what, rfl⟩
          cases h
  | bank r =>
      cases x with
      | ok _ => trivial
      | error e => exact fun _ => ⟨r, rfl⟩
  | hasEnded c => cases x <;> trivial
  | budget d => cases x <;> trivial
  | _ => trivial

/-- Only an outage is out of the ordinary. -/
theorem permitted_ordinary {events : List Event} (h : ∀ e ∈ events, e.outage = false) :
    Permitted .ordinary events :=
  fun e he => Call.permits_ordinary (h e he)

section

variable {registry : ClassifierRegistry} {w : World}

theorem Act.keeps_orderly (a : Act) {p : Past}
    (h : Smooth .ordinary p.events → Orderly registry none p.gist) :
    (a.program registry).Always p fun _ p =>
      Smooth .ordinary p.events → Orderly registry none p.gist := by
  cases a with
  | flow config call operation =>
      exact (Program.always_bind _ _ _ _).mpr (Flow.always_orderly config call operation h)
  | sweep config =>
      refine (Program.always_bind _ _ _ _).mpr (Program.Always.of_smooth fun hsmooth => ?_)
      exact (Reconciler.sweep_orderly (h hsmooth)).mono fun _ _ hend hsmooth => hend hsmooth.permitted

theorem Reachable.orderly (h : Reachable registry w) (hsmooth : Smooth .ordinary w.history) :
    Orderly registry none w.past.gist :=
  h.invariant (I := fun p => Smooth .ordinary p.events → Orderly registry none p.gist)
    (fun _ => orderly_empty registry) (fun a _ hp => a.keeps_orderly hp) hsmooth

/-- **Every order stands.** In every reachable world in whose history no call of the order store,
the ledger or the promotion service was out of reach, and no undoing action came too late, each
stored order is in exactly one of five states: pending and unlinked; processing, waiting for a
one-time password, and linked to an initial record; verifying and linked to a pending record;
successful and linked to a finished record; failed, and unlinked or linked to a failed record. -/
theorem orders_stand {key : OrderId} {o : Order} (h : Reachable registry w)
    (hreached : ∀ e ∈ w.history, e.outage = false) (hinTime : ¬CutShort w.history)
    (ho : w.services.orders.get? key = some o) : ∃! k : Standing, k.Of w.services.books o := by
  have horderly := h.orderly ⟨permitted_ordinary hreached, hinTime⟩
  obtain ⟨k, hk⟩ := horderly.stands (by simp) ho
  exact ⟨k, hk, fun k' hk' => hk'.unique hk⟩

/-- Whether an event finds a context ended. -/
def Event.findsEnded : Event → Bool
  | ⟨.hasEnded _, true⟩ => true
  | _ => false

theorem not_cutShort {events : List Event} (h : events.any Event.findsEnded = false) :
    ¬CutShort events := by
  rintro ⟨c, saga, hwithin⟩
  rw [List.any_eq_false] at h
  exact h ⟨.hasEnded c, true⟩ (hwithin.subset (by simp)) rfl

/-- The bank refuses a payment, and the order fails. -/
theorem orders_stand_refused : ∃ w o, Reachable .standard w ∧
    (∀ e ∈ w.history, e.outage = false) ∧ ¬CutShort w.history ∧
    w.services.orders.get? firstOrder = some o ∧
    (∃! k : Standing, k.Of w.services.books o) ∧ Standing.failed.Of w.services.books o := by
  have hcheck : (visited [(payIn, calm "400")]).any (fun w =>
      decide (w.standing = some (.failed, .failed)) && !w.history.any Event.outage &&
        !w.history.any Event.findsEnded) = true := by
    decide +kernel
  obtain ⟨w, hvisited, hw⟩ := (Option.any_eq_true _ _).mp hcheck
  simp only [Bool.and_eq_true, decide_eq_true_eq, Bool.not_eq_true'] at hw
  obtain ⟨⟨hstanding, houtage⟩, hended⟩ := hw
  have hreached : ∀ e ∈ w.history, e.outage = false := fun e he => by
    simpa using List.any_eq_false.mp houtage e he
  obtain ⟨o, t, ho, ht, hlink, hfailed, hrecord⟩ := World.standing_eq hstanding
  have hreachable := reachable_of_visited hvisited
  have hstands := orders_stand hreachable hreached (not_cutShort hended) ho
  exact ⟨w, o, hreachable, hreached, not_cutShort hended, ho, hstands, hfailed,
    .inr ⟨firstRecord, t, hlink, ht, hrecord⟩⟩

end

end Wallet
