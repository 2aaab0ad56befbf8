import Wallet.Proofs.Reconciliation.Attains
import Wallet.Proofs.Versions.Basic

/-!
# Sweeps write later versions

A sweep writes an order at most once, and last: it writes what a change has made of the version that
was listed, and that is still the stored one.
-/

namespace Wallet.Reconciler

/-- The past is lawful, and no order was written since the order that is worked on was listed. -/
structure Pursued (o : Order) (orders : OrderId → Option Order) (g : Past) : Prop where
  lawful : Lawful g
  unwritten : g.books.orders = orders
  listed : orders o.id = some o

/-- The past is lawful, and no other order was written. -/
structure Closed (o : Order) (orders : OrderId → Option Order) (g : Past) : Prop where
  lawful : Lawful g
  others : Others o.id orders g

section

variable {g : Past} {c : Call} {x : c.Answer} {o o' : Order} {orders : OrderId → Option Order}

theorem Pursued.closed (h : Pursued o orders g) : Closed o orders g :=
  ⟨h.lawful, .of_eq h.unwritten⟩

theorem Pursued.record (h : Pursued o orders g)
    (horders : (g.note c x).books.orders = g.books.orders) : Pursued o orders (g.note c x) :=
  ⟨h.lawful.record horders, horders.trans h.unwritten, h.listed⟩

/-- Only the write of the order itself matters. -/
theorem keeps_pursued : Keeps .any o (Pursued o orders) (Closed o orders) where
  left h := h.closed
  asked _ h := h.record rfl
  moved h _ _ _ hbooks _ _ := h.record (by rw [hbooks]; rfl)
  written {g o'} h hresolves := by
    have hamends := hresolves.amends
    exact ⟨h.lawful.amend (Past.note_replace ..) (h.unwritten ▸ h.listed) hamends,
      .file h.unwritten hamends.id (Past.note_replace ..)⟩

theorem tends_lawful {r : Reconciler} : Tends .any r Lawful := by
  intro o g h hstored
  have hpursued : Pursued o g.books.orders g := ⟨h, rfl, hstored⟩
  exact (keeps_pursued.reconcile hpursued).mono fun _ _ hclosed => ⟨hclosed.lawful, hclosed.others⟩

/-- Sweeps keep the past lawful. -/
theorem sweep_lawful {r : Reconciler} {p : Past} (h : Lawful p.gist) :
    r.sweep.Always p fun _ p => Lawful p.gist :=
  (sweep_meets tends_lawful h.filed h).sound.mono fun _ p h => h (permitted_any p.events)

end

end Wallet.Reconciler
