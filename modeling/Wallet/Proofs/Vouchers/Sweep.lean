import Wallet.Proofs.Standing.Sweep
import Wallet.Proofs.Vouchers.Basic

/-!
# Sweeps fail clear orders

A sweep uses no voucher and takes none back, but it may fail an order. It takes up unresolved orders
only, and these are clear: one that was not begun holds no voucher, and any other has lingered, since
it stands.
-/

namespace Wallet.Reconciler

variable {registry : ClassifierRegistry} {r : Reconciler} {o : Order} {g : Past}

/-- If the order that is worked on is unresolved it is clear. -/
structure Handling (o : Order) (g : Past) : Prop where
  vouched : Vouched g.vouchers g
  clear : o.isUnresolved = true → Clear g.vouchers g.events o.id

theorem Handling.record {c : Call} {x : c.Answer} (h : Handling o g)
    (hvouchers : (g.note c x).vouchers = g.vouchers)
    (horders : (g.note c x).books.orders = g.books.orders) : Handling o (g.note c x) where
  vouched := hvouchers ▸ h.vouched.record horders
  clear hopen := hvouchers ▸ (h.clear hopen).note

theorem keeps_handling : Keeps .ordinary o (Handling o) fun g => Vouched g.vouchers g where
  left h := h.vouched
  asked _ h := h.record (Past.vouchers_bank ..) rfl
  moved h _ _ _ hbooks _ _ := h.record (Past.vouchers_ledger ..) (by rw [hbooks]; rfl)
  written {g o'} h hresolves := by
    rw [Past.vouchers_orders]
    have hclear := h.clear hresolves.unresolved
    exact h.vouched.replace (.inl (hresolves.ties.1 ▸ hclear))

/-- An unresolved order that stands is clear. -/
theorem handling_of_orderly (horderly : Orderly registry none g) (h : Vouched g.vouchers g)
    (ho : g.books.orders o.id = some o) : Handling o g := by
  refine ⟨h, fun hopen => ?_⟩
  obtain ⟨k, hk⟩ := horderly.stands (by simp) ho
  rw [Order.isUnresolved, hk.status_eq] at hopen
  cases k with
  | opened =>
      refine h.clear_of fun stored hstored => .inl ?_
      rw [ho] at hstored
      cases hstored
      exact hk.1
  | awaiting => exact .inr (h.lingered ho (by simp [hk.2.1]))
  | verifying => exact .inr (h.lingered ho (by simp [Order.isVerifying, hk.1]))
  | succeeded => cases hopen
  | failed => cases hopen

theorem tends_vouched :
    Tends .ordinary r fun g => Orderly registry none g ∧ Vouched g.vouchers g := by
  rintro o g ⟨horderly, h⟩ ho
  have hkeeps := keeps_handling.reconcile (r := r) (handling_of_orderly horderly h ho)
  refine ((tends_orderly o g horderly ho).and hkeeps).mono ?_
  rintro _ _ ⟨⟨horderly, hothers⟩, hvouched⟩
  exact ⟨⟨horderly, hvouched⟩, hothers⟩

/-- A sweep leaves no voucher of a failed order behind, unless the order has lingered. -/
theorem sweep_vouched {p : Past} (horderly : Orderly registry none p.gist)
    (h : Vouched p.gist.vouchers p.gist) :
    r.sweep.Always p fun _ p => Permitted .ordinary p.events → Vouched p.gist.vouchers p.gist :=
  (sweep_meets tends_vouched horderly.filed ⟨horderly, h⟩).sound.mono fun _ _ hend hpermitted =>
    (hend hpermitted).2

end Wallet.Reconciler
