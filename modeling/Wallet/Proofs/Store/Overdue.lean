import Mathlib.Data.List.Nodup
import Wallet.Proofs.Undoing.Basic
import Wallet.Proofs.World.Basic

/-!
# Overdue orders

Asked for overdue orders, the store lists the oldest of them, as many as are wanted. So a list that is
not full has them all, and an order that was left out is younger than all that are listed.
-/

namespace Wallet

theorem Table.mem_rows_of_get? {κ α : Type} [DecidableEq κ] {t : Table κ α} {key : κ} {a : α}
    (h : t.get? key = some a) : (key, a) ∈ t.rows := by
  obtain ⟨before, after, hrows, _⟩ := List.lookup_eq_some_iff.mp h
  rw [hrows]
  exact List.mem_append_right _ (.head _)

namespace OrderId

theorem le_trans (a b c : OrderId) (hab : a.le b = true) (hbc : b.le c = true) : a.le c = true := by
  simp only [OrderId.le, decide_eq_true_eq] at *
  omega

theorem le_total (a b : OrderId) : (a.le b || b.le a) = true := by
  simp only [OrderId.le, Bool.or_eq_true, decide_eq_true_eq]
  omega

theorem le_antisymm {a b : OrderId} (hab : a.le b = true) (hba : b.le a = true) : a = b := by
  obtain ⟨⟨n, hn⟩⟩ := a
  obtain ⟨⟨m, hm⟩⟩ := b
  simp only [OrderId.le, decide_eq_true_eq] at hab hba
  cases Nat.le_antisymm hab hba
  rfl

end OrderId

namespace OrderStore

/-- All overdue orders, the oldest first. -/
def overdue (s : OrderStore) (now : Timestamp) : List Order :=
  (s.orders.values.filter (isOverdue now)).mergeSort fun a b => OrderId.le a.id b.id

/-- The overdue orders that a sweep takes up. -/
def batch (s : OrderStore) (now : Timestamp) (limit : Nat) : List Order := (s.overdue now).take limit

variable {s : OrderStore} {now : Timestamp} {limit : Nat} {o : Order}

theorem findExpired_eq (h : s.unavailable = false) :
    s.findExpired now limit = .ok (s.batch now limit) := by
  unfold findExpired
  rw [h]
  rfl

theorem findExpired_down (h : s.unavailable = true) : s.findExpired now limit = .error down := by
  unfold findExpired
  rw [h]
  rfl

theorem findExpired_ok {found : List Order} (h : s.findExpired now limit = .ok found) :
    found = s.batch now limit := by
  cases hdown : s.unavailable with
  | false =>
      rw [findExpired_eq hdown] at h
      exact (Except.ok.inj h).symm
  | true =>
      rw [findExpired_down hdown] at h
      cases h

theorem filed_empty : empty.Filed := fun h => by cases h

theorem Filed.insert (hfiled : s.Filed) (o : Order) : (s.insert o).Filed := by
  intro key stored h
  by_cases hkey : key = o.id
  · rw [hkey, get?_insert_self] at h
    cases h
    exact hkey.symm
  · rw [get?_insert_of_ne s hkey] at h
    exact hfiled h

theorem Filed.congr {s' : OrderStore} (hfiled : s.Filed) (h : s'.get? = s.get?) : s'.Filed := by
  intro key o ho
  rw [h] at ho
  exact hfiled ho

/-! ## All overdue orders -/

theorem mem_values (hfiled : s.Filed) : o ∈ s.orders.values ↔ s.get? o.id = some o := by
  constructor
  · intro h
    obtain ⟨⟨key, _⟩, hrow, rfl⟩ := List.mem_map.mp h
    have hstored := Table.get?_of_mem hrow
    rw [hfiled hstored]
    exact hstored
  · intro h
    exact List.mem_map.mpr ⟨_, Table.mem_rows_of_get? h, rfl⟩

theorem mem_overdue (hfiled : s.Filed) :
    o ∈ s.overdue now ↔ s.get? o.id = some o ∧ isOverdue now o = true := by
  unfold overdue
  rw [List.mem_mergeSort, List.mem_filter, mem_values hfiled]

theorem overdue_ids_nodup (hfiled : s.Filed) : ((s.overdue now).map Order.id).Nodup := by
  have hids : s.orders.values.map Order.id = s.orders.keys := by
    unfold Table.values Table.keys
    rw [List.map_map]
    exact List.map_congr_left fun row hrow => hfiled (Table.get?_of_mem hrow)
  have hvalues : (s.orders.values.map Order.id).Nodup := hids ▸ s.orders.distinct
  refine ((List.mergeSort_perm _ _).map Order.id).nodup_iff.mpr ?_
  exact hvalues.sublist (List.filter_sublist.map Order.id)

theorem overdue_nodup (hfiled : s.Filed) : (s.overdue now).Nodup :=
  List.Nodup.of_map Order.id (overdue_ids_nodup hfiled)

theorem overdue_oldest_first (s : OrderStore) (now : Timestamp) :
    (s.overdue now).Pairwise fun a b => OrderId.le a.id b.id = true :=
  List.pairwise_mergeSort (fun a b c => OrderId.le_trans a.id b.id c.id)
    (fun a b => OrderId.le_total a.id b.id) _

/-- If the same orders are overdue in two stores they are in the same sequence, too. -/
theorem overdue_congr {s' : OrderStore} {now' : Timestamp} (hfiled : s.Filed) (hfiled' : s'.Filed)
    (h : ∀ o, o ∈ s.overdue now ↔ o ∈ s'.overdue now') : s.overdue now = s'.overdue now' := by
  refine List.Perm.eq_of_pairwise (fun a b ha hb hab hba => ?_) (s.overdue_oldest_first now)
    (s'.overdue_oldest_first now')
    ((List.perm_ext_iff_of_nodup (overdue_nodup hfiled) (overdue_nodup hfiled')).mpr h)
  -- no two orders of one identifier are stored
  have hid : a.id = b.id := OrderId.le_antisymm hab hba
  have hstored := ((mem_overdue hfiled).mp ha).1
  rw [hid, ((mem_overdue hfiled).mp ((h b).mpr hb)).1] at hstored
  exact (Option.some.inj hstored).symm

/-! ## The batch that is listed -/

theorem batch_length_le : (s.batch now limit).length ≤ limit := List.length_take_le _ _

theorem batch_sublist : (s.batch now limit).Sublist (s.overdue now) := List.take_sublist _ _

/-- Where the orders are stored in the sequence of their creation they need not be sorted. -/
theorem batch_of_sorted (h : s.orders.values.Pairwise fun a b => OrderId.le a.id b.id) :
    s.batch now limit = (s.orders.values.filter (isOverdue now)).take limit := by
  unfold batch overdue
  rw [List.mergeSort_of_pairwise (h.filter _)]

/-- A batch that is not full has all overdue orders. -/
theorem batch_of_not_full (h : (s.batch now limit).length < limit) :
    s.batch now limit = s.overdue now := by
  unfold batch at h ⊢
  rw [List.length_take] at h
  exact List.take_of_length_le (by omega)

/-- An overdue order is left out of a full batch only, and only for the sake of older orders. -/
theorem batch_of_left_out (h : o ∈ s.overdue now) (hout : o ∉ s.batch now limit) :
    (s.batch now limit).length = limit ∧ ∀ other ∈ s.batch now limit, OrderId.le other.id o.id := by
  have hrest : o ∈ (s.overdue now).drop limit := by
    rw [← List.take_append_drop limit (s.overdue now), List.mem_append] at h
    exact h.resolve_left hout
  refine ⟨?_, fun other hother => ?_⟩
  · refine Nat.le_antisymm batch_length_le (Nat.le_of_not_lt fun hfewer => ?_)
    rw [batch_of_not_full hfewer] at hout
    exact hout h
  · have hsorted := s.overdue_oldest_first now
    rw [← List.take_append_drop limit (s.overdue now), List.pairwise_append] at hsorted
    exact hsorted.2.2 other hother o hrest

end OrderStore

theorem World.answer_findExpired {w : World} {m : Moment} {now : Timestamp} {limit : Nat}
    {found : List Order} (h : (w.answer m (.orders (.findExpired now limit))).1 = .ok found) :
    found = w.services.orders.batch now limit := by
  simp only [answer, Services.serve] at h
  split at h
  · next hrefusal =>
      obtain ⟨_, _, hrefused⟩ := Option.bind_eq_some_iff.mp hrefusal
      cases hrefused
      cases h
  · exact OrderStore.findExpired_ok h

end Wallet
