import Mathlib.Data.Set.Card
import Wallet.Proofs.Store.Calls
import Wallet.Proofs.Store.Overdue

/-!
# What the store lists

Asked for overdue orders, the store gives the oldest of those whose deadline has passed while they
were still unresolved. Which orders these are, and in which sequence, is settled by what is stored
under each identifier; the places that the orders have in the store do not matter
(`findExpired_oldest_first`). An order that is listed can no longer be processed: the listing and the
writes agree on when a deadline has passed, also at the very instant of it.
-/

namespace Wallet

theorem OrderId.lt_of_le {a b : OrderId} (hle : a.le b = true) (hne : a ≠ b) :
    a.uuid.bits < b.uuid.bits := by
  have hbits : a.uuid.bits ≤ b.uuid.bits := of_decide_eq_true hle
  rcases Nat.lt_or_eq_of_le hbits with hlt | heq
  · exact hlt
  · exact absurd (OrderId.le_antisymm hle (decide_eq_true heq.ge)) hne

namespace OrderStore

/-- An order is stored that is still on its way at an instant after its deadline. -/
def Late (s : OrderStore) (now : Timestamp) (o : Order) : Prop :=
  s.get? o.id = some o ∧
    (o.status = .pending ∨ o.status = .processing ∨ o.status = .verifying) ∧
    o.expiredAt.before now = true

variable {s s' : OrderStore} {now : Timestamp} {limit : Nat} {o : Order}

theorem isOverdue_iff : isOverdue now o = true ↔
    (o.status = .pending ∨ o.status = .processing ∨ o.status = .verifying) ∧
      o.expiredAt.before now = true := by
  have hopen : o.isUnresolved = true ↔
      o.status = .pending ∨ o.status = .processing ∨ o.status = .verifying := by
    unfold Order.isUnresolved
    cases o.status <;> decide
  unfold isOverdue Order.isPastDeadline
  rw [Bool.and_eq_true, hopen]

theorem mem_overdue_iff_late (hfiled : s.Filed) : o ∈ s.overdue now ↔ s.Late now o := by
  rw [mem_overdue hfiled, isOverdue_iff]
  rfl

/-- There are as many late orders as are listed if all are. -/
theorem length_overdue (hfiled : s.Filed) :
    (s.overdue now).length = {o | s.Late now o}.ncard := by
  have hlate : {o | s.Late now o} = ((s.overdue now).toFinset : Set Order) := by
    ext o
    rw [Set.mem_ofPred_eq, Finset.mem_coe, List.mem_toFinset, mem_overdue_iff_late hfiled]
  rw [hlate, Set.ncard_coe_finset, List.toFinset_card_of_nodup (overdue_nodup hfiled)]

theorem overdue_increasing (hfiled : s.Filed) :
    (s.overdue now).Pairwise fun a b => a.id.uuid.bits < b.id.uuid.bits := by
  have hdistinct : (s.overdue now).Pairwise fun a b => a.id ≠ b.id :=
    List.pairwise_map.mp (overdue_ids_nodup hfiled)
  refine ((s.overdue_oldest_first now).and hdistinct).imp ?_
  rintro a b ⟨hle, hne⟩
  exact OrderId.lt_of_le hle hne

theorem overdue_of_same_content (hfiled : s.Filed) (h : s'.get? = s.get?) :
    s'.overdue now = s.overdue now := by
  have hfiled' : s'.Filed := hfiled.congr h
  refine overdue_congr hfiled' hfiled fun o => ?_
  rw [mem_overdue hfiled', mem_overdue hfiled, h]

/-! ## Stores that can be reached -/

theorem Filed.done (hfiled : s.Filed) (r : Request) : (s.done r).Filed := by
  cases r with
  | create o => exact Filed.insert hfiled o
  | replace o => exact Filed.congr (Filed.insert hfiled o) rfl
  | process o => exact Filed.congr (Filed.insert hfiled o) rfl
  | find id => exact hfiled
  | findExpired now limit => exact hfiled

theorem Filed.meet (hfiled : s.Filed) (a : Attempt) : (s.meet a).2.Filed := by
  rcases s.meet_cases a with ⟨_, _, _, hleft⟩ | ⟨_, _, hleft⟩
  · rw [hleft]
    exact Filed.done (s := { s with unavailable := a.unavailable }) hfiled a.request
  · rw [hleft]
    exact hfiled

/-- Whatever is asked of a store, each order stays under its own identifier. -/
theorem Filed.along (hfiled : s.Filed) (attempts : List Attempt) : (s.along attempts).Filed := by
  induction attempts generalizing s with
  | nil => exact hfiled
  | cons a attempts ih => exact ih (Filed.meet hfiled a)

/-! ## Listed orders -/

/-- Whoever wants to process a late order comes too late. -/
theorem Late.process (h : s.Late now o) {next : Order} (hid : next.id = o.id) :
    s.process next now = .error (if s.unavailable then down else .expired next.id) := by
  obtain ⟨hstored, -, hpast⟩ := h
  unfold OrderStore.process
  rw [hid, hstored]
  cases s.unavailable with
  | true => rfl
  | false =>
      show (if o.isPastDeadline now then _ else _) = _
      rw [if_pos (show o.isPastDeadline now = true from hpast)]
      rfl

/-- **The oldest late orders are listed.** Whatever is stored and in whichever places, a store that has
each order under its own identifier, as every store has that can be reached (`Filed.along`), lists late
orders only, in strictly increasing sequence of their identifiers and so none of them twice, as many as
are wanted or as there are, and none that is left out has a smaller identifier than one that is listed.
No order is listed that would still be processed: a write that wants to process a listed order is turned
away because the order has expired. -/
theorem findExpired_oldest_first (hfiled : s.Filed) (now : Timestamp) (limit : Nat) :
    ∃ found : List Order,
      (∀ s' : OrderStore, s'.get? = s.get? →
        s'.findExpired now limit = if s'.unavailable then .error down else .ok found) ∧
      found.Pairwise (fun a b => a.id.uuid.bits < b.id.uuid.bits) ∧
      found.length = min limit {o | s.Late now o}.ncard ∧
      (∀ o ∈ found, s.Late now o ∧
        ∀ other, s.Late now other → other ∉ found → o.id.uuid.bits < other.id.uuid.bits) ∧
      ∀ o ∈ found, ∀ next : Order, next.id = o.id →
        s.process next now = .error (if s.unavailable then down else .expired next.id) := by
  refine ⟨s.batch now limit, ?_, ?_, ?_, ?_, ?_⟩
  · intro s' hsame
    have hbatch : s'.batch now limit = s.batch now limit :=
      congrArg (List.take limit) (overdue_of_same_content hfiled hsame)
    cases hdown : s'.unavailable with
    | true => exact findExpired_down hdown
    | false => exact (findExpired_eq hdown).trans (congrArg Except.ok hbatch)
  · exact (overdue_increasing hfiled).sublist batch_sublist
  · rw [← length_overdue hfiled]
    exact List.length_take
  · intro o ho
    refine ⟨(mem_overdue_iff_late hfiled).mp (batch_sublist.subset ho), ?_⟩
    intro other hlate hout
    have hother : other ∈ s.overdue now := (mem_overdue_iff_late hfiled).mpr hlate
    obtain ⟨-, hyounger⟩ := batch_of_left_out hother hout
    apply OrderId.lt_of_le (hyounger o ho)
    intro hid
    -- under one identifier there is one order, and that one is listed
    have hstored := ((mem_overdue_iff_late hfiled).mp (batch_sublist.subset ho)).1
    rw [hid, hlate.1] at hstored
    cases hstored
    exact hout ho
  · intro o ho next hid
    exact ((mem_overdue_iff_late hfiled).mp (batch_sublist.subset ho)).process hid

/-! ### The same orders in two sequences -/

/-- The order that was made as the `n`th, due at the start of the epoch. -/
def dueAtEpoch (n : Nat) (status : OrderStatus) : Order :=
  { Order.create ⟨.ofNat n⟩ default default .cashIn .zero .epoch with status := status }

/-- A resolved order behind two that are not. -/
def orderly : OrderStore :=
  .insert (.insert (.insert .empty (dueAtEpoch 1 .verifying)) (dueAtEpoch 2 .pending))
    (dueAtEpoch 3 .success)

/-- The same orders, put into the store the other way round. -/
def jumbled : OrderStore :=
  .insert (.insert (.insert .empty (dueAtEpoch 3 .success)) (dueAtEpoch 2 .pending))
    (dueAtEpoch 1 .verifying)

theorem jumbled_filed : jumbled.Filed :=
  Filed.insert (Filed.insert (Filed.insert filed_empty _) _) _

theorem orderly_get? : orderly.get? = jumbled.get? := by
  have h12 : (dueAtEpoch 1 .verifying).id ≠ (dueAtEpoch 2 .pending).id := by decide
  have h13 : (dueAtEpoch 1 .verifying).id ≠ (dueAtEpoch 3 .success).id := by decide
  have h23 : (dueAtEpoch 2 .pending).id ≠ (dueAtEpoch 3 .success).id := by decide
  funext key
  simp only [orderly, jumbled, get?, insert, Table.get?_put]
  grind

/-- A nanosecond after the deadline of all three orders the oldest is listed, wherever it stands. -/
theorem findExpired_oldest_first_jumbled : jumbled.Filed ∧
    jumbled.findExpired Timestamp.epoch.tick 1 = .ok [dueAtEpoch 1 .verifying] ∧
    jumbled.process (dueAtEpoch 1 .verifying) Timestamp.epoch.tick =
      .error (.expired (dueAtEpoch 1 .verifying).id) := by
  obtain ⟨found, hlisted, -, -, -, hlate⟩ :=
    findExpired_oldest_first jumbled_filed Timestamp.epoch.tick 1
  have hfirst : orderly.findExpired Timestamp.epoch.tick 1 = .ok [dueAtEpoch 1 .verifying] := by
    rw [findExpired_eq rfl, batch_of_sorted (by decide)]
    decide
  have hfound : found = [dueAtEpoch 1 .verifying] :=
    Except.ok.inj ((hlisted orderly orderly_get?).symm.trans hfirst)
  refine ⟨jumbled_filed, ?_, ?_⟩
  · rw [hlisted jumbled rfl, hfound]
    rfl
  · exact hlate (dueAtEpoch 1 .verifying) (by simp [hfound]) _ rfl

end OrderStore

end Wallet
