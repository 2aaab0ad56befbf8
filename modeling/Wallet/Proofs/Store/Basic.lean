import Wallet.Service.OrderStore

/-!
# What one request does to the order store

A request is done as asked where the store can be reached and finds what the request needs, and else
it is answered with an error and nothing changes. A stored status gives way only to itself and to
one further along, and a terminal one only to itself.
-/

namespace Wallet

namespace OrderStatus

variable {stored next : OrderStatus}

theorem rank_le_of_acceptsOverwrite (h : stored.acceptsOverwrite next = true) :
    stored.rank ≤ next.rank := by
  simp only [acceptsOverwrite, Bool.or_eq_true, beq_iff_eq, Bool.and_eq_true,
    decide_eq_true_eq] at h
  rcases h with rfl | ⟨_, hforward⟩
  · exact Nat.le_refl _
  · exact Nat.le_of_lt hforward

theorem eq_of_acceptsOverwrite (h : stored.acceptsOverwrite next = true)
    (hterminal : stored.isTerminal = true) : next = stored := by
  simp only [acceptsOverwrite, hterminal, Bool.not_true, Bool.false_and, Bool.or_false,
    beq_iff_eq] at h
  exact h.symm

end OrderStatus

namespace OrderStore

theorem get?_insert_self (s : OrderStore) (o : Order) : (s.insert o).get? o.id = some o := by
  unfold get? insert
  rw [Table.get?_put, if_pos rfl]

theorem get?_insert_of_ne (s : OrderStore) {o : Order} {key : OrderId} (h : key ≠ o.id) :
    (s.insert o).get? key = s.get? key := by
  unfold get? insert
  rw [Table.get?_put, if_neg h]

/-- The store with an order in the place of a stored one. -/
def replacing (s : OrderStore) (o : Order) : OrderStore :=
  { s.insert o with writes := s.writes + 1 }

/-- What a request finds when the store does as asked. -/
def Admits (s : OrderStore) (now : Timestamp) : Request → Prop
  | .create o => s.get? o.id = none
  | .replace o => ∃ stored, s.get? o.id = some stored ∧
      stored.status.acceptsOverwrite o.status = true
  | .process o => ∃ stored, s.get? o.id = some stored ∧ stored.isPastDeadline now = false ∧
      stored.status.acceptsOverwrite o.status = true
  | .find _ | .findExpired _ _ => True

/-- The store that a request leaves when it is done as asked. -/
def done (s : OrderStore) : Request → OrderStore
  | .create o => s.insert o
  | .replace o | .process o => s.replacing o
  | .find _ | .findExpired _ _ => s

/-- A request is done as asked where it can be, and else answered with an error and without effect. -/
inductive Does (s : OrderStore) (now : Timestamp) (r : Request) :
    Except ServiceError r.Result × OrderStore → Prop
  | done (x : r.Result) (reached : s.unavailable = false) (admits : s.Admits now r) :
      Does s now r (.ok x, s.done r)
  | refused (e : ServiceError) (barred : s.unavailable = true ∨ ¬ s.Admits now r) :
      Does s now r (.error e, s)

variable {s : OrderStore} {now : Timestamp}

theorem create_does (o : Order) : s.Does now (.create o) (settled s (s.create o)) := by
  unfold create
  split
  · next hdown => exact .refused _ (.inl hdown)
  · next hreached =>
      split
      · next stored hstored =>
          exact .refused _ (.inr fun (hfree : s.get? o.id = none) => by simp [hstored] at hfree)
      · next hfree => exact .done (r := .create o) o (by simpa using hreached) hfree

theorem replace_does (o : Order) : s.Does now (.replace o) (settled s (s.replace o)) := by
  unfold replace
  split
  · next hdown => exact .refused _ (.inl hdown)
  · next hreached =>
      split
      · next hfree => exact .refused _ (.inr fun ⟨_, hstored, _⟩ => by simp [hfree] at hstored)
      · next stored hstored =>
          unfold overwrite
          split
          · next hgives =>
              exact .done (r := .replace o) o (by simpa using hreached) ⟨stored, hstored, hgives⟩
          · next hholds =>
              refine .refused _ (.inr fun ⟨other, hother, hgives⟩ => hholds ?_)
              cases hstored.symm.trans hother
              exact hgives

theorem process_does (o : Order) : s.Does now (.process o) (settled s (s.process o now)) := by
  unfold process
  split
  · next hdown => exact .refused _ (.inl hdown)
  · next hreached =>
      split
      · next hfree => exact .refused _ (.inr fun ⟨_, hstored, _⟩ => by simp [hfree] at hstored)
      · next stored hstored =>
          split
          · next hpast =>
              refine .refused _ (.inr fun ⟨other, hother, hdue, _⟩ => ?_)
              cases hstored.symm.trans hother
              simp [hdue] at hpast
          · next hdue =>
              unfold overwrite
              split
              · next hgives =>
                  exact .done (r := .process o) o (by simpa using hreached)
                    ⟨stored, hstored, by simpa using hdue, hgives⟩
              · next hholds =>
                  refine .refused _ (.inr fun ⟨other, hother, _, hgives⟩ => hholds ?_)
                  cases hstored.symm.trans hother
                  exact hgives

/-- The store does what it is asked where that can be done, and else nothing. -/
theorem serve_does (s : OrderStore) (now : Timestamp) (r : Request) :
    s.Does now r (s.serve now r) := by
  cases r with
  | create o => exact create_does o
  | replace o => exact replace_does o
  | process o => exact process_does o
  | find id =>
      unfold serve find
      cases hreach : s.unavailable with
      | true => exact .refused _ (.inl hreach)
      | false => exact .done _ hreach trivial
  | findExpired now limit =>
      unfold serve findExpired
      cases hreach : s.unavailable with
      | true => exact .refused _ (.inl hreach)
      | false => exact .done _ hreach trivial

theorem serve_cases (s : OrderStore) (now : Timestamp) (r : Request) :
    ((s.serve now r).1.isOk = true ∧ s.unavailable = false ∧ s.Admits now r ∧
      (s.serve now r).2 = s.done r) ∨
    ((s.serve now r).1.isOk = false ∧ (s.unavailable = true ∨ ¬ s.Admits now r) ∧
      (s.serve now r).2 = s) := by
  have hdoes := s.serve_does now r
  generalize s.serve now r = served at hdoes ⊢
  cases hdoes with
  | done x hreached hadmits => exact .inl ⟨rfl, hreached, hadmits, rfl⟩
  | refused e hbarred => exact .inr ⟨rfl, hbarred, rfl⟩

/-- A stored order is replaced if it gives way, and else nothing changes. -/
theorem serve_replace_cases (s : OrderStore) (now : Timestamp) (o : Order) :
    (∃ stored, s.unavailable = false ∧ s.get? o.id = some stored ∧
      stored.status.acceptsOverwrite o.status = true ∧
      s.serve now (.replace o) = (.ok o, s.replacing o)) ∨
    ∃ e, s.serve now (.replace o) = (.error e, s) ∧
      ∀ stored, s.unavailable = false → s.get? o.id = some stored →
        stored.status.acceptsOverwrite o.status = false := by
  simp only [serve, replace]
  split
  · next hdown => exact .inr ⟨_, rfl, fun _ hreached => by simp [hdown] at hreached⟩
  · next hup =>
      have hreached : s.unavailable = false := by simpa using hup
      split
      · next hnone => exact .inr ⟨_, rfl, fun _ _ hstored => by simp [hnone] at hstored⟩
      · next stored hstored =>
          unfold overwrite
          split
          · next hgives => exact .inl ⟨stored, hreached, hstored, hgives, rfl⟩
          · next hholds =>
              refine .inr ⟨_, rfl, fun other _ hother => ?_⟩
              cases hstored.symm.trans hother
              simpa using hholds

end OrderStore

end Wallet
