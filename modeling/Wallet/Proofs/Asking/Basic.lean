import Wallet.Proofs.Standing.Basic
import Wallet.Proofs.Versions.Basic
import Wallet.Proofs.World.Writes

/-!
# When the bank is asked to move money

Money may be moved for an order that is processing while its ledger record holds the amount. Orders
and records are in two stores, and a change of the one need not be followed by that of the other. What
can be said all the same is where the record stood when its order was last written: as long as an
order is stored as processing, that is initial (`Watched`). So the record is initial still, unless it
was changed and the order has not been written since.
-/

namespace Wallet

/-- What a call asks the bank, if it asks it anything. -/
def Call.inquiry? : Call → Option Bank.Request
  | .bank r => some r
  | _ => none

/-- Each time the record was entered, the order was written afterwards. -/
def Followed (key : OrderId) (id : TransactionId) : List Event → Prop
  | [] => True
  | e :: rest =>
      (e.entered? = some id → ∃ e' ∈ rest, e'.filed? = some key) ∧ Followed key id rest

instance (key : OrderId) (id : TransactionId) : (events : List Event) →
    Decidable (Followed key id events)
  | [] => .isTrue trivial
  | e :: rest =>
      have : Decidable (Followed key id rest) := instDecidableFollowed key id rest
      inferInstanceAs (Decidable ((e.entered? = some id → ∃ e' ∈ rest, e'.filed? = some key) ∧
        Followed key id rest))

/-- When the order was last written, the record was initial. -/
def InitialAt (key : OrderId) (id : TransactionId) (events : List Event) : Prop :=
  ∃ before after, events = before ++ after ∧
    (∃ t, (Books.replay before).records id = some t ∧ t.state = .initial) ∧
    ∀ e ∈ after, e.filed? ≠ some key

/-- The order is stored as processing, and linked to a record of its own that was initial when the
order was last written. -/
def Poised (g : Past) (key : OrderId) : Prop :=
  ∃ o id t, g.books.orders key = some o ∧ o.status = .processing ∧ o.transactionId = some id ∧
    g.books.records id = some t ∧ t.orderId = key ∧ InitialAt key id g.events

/-- Whenever the bank was asked to move money for an order, the order was poised. -/
def AsksWell (events : List Event) : Prop :=
  ∀ before r x after, events = before ++ ⟨.bank r, x⟩ :: after → r.movesMoney = true →
    Poised ⟨.replay before, before⟩ r.orderId

section

variable {key : OrderId} {id : TransactionId} {events after : List Event} {e : Event}

/-! ## Followed changes -/

theorem Followed.suffix {before : List Event} (h : Followed key id (before ++ after)) :
    Followed key id after := by
  induction before with
  | nil => exact h
  | cons e before ih => exact ih h.2

theorem Books.replay_concat (before : List Event) :
    Books.replay (before ++ after) = after.foldl Books.after (Books.replay before) :=
  List.foldl_append

/-- Events that do not enter a record leave it as it was. -/
theorem Books.records_along {b : Books} (h : ∀ e ∈ after, e.entered? ≠ some id) :
    (after.foldl Books.after b).records id = b.records id := by
  induction after generalizing b with
  | nil => rfl
  | cons e rest ih =>
      rw [List.foldl_cons, ih fun e' he' => h e' (by simp [he'])]
      exact Event.records_after (h e (by simp))

/-- If every change of the record was followed by a write of the order, the record is as it was then. -/
theorem InitialAt.still {t : Transaction} (h : InitialAt key id events)
    (hfollowed : Followed key id events) (ht : (Books.replay events).records id = some t) :
    t.state = .initial := by
  obtain ⟨before, after, rfl, ⟨t', ht', hinitial⟩, hunwritten⟩ := h
  have hunentered : ∀ e ∈ after, e.entered? ≠ some id := by
    intro e he hentered
    obtain ⟨earlier, later, rfl⟩ := List.append_of_mem he
    obtain ⟨e', he', hfiled⟩ := hfollowed.suffix.suffix.1 hentered
    exact hunwritten e' (by simp [he']) hfiled
  rw [Books.replay_concat, Books.records_along hunentered, ht'] at ht
  cases ht
  exact hinitial

theorem InitialAt.concat (h : InitialAt key id events) (he : e.filed? ≠ some key) :
    InitialAt key id (events ++ [e]) := by
  obtain ⟨before, after, rfl, hinitial, hunwritten⟩ := h
  refine ⟨before, after ++ [e], by simp, hinitial, ?_⟩
  intro e' he'
  rcases List.mem_append.mp he' with he' | he'
  · exact hunwritten e' he'
  · rw [List.mem_singleton.mp he']
    exact he

/-- What is so among the events that count is so among all. -/
theorem InitialAt.of_counts (h : InitialAt key id (events.filter Event.counts)) :
    InitialAt key id events := by
  obtain ⟨before, after, hsplit, hinitial, hunwritten⟩ := h
  obtain ⟨first, second, rfl, rfl, rfl⟩ := List.filter_eq_append_iff.mp hsplit
  rw [Books.replay_filter_counts] at hinitial
  refine ⟨first, second, rfl, hinitial, ?_⟩
  intro e he hfiled
  exact hunwritten e (List.mem_filter.mpr ⟨he, Event.counts_of_filed hfiled⟩) hfiled

/-! ## Requests -/

/-- An event that does not ask for money. -/
theorem AsksWell.concat (h : AsksWell events)
    (he : ∀ r x, e = ⟨.bank r, x⟩ → r.movesMoney = true → Poised ⟨.replay events, events⟩ r.orderId) :
    AsksWell (events ++ [e]) := by
  intro before r x after hsplit hmoves
  rcases after.eq_nil_or_concat with rfl | ⟨rest, last, rfl⟩
  · obtain ⟨rfl, hlast⟩ := List.append_inj' hsplit rfl
    exact he r x (List.singleton_inj.mp hlast) hmoves
  · rw [List.concat_eq_append, ← List.cons_append, ← List.append_assoc] at hsplit
    obtain ⟨rfl, _⟩ := List.append_inj' hsplit rfl
    exact h before r x rest rfl hmoves

end

/-! ## Watched pasts -/

/-- The books are those that the events leave. Orders that are processing were last written when their
records were initial, and the bank was asked to move money for poised orders only. -/
structure Watched (g : Past) : Prop where
  replayed : g.books = .replay g.events
  written : ∀ {key o id}, g.books.orders key = some o → o.status = .processing →
    o.transactionId = some id → InitialAt key id g.events
  asked : AsksWell g.events

theorem watched_empty : Watched ⟨⟨fun _ => none, fun _ => none⟩, []⟩ where
  replayed := rfl
  written h := nomatch h
  asked before r x after hsplit := by simp at hsplit

namespace Watched

variable {g : Past} {c : Call} {x : c.Answer} {o : Order}

theorem replayed_note (h : Watched g) : (g.note c x).books = .replay (g.note c x).events := by
  rw [Past.note_events, Books.replay_append, ← h.replayed]
  rfl

/-- A past stays watched when no order is written, as long as the bank is asked for poised orders. -/
theorem other (h : Watched g) (hfiled : (Event.mk c x).filed? = none)
    (hasks : ∀ r, c.inquiry? = some r → r.movesMoney = true → Poised g r.orderId) :
    Watched (g.note c x) where
  replayed := h.replayed_note
  written {key o id} ho hprocessing hlink := by
    have hunfiled : (Event.mk c x).filed? ≠ some key := by simp [hfiled]
    have ho : g.books.orders key = some o := (Event.orders_after hunfiled).symm.trans ho
    exact (h.written ho hprocessing hlink).concat hunfiled
  asked := by
    apply h.asked.concat
    rintro r y heq hmoves
    cases heq
    rw [← h.replayed]
    exact hasks r rfl hmoves

/-- A past stays watched when an order is written, if its record is initial in case it is processing. -/
theorem file (h : Watched g) (hfiled : (Event.mk c x).filed? = some o.id)
    (hbooks : (g.note c x).books = g.books.file o)
    (hinitial : o.status = .processing → ∀ id, o.transactionId = some id →
      ∃ t, g.books.records id = some t ∧ t.state = .initial) : Watched (g.note c x) where
  replayed := h.replayed_note
  written {key stored id} hstored hprocessing hlink := by
    rw [hbooks] at hstored
    by_cases heq : key = o.id
    · subst heq
      cases (Books.file_self ..).symm.trans hstored
      refine ⟨(g.note c x).events, [], by simp, ?_, by simp⟩
      rw [← h.replayed_note, hbooks]
      exact hinitial hprocessing id hlink
    · rw [Books.file_of_ne _ _ heq] at hstored
      refine (h.written hstored hprocessing hlink).concat ?_
      rw [hfiled]
      intro hsame
      exact heq (Option.some.inj hsame).symm
  asked := by
    apply h.asked.concat
    rintro r y heq _
    cases heq
    cases hfiled

end Watched

end Wallet
