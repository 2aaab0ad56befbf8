import Wallet.Proofs.Changes
import Wallet.Proofs.World.Gist

/-!
# Versions of an order

Every write of an order replaces it as a whole. `Precedes` says how a later version may differ from
an earlier one, and `Lawful` that nothing else has happened to any order so far: of any two points in
the past, the books at the earlier lead to the books at the later. It is enough to look at what each
event does to the books.
-/

namespace Wallet

namespace Order

/-- A later version of an order. What the order is about stays, and so does its link to a ledger
record once it is there; its status stays or goes forward; and once it is resolved nothing changes. -/
structure Precedes (o o' : Order) : Prop where
  id : o'.id = o.id
  userId : o'.userId = o.userId
  amount : o'.amount = o.amount
  type : o'.type = o.type
  subType : o'.subType = o.subType
  sourceOfFund : o'.sourceOfFund = o.sourceOfFund
  provider : o'.provider = o.provider
  createdAt : o'.createdAt = o.createdAt
  expiredAt : o'.expiredAt = o.expiredAt
  link : ∀ id, o.transactionId = some id → o'.transactionId = some id
  forward : o'.status = o.status ∨ o.status.rank < o'.status.rank
  resolved : o.isTerminal = true → o' = o

/-- A version that may be written in place of another. Only what resolves an order records that the
bank was asked. -/
structure Amends (o o' : Order) : Prop extends o.Precedes o' where
  retrieved : o'.isRetrieved = true → o.isRetrieved = true ∨ o'.isTerminal = true

variable {o o' o'' : Order} {now : Timestamp} {reason : String}

theorem Precedes.refl (o : Order) : o.Precedes o :=
  ⟨rfl, rfl, rfl, rfl, rfl, rfl, rfl, rfl, rfl, fun _ h => h, .inl rfl, fun _ => rfl⟩

theorem Precedes.trans (h : o.Precedes o') (h' : o'.Precedes o'') : o.Precedes o'' where
  id := h'.id.trans h.id
  userId := h'.userId.trans h.userId
  amount := h'.amount.trans h.amount
  type := h'.type.trans h.type
  subType := h'.subType.trans h.subType
  sourceOfFund := h'.sourceOfFund.trans h.sourceOfFund
  provider := h'.provider.trans h.provider
  createdAt := h'.createdAt.trans h.createdAt
  expiredAt := h'.expiredAt.trans h.expiredAt
  link id hid := h'.link id (h.link id hid)
  forward := by
    rcases h.forward with heq | hlt
    · rw [← heq]
      exact h'.forward
    · rcases h'.forward with heq | hlt'
      · rw [heq]
        exact .inr hlt
      · exact .inr (Nat.lt_trans hlt hlt')
  resolved hresolved := by
    have heq := h.resolved hresolved
    subst heq
    exact h'.resolved hresolved

/-! ### What the changes of an order do -/

theorem rank_lt_of_canTransitionTo {status next : OrderStatus}
    (h : status.canTransitionTo next = true) :
    status.isTerminal = false ∧ status.rank < next.rank := by
  cases status <;> cases next <;> first | exact ⟨rfl, by decide⟩ | cases h

/-- A change of status and of what goes with it. -/
theorem amends_moved {status : OrderStatus} {failReason : Option String} {isExpired : Bool}
    (hopen : o.isTerminal = false) (hforward : o.status.rank < status.rank) :
    o.Amends { o with
      status := status, awaitingOtp := false, updatedAt := now, failReason := failReason,
      isExpired := isExpired } where
  id := rfl
  userId := rfl
  amount := rfl
  type := rfl
  subType := rfl
  sourceOfFund := rfl
  provider := rfl
  createdAt := rfl
  expiredAt := rfl
  link _ h := h
  forward := .inr hforward
  resolved hresolved := by simp [hopen] at hresolved
  retrieved h := .inl h

theorem amends_transition {next : OrderStatus} (h : o.transition next now = .ok o') :
    o.Amends o' := by
  obtain ⟨hcan, rfl⟩ := transition_ok h
  obtain ⟨hopen, hforward⟩ := rank_lt_of_canTransitionTo hcan
  exact amends_moved hopen hforward

theorem amends_transitionFor {next : OrderStatus} (h : o.transitionFor next reason now = .ok o') :
    o.Amends o' := by
  obtain ⟨hcan, rfl⟩ := transitionFor_ok h
  obtain ⟨hopen, hforward⟩ := rank_lt_of_canTransitionTo hcan
  exact amends_moved hopen hforward

theorem open_of_isUnresolved (h : o.status.isUnresolved = true) :
    o.isTerminal = false ∧ o.status.rank < 3 := by
  unfold isTerminal
  cases hstatus : o.status <;>
    first | exact ⟨rfl, by decide⟩ | (rw [hstatus] at h; cases h)

theorem amends_failUnlessResolved? (h : o.failUnlessResolved? reason now = some o') :
    o.Amends o' := by
  obtain ⟨_, hopen, rfl⟩ := failUnlessResolved?_some h
  refine amends_moved hopen ?_
  unfold isTerminal at hopen
  cases hstatus : o.status <;> first | decide | (rw [hstatus] at hopen; cases hopen)

theorem amends_settle {success : Bool} {reason : Option String}
    (h : o.settle success reason now = .ok o') : o.Amends o' := by
  obtain ⟨hunresolved, rfl⟩ := settle_ok h
  obtain ⟨hopen, hrank⟩ := open_of_isUnresolved hunresolved
  refine amends_moved hopen ?_
  cases success <;> exact hrank

theorem amends_expire (h : o.expire reason now = .ok o') : o.Amends o' := by
  obtain ⟨hunresolved, rfl⟩ := expire_ok h
  obtain ⟨hopen, hrank⟩ := open_of_isUnresolved hunresolved
  exact amends_moved hopen hrank

/-- The order is settled because the bank was asked. -/
theorem amends_settle_retrieved {success : Bool} {reason : Option String} {later : Timestamp}
    (h : o.settle success reason now = .ok o') : o.Amends (o'.markRetrieved later) := by
  have hsettled := amends_settle h
  obtain ⟨hunresolved, rfl⟩ := settle_ok h
  obtain ⟨hopen, _⟩ := open_of_isUnresolved hunresolved
  have hresolved : ∀ o' : Order, o.isTerminal = true → o' = o := fun _ h => by simp [hopen] at h
  refine ⟨⟨rfl, rfl, rfl, rfl, rfl, rfl, rfl, rfl, rfl, fun _ h => h, hsettled.forward,
    hresolved _⟩, fun _ => .inr ?_⟩
  cases success <;> rfl

theorem Resolves.amends (h : o.Resolves o') : o.Amends o' := by
  cases h with
  | settled h => exact amends_settle h
  | retrieved h => exact amends_settle_retrieved h
  | expired h => exact amends_expire h

/-- A change of an order that is not resolved and keeps its status. -/
theorem amends_kept {link : Option TransactionId} {trace : Option String} {awaiting : Bool}
    (hopen : o.isTerminal = false) (hlink : ∀ id, o.transactionId = some id → link = some id) :
    o.Amends { o with
      transactionId := link, bankTraceId := trace, awaitingOtp := awaiting, updatedAt := now } where
  id := rfl
  userId := rfl
  amount := rfl
  type := rfl
  subType := rfl
  sourceOfFund := rfl
  provider := rfl
  createdAt := rfl
  expiredAt := rfl
  link := hlink
  forward := .inl rfl
  resolved hresolved := by simp [hopen] at hresolved
  retrieved h := .inl h

end Order

/-! ## Versions of the books -/

namespace Books

/-- Every stored order is still there, in a later version. -/
def Leads (b b' : Books) : Prop :=
  ∀ key o, b.orders key = some o → ∃ o', b'.orders key = some o' ∧ o.Precedes o'

/-- The books that events leave of empty ones. -/
def replay (events : List Event) : Books := events.foldl after ⟨fun _ => none, fun _ => none⟩

variable {b b' b'' : Books} {o o' : Order}

theorem Leads.of_eq (h : b'.orders = b.orders) : b.Leads b' := by
  intro key o ho
  rw [h]
  exact ⟨o, ho, .refl o⟩

theorem Leads.refl (b : Books) : b.Leads b := .of_eq rfl

theorem Leads.trans (h : b.Leads b') (h' : b'.Leads b'') : b.Leads b'' := by
  intro key o ho
  obtain ⟨o', ho', hfirst⟩ := h key o ho
  obtain ⟨o'', ho'', hsecond⟩ := h' key o' ho'
  exact ⟨o'', ho'', hfirst.trans hsecond⟩

/-- Filing an order leads on if it follows what it replaces. -/
theorem Leads.file (h : ∀ stored, b.orders o.id = some stored → stored.Precedes o) :
    b.Leads (b.file o) := by
  intro key stored hstored
  by_cases heq : key = o.id
  · subst heq
    exact ⟨o, Books.file_self .., h stored hstored⟩
  · exact ⟨stored, (Function.update_of_ne heq _ _).trans hstored, .refl stored⟩

theorem replay_append (events : List Event) (e : Event) :
    replay (events ++ [e]) = (replay events).after e := by
  rw [replay, List.foldl_append]
  rfl

/-- Only the events that count leave something in the books. -/
theorem replay_filter_counts (events : List Event) :
    replay (events.filter Event.counts) = replay events := by
  unfold replay
  rw [List.foldl_filter]
  congr 1
  funext b e
  split
  · rfl
  · next hquiet => exact (Event.quiet_of_not_counts (by simpa using hquiet) b).symm

end Books

/-! ## Lawful pasts -/

/-- Every event so far has led from the books to a later version of them. -/
structure Lawful (g : Past) : Prop where
  replayed : g.books = .replay g.events
  filed : ∀ {key o}, g.books.orders key = some o → o.id = key
  versions : ∀ {before after}, before <+: after → after <+: g.events →
    (Books.replay before).Leads (.replay after)
  retrieved : ∀ {key o}, g.books.orders key = some o → o.isRetrieved = true → o.isTerminal = true

theorem lawful_empty : Lawful ⟨⟨fun _ => none, fun _ => none⟩, []⟩ where
  replayed := rfl
  filed h := nomatch h
  versions hbefore hafter := by
    rw [List.prefix_nil.mp hafter] at hbefore ⊢
    rw [List.prefix_nil.mp hbefore]
    exact .refl _
  retrieved h := nomatch h

namespace Lawful

variable {g : Past} {c : Call} {x : c.Answer} {o o' : Order}

theorem versions_note (h : Lawful g) (hleads : g.books.Leads (g.note c x).books)
    {before after : List Event} (hbefore : before <+: after)
    (hafter : after <+: (g.note c x).events) : (Books.replay before).Leads (.replay after) := by
  have hnow : Books.replay (g.events ++ [⟨c, x⟩]) = (g.note c x).books := by
    rw [Books.replay_append, ← h.replayed]
    rfl
  rcases List.prefix_concat_iff.mp hafter with rfl | hafter
  · rcases List.prefix_concat_iff.mp hbefore with rfl | hbefore
    · exact .refl _
    · rw [hnow]
      have hearlier := h.versions hbefore List.prefix_rfl
      rw [← h.replayed] at hearlier
      exact hearlier.trans hleads
  · exact h.versions hbefore hafter

/-- A past stays lawful when no order is written. -/
theorem record (h : Lawful g) (horders : (g.note c x).books.orders = g.books.orders) :
    Lawful (g.note c x) where
  replayed := by
    rw [Past.note_events, Books.replay_append, ← h.replayed]
    rfl
  filed ho := h.filed (horders ▸ ho)
  versions := h.versions_note (.of_eq horders)
  retrieved ho := h.retrieved (horders ▸ ho)

/-- A past stays lawful when an order is written that amends what it replaces. -/
theorem file (h : Lawful g) (hbooks : (g.note c x).books = g.books.file o)
    (hamends : ∀ stored, g.books.orders o.id = some stored → stored.Amends o)
    (hretrieved : o.isRetrieved = true → o.isTerminal = true) : Lawful (g.note c x) := by
  refine ⟨?_, ?_, ?_, ?_⟩
  · rw [Past.note_events, Books.replay_append, ← h.replayed]
    rfl
  · intro key stored hstored
    rw [hbooks] at hstored
    by_cases heq : key = o.id
    · subst heq
      cases (Books.file_self ..).symm.trans hstored
      rfl
    · exact h.filed ((Function.update_of_ne heq _ _).symm.trans hstored)
  · intro before after
    apply h.versions_note
    rw [hbooks]
    exact .file fun stored hstored => (hamends stored hstored).toPrecedes
  · intro key stored hstored
    rw [hbooks] at hstored
    by_cases heq : key = o.id
    · subst heq
      cases (Books.file_self ..).symm.trans hstored
      exact hretrieved
    · exact h.retrieved ((Function.update_of_ne heq _ _).symm.trans hstored)

/-- A stored order may be replaced by one that amends it. -/
theorem amend (h : Lawful g) (hbooks : (g.note c x).books = g.books.file o')
    (hstored : g.books.orders o.id = some o) (hamends : o.Amends o') : Lawful (g.note c x) := by
  apply h.file hbooks
  · intro stored hfound
    rw [hamends.id, hstored] at hfound
    cases hfound
    exact hamends
  · intro hretrieved
    rcases hamends.retrieved hretrieved with hbefore | hresolved
    · have hterminal := h.retrieved hstored hbefore
      rw [hamends.resolved hterminal]
      exact hterminal
    · exact hresolved

end Lawful

end Wallet
