import Wallet.Proofs.Consistency.Basic
import Wallet.Proofs.World.Gist

/-!
# How orders stand

While nothing is going on with an order it stands in one of five ways, each of which says how far it
is along and what has become of its ledger record. `Orderly` says that all orders stand in one of
them, but for the one that is attended to, and that an order stands as successful once the bank has
moved its money.

There is one lemma for each way of writing: an order that is filed, a record that is entered, and a
call to the bank. Each concerns the order that is attended to.
-/

namespace Wallet

/-- Whether a request asks the bank to move money. -/
def Bank.Request.movesMoney : Bank.Request → Bool
  | .retrieveStatus _ _ => false
  | _ => true

/-- The bank has moved the money of an order: it has answered a call that moves money with a code
that means success to the order's provider. -/
def Paid (registry : ClassifierRegistry) (events : List Event) (o : Order) : Prop :=
  ∃ (r : Bank.Request) (response : ProviderResponse),
    Event.mk (.bank r) (.ok response) ∈ events ∧ r.movesMoney = true ∧ r.orderId = o.id ∧
      registry.classify o.provider response.code = .success

/-- How an order may stand. -/
inductive Standing where
  /-- Nothing was done yet. -/
  | opened
  /-- A one-time password is awaited. -/
  | awaiting
  /-- Nobody knows whether the bank has moved the money. -/
  | verifying
  | succeeded
  | failed
deriving DecidableEq, Repr

namespace Books

/-- The order is linked to a record of which `P` is so. -/
def Linked (b : Books) (o : Order) (P : Transaction → Prop) : Prop :=
  ∃ id t, o.transactionId = some id ∧ b.records id = some t ∧ P t

/-- Orders and records are filed under their identifiers, and whatever record an order is linked to
is its own. -/
structure Bound (b : Books) : Prop where
  filed : ∀ {key o}, b.orders key = some o → o.id = key
  entered : ∀ {id t}, b.records id = some t → t.id = id
  linked : ∀ {key o id}, b.orders key = some o → o.transactionId = some id →
    ∃ t, b.records id = some t ∧ t.orderId = key

theorem Bound.file {b : Books} {o : Order} (h : b.Bound)
    (hlink : ∀ id, o.transactionId = some id → ∃ t, b.records id = some t ∧ t.orderId = o.id) :
    (b.file o).Bound where
  filed {key stored} hstored := by
    by_cases heq : key = o.id
    · rw [heq, file_self] at hstored
      cases hstored
      exact heq.symm
    · rw [file_of_ne _ _ heq] at hstored
      exact h.filed hstored
  entered := h.entered
  linked {key stored id} hstored hid := by
    by_cases heq : key = o.id
    · rw [heq, file_self] at hstored
      cases hstored
      rw [heq]
      exact hlink id hid
    · rw [file_of_ne _ _ heq] at hstored
      exact h.linked hstored hid

theorem Bound.enter {b : Books} {id : TransactionId} {t : Transaction} (h : b.Bound)
    (hid : t.id = id) (hsame : ∀ old, b.records id = some old → old.orderId = t.orderId) :
    (b.enter id t).Bound where
  filed := h.filed
  entered {id' t'} ht' := by
    by_cases heq : id' = id
    · rw [heq, enter_self] at ht'
      cases ht'
      exact hid.trans heq.symm
    · rw [enter_of_ne _ _ heq] at ht'
      exact h.entered ht'
  linked {key o id'} ho hid' := by
    obtain ⟨old, hold, hback⟩ := h.linked ho hid'
    by_cases heq : id' = id
    · rw [heq] at hold
      rw [heq, enter_self]
      exact ⟨t, rfl, (hsame old hold).symm.trans hback⟩
    · rw [enter_of_ne _ _ heq]
      exact ⟨old, hold, hback⟩

/-- Whether an order is linked to a record is a matter of its link and of that record alone. -/
theorem Linked.of_same {b b' : Books} {o o' : Order} {P : Transaction → Prop} (h : b.Linked o P)
    (hlink : o'.transactionId = o.transactionId)
    (hrecords : ∀ id, o.transactionId = some id → b'.records id = b.records id) : b'.Linked o' P := by
  obtain ⟨id, t, hid, ht, hP⟩ := h
  exact ⟨id, t, hlink.trans hid, (hrecords id hid).trans ht, hP⟩

end Books

namespace Standing

/-- What it means for an order to stand in a way. -/
def Of (b : Books) (o : Order) : Standing → Prop
  | opened => o.status = .pending ∧ o.transactionId = none
  | awaiting => o.status = .processing ∧ o.awaitingOtp = true ∧ b.Linked o fun t => t.state = .initial
  | verifying => o.status = .verifying ∧ b.Linked o fun t => t.status = .pending
  | succeeded => o.status = .success ∧ b.Linked o fun t => t.status = .finish
  | failed =>
      o.status = .failed ∧ (o.transactionId = none ∨ b.Linked o fun t => t.status = .failed)

variable {b b' : Books} {o : Order} {k k' : Standing}

/-- The status of an order that stands in a way. -/
def status : Standing → OrderStatus
  | opened => .pending
  | awaiting => .processing
  | verifying => .verifying
  | succeeded => .success
  | failed => .failed

theorem Of.status_eq (h : k.Of b o) : o.status = k.status := by
  cases k <;> exact h.1

/-- No order stands in two ways. -/
theorem Of.unique (h : k.Of b o) (h' : k'.Of b o) : k = k' := by
  have heq := h.status_eq.symm.trans h'.status_eq
  cases k <;> cases k' <;> first | rfl | cases heq

/-- How an order stands is a matter of the order and of its record alone. -/
theorem Of.of_records (h : k.Of b o)
    (hrecords : ∀ id, o.transactionId = some id → b'.records id = b.records id) : k.Of b' o := by
  cases k with
  | opened => exact h
  | awaiting => exact ⟨h.1, h.2.1, h.2.2.of_same rfl hrecords⟩
  | verifying => exact ⟨h.1, h.2.of_same rfl hrecords⟩
  | succeeded => exact ⟨h.1, h.2.of_same rfl hrecords⟩
  | failed =>
      obtain ⟨hstatus, hunlinked | hlinked⟩ := h
      · exact ⟨hstatus, .inl hunlinked⟩
      · exact ⟨hstatus, .inr (hlinked.of_same rfl hrecords)⟩

end Standing

/-! ## Money that has moved -/

section

variable {registry : ClassifierRegistry} {g : Past} {c : Call} {x : c.Answer} {o o' : Order}

theorem Paid.of_same (h : Paid registry g.events o') (hid : o'.id = o.id)
    (hprovider : o'.provider = o.provider) : Paid registry g.events o := by
  obtain ⟨r, response, hmem, hmoves, horder, hsuccess⟩ := h
  exact ⟨r, response, hmem, hmoves, horder.trans hid, hprovider ▸ hsuccess⟩

/-- Only the bank moves money. -/
theorem Paid.of_note (h : Paid registry (g.note c x).events o) (hc : ∀ r, c ≠ .bank r) :
    Paid registry g.events o := by
  obtain ⟨r, response, hmem, hr⟩ := h
  rw [Past.note_events, List.mem_append, List.mem_singleton] at hmem
  rcases hmem with hmem | heq
  · exact ⟨r, response, hmem, hr⟩
  · injection heq with hcall
    exact absurd hcall.symm (hc r)

/-- The bank has not moved the money by an answer that does not mean success. -/
theorem not_paid_asked {r : Bank.Request} {x : Except ServiceError ProviderResponse}
    (h : ¬Paid registry g.events o)
    (hx : ∀ response, x = .ok response → r.movesMoney = true → r.orderId = o.id →
      registry.classify o.provider response.code ≠ .success) :
    ¬Paid registry (g.note (.bank r) x).events o := by
  rintro ⟨r', response, hmem, hmoves, hid, hsuccess⟩
  rw [Past.note_events, List.mem_append, List.mem_singleton] at hmem
  rcases hmem with hmem | heq
  · exact h ⟨r', response, hmem, hmoves, hid, hsuccess⟩
  · cases heq
    exact hx response rfl hmoves hid hsuccess

end

/-! ## Orderly books -/

/-- All orders stand in some way but the one that is attended to, if there is one. -/
structure Orderly (registry : ClassifierRegistry) (attended : Option OrderId) (g : Past) : Prop
    extends g.books.Bound where
  initial : ∀ {id t}, g.books.records id = some t → t.state = .initial → t.status = .processing
  awaits : ∀ {key o}, g.books.orders key = some o → o.awaitingOtp = true → o.status = .processing
  asked : ∀ {r x}, Event.mk (.bank r) x ∈ g.events → ∃ o, g.books.orders r.orderId = some o
  stands : ∀ {key o}, attended ≠ some key → g.books.orders key = some o →
    ∃ k : Standing, k.Of g.books o
  paid : ∀ {key o}, attended ≠ some key → g.books.orders key = some o →
    Paid registry g.events o → o.status = .success

theorem orderly_empty (registry : ClassifierRegistry) :
    Orderly registry none ⟨⟨fun _ => none, fun _ => none⟩, []⟩ :=
  ⟨⟨nofun, nofun, nofun⟩, nofun, nofun, nofun, nofun, nofun⟩

namespace Orderly

variable {registry : ClassifierRegistry} {attended : Option OrderId} {g : Past} {c : Call}
  {x : c.Answer} {key : OrderId} {id : TransactionId} {o o' : Order} {t : Transaction}

/-- An order is attended to. -/
theorem attend (h : Orderly registry none g) (key : OrderId) : Orderly registry (some key) g := by
  refine { h with stands := ?_, paid := ?_ }
  · intro key o _ ho
    exact h.stands (by simp) ho
  · intro key o _ ho
    exact h.paid (by simp) ho

/-- An order that stands in some way need not be attended to any more. -/
theorem dismiss (h : Orderly registry (some key) g) (ho : g.books.orders key = some o)
    (hstands : ∃ k : Standing, k.Of g.books o) (hpaid : Paid registry g.events o → o.status = .success) :
    Orderly registry none g := by
  refine { h with stands := ?_, paid := ?_ }
  · intro key' o' _ ho'
    by_cases heq : key' = key
    · rw [heq, ho] at ho'
      cases ho'
      exact hstands
    · exact h.stands (by simpa using Ne.symm heq) ho'
  · intro key' o' _ ho'
    by_cases heq : key' = key
    · rw [heq, ho] at ho'
      cases ho'
      exact hpaid
    · exact h.paid (by simpa using Ne.symm heq) ho'

/-- Calls to the promotion service write nothing. -/
theorem promote {r : Promotion.Request} {x : Except ServiceError r.Result}
    (h : Orderly registry attended g) : Orderly registry attended (g.note (.promotion r) x) := by
  refine ⟨h.toBound, h.initial, h.awaits, ?_, h.stands, ?_⟩
  · intro r' x' hmem
    rw [Past.note_events, List.mem_append, List.mem_singleton] at hmem
    rcases hmem with hmem | heq
    · exact h.asked hmem
    · cases heq
  · exact fun hne ho hpaid => h.paid hne ho (hpaid.of_note (by simp))

/-- The bank is asked about the order that is attended to, or only how it stands. -/
theorem ask {r : Bank.Request} {x : Except ServiceError ProviderResponse}
    (h : Orderly registry attended g) (ho : g.books.orders r.orderId = some o)
    (hattended : r.movesMoney = true → attended = some r.orderId) :
    Orderly registry attended (g.note (.bank r) x) := by
  refine ⟨h.toBound, h.initial, h.awaits, ?_, h.stands, ?_⟩
  · intro r' x' hmem
    rw [Past.note_events, List.mem_append, List.mem_singleton] at hmem
    rcases hmem with hmem | heq
    · exact h.asked hmem
    · cases heq
      exact ⟨o, ho⟩
  · intro key o' hne ho' hpaid
    apply h.paid hne ho'
    by_contra hnot
    apply not_paid_asked hnot _ hpaid
    intro response _ hmoves hid
    rw [hattended hmoves, hid, h.filed ho'] at hne
    exact absurd rfl hne

/-- The order that is attended to may be filed, linked to a record of its own if at all. -/
theorem file (h : Orderly registry (some o.id) g) (hbooks : (g.note c x).books = g.books.file o)
    (hc : ∀ r, c ≠ .bank r) (hawaits : o.awaitingOtp = true → o.status = .processing)
    (hlink : ∀ id, o.transactionId = some id → ∃ t, g.books.records id = some t ∧ t.orderId = o.id) :
    Orderly registry (some o.id) (g.note c x) := by
  have hrecords : (g.note c x).books.records = g.books.records := by
    rw [hbooks]
    rfl
  have hself : (g.note c x).books.orders o.id = some o := by
    rw [hbooks]
    exact Books.file_self ..
  have hother {key : OrderId} (hne : key ≠ o.id) :
      (g.note c x).books.orders key = g.books.orders key := by
    rw [hbooks]
    exact Function.update_of_ne hne ..
  refine ⟨hbooks ▸ h.toBound.file hlink, fun ht => h.initial (hrecords ▸ ht), ?_, ?_, ?_, ?_⟩
  · intro key stored hstored
    by_cases heq : key = o.id
    · rw [heq, hself] at hstored
      cases hstored
      exact hawaits
    · exact h.awaits (hother heq ▸ hstored)
  · intro r x' hmem
    rw [Past.note_events, List.mem_append, List.mem_singleton] at hmem
    rcases hmem with hmem | heq
    · by_cases heq : r.orderId = o.id
      · exact ⟨o, heq ▸ hself⟩
      · rw [hother heq]
        exact h.asked hmem
    · injection heq with hcall
      exact absurd hcall.symm (hc r)
  · intro key stored hne hstored
    rw [hother (by simpa using Ne.symm hne)] at hstored
    obtain ⟨k, hk⟩ := h.stands hne hstored
    exact ⟨k, hk.of_records fun id _ => congrFun hrecords id⟩
  · intro key stored hne hstored hpaid
    rw [hother (by simpa using Ne.symm hne)] at hstored
    exact h.paid hne hstored (hpaid.of_note hc)

/-- Another version of the order that is attended to may be filed. -/
theorem refile (h : Orderly registry (some o.id) g) (ho : g.books.orders o.id = some o)
    (hsame : o.SameTies o') (hbooks : (g.note c x).books = g.books.file o')
    (hc : ∀ r, c ≠ .bank r) (hawaits : o'.awaitingOtp = true → o'.status = .processing) :
    Orderly registry (some o'.id) (g.note c x) := by
  rw [← hsame.id] at h ho
  refine h.file hbooks hc hawaits ?_
  rw [hsame.link]
  exact fun id => h.linked ho

/-- A version in which the order stands in some way is filed last. -/
theorem conclude {k : Standing} (h : Orderly registry (some o.id) g) (o' : Order)
    (ho : g.books.orders o.id = some o) (hsame : o.SameTies o')
    (hbooks : (g.note c x).books = g.books.file o') (hc : ∀ r, c ≠ .bank r)
    (hawaits : o'.awaitingOtp = true → o'.status = .processing) (hstands : k.Of g.books o')
    (hpaid : Paid registry g.events o → o'.status = .success) :
    Orderly registry none (g.note c x) := by
  have hself : (g.note c x).books.orders o'.id = some o' := by
    rw [hbooks]
    exact Books.file_self ..
  refine (h.refile ho hsame hbooks hc hawaits).dismiss hself ⟨k, hstands.of_records ?_⟩ ?_
  · intro id _
    rw [hbooks]
    rfl
  · exact fun h => hpaid ((h.of_note hc).of_same hsame.id hsame.provider)

/-- A record of the order that is attended to may be entered. -/
theorem enter (h : Orderly registry (some key) g) (hbooks : (g.note c x).books = g.books.enter id t)
    (hc : ∀ r, c ≠ .bank r) (hid : t.id = id) (hback : t.orderId = key)
    (hinitial : t.state = .initial → t.status = .processing)
    (hsame : ∀ old, g.books.records id = some old → old.orderId = key) :
    Orderly registry (some key) (g.note c x) := by
  have horders : (g.note c x).books.orders = g.books.orders := by
    rw [hbooks]
    rfl
  have hself : (g.note c x).books.records id = some t := by
    rw [hbooks]
    exact Books.enter_self ..
  have hother {id' : TransactionId} (hne : id' ≠ id) :
      (g.note c x).books.records id' = g.books.records id' := by
    rw [hbooks]
    exact Function.update_of_ne hne ..
  refine ⟨hbooks ▸ h.toBound.enter hid fun old hold => (hsame old hold).trans hback.symm, ?_,
    fun ho => h.awaits (horders ▸ ho), ?_, ?_, ?_⟩
  · intro id' t' ht'
    by_cases heq : id' = id
    · rw [heq, hself] at ht'
      cases ht'
      exact hinitial
    · exact h.initial (hother heq ▸ ht')
  · intro r x' hmem
    rw [Past.note_events, List.mem_append, List.mem_singleton] at hmem
    rw [horders]
    rcases hmem with hmem | heq
    · exact h.asked hmem
    · injection heq with hcall
      exact absurd hcall.symm (hc r)
  · intro key' o' hne ho'
    rw [horders] at ho'
    obtain ⟨k, hk⟩ := h.stands hne ho'
    refine ⟨k, hk.of_records ?_⟩
    intro id' hid'
    apply hother
    -- the record that was there belongs to the order that is attended to, not to this one
    rintro rfl
    obtain ⟨old, hold, hback'⟩ := h.linked ho' hid'
    rw [← hback', hsame old hold] at hne
    exact hne rfl
  · intro key' o' hne ho' hpaid
    rw [horders] at ho'
    exact h.paid hne ho' (hpaid.of_note hc)

/-- A resolved version of the record of the order that is attended to may be entered. -/
theorem resolve {t' : Transaction} (h : Orderly registry (some key) g)
    (ho : g.books.orders key = some o) (hlink : o.transactionId = some id)
    (ht : g.books.records id = some t) (hbooks : (g.note c x).books = g.books.enter id t')
    (hc : ∀ r, c ≠ .bank r) (hid : t'.id = t.id) (hback : t'.orderId = t.orderId)
    (hresolved : t'.state = .resolved) : Orderly registry (some key) (g.note c x) := by
  have hown : ∀ old, g.books.records id = some old → old.orderId = key := by
    intro old hold
    obtain ⟨linked, hlinked, horder⟩ := h.linked ho hlink
    rw [hlinked] at hold
    cases hold
    exact horder
  refine h.enter hbooks hc (hid.trans (h.entered ht)) (hback.trans (hown t ht)) ?_ hown
  intro hinitial
  rw [hresolved] at hinitial
  cases hinitial

end Orderly

end Wallet
