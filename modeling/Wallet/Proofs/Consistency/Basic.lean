import Wallet.Proofs.Changes
import Wallet.Proofs.World.Books
import Wallet.Provider.Classifier

/-!
# Consistent books

Orders and ledger records are written by separate calls, any of which may be refused. `Consistent`
says how they fit together all the same: a record is finished only if the bank has approved of its
order, a successful order is linked to a finished record, and a dropped order is not, unless a
one-time password was entered once more after its record had been finished.

There is one lemma for each way of writing: a call that writes nothing, an order that is filed, and
a record that is entered. The changes of records follow from the last.
-/

namespace Wallet

/-- The order that a request to the bank is about. -/
def Bank.Request.orderId : Bank.Request → OrderId
  | .cashIn r | .cashOut r | .transfer r | .refund r => r.orderId
  | .verifyOtp id _ | .retrieveStatus id _ => id

/-- The order has failed or was cancelled. -/
def Order.Dropped (o : Order) : Prop := o.status = .failed ∨ o.status = .cancelled

/-- The bank has given an answer about an order that means success to its provider. -/
def Approved (registry : ClassifierRegistry) (events : List Event) (id : OrderId)
    (provider : Option ProviderCode) : Prop :=
  ∃ (r : Bank.Request) (response : ProviderResponse),
    Event.mk (.bank r) (.ok response) ∈ events ∧ r.orderId = id ∧
      registry.classify provider response.code = .success

/-- The ledger has confirmed a record. -/
def Confirmed (events : List Event) (id : TransactionId) : Prop :=
  ∃ t : Transaction, Event.mk (.ledger (.confirm id)) (.ok t) ∈ events

/-- After the ledger had confirmed a record, the bank was handed a one-time password for the order
once more, and refused it for good. -/
def Reentered (registry : ClassifierRegistry) (events : List Event) (o : Order)
    (id : TransactionId) : Prop :=
  ∃ (t : Transaction) (otp : String) (response : ProviderResponse),
    [⟨.ledger (.confirm id), .ok t⟩, ⟨.bank (.verifyOtp o.id otp), .ok response⟩].Sublist events ∧
      (registry.classify o.provider response.code).kind = .failure

section

variable {registry : ClassifierRegistry} {events events' : List Event} {o : Order}
  {id : TransactionId}

theorem Approved.mono {key : OrderId} {provider : Option ProviderCode}
    (h : Approved registry events key provider) (hle : events <+: events') :
    Approved registry events' key provider := by
  obtain ⟨r, response, hmem, hr⟩ := h
  exact ⟨r, response, hle.subset hmem, hr⟩

theorem Confirmed.mono (h : Confirmed events id) (hle : events <+: events') :
    Confirmed events' id := by
  obtain ⟨t, hmem⟩ := h
  exact ⟨t, hle.subset hmem⟩

theorem Reentered.mono (h : Reentered registry events o id) (hle : events <+: events') :
    Reentered registry events' o id := by
  obtain ⟨t, otp, response, hsub, hr⟩ := h
  exact ⟨t, otp, response, hsub.trans hle.sublist, hr⟩

/-- A one-time password that is refused once the record is confirmed was entered once more. -/
theorem Confirmed.reentered {otp : String} {response : ProviderResponse}
    (h : Confirmed events id)
    (hrefused : (registry.classify o.provider response.code).kind = .failure) :
    Reentered registry (events ++ [⟨.bank (.verifyOtp o.id otp), .ok response⟩]) o id := by
  obtain ⟨t, hmem⟩ := h
  refine ⟨t, otp, response, ?_, hrefused⟩
  rw [← List.singleton_append]
  exact (List.singleton_sublist.mpr hmem).append (List.Sublist.refl _)

end

/-! ## What fits together -/

section

variable (registry : ClassifierRegistry) (p : Past)

/-- The order is linked to a finished record. -/
def Finished (o : Order) : Prop :=
  ∃ id t, o.transactionId = some id ∧ p.books.records id = some t ∧ t.status = .finish

/-- The order is not linked to a finished record, or a one-time password was entered once more. -/
def Droppable (o : Order) : Prop :=
  ∀ id t, o.transactionId = some id → p.books.records id = some t → t.status = .finish →
    Reentered registry p.events o id

/-- An order that fits the ledger. -/
structure Fits (o : Order) : Prop where
  linked : ∀ id, o.transactionId = some id → ∃ t, p.books.records id = some t ∧ t.orderId = o.id
  succeeded : o.status = .success → Finished p o
  dropped : o.Dropped → Droppable registry p o
  awaiting : o.awaitingOtp = true → o.status = .processing

/-- A record that was confirmed because the bank approved of its order. -/
structure Backed (t : Transaction) : Prop where
  confirmed : Confirmed p.events t.id
  approved : ∃ o, p.books.orders t.orderId = some o ∧
    Approved registry p.events t.orderId o.provider

/-- The books fit together, and what the past says of finished records is so. -/
structure Consistent : Prop where
  filed : ∀ {key o}, p.books.orders key = some o → o.id = key
  entered : ∀ {id t}, p.books.records id = some t → t.id = id
  fits : ∀ {key o}, p.books.orders key = some o → Fits registry p o
  backed : ∀ {id t}, p.books.records id = some t → t.status = .finish → Backed registry p t

end

theorem consistent_empty (registry : ClassifierRegistry) :
    Consistent registry ⟨⟨fun _ => none, fun _ => none⟩, []⟩ :=
  ⟨nofun, nofun, nofun, nofun⟩

/-! ## Writing -/

section

variable {registry : ClassifierRegistry} {p : Past} {c : Call} {x : c.Answer} {o o' : Order}
  {t t' : Transaction} {id : TransactionId}

theorem Past.events_le (p : Past) (c : Call) (x : c.Answer) :
    p.events <+: (p.note c x).events :=
  List.prefix_append _ _

/-- Whether an order fits is a matter of the records alone. -/
theorem Droppable.note (h : Droppable registry p o)
    (hrecords : (p.note c x).books.records = p.books.records) :
    Droppable registry (p.note c x) o := by
  intro id t hlink hrecord hfinish
  rw [hrecords] at hrecord
  exact (h id t hlink hrecord hfinish).mono (p.events_le c x)

theorem Fits.note (h : Fits registry p o)
    (hrecords : (p.note c x).books.records = p.books.records) :
    Fits registry (p.note c x) o where
  linked := by
    rw [hrecords]
    exact h.linked
  succeeded hsuccess := by
    unfold Finished
    rw [hrecords]
    exact h.succeeded hsuccess
  dropped hdropped := (h.dropped hdropped).note hrecords
  awaiting := h.awaiting

/-- Two versions of an order that agree in all by which the order is tied to others. -/
structure Order.SameTies (o o' : Order) : Prop where
  id : o'.id = o.id
  provider : o'.provider = o.provider
  link : o'.transactionId = o.transactionId

theorem Finished.of_same (h : Finished p o) (hsame : o.SameTies o') : Finished p o' := by
  obtain ⟨id, t, hlink, ht⟩ := h
  exact ⟨id, t, hsame.link.trans hlink, ht⟩

theorem Droppable.of_same (h : Droppable registry p o) (hsame : o.SameTies o') :
    Droppable registry p o' := by
  intro id t hlink hrecord hfinish
  unfold Reentered
  rw [hsame.id, hsame.provider]
  exact h id t (hsame.link ▸ hlink) hrecord hfinish

/-- Another version of an order that fits. -/
theorem Fits.of_same (h : Fits registry p o) (hsame : o.SameTies o')
    (hsucceeded : o'.status = .success → Finished p o)
    (hdropped : o'.Dropped → Droppable registry p o)
    (hawaiting : o'.awaitingOtp = true → o'.status = .processing) : Fits registry p o' where
  linked := by
    rw [hsame.id, hsame.link]
    exact h.linked
  succeeded hsuccess := (hsucceeded hsuccess).of_same hsame
  dropped hdrop := (hdropped hdrop).of_same hsame
  awaiting := hawaiting

namespace Consistent

theorem quiet (h : Consistent registry p) (hbooks : (p.note c x).books = p.books) :
    Consistent registry (p.note c x) where
  filed {_ _} ho := h.filed (hbooks ▸ ho)
  entered {_ _} ht := h.entered (hbooks ▸ ht)
  fits {_ _} ho := (h.fits (hbooks ▸ ho)).note (congrArg Books.records hbooks)
  backed {_ _} ht hfinish := by
    rw [hbooks] at ht
    obtain ⟨hconfirmed, order, ho, happroved⟩ := h.backed ht hfinish
    refine ⟨hconfirmed.mono (p.events_le c x), order, ?_,
      happroved.mono (p.events_le c x)⟩
    rw [hbooks]
    exact ho

/-- An order that fits may be filed in place of one of the same provider. -/
theorem file (h : Consistent registry p) (hbooks : (p.note c x).books = p.books.file o)
    (hfits : Fits registry p o)
    (hprovider : ∀ stored, p.books.orders o.id = some stored → stored.provider = o.provider) :
    Consistent registry (p.note c x) := by
  have hrecords : (p.note c x).books.records = p.books.records := by
    rw [hbooks]
    rfl
  have horders : (p.note c x).books.orders = Function.update p.books.orders o.id (some o) := by
    rw [hbooks]
    rfl
  refine ⟨?_, fun {_ _} ht => h.entered (hrecords ▸ ht), ?_, ?_⟩
  · intro key stored hstored
    rw [horders, Function.update_apply] at hstored
    by_cases heq : key = o.id
    · rw [if_pos heq] at hstored
      cases hstored
      exact heq.symm
    · rw [if_neg heq] at hstored
      exact h.filed hstored
  · intro key stored hstored
    rw [horders, Function.update_apply] at hstored
    by_cases heq : key = o.id
    · rw [if_pos heq] at hstored
      cases hstored
      exact hfits.note hrecords
    · rw [if_neg heq] at hstored
      exact (h.fits hstored).note hrecords
  · intro key t ht hfinish
    rw [hrecords] at ht
    obtain ⟨hconfirmed, stored, hstored, happroved⟩ := h.backed ht hfinish
    refine ⟨hconfirmed.mono (p.events_le c x), ?_⟩
    rw [horders]
    by_cases heq : t.orderId = o.id
    · rw [heq] at hstored happroved
      rw [heq, Function.update_self]
      refine ⟨o, rfl, ?_⟩
      -- the provider decides what the bank's answers mean, so it has to be the same
      rw [← hprovider stored hstored]
      exact happroved.mono (p.events_le c x)
    · rw [Function.update_of_ne heq]
      exact ⟨stored, hstored, happroved.mono (p.events_le c x)⟩

/-- An order still fits when a record is entered in place of an unfinished one of the same order,
unless that finishes the record of a dropped order. -/
theorem fits_of_enter {key : OrderId} (h : Consistent registry p)
    (hrecords : (p.note c x).books.records = Function.update p.books.records id (some t'))
    (hsame : ∀ t, p.books.records id = some t → t.status ≠ .finish ∧ t'.orderId = t.orderId)
    (hfinish : t'.status = .finish → ∃ o, p.books.orders t'.orderId = some o ∧ ¬o.Dropped)
    (ho : p.books.orders key = some o) : Fits registry (p.note c x) o := by
  have hfits := h.fits ho
  refine ⟨?_, ?_, ?_, hfits.awaiting⟩
  · intro link hlink
    obtain ⟨t, ht, horder⟩ := hfits.linked link hlink
    rw [hrecords]
    by_cases heq : link = id
    · rw [heq] at ht
      rw [heq, Function.update_self]
      exact ⟨t', rfl, (hsame t ht).2.trans horder⟩
    · rw [Function.update_of_ne heq]
      exact ⟨t, ht, horder⟩
  · intro hsuccess
    -- a finished record is not written again
    obtain ⟨link, t, hlink, ht, hdone⟩ := hfits.succeeded hsuccess
    have hne : link ≠ id := by
      rintro rfl
      exact (hsame t ht).1 hdone
    refine ⟨link, t, hlink, ?_, hdone⟩
    rw [hrecords, Function.update_of_ne hne]
    exact ht
  · intro hdropped link t hlink ht hdone
    rw [hrecords] at ht
    by_cases heq : link = id
    · rw [heq, Function.update_self] at ht
      cases ht
      -- the record leads back to the order that is linked to it, so that one is not dropped
      obtain ⟨order, horder, hopen⟩ := hfinish hdone
      obtain ⟨t, ht, hback⟩ := hfits.linked link hlink
      rw [heq] at ht
      rw [(hsame t ht).2, hback, h.filed ho, ho] at horder
      cases horder
      exact absurd hdropped hopen
    · rw [Function.update_of_ne heq] at ht
      exact (hfits.dropped hdropped link t hlink ht hdone).mono (p.events_le c x)

/-- A record may be entered in place of an unfinished one of the same order. If it is finished, the
ledger has confirmed it, the bank has approved of its order, and the order is not dropped. -/
theorem enter (h : Consistent registry p) (hbooks : (p.note c x).books = p.books.enter id t')
    (hid : t'.id = id)
    (hsame : ∀ t, p.books.records id = some t → t.status ≠ .finish ∧ t'.orderId = t.orderId)
    (hfinish : t'.status = .finish → Confirmed (p.note c x).events id ∧
      ∃ o, p.books.orders t'.orderId = some o ∧ ¬o.Dropped ∧
        Approved registry p.events t'.orderId o.provider) :
    Consistent registry (p.note c x) := by
  have horders : (p.note c x).books.orders = p.books.orders := by
    rw [hbooks]
    rfl
  have hrecords : (p.note c x).books.records = Function.update p.books.records id (some t') := by
    rw [hbooks]
    rfl
  have hopen : t'.status = .finish → ∃ o, p.books.orders t'.orderId = some o ∧ ¬o.Dropped := by
    intro hdone
    obtain ⟨_, o, ho, hopen, _⟩ := hfinish hdone
    exact ⟨o, ho, hopen⟩
  refine ⟨fun {_ _} ho => h.filed (horders ▸ ho), ?_,
    fun {_ _} ho => h.fits_of_enter hrecords hsame hopen (horders ▸ ho), ?_⟩
  · intro key t ht
    rw [hrecords, Function.update_apply] at ht
    by_cases heq : key = id
    · rw [if_pos heq] at ht
      cases ht
      exact hid.trans heq.symm
    · rw [if_neg heq] at ht
      exact h.entered ht
  · intro key t ht hdone
    rw [hrecords, Function.update_apply] at ht
    by_cases heq : key = id
    · rw [if_pos heq] at ht
      cases ht
      obtain ⟨hconfirmed, order, horder, _, happroved⟩ := hfinish hdone
      rw [← hid] at hconfirmed
      refine ⟨hconfirmed, order, ?_, happroved.mono (p.events_le c x)⟩
      rw [horders]
      exact horder
    · rw [if_neg heq] at ht
      obtain ⟨hconfirmed, order, horder, happroved⟩ := h.backed ht hdone
      refine ⟨hconfirmed.mono (p.events_le c x), order, ?_, happroved.mono (p.events_le c x)⟩
      rw [horders]
      exact horder

end Consistent

/-! ## Changes of records -/

/-- A record that is changed on its way, but not finished. -/
structure Transaction.Halts (t t' : Transaction) : Prop where
  unfinished : t.status ≠ .finish
  id : t'.id = t.id
  orderId : t'.orderId = t.orderId
  halted : t'.status ≠ .finish

theorem TransactionStatus.ne_finish_of_can {status next : TransactionStatus}
    (h : status.canTransitionTo next = true) : status ≠ .finish := by
  rintro rfl
  cases next <;> cases h

namespace Transaction

variable {now : Timestamp} {reason : String}

theorem confirm_ok (h : t.confirm now = .ok t') :
    t.status ≠ .finish ∧ t'.id = t.id ∧ t'.orderId = t.orderId ∧ t'.status = .finish := by
  obtain ⟨hcan, rfl⟩ := moveTo_ok h
  exact ⟨TransactionStatus.ne_finish_of_can hcan, rfl, rfl, rfl⟩

theorem halts_setPending (h : t.setPending now = .ok t') : t.Halts t' := by
  obtain ⟨hcan, rfl⟩ := moveTo_ok h
  exact ⟨TransactionStatus.ne_finish_of_can hcan, rfl, rfl, by simp⟩

theorem halts_fail (h : t.fail reason now = .ok t') : t.Halts t' := by
  obtain ⟨hcan, rfl⟩ := fail_ok h
  exact ⟨TransactionStatus.ne_finish_of_can hcan, rfl, rfl, by simp⟩

theorem halts_cancel (h : t.cancel reason now = .ok t') : t.Halts t' :=
  halts_fail (cancel_ok h).2

end Transaction

/-- A halted record keeps no order from being dropped. -/
theorem Droppable.halt (h : Droppable registry p o)
    (hbooks : (p.note c x).books = p.books.enter id t') (hhalts : t.Halts t') :
    Droppable registry (p.note c x) o := by
  intro key record hlink hrecord hfinish
  rw [hbooks] at hrecord
  change Function.update p.books.records id (some t') key = some record at hrecord
  rw [Function.update_apply] at hrecord
  by_cases heq : key = id
  · rw [if_pos heq] at hrecord
    cases hrecord
    exact absurd hfinish hhalts.halted
  · rw [if_neg heq] at hrecord
    exact (h key record hlink hrecord hfinish).mono (p.events_le c x)

theorem Droppable.of_halted (hbooks : (p.note c x).books = p.books.enter id t')
    (hhalts : t.Halts t') (hlink : o.transactionId = some id) :
    Droppable registry (p.note c x) o := by
  intro key record hkey hrecord hfinish
  rw [hlink] at hkey
  cases hkey
  rw [hbooks] at hrecord
  change Function.update p.books.records id (some t') id = some record at hrecord
  rw [Function.update_self] at hrecord
  cases hrecord
  exact absurd hfinish hhalts.halted

namespace Consistent

theorem halt (h : Consistent registry p) (hbooks : (p.note c x).books = p.books.enter id t')
    (ht : p.books.records id = some t) (hhalts : t.Halts t') :
    Consistent registry (p.note c x) := by
  have hsame : ∀ stored, p.books.records id = some stored →
      stored.status ≠ .finish ∧ t'.orderId = stored.orderId := by
    intro stored hstored
    rw [ht] at hstored
    cases hstored
    exact ⟨hhalts.unfinished, hhalts.orderId⟩
  exact h.enter hbooks (hhalts.id.trans (h.entered ht)) hsame
    fun hfinish => absurd hfinish hhalts.halted

/-- The record of an order that is not dropped may be confirmed once the bank has approved. -/
theorem confirm {now : Timestamp} (h : Consistent registry p)
    (ho : p.books.orders o.id = some o) (hlink : o.transactionId = some id) (hopen : ¬o.Dropped)
    (happroved : Approved registry p.events o.id o.provider)
    (ht : p.books.records id = some t) (hconfirm : t.confirm now = .ok t') :
    Consistent registry (p.note (.ledger (.confirm id)) (.ok t')) ∧
      Finished (p.note (.ledger (.confirm id)) (.ok t')) o := by
  obtain ⟨hunfinished, hid, horder, hfinish⟩ := Transaction.confirm_ok hconfirm
  obtain ⟨stored, hstored, hback⟩ := (h.fits ho).linked id hlink
  rw [ht] at hstored
  cases hstored
  have hback : t'.orderId = o.id := horder.trans hback
  have hsame : ∀ stored, p.books.records id = some stored →
      stored.status ≠ .finish ∧ t'.orderId = stored.orderId := by
    intro stored hstored
    rw [ht] at hstored
    cases hstored
    exact ⟨hunfinished, horder⟩
  constructor
  · refine h.enter (Past.note_confirm p id t') (hid.trans (h.entered ht)) hsame ?_
    intro _
    rw [hback]
    exact ⟨⟨t', by simp⟩, o, ho, hopen, happroved⟩
  · refine ⟨id, t', hlink, ?_, hfinish⟩
    rw [Past.note_confirm]
    exact Function.update_self ..

end Consistent

end

end Wallet
