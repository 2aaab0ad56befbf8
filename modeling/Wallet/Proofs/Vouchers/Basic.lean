import Wallet.Flow.Forward
import Wallet.Proofs.Changes
import Wallet.Proofs.Flow.Smooth
import Wallet.Proofs.Identifiers
import Wallet.Proofs.World.Tally

/-!
# Vouchers of orders

A voucher is used in the name of an order and taken back by the play that used it. An order that was
left verifying, or waiting for a one-time password, is resolved later by somebody else, who does not
ask for its voucher; such an order has lingered. `Vouched` says of the rest that their vouchers are in
use only while they are underway, and `Clear` that an order may be failed without leaving its voucher
behind.
-/

namespace Wallet

/-! ## Orders that have lingered -/

/-- Whether an event stores an order as verifying or as waiting for a one-time password. -/
def Event.lingers (key : OrderId) : Event → Bool
  | ⟨.orders (.replace _), .ok o⟩ => o.id == key && (o.isVerifying || o.awaitingOtp)
  | _ => false

/-- An order was stored as verifying or as waiting for a one-time password. -/
def Lingered (events : List Event) (key : OrderId) : Prop := ∃ e ∈ events, e.lingers key = true

theorem Event.lingers_counts {e : Event} {key : OrderId} (h : e.lingers key = true) :
    e.counts = true := by
  obtain ⟨c, x⟩ := e
  cases c with
  | orders r => cases r <;> cases x <;> first | rfl | cases h
  | _ => cases h

theorem lingered_counts {events : List Event} {key : OrderId} :
    Lingered (events.filter Event.counts) key ↔ Lingered events key := by
  constructor
  · rintro ⟨e, hmem, he⟩
    exact ⟨e, (List.mem_filter.mp hmem).1, he⟩
  · rintro ⟨e, hmem, he⟩
    exact ⟨e, List.mem_filter.mpr ⟨hmem, Event.lingers_counts he⟩, he⟩

/-! ## Vouchers in use -/

namespace Past

/-- The codes of the vouchers in use, by trace id. -/
def vouchers (g : Past) : String → Option String :=
  (Tally.along ⟨fun _ => none, 0, []⟩ g.events).vouchers

variable (g : Past)

@[simp] theorem vouchers_orders (r : OrderStore.Request) (x : Except ServiceError r.Result) :
    (g.note (.orders r) x).vouchers = g.vouchers := by
  rw [vouchers, Tally.along_note]
  rfl

@[simp] theorem vouchers_bank (r : Bank.Request) (x : Except ServiceError ProviderResponse) :
    (g.note (.bank r) x).vouchers = g.vouchers := by
  rw [vouchers, Tally.along_note]
  rfl

@[simp] theorem vouchers_ledger (r : Ledger.Request) (x : Except ServiceError Transaction) :
    (g.note (.ledger r) x).vouchers = g.vouchers := by
  rw [vouchers, Tally.along_note]
  cases r <;> cases x <;> rfl

theorem vouchers_use (code : String) (user : UserId) (trace : String) (amount : Money)
    (d : Discount) : (g.note (.promotion (.useVoucher code user trace amount)) (.ok d)).vouchers =
      Function.update g.vouchers trace (some code) := by
  rw [vouchers, Tally.along_note]
  rfl

theorem vouchers_reverse (trace : String) :
    (g.note (.promotion (.reverse trace)) (.ok ())).vouchers =
      Function.update g.vouchers trace none := by
  rw [vouchers, Tally.along_note]
  rfl

end Past

/-- No voucher is in use in the name of an order, or the order has lingered. -/
def Clear (vouchers : String → Option String) (events : List Event) (key : OrderId) : Prop :=
  vouchers (toString key) = none ∨ Lingered events key

/-- Orders are filed under their identifiers, those that are verifying or wait for a one-time password
have lingered, and an order that is not clear is underway or has come to a good end. -/
structure Vouched (vouchers : String → Option String) (g : Past) : Prop where
  filed : ∀ {key o}, g.books.orders key = some o → o.id = key
  lingered : ∀ {key o}, g.books.orders key = some o → (o.isVerifying || o.awaitingOtp) = true →
    Lingered g.events key
  covered : ∀ key, Clear vouchers g.events key ∨
    ∃ o, g.books.orders key = some o ∧ o.status ≠ .pending ∧ o.status ≠ .failed

section

variable {vouchers : String → Option String} {g : Past} {c : Call} {x : c.Answer} {o : Order}
  {key : OrderId} {events : List Event}

theorem Lingered.mono {events' : List Event} (h : Lingered events key) (hle : events <+: events') :
    Lingered events' key := by
  obtain ⟨e, hmem, he⟩ := h
  exact ⟨e, hle.subset hmem, he⟩

theorem Clear.mono {events' : List Event} (h : Clear vouchers events key)
    (hle : events <+: events') : Clear vouchers events' key :=
  h.imp_right fun hlingered => hlingered.mono hle

theorem Clear.note (h : Clear vouchers g.events key) : Clear vouchers (g.note c x).events key :=
  h.mono (List.prefix_append _ _)

namespace Vouched

theorem empty : Vouched (fun _ => none) ⟨⟨fun _ => none, fun _ => none⟩, []⟩ where
  filed h := nomatch h
  lingered h := nomatch h
  covered _ := .inl (.inl rfl)

theorem clear_of (h : Vouched vouchers g)
    (hidle : ∀ o, g.books.orders key = some o → o.status = .pending ∨ o.status = .failed) :
    Clear vouchers g.events key := by
  rcases h.covered key with hclear | ⟨o, ho, hpending, hfailed⟩
  · exact hclear
  · rcases hidle o ho with hstatus | hstatus
    · exact absurd hstatus hpending
    · exact absurd hstatus hfailed

/-- No order is written. -/
theorem record (h : Vouched vouchers g) (horders : (g.note c x).books.orders = g.books.orders) :
    Vouched vouchers (g.note c x) where
  filed ho := h.filed (horders ▸ ho)
  lingered ho hwaits := (h.lingered (horders ▸ ho) hwaits).mono (List.prefix_append _ _)
  covered key := by
    rw [horders]
    exact (h.covered key).imp_left Clear.note

/-- An order is written that is clear or underway or has come to a good end. -/
theorem file (h : Vouched vouchers g) (hbooks : (g.note c x).books = g.books.file o)
    (hlingered : (o.isVerifying || o.awaitingOtp) = true → Lingered (g.note c x).events o.id)
    (hcovered : Clear vouchers g.events o.id ∨ o.status ≠ .pending ∧ o.status ≠ .failed) :
    Vouched vouchers (g.note c x) := by
  refine ⟨?_, ?_, fun key => ?_⟩
  · intro key stored hstored
    rw [hbooks] at hstored
    by_cases heq : key = o.id
    · rw [heq, Books.file_self] at hstored
      cases hstored
      exact heq.symm
    · exact h.filed ((Books.file_of_ne _ _ heq).symm.trans hstored)
  · intro key stored hstored hwaits
    rw [hbooks] at hstored
    by_cases heq : key = o.id
    · rw [heq, Books.file_self] at hstored
      cases hstored
      exact heq ▸ hlingered hwaits
    · have hbefore := (Books.file_of_ne _ _ heq).symm.trans hstored
      exact (h.lingered hbefore hwaits).mono (List.prefix_append _ _)
  · rw [hbooks]
    by_cases heq : key = o.id
    · subst heq
      rcases hcovered with hclear | hstatus
      · exact .inl hclear.note
      · exact .inr ⟨o, Books.file_self .., hstatus⟩
    · rw [Books.file_of_ne _ _ heq]
      exact (h.covered key).imp_left Clear.note

/-- What is put in the place of an order has lingered if it does so now. -/
theorem replace (h : Vouched vouchers g)
    (hcovered : Clear vouchers g.events o.id ∨ o.status ≠ .pending ∧ o.status ≠ .failed) :
    Vouched vouchers (g.note (.orders (.replace o)) (.ok o)) := by
  refine h.file (Past.note_replace ..) (fun hwaits => ?_) hcovered
  exact ⟨⟨.orders (.replace o), .ok o⟩, by simp, by simpa [Event.lingers] using hwaits⟩

/-- A voucher is used in the name of a stored order that is underway. -/
theorem use (h : Vouched vouchers g) {code : String} (ho : g.books.orders o.id = some o)
    (hprocessing : o.status = .processing)
    (horders : (g.note c x).books.orders = g.books.orders) :
    Vouched (Function.update vouchers (toString o.id) (some code)) (g.note c x) := by
  have hrecord : Vouched vouchers (g.note c x) := h.record horders
  refine ⟨hrecord.filed, hrecord.lingered, fun key => ?_⟩
  by_cases heq : key = o.id
  · subst heq
    exact .inr ⟨o, horders ▸ ho, by simp [hprocessing], by simp [hprocessing]⟩
  · refine (hrecord.covered key).imp_left fun hclear => hclear.imp_left fun hfree => ?_
    -- the voucher of another order goes by another text
    have hother : toString key ≠ toString o.id := fun hsame =>
      heq (OrderId.toString_injective hsame)
    exact (Function.update_of_ne hother ..).trans hfree

theorem takeBack (h : Vouched vouchers g) {trace : String}
    (horders : (g.note c x).books.orders = g.books.orders) :
    Vouched (Function.update vouchers trace none) (g.note c x) := by
  have hrecord : Vouched vouchers (g.note c x) := h.record horders
  refine ⟨hrecord.filed, hrecord.lingered, fun key => ?_⟩
  refine (hrecord.covered key).imp_left fun hclear => hclear.imp_left fun hfree => ?_
  rw [Function.update_apply]
  split
  · rfl
  · exact hfree

end Vouched

end

/-! ## Faults -/

/-- Anything may go wrong, but only the bank may be out of reach, and a voucher is taken back when
that is asked for. -/
def Faults.returning : Faults :=
  ⟨fun c e => Faults.ordinary.refuses c e ∧ ∀ trace, c ≠ .promotion (.reverse trace), True, True⟩

theorem Call.Permits.ordinary {c : Call} {x : c.Answer} (h : c.Permits .returning x) :
    c.Permits .ordinary x := by
  cases c with
  | orders r | ledger r | promotion r | bank r =>
      cases x with
      | ok _ => trivial
      | error e => exact h.1
  | hasEnded c => cases x <;> trivial
  | budget d => cases x <;> trivial
  | _ => trivial

theorem Call.Permits.returning {c : Call} {x : c.Answer} (h : c.Permits .ordinary x)
    (hreturned : ∀ trace e, Event.mk c x ≠ ⟨.promotion (.reverse trace), .error e⟩) :
    c.Permits .returning x := by
  cases c with
  | orders r | ledger r | bank r =>
      cases x with
      | ok _ => trivial
      | error e => exact ⟨h, nofun⟩
  | promotion r =>
      cases x with
      | ok _ => trivial
      | error e =>
          refine ⟨h, ?_⟩
          rintro trace ⟨⟩
          exact hreturned trace e rfl
  | hasEnded c => cases x <;> trivial
  | budget d => cases x <;> trivial
  | _ => trivial

theorem Smooth.ordinary {events : List Event} (h : Smooth .returning events) :
    Smooth .ordinary events :=
  ⟨fun e he => (h.permitted e he).ordinary, h.inTime⟩

end Wallet
