import Wallet.Proofs.Consistency.Basic
import Wallet.Proofs.Flow.Chain

/-!
# The stages of a flow

The order that a flow keeps in its state is always the stored one, so what is undone goes by the
truth. Once the bank has moved the money the order is not dropped any more, and as long as the order
may still be dropped its record is not finished: `Safe` says so. Before that a flow runs through the
stages `Unmoved`, `Open`, `Underway` or `Loaded` and, once the bank was asked, `Decided` and
`Completable`.

For each way of writing there is a lemma that says which stages it keeps.
-/

namespace Wallet.Flow

section

variable (registry : ClassifierRegistry) (s : FlowState) (p : Past)

/-- The books are consistent and have the order of the flow as the flow has it. -/
structure Steady : Prop where
  consistent : Consistent registry p
  held : ∀ o, s.order = some o → p.books.orders o.id = some o
  moved : s.bankSucceeded = true →
    ∃ o, s.order = some o ∧ ¬o.Dropped ∧ Approved registry p.events o.id o.provider

/-- The order may be dropped, unless a flag keeps it from being undone. -/
structure Safe : Prop extends Steady registry s p where
  droppable : s.parked = false → s.retryAllowed = false → s.bankSucceeded = false →
    ∀ o, s.order = some o → Droppable registry p o

/-- The bank has not moved the money. -/
structure Unmoved : Prop extends Steady registry s p where
  unmoved : s.bankSucceeded = false

/-- Nor has it in any flow before. -/
structure Open : Prop extends Unmoved registry s p where
  droppable : ∀ o, s.order = some o → Droppable registry p o

/-- The order is processing. -/
structure Underway : Prop extends Open registry s p where
  processing : ∀ o, s.order = some o → o.status = .processing

/-- An order that waits for a one-time password was loaded. -/
structure Loaded : Prop extends Unmoved registry s p where
  processing : ∀ o, s.order = some o → o.status = .processing

/-- The bank has moved the money, unless a one-time password is awaited. -/
structure Decided : Prop extends Safe registry s p where
  decided : s.awaitingOtp = false → s.bankSucceeded = true

/-- The record of the order is finished, unless a one-time password is awaited. -/
structure Completable : Prop extends Safe registry s p where
  finished : s.awaitingOtp = false → ∃ o, s.order = some o ∧ Finished p o

end

section

variable {registry : ClassifierRegistry} {s s' : FlowState} {p : Past} {c : Call} {x : c.Answer}
  {o o' : Order} {t t' : Transaction} {id : TransactionId}

theorem not_dropped_of_processing (h : o.status = .processing) : ¬o.Dropped := by
  simp [Order.Dropped, h]

/-- A flow starts without an order. -/
theorem Open.start (h : Consistent registry p) (horder : s.order = none)
    (houtcome : s.outcome = none) : Open registry s p := by
  have hunmoved : s.bankSucceeded = false := by simp [FlowState.bankSucceeded, houtcome]
  have hsteady : Steady registry s p := ⟨h, by simp [horder], by simp [hunmoved]⟩
  exact ⟨⟨hsteady, hunmoved⟩, by simp [horder]⟩

theorem Unmoved.not_moved (h : Unmoved registry s p) : ¬s.bankSucceeded = true := by
  simp [h.unmoved]

/-! ## Calls that write nothing -/

theorem Steady.quiet (h : Steady registry s p) (hbooks : (p.note c x).books = p.books) :
    Steady registry s (p.note c x) where
  consistent := h.consistent.quiet hbooks
  held o ho := by
    rw [hbooks]
    exact h.held o ho
  moved hmoved := by
    obtain ⟨o, ho, hopen, happroved⟩ := h.moved hmoved
    exact ⟨o, ho, hopen, happroved.mono (p.events_le c x)⟩

theorem Safe.quiet (h : Safe registry s p) (hbooks : (p.note c x).books = p.books) :
    Safe registry s (p.note c x) where
  toSteady := h.toSteady.quiet hbooks
  droppable hparked hretry hmoved o ho :=
    (h.droppable hparked hretry hmoved o ho).note (congrArg Books.records hbooks)

theorem Unmoved.quiet (h : Unmoved registry s p) (hbooks : (p.note c x).books = p.books) :
    Unmoved registry s (p.note c x) :=
  ⟨h.toSteady.quiet hbooks, h.unmoved⟩

theorem Open.quiet (h : Open registry s p) (hbooks : (p.note c x).books = p.books) :
    Open registry s (p.note c x) :=
  ⟨h.toUnmoved.quiet hbooks, fun o ho => (h.droppable o ho).note (congrArg Books.records hbooks)⟩

theorem Underway.quiet (h : Underway registry s p) (hbooks : (p.note c x).books = p.books) :
    Underway registry s (p.note c x) :=
  ⟨h.toOpen.quiet hbooks, h.processing⟩

theorem Loaded.quiet (h : Loaded registry s p) (hbooks : (p.note c x).books = p.books) :
    Loaded registry s (p.note c x) :=
  ⟨h.toUnmoved.quiet hbooks, h.processing⟩

theorem Decided.quiet (h : Decided registry s p) (hbooks : (p.note c x).books = p.books) :
    Decided registry s (p.note c x) :=
  ⟨h.toSafe.quiet hbooks, h.decided⟩

theorem Finished.quiet (h : Finished p o) (hbooks : (p.note c x).books = p.books) :
    Finished (p.note c x) o := by
  unfold Finished
  rw [hbooks]
  exact h

theorem Completable.quiet (h : Completable registry s p) (hbooks : (p.note c x).books = p.books) :
    Completable registry s (p.note c x) where
  toSafe := h.toSafe.quiet hbooks
  finished hawaiting := by
    obtain ⟨o, ho, hfinished⟩ := h.finished hawaiting
    exact ⟨o, ho, Finished.quiet hfinished hbooks⟩

/-! ## Flags -/

/-- A parked order is not undone. -/
theorem Steady.park (h : Steady registry s p) : Safe registry { s with parked := true } p where
  toSteady := ⟨h.consistent, h.held, h.moved⟩
  droppable := nofun

/-- A password that was wrong may be entered again, so nothing is undone. -/
theorem Steady.retry (h : Steady registry s p) : Safe registry { s with retryAllowed := true } p where
  toSteady := ⟨h.consistent, h.held, h.moved⟩
  droppable := nofun

theorem Steady.safe_of_none (h : Steady registry s p) (hnone : s.order = none) :
    Safe registry s p where
  toSteady := h
  droppable _ _ _ o ho := by
    rw [hnone] at ho
    cases ho

theorem Open.safe (h : Open registry s p) : Safe registry s p :=
  ⟨h.toSteady, fun _ _ _ => h.droppable⟩

theorem Underway.discounted (h : Underway registry s p) (discount : Option Discount) :
    Underway registry { s with discount := discount } p :=
  ⟨⟨⟨⟨h.consistent, h.held, h.moved⟩, h.unmoved⟩, h.droppable⟩, h.processing⟩

/-- An answer of the bank by which no money has moved. -/
theorem Steady.answered (h : Steady registry s p) (outcome : Outcome) (hne : outcome ≠ .success) :
    Unmoved registry { s with outcome := some outcome } p := by
  have hunmoved : (some outcome == some Outcome.success) = false := by simpa using hne
  refine ⟨⟨h.consistent, h.held, ?_⟩, hunmoved⟩
  intro hmoved
  rw [show (some outcome == some Outcome.success) = true from hmoved] at hunmoved
  cases hunmoved

theorem Underway.answered (h : Underway registry s p) (outcome : Outcome)
    (hne : outcome ≠ .success) : Underway registry { s with outcome := some outcome } p :=
  ⟨⟨h.toSteady.answered outcome hne, h.droppable⟩, h.processing⟩

/-- An answer of the bank by which the money of an order has moved. -/
theorem Decided.of_success (h : Steady registry s p) (horder : s.order = some o)
    (hopen : ¬o.Dropped) (happroved : Approved registry p.events o.id o.provider) :
    Decided registry { s with outcome := some .success } p where
  toSteady := ⟨h.consistent, h.held, fun _ => ⟨o, horder, hopen, happroved⟩⟩
  droppable _ _ hunmoved := by cases hunmoved
  decided _ := rfl

/-- A one-time password is awaited. -/
theorem Underway.awaiting (h : Underway registry s p) :
    Decided registry { s with awaitingOtp := true } p where
  toSafe := ⟨⟨h.consistent, h.held, h.moved⟩, fun _ _ _ => h.droppable⟩
  decided := nofun

/-! ## Writing the order -/

/-- A version of the order that a flow may write: a successful one only if its record is finished,
and a dropped one only if the bank has not moved the money. -/
structure Revises (registry : ClassifierRegistry) (s : FlowState) (p : Past) (o o' : Order) :
    Prop extends o.SameTies o' where
  order : s.order = some o
  succeeded : o'.status = .success → Finished p o
  dropped : o'.Dropped → s.bankSucceeded = false ∧ Droppable registry p o
  awaiting : o'.awaitingOtp = true → o'.status = .processing

/-- A version that is neither successful nor dropped may always be written. -/
theorem Revises.of_open (horder : s.order = some o) (hsame : o.SameTies o')
    (hsuccess : o'.status ≠ .success) (hopen : ¬o'.Dropped)
    (hawaiting : o'.awaitingOtp = true → o'.status = .processing) : Revises registry s p o o' :=
  ⟨hsame, horder, fun h => absurd h hsuccess, fun h => absurd h hopen, hawaiting⟩

/-- A version of the order that fits may be written, and the flow goes on with it. -/
theorem Steady.file (h : Steady registry s p) (horder : s.order = some o) (hid : o'.id = o.id)
    (hprovider : o'.provider = o.provider) (hfits : Fits registry p o')
    (hopen : s.bankSucceeded = true → ¬o'.Dropped)
    (hbooks : (p.note c x).books = p.books.file o') :
    Steady registry { s with order := some o' } (p.note c x) where
  consistent := by
    apply h.consistent.file hbooks hfits
    intro stored hstored
    rw [hid, h.held o horder] at hstored
    cases hstored
    exact hprovider.symm
  held kept hkept := by
    cases hkept
    rw [hbooks]
    exact Function.update_self ..
  moved hmoved := by
    obtain ⟨moved, horder', _, happroved⟩ := h.moved hmoved
    rw [horder] at horder'
    cases horder'
    refine ⟨o', rfl, hopen hmoved, ?_⟩
    rw [hid, hprovider]
    exact happroved.mono (p.events_le c x)

theorem Steady.write (h : Steady registry s p) (hrev : Revises registry s p o o')
    (hbooks : (p.note c x).books = p.books.file o') :
    Steady registry { s with order := some o' } (p.note c x) := by
  have hfits : Fits registry p o' := (h.consistent.fits (h.held o hrev.order)).of_same
    hrev.toSameTies hrev.succeeded (fun hdrop => (hrev.dropped hdrop).2) hrev.awaiting
  apply h.file hrev.order hrev.id hrev.provider hfits _ hbooks
  intro hmoved hdrop
  simp [(hrev.dropped hdrop).1] at hmoved

theorem Safe.write (h : Safe registry s p) (hrev : Revises registry s p o o')
    (hbooks : (p.note c x).books = p.books.file o') :
    Safe registry { s with order := some o' } (p.note c x) where
  toSteady := h.toSteady.write hrev hbooks
  droppable hparked hretry hmoved kept hkept := by
    cases hkept
    have hdroppable := h.droppable hparked hretry hmoved o hrev.order
    exact (hdroppable.of_same hrev.toSameTies).note (by rw [hbooks]; rfl)

theorem Open.write (h : Open registry s p) (hrev : Revises registry s p o o')
    (hbooks : (p.note c x).books = p.books.file o') :
    Open registry { s with order := some o' } (p.note c x) where
  toUnmoved := ⟨h.toSteady.write hrev hbooks, h.unmoved⟩
  droppable kept hkept := by
    cases hkept
    exact ((h.droppable o hrev.order).of_same hrev.toSameTies).note (by rw [hbooks]; rfl)

/-- An order that stays as it is but for what ties it to nothing. -/
theorem Underway.keep (h : Underway registry s p) (horder : s.order = some o) (o' : Order)
    (hsame : o.SameTies o') (hstatus : o'.status = o.status)
    (hbooks : (p.note c x).books = p.books.file o') :
    Underway registry { s with order := some o' } (p.note c x) := by
  have hprocessing := hstatus.trans (h.processing o horder)
  have hrev : Revises registry s p o o' := .of_open horder hsame (by simp [hprocessing])
    (not_dropped_of_processing hprocessing) fun _ => hprocessing
  refine ⟨h.toOpen.write hrev hbooks, ?_⟩
  intro kept hkept
  cases hkept
  exact hprocessing

/-- A stored order that waits for a one-time password is processing. -/
theorem Unmoved.load (h : Unmoved registry s p) (key : OrderId)
    (ho : p.books.orders key = some o) (hawaiting : o.awaitingOtp = true) :
    Loaded registry { s with order := some o } p := by
  have hsteady : Steady registry { s with order := some o } p := by
    refine ⟨h.consistent, ?_, ?_⟩
    · intro kept hkept
      cases hkept
      rw [h.consistent.filed ho]
      exact ho
    · intro hmoved
      exact absurd hmoved h.not_moved
  refine ⟨⟨hsteady, h.unmoved⟩, ?_⟩
  intro kept hkept
  cases hkept
  exact (h.consistent.fits ho).awaiting hawaiting

/-- A new order is tied to nothing. -/
theorem Open.create (h : Open registry s p) (hnew : p.books.orders o.id = none)
    (hlink : o.transactionId = none) (hpending : o.status = .pending)
    (hawaiting : o.awaitingOtp = false) :
    Open registry { s with order := some o } (p.note (.orders (.create o)) (.ok o)) := by
  have hfits : Fits registry p o :=
    ⟨by simp [hlink], by simp [hpending], by simp [Order.Dropped, hpending], by simp [hawaiting]⟩
  have hsteady : Steady registry { s with order := some o }
      (p.note (.orders (.create o)) (.ok o)) := by
    refine ⟨h.consistent.file (Past.note_create p o o) hfits (by simp [hnew]), ?_, ?_⟩
    · intro kept hkept
      cases hkept
      exact Function.update_self ..
    · intro hmoved
      exact absurd hmoved h.not_moved
  refine ⟨⟨hsteady, h.unmoved⟩, ?_⟩
  intro kept hkept id t hid
  cases hkept
  rw [hlink] at hid
  cases hid

/-! ## Writing the record -/

/-- A new record is linked from nowhere. -/
theorem Underway.init (h : Underway registry s p) (hfresh : p.books.records t.id = none)
    (hopen : t.status ≠ .finish) :
    Underway registry s (p.note (.ledger (.init t)) (.ok t)) := by
  have hconsistent := h.consistent.enter (Past.note_init p t t) rfl (by simp [hfresh])
    fun hfinish => absurd hfinish hopen
  have hsteady : Steady registry s (p.note (.ledger (.init t)) (.ok t)) :=
    ⟨hconsistent, h.held, fun hmoved => absurd hmoved h.not_moved⟩
  refine ⟨⟨⟨hsteady, h.unmoved⟩, ?_⟩, h.processing⟩
  intro o ho id record hlink hrecord hfinish
  change Function.update p.books.records t.id (some t) id = some record at hrecord
  rw [Function.update_apply] at hrecord
  by_cases hid : id = t.id
  · simp only [hid, if_true, Option.some.injEq] at hrecord
    rw [← hrecord] at hfinish
    exact absurd hfinish hopen
  · rw [if_neg hid] at hrecord
    exact (h.droppable o ho id record hlink hrecord hfinish).mono (p.events_le _ _)

/-- The order is linked to its record. -/
theorem Underway.link {now : Timestamp} (h : Underway registry s p) (horder : s.order = some o)
    (ht : p.books.records id = some t) (hback : t.orderId = o.id) (hopen : t.status ≠ .finish) :
    Underway registry
      { s with order := some { o with transactionId := some id, updatedAt := now } }
      (p.note (.orders (.replace { o with transactionId := some id, updatedAt := now }))
        (.ok { o with transactionId := some id, updatedAt := now })) := by
  have hprocessing := h.processing o horder
  have hlive : ¬{ o with transactionId := some id, updatedAt := now : Order }.Dropped :=
    not_dropped_of_processing hprocessing
  have hfits : Fits registry p { o with transactionId := some id, updatedAt := now } := by
    refine ⟨?_, by simp [hprocessing], fun hdrop => absurd hdrop hlive, fun _ => hprocessing⟩
    intro id' hid
    cases hid
    exact ⟨t, ht, hback⟩
  refine ⟨⟨⟨h.toSteady.file horder rfl rfl hfits (fun _ => hlive) (Past.note_replace ..),
    h.unmoved⟩, ?_⟩, ?_⟩
  · intro kept hkept id' t' hid ht' hfinish
    cases hkept
    cases hid
    change p.books.records id = some t' at ht'
    rw [ht] at ht'
    cases ht'
    exact absurd hfinish hopen
  · intro kept hkept
    cases hkept
    exact hprocessing

theorem Steady.halt (h : Steady registry s p) (hbooks : (p.note c x).books = p.books.enter id t')
    (ht : p.books.records id = some t) (hhalts : t.Halts t') :
    Steady registry s (p.note c x) where
  consistent := h.consistent.halt hbooks ht hhalts
  held o ho := by
    rw [hbooks]
    exact h.held o ho
  moved hmoved := by
    obtain ⟨o, ho, hopen, happroved⟩ := h.moved hmoved
    exact ⟨o, ho, hopen, happroved.mono (p.events_le c x)⟩

theorem Safe.halt (h : Safe registry s p) (hbooks : (p.note c x).books = p.books.enter id t')
    (ht : p.books.records id = some t) (hhalts : t.Halts t') :
    Safe registry s (p.note c x) where
  toSteady := h.toSteady.halt hbooks ht hhalts
  droppable hparked hretry hmoved o ho :=
    (h.droppable hparked hretry hmoved o ho).halt hbooks hhalts

/-- Once the bank has moved the money the record may be confirmed. -/
theorem Safe.confirm {now : Timestamp} (h : Safe registry s p) (hmoved : s.bankSucceeded = true)
    (horder : s.order = some o) (hlink : o.transactionId = some id)
    (ht : p.books.records id = some t) (hconfirm : t.confirm now = .ok t') :
    Safe registry s (p.note (.ledger (.confirm id)) (.ok t')) ∧
      Finished (p.note (.ledger (.confirm id)) (.ok t')) o := by
  obtain ⟨moved, horder', hopen, happroved⟩ := h.moved hmoved
  rw [horder] at horder'
  cases horder'
  obtain ⟨hconsistent, hfinished⟩ :=
    h.consistent.confirm (h.held o horder) hlink hopen happroved ht hconfirm
  have hsteady : Steady registry s (p.note (.ledger (.confirm id)) (.ok t')) :=
    ⟨hconsistent, h.held, fun _ => ⟨o, horder, hopen, happroved.mono (p.events_le _ _)⟩⟩
  exact ⟨⟨hsteady, by simp [hmoved]⟩, hfinished⟩

end

end Wallet.Flow
