import Wallet.Proofs.Flow.Chain
import Wallet.Proofs.Flow.Effects
import Wallet.Proofs.Flow.Smooth
import Wallet.Proofs.Standing.Basic

/-!
# Stages of a flow

A flow attends to one order. `Begun`, `Drafted`, `Started`, `Registered`, `Replied` and `Charged` are
the stages on the way, and `Stopped` says what may be left to undo. Whatever is left, undoing it
leaves the order standing in some way.
-/

namespace Wallet.Flow

section

variable (registry : ClassifierRegistry) (s : FlowState) (g : Past)

/-- The flow has no order yet. -/
structure Begun : Prop where
  orderly : Orderly registry none g
  order : s.order = none
  exposed : spared s = false
  unmoved : s.bankSucceeded = false
  settled : s.awaitingOtp = false

/-- The flow attends to an order whose money the bank has not moved, and which no flag spares from
being undone. -/
structure Unpaid (o : Order) : Prop where
  orderly : Orderly registry (some o.id) g
  order : s.order = some o
  stored : g.books.orders o.id = some o
  exposed : spared s = false
  unmoved : s.bankSucceeded = false
  unpaid : ¬Paid registry g.events o

/-- The order was created. -/
structure Drafted (o : Order) : Prop extends Unpaid registry s g o where
  settled : s.awaitingOtp = false
  pending : o.status = .pending
  unlinked : o.transactionId = none

/-- The order is processing. -/
structure Started (o : Order) : Prop extends Unpaid registry s g o where
  settled : s.awaitingOtp = false
  processing : o.status = .processing
  unlinked : o.transactionId = none

/-- The order is linked to its record. -/
structure Registered (o : Order) (id : TransactionId) (t : Transaction) : Prop extends
    Unpaid registry s g o, Engaged s g o id t where
  initial : t.state = .initial

/-- The bank was asked to move the money and has answered. If it has moved the money, this answer
says so. -/
structure Replied (response : ProviderResponse) (o : Order) (id : TransactionId) (t : Transaction) :
    Prop extends Engaged s g o id t where
  orderly : Orderly registry (some o.id) g
  exposed : spared s = false
  settled : s.awaitingOtp = false
  initial : t.state = .initial
  answered : Paid registry g.events o → registry.classify o.provider response.code = .success

/-- The bank has moved the money of the order, whose record is such that `P`. -/
structure Moved (P : Transaction → Prop) (o : Order) (id : TransactionId) (t : Transaction) : Prop
    extends Engaged s g o id t where
  orderly : Orderly registry (some o.id) g
  exposed : spared s = false
  moved : s.bankSucceeded = true
  record_is : P t

/-- The bank was asked, and either it has moved the money or a one-time password is awaited. -/
inductive Charged (P : Transaction → Prop) : Prop where
  | moved {o : Order} {id : TransactionId} {t : Transaction} : Moved registry s g P o id t →
      s.awaitingOtp = false → Charged P
  | awaiting {o : Order} {id : TransactionId} {t : Transaction} : Registered registry s g o id t →
      s.awaitingOtp = true → o.awaitingOtp = true → Charged P

/-- The flow has stopped. Either there is nothing left to undo, or the order has to be completed, or
it has to be withdrawn, and then its record is such that `P`. -/
inductive Stopped (P : Books → Order → Prop) : Prop where
  | spared : Orderly registry none g → spared s = true → Stopped P
  | moved {o : Order} {id : TransactionId} {t : Transaction} :
      Moved registry s g (fun t => t.state = .initial ∨ t.status = .finish) o id t → Stopped P
  | unpaid {o : Order} : Unpaid registry s g o → o.status = .pending ∨ o.status = .processing →
      P g.books o → Stopped P

end

/-- The record of the order, if there is one, can still be cancelled. -/
def Cancellable (b : Books) (o : Order) : Prop :=
  o.transactionId = none ∨ b.Linked o fun t => t.state = .initial

/-- The record of the order, if there is one, was cancelled. -/
def Cancelled (b : Books) (o : Order) : Prop :=
  o.transactionId = none ∨ b.Linked o fun t => t.status = .failed

section

variable {registry : ClassifierRegistry} {s s' : FlowState} {g : Past} {o o' : Order}
  {id : TransactionId} {t : Transaction} {c : Call} {x : c.Answer} {P : Books → Order → Prop}
  {R : Transaction → Prop}

/-! ## The stages -/

/-- What else the flow keeps does not matter. -/
theorem Unpaid.of_same (h : Unpaid registry s g o) (horder : s'.order = s.order)
    (hspared : spared s' = spared s) (hunmoved : s'.bankSucceeded = s.bankSucceeded) :
    Unpaid registry s' g o :=
  ⟨h.orderly, horder.trans h.order, h.stored, hspared.trans h.exposed, hunmoved.trans h.unmoved,
    h.unpaid⟩

theorem Moved.of_same (h : Moved registry s g R o id t) (horder : s'.order = s.order)
    (hspared : spared s' = spared s) (hmoved : s'.bankSucceeded = s.bankSucceeded) :
    Moved registry s' g R o id t :=
  ⟨⟨horder.trans h.order, h.stored, h.processing, h.link, h.record⟩, h.orderly,
    hspared.trans h.exposed, hmoved.trans h.moved, h.record_is⟩

theorem Stopped.reason (h : Stopped registry s g P) (reason : Option String) :
    Stopped registry { s with failureReason := reason } g P := by
  cases h with
  | spared horderly hspared => exact .spared horderly hspared
  | moved h => exact .moved (h.of_same rfl rfl rfl)
  | unpaid h hopen hP => exact .unpaid (h.of_same rfl rfl rfl) hopen hP

/-- A new order is filed. -/
theorem Begun.create (h : Begun registry s g) (hnew : g.books.orders o.id = none)
    (hpending : o.status = .pending) (hunlinked : o.transactionId = none)
    (hsettled : o.awaitingOtp = false) :
    Drafted registry { s with order := some o } (g.note (.orders (.create o)) (.ok o)) o where
  orderly := (h.orderly.attend o.id).file (Past.note_create ..) (by simp) (by simp [hsettled])
    (by simp [hunlinked])
  order := rfl
  stored := Books.file_self ..
  exposed := h.exposed
  unmoved := h.unmoved
  unpaid hpaid := by
    -- the bank was never asked about an order that is new
    obtain ⟨r, response, hmem, _, hid, _⟩ := hpaid.of_note (by simp)
    obtain ⟨stored, hstored⟩ := h.orderly.asked hmem
    rw [hid, hnew] at hstored
    cases hstored
  settled := h.settled
  pending := hpending
  unlinked := hunlinked

theorem Registered.processing' (h : Registered registry s g o id t) : t.status = .processing :=
  h.orderly.initial h.record h.initial

theorem Drafted.stands (h : Drafted registry s g o) : Orderly registry none g :=
  h.orderly.dismiss h.stored ⟨.opened, h.pending, h.unlinked⟩ fun hpaid => absurd hpaid h.unpaid

theorem Started.stopped (h : Started registry s g o) (hP : o.transactionId = none → P g.books o) :
    Stopped registry s g P :=
  .unpaid h.toUnpaid (.inr h.processing) (hP h.unlinked)

theorem Registered.stopped (h : Registered registry s g o id t) :
    Stopped registry s g Cancellable :=
  .unpaid h.toUnpaid (.inr h.processing) (.inr ⟨id, t, h.link, h.record, h.initial⟩)

theorem Charged.stopped (h : Charged registry s g R)
    (hR : ∀ t, R t → t.state = .initial ∨ t.status = .finish) :
    Stopped registry s g Cancellable := by
  cases h with
  | moved h _ => exact .moved ⟨h.toEngaged, h.orderly, h.exposed, h.moved, hR _ h.record_is⟩
  | awaiting h _ _ => exact h.stopped

/-- A version of the order in which it is still not paid is written. -/
theorem Unpaid.write (h : Unpaid registry s g o) (hsame : o.SameTies o')
    (hbooks : (g.note c x).books = g.books.file o') (hc : ∀ r, c ≠ .bank r)
    (hawaits : o'.awaitingOtp = true → o'.status = .processing) :
    Unpaid registry { s with order := some o' } (g.note c x) o' where
  orderly := h.orderly.refile h.stored hsame hbooks hc hawaits
  order := rfl
  stored := by
    rw [hbooks]
    exact Books.file_self ..
  exposed := h.exposed
  unmoved := h.unmoved
  unpaid hpaid := h.unpaid ((hpaid.of_note hc).of_same hsame.id hsame.provider)

/-- A version of the order that keeps its status and its record is written. -/
theorem Registered.write (h : Registered registry s g o id t) (hsame : o.SameTies o')
    (hstatus : o'.status = o.status) (hbooks : (g.note c x).books = g.books.file o')
    (hc : ∀ r, c ≠ .bank r) :
    Registered registry { s with order := some o' } (g.note c x) o' id t where
  toUnpaid := h.toUnpaid.write hsame hbooks hc fun _ => hstatus.trans h.processing
  processing := hstatus.trans h.processing
  link := hsame.link.trans h.link
  record := by
    rw [hbooks]
    exact h.record
  initial := h.initial

/-! ## Parking -/

/-- A parked order is verifying, and its record is pending. -/
theorem park_stands {reason : String} (h : Registered registry s g o id t) :
    Reaches .ordinary (park reason) s g (Either (fun _ _ => False) fun s g =>
      Orderly registry none g ∧ spared s = true) := by
  have hcan : t.status.canTransitionTo .pending = true := by
    rw [h.processing']
    rfl
  refine park_effect Faults.ordinary_inReach h.toEngaged hcan fun held now => ⟨?_, rfl⟩
  have hheld := h.orderly.resolve h.stored h.link h.record
    (Past.note_setPending g id (t.resolved .pending held)) (by simp) rfl rfl rfl
  refine hheld.conclude (k := .verifying) (o.parked reason now) h.stored ⟨rfl, rfl, rfl⟩
    (Past.note_replace ..) (by simp) nofun ⟨rfl, id, t.resolved .pending held, h.link, ?_, rfl⟩ ?_
  · exact Books.enter_self ..
  · exact fun hpaid => absurd (hpaid.of_note (by simp)) h.unpaid

/-! ## Undoing -/

/-- Completing an order whose money the bank has moved. -/
theorem completeOrder_stands
    (h : Moved registry s g (fun t => t.state = .initial ∨ t.status = .finish) o id t) :
    Reaches .ordinary completeOrder s g fun _ _ g => Orderly registry none g := by
  by_cases hfinish : t.status = .finish
  · refine completeOrder_finished Faults.ordinary_inReach h.toEngaged hfinish fun now => ?_
    exact h.orderly.conclude (k := .succeeded) (o.succeeded now) h.stored ⟨rfl, rfl, rfl⟩
      (Past.note_replace ..) (by simp) nofun ⟨rfl, id, t, h.link, h.record, hfinish⟩ fun _ => rfl
  · have hprocessing : t.status = .processing := by
      rcases h.record_is with hinitial | hdone
      · exact h.orderly.initial h.record hinitial
      · exact absurd hdone hfinish
    have hcan : t.status.canTransitionTo .finish = true := by
      rw [hprocessing]
      rfl
    refine completeOrder_confirmed Faults.ordinary_inReach h.toEngaged hcan fun confirmed now => ?_
    have hconfirmed := h.orderly.resolve h.stored h.link h.record
      (Past.note_confirm g id (t.resolved .finish confirmed)) (by simp) rfl rfl rfl
    refine hconfirmed.conclude (k := .succeeded) (o.succeeded now) h.stored ⟨rfl, rfl, rfl⟩
      (Past.note_replace ..) (by simp) nofun ⟨rfl, id, t.resolved .finish confirmed, h.link, ?_, rfl⟩
      fun _ => rfl
    exact Books.enter_self ..

/-- A record that can still be cancelled is. -/
theorem cancelIfInitial_stopped (h : Unpaid registry s g o)
    (hopen : o.status = .pending ∨ o.status = .processing) (hid : o.transactionId = some id)
    (ht : g.books.records id = some t) (hinitial : t.state = .initial) :
    Reaches .ordinary (cancelIfInitial id) s g fun r s g =>
      r = .ok () ∧ Stopped registry s g Cancelled := by
  refine cancelIfInitial_cancels Faults.ordinary_inReach ht hinitial (h.orderly.initial ht hinitial)
    fun now => ⟨rfl, ?_⟩
  have hcancelled := h.orderly.resolve h.stored hid ht
    (Past.note_cancel g id s.rollbackReason (t.cancelled s.rollbackReason now)) (by simp) rfl rfl rfl
  refine .unpaid ⟨hcancelled, h.order, h.stored, h.exposed, h.unmoved, ?_⟩ hopen (.inr ?_)
  · exact fun hpaid => h.unpaid (hpaid.of_note (by simp))
  · exact ⟨id, t.cancelled s.rollbackReason now, hid, Books.enter_self .., rfl⟩

theorem Unpaid.transactionId? (h : Unpaid registry s g o) : s.transactionId? = o.transactionId := by
  simp [FlowState.transactionId?, h.order]

theorem cancelLedger_stopped (h : Stopped registry s g Cancellable) :
    Reaches .ordinary cancelLedger s g fun _ s g => Stopped registry s g Cancelled := by
  cases h with
  | spared horderly hspared => exact cancelLedger_spared (.inl hspared) (.spared horderly hspared)
  | moved h => exact cancelLedger_spared (.inr h.moved) (.moved h)
  | unpaid h hopen hlinked =>
      rcases hlinked with hunlinked | ⟨id, t, hid, ht, hinitial⟩
      · exact cancelLedger_unlinked (h.transactionId?.trans hunlinked)
          (.unpaid h hopen (.inl hunlinked))
      · refine cancelLedger_cancels h.exposed h.unmoved (h.transactionId?.trans hid) ?_
        exact (cancelIfInitial_stopped h hopen hid ht hinitial).mono fun _ _ _ hstopped => hstopped.2

/-- Calls to the promotion service change nothing that matters here. -/
theorem Stopped.promote {r : Promotion.Request} {x : Except ServiceError r.Result}
    (h : Stopped registry s g P) (hP : ∀ o, P g.books o → P (g.note (.promotion r) x).books o) :
    Stopped registry s (g.note (.promotion r) x) P := by
  cases h with
  | spared horderly hspared => exact .spared horderly.promote hspared
  | moved h =>
      exact .moved ⟨⟨h.order, h.stored, h.processing, h.link, h.record⟩, h.orderly.promote,
        h.exposed, h.moved, h.record_is⟩
  | unpaid h hopen hlinked =>
      refine .unpaid ⟨h.orderly.promote, h.order, h.stored, h.exposed, h.unmoved, ?_⟩ hopen
        (hP _ hlinked)
      exact fun hpaid => h.unpaid (hpaid.of_note (by simp))

theorem reverseVoucher_stopped (h : Stopped registry s g Cancelled) :
    Reaches .ordinary reverseVoucher s g fun _ s g => Stopped registry s g Cancelled := by
  unfold reverseVoucher
  simp only [reaches_bind, reaches_get]
  split
  · exact h
  cases s.order with
  | none => exact h
  | some order =>
      simp only [reaches_reverse]
      exact ⟨fun _ _ => h, h.promote fun _ hlinked => hlinked⟩

/-- Withdrawing an order whose record was cancelled. -/
theorem Unpaid.withdraw {reason : String} {now : Timestamp} (h : Unpaid registry s g o)
    (hcancelled : Cancelled g.books o) :
    Orderly registry none (g.note (.orders (.replace (o.withdrawn reason now)))
      (.ok (o.withdrawn reason now))) :=
  h.orderly.conclude (k := .failed) (o.withdrawn reason now) h.stored ⟨rfl, rfl, rfl⟩
    (Past.note_replace ..) (by simp) nofun ⟨rfl, hcancelled⟩ fun hpaid => absurd hpaid h.unpaid

theorem failOrder_stands (h : Stopped registry s g Cancelled) :
    Reaches .ordinary failOrder s g fun _ _ g => Orderly registry none g := by
  cases h with
  | spared horderly hspared => exact failOrder_spared hspared horderly
  | moved h => exact failOrder_completes h.exposed h.moved (completeOrder_stands h)
  | unpaid h hopen hcancelled =>
      exact failOrder_withdraws Faults.ordinary_inReach h.exposed h.unmoved h.order h.stored hopen
        fun _ => h.withdraw hcancelled

theorem abortOtp_stands (h : Stopped registry s g Cancellable) :
    Reaches .ordinary abortOtp s g fun _ _ g => Orderly registry none g := by
  cases h with
  | spared horderly hspared => exact abortOtp_spared hspared horderly
  | moved h => exact abortOtp_completes h.exposed h.moved (completeOrder_stands h)
  | unpaid h hopen hlinked =>
      rcases hlinked with hunlinked | ⟨id, t, hid, ht, hinitial⟩
      · exact abortOtp_unlinked h.exposed h.unmoved (h.transactionId?.trans hunlinked)
          (failOrder_stands (.unpaid h hopen (.inl hunlinked)))
      · refine abortOtp_withdraws h.exposed h.unmoved (h.transactionId?.trans hid) ?_
        apply (cancelIfInitial_stopped h hopen hid ht hinitial).mono
        rintro r s g ⟨rfl, hstopped⟩
        exact failOrder_stands hstopped

end

end Wallet.Flow
