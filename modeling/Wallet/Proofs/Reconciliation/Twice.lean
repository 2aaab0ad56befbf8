import Wallet.Proofs.Reconciliation.Evidence
import Wallet.Proofs.Reconciliation.Footprint

/-!
# Orders that are reconciled twice

Two sweeps may list the same copy of an order and reconcile it one after the other, and the bank may
tell them different things. Once the first has resolved the order, its record is at rest: it is final,
in the status that goes with that of the order (`Ending.Rests`). Whoever decides about the copy then
finds nothing left to ask of the ledger, and comes to the same status again (`Considered.repeats`). So
the second changes no status and no record, and it does not contradict the first (`second_harmless`).
-/

namespace Wallet

/-- A record may be cancelled exactly while it is being processed. -/
def Transaction.Coherent (t : Transaction) : Prop := t.state = .initial ↔ t.status = .processing

/-- The record of an order, if it has one, is final and goes with the ending of the order. An order
without a record can only fail. -/
def Ending.Rests (ending : Ending) : Option Transaction → Prop
  | none => ending.status = .failed
  | some t => t.state = .resolved ∧ t.status = ending.recordStatus

namespace Ending

/-- A record that is at rest tells how the order has ended. -/
theorem Rests.cases {ending : Ending} {t : Transaction} (h : ending.Rests (some t)) :
    t.state = .resolved ∧ (t.status = .finish ∧ ending.status = .success ∨
      t.status = .failed ∧ ending.status = .failed) := by
  obtain ⟨hstate, hstatus⟩ := h
  refine ⟨hstate, ?_⟩
  rw [hstatus]
  cases ending with
  | settled success reason =>
      cases success with
      | true => exact .inl ⟨rfl, rfl⟩
      | false => exact .inr ⟨rfl, rfl⟩
  | finished => exact .inl ⟨rfl, rfl⟩
  | expired => exact .inr ⟨rfl, rfl⟩

end Ending

/-- Nothing is left to ask of the ledger, and the order comes to its status again. -/
structure Decision.Repeats (d : Decision) (status : OrderStatus) : Prop where
  request : d.request = none
  status : d.ending.status = status

namespace Transaction.Coherent

variable {t : Transaction}

theorem isCancellable (h : t.Coherent) : t.isCancellable = decide (t.status = .processing) := by
  unfold Transaction.isCancellable
  rw [Bool.eq_iff_iff, beq_iff_eq, decide_eq_true_eq]
  exact h

theorem resolved (h : t.Coherent) (hstatus : t.status ≠ .processing) : t.state = .resolved := by
  cases hstate : t.state with
  | initial => exact absurd (h.mp hstate) hstatus
  | resolved => rfl

end Transaction.Coherent

namespace Reconciler

variable {r : Reconciler} {o : Order} {g g₁ after : Past} {record : Option Transaction} {d : Decision}
  {x : Except ServiceError Resolution} {ending : Ending}

/-! ## What the first leaves -/

/-- Where the ledger need not be asked, the record is at rest already. -/
theorem lapsed_rests (hcoherent : ∀ t, record = some t → t.Coherent)
    (hfree : record.any (·.status == .pending) = false) (h : (r.lapsed record).request = none) :
    (r.lapsed record).ending.Rests record := by
  cases record with
  | none => rfl
  | some t =>
      have ht := hcoherent t rfl
      cases hstatus : t.status with
      | pending => simp [hstatus] at hfree
      | processing => simp [lapsed, hstatus, ht.isCancellable] at h
      | finish =>
          simp only [lapsed, hstatus]
          exact ⟨ht.resolved (by simp [hstatus]), hstatus⟩
      | failed =>
          simp only [lapsed, hstatus]
          exact ⟨ht.resolved (by simp [hstatus]), hstatus⟩

theorem answered_rests {reason : String} {kind : OutcomeKind}
    (hcoherent : ∀ t, record = some t → t.Coherent) (hd : answered record reason kind = some d)
    (h : d.request = none) : d.ending.Rests record := by
  unfold answered at hd
  cases kind with
  | pending => cases hd
  | success =>
      cases record with
      | none => cases hd
      | some t =>
          simp only [Option.bind_some] at hd
          cases hstatus : t.status <;> rw [hstatus] at hd <;> cases hd
          · cases h
          · cases h
          · exact ⟨(hcoherent t rfl).resolved (by simp [hstatus]), hstatus⟩
  | failure | needsAuth =>
      cases record with
      | none =>
          cases hd
          rfl
      | some t =>
          simp only at hd
          cases hstatus : t.status <;> rw [hstatus] at hd <;> cases hd
          · cases h
          · cases h
          · exact ⟨(hcoherent t rfl).resolved (by simp [hstatus]), hstatus⟩

theorem Considered.rests (hcoherent : ∀ id t, g.books.records id = some t → t.Coherent)
    (h : Considered r o g (.ok (some d)) g₁) : ∃ record,
      recordFor g.books.records o = some record ∧ d.Suits record ∧
        (d.request = none → d.ending.Rests record) := by
  generalize hx : Except.ok (some d) = x at h
  cases h with
  | lapsed _ hrecord hneedless =>
      cases hx
      simp only [mustAsk, Bool.or_eq_false_iff] at hneedless
      exact ⟨_, hrecord, lapsed_suits, lapsed_rests (forall_recordFor hcoherent hrecord) hneedless.2⟩
  | answered _ hrecord _ =>
      have hd := (Except.ok.inj hx).symm
      exact ⟨_, hrecord, answered_suits hd, answered_rests (forall_recordFor hcoherent hrecord) hd⟩
  | _ => cases hx

/-- Deciding does not change what is stored. -/
theorem Considered.books {y : Except ServiceError (Option Decision)} (h : Considered r o g y g₁) :
    g₁.books = g.books := by
  cases h <;> rfl

/-- The record that the ledger was asked to move is at rest afterwards. -/
theorem Moved.rests (hfiled : ∀ id t, g.books.records id = some t → t.id = id)
    (hrecord : recordFor g.books.records o = some record) (hsuits : d.Suits record)
    (hrests : d.request = none → d.ending.Rests record) (h : Moved d g g₁) :
    ∃ record', recordFor g₁.books.records o = some record' ∧ d.ending.Rests record' := by
  cases h with
  | nothing hnone => exact ⟨record, hrecord, hrests hnone⟩
  | @moved request id t t' now hrequest hmoves ht hmoved =>
      obtain ⟨read, rfl, hread, hbrings⟩ := hsuits request hrequest
      obtain ⟨hstatus, hstate⟩ := hbrings now t t' hmoved
      refine ⟨some t', ?_, hstate, hstatus⟩
      unfold recordFor at hrecord ⊢
      cases hlink : o.transactionId with
      | none => simp [hlink] at hrecord
      | some key =>
          have hkey : read.id = key := hfiled key read (by simpa [hlink] using hrecord)
          have hid : id = key := Option.some.inj (hmoves.symm.trans (hkey ▸ hread))
          simp [Past.note_moved hmoves, hid, Books.enter_self]

/-- Once an order is reported to be resolved it is stored with the status of its ending, and its record
is at rest. -/
theorem Course.rests {resolution : Resolution}
    (hfiled : ∀ id t, g.books.records id = some t → t.id = id)
    (hcoherent : ∀ id t, g.books.records id = some t → t.Coherent)
    (h : Course r o g (.ok resolution) after) (hresolved : resolution ≠ .skipped) :
    ∃ ending : Ending, resolution = ending.resolution ∧
      (after.books.orders o.id).map Order.status = some ending.status ∧
      ∃ record, recordFor after.books.records o = some record ∧ ending.Rests record := by
  cases h with
  | undecided _ _ hunreported => exact absurd (hunreported _ rfl) hresolved
  | @decided d _ g₁ _ hconsidered hcarried =>
      obtain ⟨record, hrecord, hsuits, hrests⟩ := hconsidered.rests hcoherent
      generalize hx : Except.ok resolution = x at hcarried
      cases hcarried with
      | refused e => cases hx
      | unwritten _ hunreported =>
          cases hx
          exact absurd (hunreported _ rfl) hresolved
      | @written o' stored g₂ hmoved hresolves hstatus _ _ =>
          cases hx
          rw [← hconsidered.books] at hfiled hrecord
          obtain ⟨record', hrecord', hrests'⟩ := hmoved.rests hfiled hrecord hsuits hrests
          refine ⟨d.ending, rfl, ?_, record', hrecord', hrests'⟩
          rw [Past.note_replace, ← hresolves.ties.1, Books.file_self]
          exact congrArg some hstatus

/-! ## What the second finds -/

theorem lapsed_repeats (h : ending.Rests record) : (r.lapsed record).Repeats ending.status := by
  cases record with
  | none => exact ⟨rfl, h.symm⟩
  | some t =>
      obtain ⟨hstate, ⟨hstatus, hending⟩ | ⟨hstatus, hending⟩⟩ := h.cases
      · simp only [lapsed, hstatus]
        exact ⟨rfl, hending.symm⟩
      · simp only [lapsed, hstatus, Transaction.isCancellable, hstate]
        exact ⟨rfl, hending.symm⟩

theorem answered_repeats {reason : String} {kind : OutcomeKind} (h : ending.Rests record)
    (hd : answered record reason kind = some d) : d.Repeats ending.status := by
  unfold answered at hd
  cases record with
  | none =>
      cases kind with
      | pending | success => cases hd
      | failure | needsAuth =>
          cases hd
          exact ⟨rfl, h.symm⟩
  | some t =>
      obtain ⟨_, ⟨hstatus, hending⟩ | ⟨hstatus, hending⟩⟩ := h.cases
      -- a finished record goes with success only, and a failed one with failure only
      · cases kind with
        | success =>
            simp only [Option.bind_some, hstatus] at hd
            cases hd
            exact ⟨rfl, hending.symm⟩
        | pending | failure | needsAuth => simp [hstatus] at hd
      · cases kind with
        | failure | needsAuth =>
            simp only [hstatus] at hd
            cases hd
            exact ⟨rfl, hending.symm⟩
        | pending | success => simp [hstatus] at hd

theorem Considered.repeats (hrecord : recordFor g.books.records o = some record)
    (hrests : ending.Rests record) (h : Considered r o g (.ok (some d)) g₁) :
    d.Repeats ending.status := by
  generalize hx : Except.ok (some d) = x at h
  cases h with
  | lapsed _ hread _ =>
      cases hx
      cases hrecord.symm.trans hread
      exact lapsed_repeats hrests
  | answered _ hread _ =>
      cases hrecord.symm.trans hread
      exact answered_repeats hrests (Except.ok.inj hx).symm
  | _ => cases hx

/-- Nothing is changed but the order, which keeps its status, and nobody is told otherwise. -/
structure Harmless (status : OrderStatus) (g : Past) (x : Except ServiceError Resolution)
    (after : Past) : Prop where
  unentered : ∃ events, after.events = g.events ++ events ∧ ∀ e ∈ events, e.entered? = none
  statuses : ∀ key, (after.books.orders key).map Order.status =
    (g.books.orders key).map Order.status
  agrees : ∀ resolution, x = .ok resolution →
    resolution = .skipped ∨ resolution.status? = some status

theorem Considered.harmless {status : OrderStatus} {y : Except ServiceError (Option Decision)}
    (hunreported : Unreported x) (h : Considered r o g y g₁) : Harmless status g x g₁ := by
  obtain ⟨events, _, hevents, hconsulted⟩ := h.consulted
  exact ⟨⟨events, hevents, fun e he => (hconsulted.idle e he).2⟩, fun _ => by rw [h.books],
    fun resolution hx => .inl (hunreported resolution hx)⟩

/-- On a record at rest the work on the order is harmless. -/
theorem Course.harmless (hstored : (g.books.orders o.id).map Order.status = some ending.status)
    (hrecord : recordFor g.books.records o = some record) (hrests : ending.Rests record)
    (h : Course r o g x after) : Harmless ending.status g x after := by
  cases h with
  | undecided hconsidered _ hunreported => exact hconsidered.harmless hunreported
  | @decided d _ g₁ _ hconsidered hcarried =>
      obtain ⟨hnone, hstatus⟩ := hconsidered.repeats hrecord hrests
      cases hcarried with
      | refused e => exact hconsidered.harmless (unreported_error e)
      | unwritten hmoved hunreported =>
          cases hmoved.unmoved hnone
          exact hconsidered.harmless hunreported
      | @written o' stored g₂ hmoved hresolves hstatus' _ _ =>
          cases hmoved.unmoved hnone
          have hkept : Harmless ending.status g (.ok .skipped) g₁ :=
            hconsidered.harmless unreported_skipped
          obtain ⟨events, hevents, hentered⟩ := hkept.unentered
          refine ⟨⟨events ++ [⟨.orders (.replace o'), .ok o'⟩], by simp [hevents], ?_⟩, fun key => ?_,
            fun resolution hx => .inr ?_⟩
          · intro e he
            rcases List.mem_append.mp he with he | he
            · exact hentered e he
            · cases List.mem_singleton.mp he
              rfl
          · rw [Past.note_replace, ← hkept.statuses key]
            by_cases hkey : key = o'.id
            · rw [hkey, Books.file_self, Option.map_some, hresolves.ties.1, hconsidered.books, hstored,
                hstatus', hstatus]
            · rw [Books.file_of_ne _ _ hkey]
          · cases hx
            rw [d.ending.status?_resolution, hstatus]

/-! ## One after the other -/

/-- **The second does no harm.** Whatever copy of an order two sweeps have listed, and whatever the
ledger holds, as long as its records may be cancelled exactly while they are being processed: if the
first reconciles the copy and reports that the order is resolved, then the second, whatever the bank
tells it and whichever of its calls are refused, changes neither the status of any stored order nor any
record, and confirms and cancels nothing. It skips the order or reports the status that is stored. -/
theorem second_harmless {r r' : Reconciler} {o : Order} {w w₁ w₂ : World} {resolution : Resolution}
    {x : Except ServiceError Resolution} (hfiled : w.services.ledger.Filed)
    (hcoherent : ∀ id t, w.services.ledger.get? id = some t → t.Coherent)
    (hfirst : (r.reconcile o).run.Yields w (.ok resolution) w₁) (hresolved : resolution ≠ .skipped)
    (hsecond : (r'.reconcile o).run.Yields w₁ x w₂) :
    (∀ key, (w₂.services.orders.get? key).map Order.status =
        (w₁.services.orders.get? key).map Order.status) ∧
      w₂.services.ledger.content = w₁.services.ledger.content ∧
      (w₁.services.orders.get? o.id).map Order.status = resolution.status? ∧
      ∀ again, x = .ok again → again = .skipped ∨ again.status? = resolution.status? := by
  obtain ⟨ending, rfl, hstored, record, hrecord, hrests⟩ :=
    (course_of_yields hfirst).rests (fun _ _ ht => hfiled ht) hcoherent hresolved
  obtain ⟨⟨events, hevents, hentered⟩, hstatuses, hagrees⟩ :=
    (course_of_yields hsecond).harmless hstored hrecord hrests
  obtain ⟨later, hhistory, _, hledger⟩ := Program.stores_of_yields hsecond
  rw [ending.status?_resolution]
  exact ⟨hstatuses, hledger (unentered_later (counted_later hhistory hevents) hentered), hstored,
    hagrees⟩

theorem parkedWorld_record {id : TransactionId} {t : Transaction}
    (h : parkedWorld.services.ledger.get? id = some t) : id = parkedRecord.id ∧ t = parkedRecord := by
  have hput : parkedWorld.services.ledger.get? id =
      if id = parkedRecord.id then some parkedRecord else none := Table.get?_put _ _ _ _
  rw [hput] at h
  split at h
  · next hid => exact ⟨hid, (Option.some.inj h).symm⟩
  · cases h

theorem parkedWorld_filed : parkedWorld.services.ledger.Filed := by
  intro id t ht
  obtain ⟨rfl, rfl⟩ := parkedWorld_record ht
  rfl

theorem parkedWorld_coherent (id : TransactionId) (t : Transaction)
    (ht : parkedWorld.services.ledger.get? id = some t) : t.Coherent := by
  obtain ⟨_, rfl⟩ := parkedWorld_record ht
  simp [Transaction.Coherent, parkedRecord]

/-- What comes of reconciling the order, with the world that is left. -/
def reconciled (code : String) (w : World) : Option (Except ServiceError Resolution × World) :=
  (reconcile ⟨.standard, .standard⟩ parkedOrder).run.follow (List.replicate 20 (.fair code)) w

/-- The bank tells the first sweep that the order was paid and the second that it was not: the second
leaves it as it is. -/
theorem second_harmless_parked : ∃ x w₁ y w₂, reconciled "200" parkedWorld = some (x, w₁) ∧
    reconciled "400" w₁ = some (y, w₂) ∧ x.toOption = some .succeeded ∧ y.toOption = some .skipped ∧
      (∀ key, (w₂.services.orders.get? key).map Order.status =
        (w₁.services.orders.get? key).map Order.status) ∧
      w₂.services.ledger.content = w₁.services.ledger.content := by
  have hcheck : (reconciled "200" parkedWorld).any (fun a =>
      decide (a.1.toOption = some .succeeded) &&
        (reconciled "400" a.2).any fun b => decide (b.1.toOption = some .skipped)) = true := by
    decide +kernel
  obtain ⟨⟨x, w₁⟩, hfirst, hw⟩ := (Option.any_eq_true _ _).mp hcheck
  rw [Bool.and_eq_true, decide_eq_true_eq] at hw
  obtain ⟨⟨y, w₂⟩, hsecond, hy⟩ := (Option.any_eq_true _ _).mp hw.2
  have hx : x = .ok .succeeded := by
    rcases x with e | resolution
    · cases hw.1
    · exact congrArg Except.ok (Option.some.inj hw.1)
  obtain ⟨hstatuses, hcontent, _⟩ := second_harmless parkedWorld_filed parkedWorld_coherent
    (Program.yields_of_follow (hx ▸ hfirst)) (by decide) (Program.yields_of_follow hsecond)
  exact ⟨x, w₁, y, w₂, hfirst, hsecond, hw.1, of_decide_eq_true hy, hstatuses, hcontent⟩

end Reconciler

end Wallet
