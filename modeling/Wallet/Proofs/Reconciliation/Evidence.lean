import Wallet.Proofs.Reconciliation.Decision
import Wallet.Proofs.World.Kept
import Wallet.Proofs.World.Tally

/-!
# Orders are settled on evidence

The work on an order asks the bank at most once, and before anything is changed. If the bank cannot
say what has become of the order nothing is changed at all. So an order whose outcome only the bank
knows is never settled without a definite answer (`settled_on_evidence`).
-/

namespace Wallet.Reconciler

/-- The bank was not reached, or it does not know what has become of the order. -/
def Unknowing (r : Reconciler) (o : Order) : Except ServiceError ProviderResponse → Prop
  | .error _ => True
  | .ok response => r.classifiers.classify o.provider response.code = .verifying

/-- Only the bank knows what has become of the order: it is being verified and the bank has not been
asked since, or its record is on hold. -/
def Doubtful (o : Order) (records : TransactionId → Option Transaction) : Prop :=
  (o.isVerifying = true ∧ o.isRetrieved = false) ∨
    (o.isUnresolved = true ∧ ∃ id t, o.transactionId = some id ∧ records id = some t ∧
      t.status = .pending)

section

variable {r : Reconciler} {o : Order} {g g₁ after : Past} {d : Decision}
  {x : Except ServiceError Resolution} {response : ProviderResponse}

theorem unknowing_ok : Unknowing r o (.ok response) ↔ r.meaning o response = .pending := by
  simp only [Unknowing, meaning]
  cases r.classifiers.classify o.provider response.code <;> simp [Outcome.kind]

theorem Doubtful.mustAsk {records : TransactionId → Option Transaction} (h : Doubtful o records)
    {record : Option Transaction} (hrecord : recordFor records o = some record) :
    r.mustAsk o record = true := by
  unfold Reconciler.mustAsk
  rw [Bool.or_eq_true]
  rcases h with ⟨hverifying, hretrieved⟩ | ⟨_, id, t, hid, ht, hpending⟩
  · left
    simp [asksFirst, ReconciliationConfig.requiresRetrieval, hverifying, hretrieved]
  · right
    simp only [recordFor, hid, ht, Option.map_some, Option.some.injEq] at hrecord
    simp [← hrecord, hpending]

/-! ## What each part adds to the past -/

/-- Events that neither file an order nor enter a record. -/
def Idle (events : List Event) : Prop := ∀ e ∈ events, e.filed? = none ∧ e.entered? = none

/-- Deciding adds to the past what the bank was asked, if it was. A decision is never based on an answer
that says nothing, and without an answer it is made only where none is needed. -/
structure Consulted (r : Reconciler) (o : Order) (g : Past) (decided : Prop) (events : List Event)
    (answer : Option (Except ServiceError ProviderResponse)) : Prop where
  inquiries : events.filterMap Event.inquiry? =
    (answer.map (Prod.mk (.retrieveStatus o.id o.bankTraceId))).toList
  idle : Idle events
  informed : ∀ y, decided → answer = some y → ¬Unknowing r o y
  needless : decided → answer = none → ¬Doubtful o g.books.records

theorem consulted_none {decided : Prop} (h : decided → ¬Doubtful o g.books.records) :
    Consulted r o g decided [] none where
  inquiries := rfl
  idle := by simp [Idle]
  informed _ _ hnone := by cases hnone
  needless hdecided _ := h hdecided

theorem consulted_some {decided : Prop} {y : Except ServiceError ProviderResponse}
    (h : decided → ¬Unknowing r o y) : Consulted r o g decided [⟨inquiry o, y⟩] (some y) := by
  refine ⟨rfl, fun e he => ?_, fun _ hdecided hy => ?_, fun _ hnone => by cases hnone⟩
  · cases List.mem_singleton.mp he
    exact ⟨rfl, rfl⟩
  · cases hy
    exact h hdecided

theorem Considered.consulted {y : Except ServiceError (Option Decision)}
    (h : Considered r o g y g₁) : ∃ events answer, g₁.events = g.events ++ events ∧
      Consulted r o g (∃ d, y = .ok (some d)) events answer := by
  cases h with
  | resolved _ =>
      exact ⟨[], none, by simp, consulted_none fun ⟨_, hdecided⟩ => by cases hdecided⟩
  | unread e =>
      exact ⟨[], none, by simp, consulted_none fun ⟨_, hdecided⟩ => by cases hdecided⟩
  | lapsed _ hrecord hneedless =>
      refine ⟨[], none, by simp, consulted_none fun _ hdoubtful => ?_⟩
      rw [hdoubtful.mustAsk hrecord] at hneedless
      cases hneedless
  | untold e =>
      exact ⟨_, _, rfl, consulted_some fun ⟨_, hdecided⟩ => by cases hdecided⟩
  | undecided hmeans =>
      exact ⟨_, _, rfl, consulted_some fun ⟨_, hdecided⟩ => by cases hdecided⟩
  | unsettled e hmeans =>
      exact ⟨_, _, rfl, consulted_some fun ⟨_, hdecided⟩ => by cases hdecided⟩
  | answered _ _ hmeans =>
      exact ⟨_, _, rfl, consulted_some fun _ hunknowing => hmeans (unknowing_ok.mp hunknowing)⟩

theorem Moved.adds (h : Moved d g g₁) : ∃ events, g₁.events = g.events ++ events ∧
    events.filterMap Event.inquiry? = [] ∧ ∀ e ∈ events, e.filed? = none := by
  cases h with
  | nothing _ => exact ⟨[], by simp, rfl, by simp⟩
  | moved _ _ _ _ => exact ⟨_, rfl, rfl, by simp [Event.filed?]⟩

/-- Carrying out asks the bank nothing, and files no order unless it says so. -/
theorem CarriedOut.adds (h : CarriedOut o d g x after) : ∃ events,
    after.events = g.events ++ events ∧ events.filterMap Event.inquiry? = [] ∧
      (Unreported x → ∀ e ∈ events, e.filed? = none) := by
  cases h with
  | refused e => exact ⟨[], by simp, rfl, by simp⟩
  | unwritten hmoved _ =>
      obtain ⟨events, hevents, hinquiries, hfiled⟩ := hmoved.adds
      exact ⟨events, hevents, hinquiries, fun _ => hfiled⟩
  | @written o' _ _ hmoved _ _ _ _ =>
      obtain ⟨events, hevents, hinquiries, _⟩ := hmoved.adds
      refine ⟨events ++ [⟨.orders (.replace o'), .ok o'⟩], ?_, ?_, fun hunreported => ?_⟩
      · simp [hevents]
      · rw [List.filterMap_append, hinquiries]
        rfl
      · have hskipped := hunreported _ rfl
        have hstatus := d.ending.status?_resolution
        rw [hskipped] at hstatus
        cases hstatus

/-- What the work on an order adds to the past: it has asked the bank at most once, it has written
nothing if the answer says nothing, and it has filed nothing unless it says so or, where the outcome is
in doubt, without an answer. -/
theorem Course.adds (h : Course r o g x after) : ∃ events answer,
    after.events = g.events ++ events ∧
      events.filterMap Event.inquiry? =
        (answer.map (Prod.mk (.retrieveStatus o.id o.bankTraceId))).toList ∧
      (Unreported x → ∀ e ∈ events, e.filed? = none) ∧
      (∀ y, answer = some y → Unknowing r o y → Idle events) ∧
      (Doubtful o g.books.records → answer = none → ∀ e ∈ events, e.filed? = none) := by
  cases h with
  | undecided hconsidered _ _ =>
      obtain ⟨events, answer, hevents, hconsulted⟩ := hconsidered.consulted
      exact ⟨events, answer, hevents, hconsulted.inquiries, fun _ e he => (hconsulted.idle e he).1,
        fun _ _ _ => hconsulted.idle, fun _ _ e he => (hconsulted.idle e he).1⟩
  | decided hconsidered hcarried =>
      obtain ⟨asked, answer, hasked, hconsulted⟩ := hconsidered.consulted
      obtain ⟨done, hdone, hinquiries, hfiled⟩ := hcarried.adds
      refine ⟨asked ++ done, answer, ?_, ?_, fun hunreported e he => ?_, fun y hy hunknowing => ?_,
        fun hdoubtful hnone => ?_⟩
      · rw [hdone, hasked, List.append_assoc]
      · rw [List.filterMap_append, hinquiries, List.append_nil]
        exact hconsulted.inquiries
      · rcases List.mem_append.mp he with he | he
        · exact (hconsulted.idle e he).1
        · exact hfiled hunreported e he
      · exact absurd hunknowing (hconsulted.informed y ⟨_, rfl⟩ hy)
      · exact absurd hdoubtful (hconsulted.needless ⟨_, rfl⟩ hnone)

end

/-! ## In every world -/

theorem inquiries_counts (events : List Event) :
    (events.filter Event.counts).filterMap Event.inquiry? = events.filterMap Event.inquiry? := by
  refine filterMap_counts (fun e hcounts => ?_) events
  obtain ⟨c, y⟩ := e
  cases c <;> first | rfl | cases hcounts

section

variable {w w' : World} {later events : List Event}

/-- What has happened since, as far as it counts. -/
theorem counted_later (hhistory : w'.history = w.history ++ later)
    (hevents : w'.past.gist.events = w.past.gist.events ++ events) :
    later.filter Event.counts = events := by
  have hgist : w'.past.gist.events = w.past.gist.events ++ later.filter Event.counts := by
    show w'.history.filter _ = w.history.filter _ ++ _
    rw [hhistory, List.filter_append]
  exact List.append_cancel_left (hgist.symm.trans hevents)

/-- Where nothing that counts files an order nothing does. -/
theorem unfiled_later (hcounted : later.filter Event.counts = events)
    (h : ∀ e ∈ events, e.filed? = none) : ∀ e ∈ later, e.filed? = none := by
  intro e he
  cases hfiled : e.filed? with
  | none => rfl
  | some key =>
      have hmem : e ∈ events := hcounted ▸ List.mem_filter.mpr ⟨he, Event.counts_of_filed hfiled⟩
      rw [h e hmem] at hfiled
      cases hfiled

/-- Where nothing that counts enters a record nothing does. -/
theorem unentered_later (hcounted : later.filter Event.counts = events)
    (h : ∀ e ∈ events, e.entered? = none) : ∀ e ∈ later, e.entered? = none := by
  intro e he
  cases hentered : e.entered? with
  | none => rfl
  | some id =>
      have hmem : e ∈ events := hcounted ▸ List.mem_filter.mpr ⟨he, Event.counts_of_entered hentered⟩
      rw [h e hmem] at hentered
      cases hentered

end

/-- **Orders are settled on evidence.** Whatever the stores hold, whichever copy of an order is
reconciled, and whichever calls are refused: the bank is asked at most once. An order that is skipped,
or given up with an error, leaves the order store as it was. If the bank was not reached or cannot say
what has become of the order, nothing has changed in the order store and in the ledger. And an order
whose outcome only the bank knows is written only after it has said more than that. -/
theorem settled_on_evidence {r : Reconciler} {o : Order} {x : Except ServiceError Resolution}
    {w w' : World} (hrun : (r.reconcile o).run.Yields w x w') : ∃ later answer,
    w'.history = w.history ++ later ∧
      later.filterMap Event.inquiry? =
        (answer.map (Prod.mk (.retrieveStatus o.id o.bankTraceId))).toList ∧
      (Unreported x → w'.services.orders = w.services.orders) ∧
      (∀ y, answer = some y → Unknowing r o y → w'.services.orders = w.services.orders ∧
        w'.services.ledger.content = w.services.ledger.content) ∧
      (Doubtful o w.services.ledger.get? → w'.services.orders ≠ w.services.orders →
        ∃ y, answer = some y ∧ ¬Unknowing r o y) := by
  obtain ⟨later, hhistory, horders, hledger⟩ := Program.stores_of_yields hrun
  obtain ⟨events, answer, hevents, hinquiries, hunreported, hunknowing, hdoubtful⟩ :=
    (course_of_yields hrun).adds
  have hcounted := counted_later hhistory hevents
  have hkept (h : ∀ e ∈ events, e.filed? = none) : w'.services.orders = w.services.orders :=
    horders (unfiled_later hcounted h)
  refine ⟨later, answer, hhistory, ?_, fun hx => hkept (hunreported hx), fun y hy hnothing => ?_,
    fun hdoubt hchanged => ?_⟩
  · rw [← inquiries_counts, hcounted, hinquiries]
  · have hidle := hunknowing y hy hnothing
    exact ⟨hkept fun e he => (hidle e he).1,
      hledger (unentered_later hcounted fun e he => (hidle e he).2)⟩
  · cases answer with
    | none => exact absurd (hkept (hdoubtful hdoubt rfl)) hchanged
    | some y =>
        refine ⟨y, rfl, fun hnothing => hchanged ?_⟩
        exact hkept fun e he => (hunknowing y rfl hnothing e he).1

/-- An order that is being verified. -/
def parkedOrder : Order :=
  { unfinished with status := .verifying, transactionId := some default }

/-- Its record, which is on hold. -/
def parkedRecord : Transaction :=
  { Transaction.create default default default .zero with status := .pending, state := .resolved }

/-- Both are stored. -/
def parkedWorld : World :=
  ⟨{ (default : Services) with
      orders := .insert .empty parkedOrder, ledger := .insert .empty parkedRecord }, []⟩

/-- The bank says that the order was paid, and it succeeds. -/
theorem settled_on_evidence_parked : ∃ w' y,
    (reconcile ⟨.standard, .standard⟩ parkedOrder).run.Yields parkedWorld (.ok .succeeded) w' ∧
      Doubtful parkedOrder parkedWorld.services.ledger.get? ∧
      w'.services.orders ≠ parkedWorld.services.orders ∧
      w'.history.filterMap Event.inquiry? = [(.retrieveStatus parkedOrder.id none, y)] ∧
      ¬Unknowing ⟨.standard, .standard⟩ parkedOrder y := by
  have hcheck : ((reconcile ⟨.standard, .standard⟩ parkedOrder).run.follow
      (List.replicate 20 (.fair "200")) parkedWorld).any (fun r =>
        decide (r.1.toOption = some .succeeded) &&
          decide (r.2.services.orders.writes = 1)) = true := by decide +kernel
  obtain ⟨⟨x, w'⟩, hfollow, hw⟩ := (Option.any_eq_true _ _).mp hcheck
  simp only [Bool.and_eq_true, decide_eq_true_eq] at hw
  obtain ⟨hx, hwrites⟩ := hw
  have hrun : (reconcile ⟨.standard, .standard⟩ parkedOrder).run.Yields parkedWorld (.ok .succeeded)
      w' := by
    rcases x with e | resolution
    · cases hx
    · cases hx
      exact Program.yields_of_follow hfollow
  have hdoubtful : Doubtful parkedOrder parkedWorld.services.ledger.get? := .inl ⟨rfl, rfl⟩
  have hchanged : w'.services.orders ≠ parkedWorld.services.orders := by
    intro heq
    rw [heq] at hwrites
    cases hwrites
  obtain ⟨later, _, hhistory, hinquiries, _, _, htold⟩ := settled_on_evidence hrun
  obtain ⟨y, rfl, hknowing⟩ := htold hdoubtful hchanged
  refine ⟨w', y, hrun, hdoubtful, hchanged, ?_, hknowing⟩
  rw [hhistory]
  exact hinquiries

end Wallet.Reconciler
