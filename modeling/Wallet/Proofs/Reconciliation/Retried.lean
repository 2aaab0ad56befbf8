import Wallet.Proofs.Reconciliation.Verdict

/-!
# Writes that are made up for

An order is written after its ledger record has been settled. When that last write is lost the two no
longer fit together, and the order is reconciled again, maybe along another branch than before. But the
first attempt has left the record at rest, so the second comes to the same ending and has nothing left
to ask of the ledger. Both together do what one attempt does whose write is not lost
(`lost_write_made_up`).
-/

namespace Wallet

/-- Of all collaborators only the order store is out of reach, and only when an order is written. -/
def Faults.unwritten : Faults :=
  ⟨fun c e => (∃ what, e = .unavailable what) → ∃ o, c = .orders (.replace o), True, True⟩

theorem Faults.unwritten_ledgerInReach : Faults.unwritten.LedgerInReach := by
  intro r what h
  obtain ⟨_, heq⟩ := h ⟨what, rfl⟩
  cases heq

/-- Whether a call was refused. -/
def Event.refused : Event → Bool
  | ⟨.orders _, .error _⟩ | ⟨.ledger _, .error _⟩ => true
  | ⟨.promotion _, .error _⟩ | ⟨.bank _, .error _⟩ => true
  | _ => false

/-- Whether an order could not be written. -/
def Event.unwritten : Event → Bool
  | ⟨.orders (.replace _), .error _⟩ => true
  | _ => false

theorem Call.permits_ordinary_of_answered {c : Call} {x : c.Answer}
    (h : Event.refused ⟨c, x⟩ = false) : c.Permits .ordinary x := by
  cases c with
  | orders _ | ledger _ | promotion _ | bank _ | hasEnded _ | budget _ => cases x <;> trivial
  | _ => trivial

theorem Call.permits_unwritten {c : Call} {x : c.Answer}
    (h : Event.refused ⟨c, x⟩ = true → Event.unwritten ⟨c, x⟩ = true) : c.Permits .unwritten x := by
  cases c with
  | orders r =>
      cases x with
      | ok _ => trivial
      | error e =>
          have hwrites := h rfl
          cases r with
          | replace o => exact fun _ => ⟨o, rfl⟩
          | _ => cases hwrites
  | ledger _ | promotion _ | bank _ => cases x <;> first | trivial | cases h rfl
  | hasEnded _ | budget _ => cases x <;> trivial
  | _ => trivial

namespace Reconciler

section

variable {may : Faults} {r : Reconciler} {o : Order} {g g' g₁ g₂ after : Past}
  {record : Option Transaction} {d : Decision} {x : Except ServiceError Resolution}
  {y : Except ServiceError ProviderResponse}

/-! ## What the ledger has done -/

theorem Moved.orders (h : Moved d g g₁) : g₁.books.orders = g.books.orders := by
  cases h with
  | nothing _ => rfl
  | moved _ hmoves _ _ =>
      rw [Past.note_moved hmoves]
      rfl

theorem Moved.moves (h : Moved d g g₁) : ∃ events, g₁.events = g.events ++ events ∧
    events.filterMap Event.move? = d.request.toList := by
  cases h with
  | nothing hnone => exact ⟨[], by simp, by simp [hnone]⟩
  | moved hsome hmoves _ _ => exact ⟨_, rfl, by simp [Event.move?, hmoves, hsome]⟩

/-- Whenever a decision is carried out, the statuses of the records are the same afterwards. -/
theorem Moved.statuses (hrecords : g'.books.records = g.books.records) (hsuits : d.Suits record)
    (h : Moved d g g₁) (h' : Moved d g' g₂) (id : TransactionId) :
    (g₁.books.records id).map Transaction.status = (g₂.books.records id).map Transaction.status := by
  cases h with
  | nothing hnone => rw [h'.unmoved hnone, hrecords]
  | @moved _ moved _ _ _ hsome hmoves ht hmoved =>
      cases h' with
      | nothing hnone => cases hnone.symm.trans hsome
      | moved hsome' hmoves' ht' hmoved' =>
          cases hsome.symm.trans hsome'
          cases hmoves.symm.trans hmoves'
          obtain ⟨_, _, _, hbrings⟩ := hsuits _ hsome
          rw [Past.note_moved hmoves, Past.note_moved hmoves]
          by_cases hid : id = moved
          · rw [hid, Books.enter_self, Books.enter_self, Option.map_some, Option.map_some,
              (hbrings _ _ _ hmoved).1, (hbrings _ _ _ hmoved').1]
          · rw [Books.enter_of_ne _ _ hid, Books.enter_of_ne _ _ hid, hrecords]

theorem Moved.filed (hfiled : ∀ id t, g.books.records id = some t → t.id = id) (h : Moved d g g₁)
    (id : TransactionId) (t : Transaction) (ht : g₁.books.records id = some t) : t.id = id := by
  cases h with
  | nothing _ => exact hfiled id t ht
  | @moved _ moved stored _ _ _ hmoves hstored hmoved =>
      rw [Past.note_moved hmoves] at ht
      by_cases hid : id = moved
      · rw [hid, Books.enter_self] at ht
        cases ht
        rw [hid, Ledger.Request.transition_id hmoved, hfiled moved stored hstored]
      · rw [Books.enter_of_ne _ _ hid] at ht
        exact hfiled id t ht

/-! ## Attempts that come to their end -/

/-- The ledger has done what was decided, and the order is written. -/
def Done (o : Order) (d : Decision) (g after : Past) : Prop :=
  ∃ g₁ o', Moved d g g₁ ∧ o'.id = o.id ∧ o'.status = d.ending.status ∧
    after = g₁.note (.orders (.replace o')) (.ok o')

theorem carryOut_done (hmay : may.InReach) (hopen : o.isUnresolved = true)
    (hstored : g.books.orders o.id = some o) (hrecord : recordFor g.books.records o = some record)
    (hfiled : ∀ id t, g.books.records id = some t → t.id = id) (hsuits : d.Suits record)
    (hfeasible : d.Feasible record) :
    Attains may (r.carryOut o (some d)) g fun _ after => Done o d g after := by
  have hconclude {g₁ : Past} (hmoved : Moved d g g₁) :
      Attains may (r.conclude o d.ending) g₁ fun _ after => Done o d g after := by
    refine attains_conclude (fun hresolved => ?_) fun o' hresolves hstatus => ?_
    · rw [hopen] at hresolved
      cases hresolved
    · have hid := hresolves.ties.1
      have hstored₁ : g₁.books.orders o'.id = some o := by rw [hmoved.orders, hid, hstored]
      rw [attains_write]
      exact ⟨fun e he hrefused =>
          absurd he (hmay.not_replaces hstored₁ hresolves.acceptsOverwrite hrefused),
        fun _ _ _ => ⟨g₁, o', hmoved, hid, hstatus, rfl⟩⟩
  cases hrequest : d.request with
  | none =>
      simp only [carryOut, hrequest]
      exact hconclude (.nothing hrequest)
  | some request =>
      obtain ⟨t, rfl, hmoves, _⟩ := hsuits request hrequest
      have ht : g.books.records t.id = some t := by
        refine forall_recordFor (P := fun t => g.books.records t.id = some t) (fun id t ht => ?_)
          hrecord t rfl
        rw [hfiled id t ht]
        exact ht
      simp only [carryOut, hrequest, attains_bind]
      refine (attains_move hmoves).mpr ⟨fun e he hrefused => ?_, fun t' stored hstored now hmoved => ?_⟩
      · exact absurd he (hmay.not_moves ht (hfeasible request t hrequest rfl) hrefused)
      · exact hconclude (.moved hrequest hmoves hstored hmoved)

theorem Done.moves (h : Done o d g after) : ∃ events, after.events = g.events ++ events ∧
    events.filterMap Event.move? = d.request.toList := by
  obtain ⟨g₁, o', hmoved, _, _, rfl⟩ := h
  obtain ⟨events, hevents, hmoves⟩ := hmoved.moves
  refine ⟨events ++ [⟨.orders (.replace o'), .ok o'⟩], by simp [hevents], ?_⟩
  rw [List.filterMap_append, hmoves]
  exact List.append_nil _

/-- With all collaborators but the bank within reach every verdict is carried out to its end. -/
theorem reconcile_done (hmay : may.InReach) (hopen : o.isUnresolved = true)
    (hstored : g.books.orders o.id = some o) (hrecord : recordFor g.books.records o = some record)
    (hfiled : ∀ id t, g.books.records id = some t → t.id = id)
    (hcoherent : ∀ t, record = some t → t.Coherent) :
    Attains may (r.reconcile o) g fun _ after => ∃ y g₁, Weighs r o record g y g₁ ∧
      g₁.events <+: after.events ∧ ∀ d, y = .ok (some d) → Done o d g₁ after := by
  rw [reconcile_eq, attains_bind]
  refine (consider_weighs hmay.ledgerInReach hopen hrecord).mono fun y g₁ hweighs => ?_
  rcases y with e | decision
  · exact ⟨_, g₁, hweighs, List.prefix_rfl, fun _ h => by cases h⟩
  cases decision with
  | none => exact ⟨_, g₁, hweighs, List.prefix_rfl, fun _ h => by cases h⟩
  | some d =>
      obtain ⟨told, hverdict, _⟩ := id hweighs
      obtain ⟨hsuits, hfeasible, _⟩ := verdict_sound hcoherent hverdict.symm
      have hbooks := hweighs.books
      rw [← hbooks] at hstored hrecord hfiled
      refine (carryOut_done hmay hopen hstored hrecord hfiled hsuits hfeasible).mono ?_
      intro _ after hdone
      obtain ⟨events, hevents, _⟩ := hdone.moves
      refine ⟨_, g₁, hweighs, ⟨events, hevents.symm⟩, fun d' h => ?_⟩
      cases h
      exact hdone

/-! ## Attempts whose write is lost -/

theorem carryOut_lost (hsuits : d.Suits record) :
    Attains .unwritten (r.carryOut o (some d)) g fun x after =>
      ∀ what, x = .error (.unavailable what) → Moved d g after := by
  have hconclude {g₁ : Past} (hmoved : Moved d g g₁) : Attains .unwritten (r.conclude o d.ending) g₁
      fun x after => ∀ what, x = .error (.unavailable what) → Moved d g after := by
    refine attains_conclude (fun _ _ _ _ => hmoved) fun o' _ _ => ?_
    rw [attains_write]
    exact ⟨fun _ _ _ _ _ => hmoved, fun _ _ _ _ h => by cases h⟩
  cases hrequest : d.request with
  | none =>
      simp only [carryOut, hrequest]
      exact hconclude (.nothing hrequest)
  | some request =>
      obtain ⟨t, _, hmoves, _⟩ := hsuits request hrequest
      simp only [carryOut, hrequest, attains_bind]
      refine (attains_move hmoves).mpr ⟨fun e _ hrefused what he => ?_, fun t' stored ht now hmoved => ?_⟩
      · cases he
        exact absurd hrefused (Faults.unwritten_ledgerInReach request what)
      · exact hconclude (.moved hrequest hmoves ht hmoved)

/-- Deciding writes nothing, so it does not fail for a write. -/
theorem consider_reached :
    Attains .unwritten (r.consider o) g fun x _ => ∀ what, x ≠ .error (.unavailable what) := by
  have hlinked {Q : Except ServiceError (Option Transaction) → Past → Prop} {g : Past}
      (hQ : ∀ x, (∀ what, x ≠ .error (.unavailable what)) → Q x g) :
      Attains .unwritten (linked o) g Q := by
    rw [attains_linked]
    refine ⟨fun _ => hQ _ (by simp), fun id _ => ⟨fun e _ hrefused => hQ _ fun what he => ?_,
      fun t _ => hQ _ (by simp)⟩⟩
    cases he
    exact Faults.unwritten_ledgerInReach _ _ hrefused
  have hinquire : Attains .unwritten (r.inquire o) g fun x _ =>
      ∀ what, x ≠ .error (.unavailable what) := by
    unfold inquire
    simp only [attains_bind, attains_bank]
    refine ⟨fun e hrefused what he => ?_, fun response => ?_⟩
    · cases he
      obtain ⟨_, hcall⟩ := hrefused ⟨what, rfl⟩
      cases hcall
    · cases (r.classifiers.classify o.provider response.code).kind with
      | pending => simp
      | success | failure | needsAuth =>
          simp only [attains_bind, attains_pure]
          refine hlinked fun x hx => ?_
          rcases x with e | record
          · exact fun what he => hx what (by cases he; rfl)
          · simp
  unfold consider
  split
  · simp
  split
  · exact hinquire
  · rw [attains_bind]
    refine hlinked fun x hx => ?_
    rcases x with e | record
    · exact fun what he => hx what (by cases he; rfl)
    · dsimp only
      split
      · exact hinquire
      · simp

/-- If only the write of the order is lost, the ledger has done all it was asked. -/
theorem reconcile_lost (hopen : o.isUnresolved = true) :
    Attains .unwritten (r.reconcile o) g fun x after => ∀ what, x = .error (.unavailable what) →
      ∃ record d g₁, recordFor g.books.records o = some record ∧
        Weighs r o record g (.ok (some d)) g₁ ∧ Moved d g₁ after := by
  have hweighs : Attains .unwritten (r.consider o) g fun x g₁ => ∀ record,
      recordFor g.books.records o = some record → Weighs r o record g x g₁ := by
    cases hrecord : recordFor g.books.records o with
    | none => exact consider_considered.mono fun _ _ _ _ h => by cases h
    | some record =>
        refine (consider_weighs Faults.unwritten_ledgerInReach hopen hrecord).mono ?_
        intro x g₁ h _ hread
        cases hread
        exact h
  rw [reconcile_eq, attains_bind]
  refine ((consider_considered.and consider_reached).and hweighs).mono ?_
  rintro (e | decision) g₁ ⟨⟨hconsidered, hreached⟩, hweighs⟩
  · exact fun what he => absurd (by cases he; rfl) (hreached what)
  cases decision with
  | none => exact fun _ he => by cases he
  | some d =>
      obtain ⟨record, hrecord, hsuits⟩ := hconsidered.suits
      exact (carryOut_lost hsuits).mono fun _ _ hmoved what he =>
        ⟨record, d, g₁, hrecord, hweighs record hrecord, hmoved what he⟩

end

/-! ## Attempts in a world -/

/-- An order is reconciled in a world, nothing goes wrong but what may, and whenever the bank is asked
it answers the same. -/
structure Attempt (may : Faults) (r : Reconciler) (y : Except ServiceError ProviderResponse)
    (o : Order) (w : World) (x : Except ServiceError Resolution) (w' : World) (later : List Event) :
    Prop where
  run : (r.reconcile o).run.Yields w x w'
  history : w'.history = w.history ++ later
  permitted : Permitted may later
  answers : ∀ q ∈ later.filterMap Event.inquiry?, q.2 = y

namespace Attempt

variable {may : Faults} {r : Reconciler} {o : Order} {w w' : World} {later : List Event} {g₁ : Past}
  {record : Option Transaction} {d : Decision} {x : Except ServiceError Resolution}
  {y : Except ServiceError ProviderResponse} {z : Except ServiceError (Option Decision)}

theorem sound {Q : Except ServiceError Resolution → Past → Prop} (h : Attempt may r y o w x w' later)
    (hQ : Attains may (r.reconcile o) w.past.gist Q) : Q x w'.past.gist := by
  refine hQ.since.sound h.run fun later' hlater => ?_
  have heq : later = later' := List.append_cancel_left (h.history.symm.trans hlater)
  exact heq ▸ h.permitted

/-- What is decided in an attempt is the verdict, and only what follows moves a record. -/
theorem weighed (h : Attempt may r y o w x w' later) (hweighs : Weighs r o record w.past.gist z g₁)
    {rest : List Event} (hrest : w'.past.gist.events = g₁.events ++ rest) :
    z = r.verdict o record y ∧ later.filterMap Event.move? = rest.filterMap Event.move? := by
  obtain ⟨events, hevents, hmoves, hverdict⟩ := hweighs.adds
  have hcounted : later.filter Event.counts = events ++ rest :=
    counted_later h.history (by rw [hrest, hevents, List.append_assoc])
  constructor
  · refine hverdict y fun q hq => h.answers q ?_
    rw [← inquiries_counts, hcounted, List.filterMap_append]
    exact List.mem_append_left _ hq
  · rw [← moves_counts, hcounted, List.filterMap_append, hmoves]
    rfl

/-- An attempt in which only the bank may be out of reach carries the verdict out. -/
theorem done (h : Attempt .ordinary r y o w x w' later) (hopen : o.isUnresolved = true)
    (hstored : w.services.orders.get? o.id = some o)
    (hrecord : recordFor w.services.ledger.get? o = some record) (hfiled : w.services.ledger.Filed)
    (hcoherent : ∀ t, record = some t → t.Coherent)
    (hverdict : r.verdict o record y = .ok (some d)) :
    ∃ g₁, g₁.books = w.past.gist.books ∧ Done o d g₁ w'.past.gist ∧
      later.filterMap Event.move? = d.request.toList := by
  obtain ⟨z, g₁, hweighs, ⟨rest, hrest⟩, hdone⟩ := h.sound
    (reconcile_done Faults.ordinary_inReach hopen hstored hrecord (fun _ _ ht => hfiled ht) hcoherent)
  have hdone := hdone d ((h.weighed hweighs hrest.symm).1.trans hverdict)
  obtain ⟨events, hevents, hmoves⟩ := hdone.moves
  exact ⟨g₁, hweighs.books, hdone, (h.weighed hweighs hevents).2.trans hmoves⟩

end Attempt

/-- An order that is done is stored with the status of its ending. -/
theorem Done.stored {o : Order} {d : Decision} {g after : Past} (h : Done o d g after) :
    (after.books.orders o.id).map Order.status = some d.ending.status := by
  obtain ⟨g₁, o', _, hid, hstatus, rfl⟩ := h
  rw [Past.note_replace, ← hid, Books.file_self, Option.map_some, hstatus]

theorem Done.moved {o : Order} {d : Decision} {g after : Past} (h : Done o d g after) :
    ∃ g₁, Moved d g g₁ ∧ after.books.records = g₁.books.records := by
  obtain ⟨g₁, o', hmoved, _, _, rfl⟩ := h
  exact ⟨g₁, hmoved, rfl⟩

/-- **A lost write is made up for.** Take any unresolved order that is stored, any ledger whose records
may be cancelled exactly while they are being processed, and any answer of the bank. If the order is
reconciled and nothing fails but that it cannot be written, and what is stored is reconciled once more
without a failure, then the order ends with the status that it would have had if nothing had failed at
all, and so does every record. Both attempts together move records exactly as the one without a failure
does. -/
theorem lost_write_made_up {r : Reconciler} {o o₁ : Order} {y : Except ServiceError ProviderResponse}
    {what : String} {w w₀ w₁ w₂ : World} {x₀ x₂ : Except ServiceError Resolution}
    {later₀ later₁ later₂ : List Event} (hopen : o.isUnresolved = true)
    (hstored : w.services.orders.get? o.id = some o) (hfiled : w.services.ledger.Filed)
    (hcoherent : ∀ id t, w.services.ledger.get? id = some t → t.Coherent)
    (hplain : Attempt .ordinary r y o w x₀ w₀ later₀)
    (hlost : Attempt .unwritten r y o w (.error (.unavailable what)) w₁ later₁)
    (hstored₁ : w₁.services.orders.get? o.id = some o₁)
    (hagain : Attempt .ordinary r y o₁ w₁ x₂ w₂ later₂) :
    (∃ status : OrderStatus, status.isTerminal = true ∧
      (w₂.services.orders.get? o.id).map Order.status = some status ∧
      (w₀.services.orders.get? o.id).map Order.status = some status) ∧
    (∀ id, (w₂.services.ledger.get? id).map Transaction.status =
      (w₀.services.ledger.get? id).map Transaction.status) ∧
    (later₁ ++ later₂).filterMap Event.move? = later₀.filterMap Event.move? := by
  -- the attempt whose write is lost has come to a decision, and the ledger has done its part
  obtain ⟨record, d, g₁, hrecord, hweighs, hmoved⟩ := hlost.sound (reconcile_lost hopen) what rfl
  have hbooks : g₁.books = w.past.gist.books := hweighs.books
  obtain ⟨events, hevents, hmoves⟩ := hmoved.moves
  obtain ⟨hverdict, hmoves₁⟩ := hlost.weighed hweighs hevents
  have hcoherent := forall_recordFor hcoherent hrecord
  obtain ⟨hsuits, _, hrests⟩ := verdict_sound hcoherent hverdict.symm
  -- the order is stored as before, and its record is at rest
  have hunwritten : w₁.services.orders.get? o.id = some o := by
    rw [← hstored]
    exact congrFun (hmoved.orders.trans (congrArg Books.orders hbooks)) o.id
  cases hunwritten.symm.trans hstored₁
  have hfiled₁ (id t) (ht : g₁.books.records id = some t) : t.id = id := hfiled (by rwa [hbooks] at ht)
  obtain ⟨record', hrecord', hrests'⟩ := hmoved.rests hfiled₁ (by rwa [hbooks]) hsuits hrests
  have hcoherent' (t) (ht : record' = some t) : t.Coherent := by
    cases ht
    obtain ⟨hstate, ⟨hstatus, _⟩ | ⟨hstatus, _⟩⟩ := hrests'.cases <;>
      simp [Transaction.Coherent, hstate, hstatus]
  -- so the second attempt comes to the same end, and moves nothing
  obtain ⟨again, hverdict', hrepeats⟩ := verdict_again hverdict.symm hrests'
  obtain ⟨p₀, hbooks₀, hdone₀, hmoves₀⟩ :=
    hplain.done hopen hstored hrecord hfiled hcoherent hverdict.symm
  obtain ⟨p₂, hbooks₂, hdone₂, hmoves₂⟩ :=
    hagain.done hopen hunwritten hrecord' (fun ht => hmoved.filed hfiled₁ _ _ ht) hcoherent' hverdict'
  refine ⟨⟨d.ending.status, d.ending.isTerminal_status, ?_, hdone₀.stored⟩, fun id => ?_, ?_⟩
  · rw [← hrepeats.status]
    exact hdone₂.stored
  · obtain ⟨q₀, hmoved₀, hrecords₀⟩ := hdone₀.moved
    obtain ⟨q₂, hmoved₂, hrecords₂⟩ := hdone₂.moved
    have hkept : w₂.past.gist.books.records = w₁.past.gist.books.records := by
      rw [hrecords₂, hmoved₂.unmoved hrepeats.request, hbooks₂]
    calc (w₂.services.ledger.get? id).map Transaction.status
        = (w₁.services.ledger.get? id).map Transaction.status :=
          congrArg (·.map Transaction.status) (congrFun hkept id)
      _ = (q₀.books.records id).map Transaction.status :=
          hmoved.statuses (by rw [hbooks₀, hbooks]) hsuits hmoved₀ id
      _ = (w₀.services.ledger.get? id).map Transaction.status := by rw [← hrecords₀]; rfl
  · rw [List.filterMap_append, hmoves₁, hmoves, hmoves₂, hrepeats.request, hmoves₀]
    exact List.append_nil _

/-- What has happened between two worlds. -/
def since (w w' : World) : List Event := w'.history.drop w.history.length

theorem Attempt.of_follow {may : Faults} {r : Reconciler} {o : Order} {w w' : World}
    {x : Except ServiceError Resolution} {y : Except ServiceError ProviderResponse}
    {moments : List Moment} (hfollow : (r.reconcile o).run.follow moments w = some (x, w'))
    (hpermitted : Permitted may (since w w'))
    (hanswers : ∀ q ∈ (since w w').filterMap Event.inquiry?, q.2 = y) :
    Attempt may r y o w x w' (since w w') := by
  have hrun := Program.yields_of_follow hfollow
  obtain ⟨later, hhistory, _⟩ := Program.stores_of_yields hrun
  refine ⟨hrun, ?_, hpermitted, hanswers⟩
  rw [since, hhistory, List.drop_left]

/-- What the bank answers in the run below. -/
def paid : ProviderResponse := ⟨⟨"200"⟩, some "BANK-000001", none⟩

/-- What comes of reconciling the parked order, with given moments around the calls. -/
def parkedRun (moments : List Moment) (w : World) : Option (Except ServiceError Resolution × World) :=
  (reconcile ⟨.standard, .standard⟩ parkedOrder).run.follow moments w

/-- What could not be reached. -/
def unreached? : Except ServiceError Resolution → Option String
  | .error (.unavailable what) => some what
  | _ => none

/-- Between two worlds only what may be lost was, and the bank has said that the order was paid. -/
def paidSince (lost : Event → Bool) (w w' : World) : Bool :=
  ((since w w').all fun e => !e.refused || lost e) &&
    ((since w w').filterMap Event.inquiry?).all fun q => decide (q.2.toOption = some paid)

theorem paidSince_answers {lost : Event → Bool} {w w' : World} (h : paidSince lost w w' = true) :
    ∀ q ∈ (since w w').filterMap Event.inquiry?, q.2 = .ok paid := by
  rw [paidSince, Bool.and_eq_true, List.all_eq_true, List.all_eq_true] at h
  rintro ⟨request, y⟩ hq
  have hy := of_decide_eq_true (h.2 _ hq)
  rcases y with e | response
  · cases hy
  · exact congrArg Except.ok (Option.some.inj hy)

theorem paidSince_ordinary {w w' : World} (h : paidSince (fun _ => false) w w' = true) :
    Permitted .ordinary (since w w') := by
  rw [paidSince, Bool.and_eq_true, List.all_eq_true, List.all_eq_true] at h
  exact fun e he => Call.permits_ordinary_of_answered (by simpa using h.1 e he)

theorem paidSince_unwritten {w w' : World} (h : paidSince Event.unwritten w w' = true) :
    Permitted .unwritten (since w w') := by
  rw [paidSince, Bool.and_eq_true, List.all_eq_true, List.all_eq_true] at h
  refine fun e he => Call.permits_unwritten fun hrefused => ?_
  have hlost := h.1 e he
  rw [show e.refused = true from hrefused] at hlost
  exact hlost

/-- The order store is out of reach when the order is written, and reached the next time: the order
succeeds, and its record is confirmed once. -/
theorem lost_write_made_up_parked : ∃ x₀ w₀ what w₁ x₂ w₂,
    Attempt .ordinary ⟨.standard, .standard⟩ (.ok paid) parkedOrder parkedWorld x₀ w₀
      (since parkedWorld w₀) ∧
    Attempt .unwritten ⟨.standard, .standard⟩ (.ok paid) parkedOrder parkedWorld
      (.error (.unavailable what)) w₁ (since parkedWorld w₁) ∧
    Attempt .ordinary ⟨.standard, .standard⟩ (.ok paid) parkedOrder w₁ x₂ w₂ (since w₁ w₂) ∧
    (∃ status : OrderStatus, status.isTerminal = true ∧
      (w₂.services.orders.get? parkedOrder.id).map Order.status = some status ∧
      (w₀.services.orders.get? parkedOrder.id).map Order.status = some status) ∧
    (since parkedWorld w₁ ++ since w₁ w₂).filterMap Event.move? =
      (since parkedWorld w₀).filterMap Event.move? ∧
    (since parkedWorld w₀).filterMap Event.move? ≠ [] := by
  have hcheck : (parkedRun (List.replicate 20 (.fair "200")) parkedWorld).any (fun plain =>
      paidSince (fun _ => false) parkedWorld plain.2 &&
        decide (((since parkedWorld plain.2).filterMap Event.move?).length = 1) &&
      (parkedRun (List.replicate 5 (.fair "200") ++ [.down]) parkedWorld).any fun lost =>
        paidSince Event.unwritten parkedWorld lost.2 &&
          (unreached? lost.1).isSome &&
          decide (lost.2.services.orders.get? parkedOrder.id = some parkedOrder) &&
        (parkedRun (List.replicate 20 (.fair "200")) lost.2).any fun again =>
          paidSince (fun _ => false) lost.2 again.2) = true := by
    decide +kernel
  obtain ⟨⟨x₀, w₀⟩, hplain, hcheck⟩ := (Option.any_eq_true _ _).mp hcheck
  rw [Bool.and_eq_true, Bool.and_eq_true, decide_eq_true_eq] at hcheck
  obtain ⟨⟨hpaid₀, hmoves⟩, hcheck⟩ := hcheck
  obtain ⟨⟨x₁, w₁⟩, hlost, hcheck⟩ := (Option.any_eq_true _ _).mp hcheck
  simp only [Bool.and_eq_true, decide_eq_true_eq] at hcheck
  obtain ⟨⟨⟨hpaid₁, hunreached⟩, hstored₁⟩, hcheck⟩ := hcheck
  obtain ⟨⟨x₂, w₂⟩, hagain, hpaid₂⟩ := (Option.any_eq_true _ _).mp hcheck
  obtain ⟨what, rfl⟩ : ∃ what, x₁ = .error (.unavailable what) := by
    rcases x₁ with (what | _ | _ | _ | _) | _ <;> first | exact ⟨_, rfl⟩ | cases hunreached
  have hplain := Attempt.of_follow hplain (paidSince_ordinary hpaid₀) (paidSince_answers hpaid₀)
  have hlost := Attempt.of_follow hlost (paidSince_unwritten hpaid₁) (paidSince_answers hpaid₁)
  have hagain := Attempt.of_follow hagain (paidSince_ordinary hpaid₂) (paidSince_answers hpaid₂)
  obtain ⟨hstatus, _, hsame⟩ := lost_write_made_up (by decide) (by decide +kernel)
    parkedWorld_filed parkedWorld_coherent hplain hlost hstored₁ hagain
  refine ⟨x₀, w₀, what, w₁, x₂, w₂, hplain, hlost, hagain, hstatus, hsame, fun hnone => ?_⟩
  rw [hnone] at hmoves
  cases hmoves

end Reconciler

end Wallet
