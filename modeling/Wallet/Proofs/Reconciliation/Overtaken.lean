import Wallet.Proofs.Reconciliation.Attains
import Wallet.Proofs.Store.Basic

/-!
# Orders that somebody else has resolved

An order is reconciled from a copy, and by the time it is written somebody else may have resolved
it. The write is then held back by the status alone. So it is held back unless the copy happens to be
settled as the order was already (`comesTo`), and then it replaces what the other has written.
-/

namespace Wallet

/-- What the bank said of an order, if the event is that. -/
def Event.told? : Event → Option ProviderResponse
  | ⟨.bank (.retrieveStatus _ _), .ok response⟩ => some response
  | _ => none

/-- The first that the bank said of an order. -/
def told (events : List Event) : Option ProviderResponse := events.findSome? Event.told?

theorem told_mono {events events' : List Event} {response : ProviderResponse}
    (h : told events = some response) (hle : events <+: events') : told events' = some response := by
  obtain ⟨later, rfl⟩ := hle
  unfold told at h ⊢
  rw [List.findSome?_append, h]
  rfl

/-- What the bank says counts. -/
theorem told_counts (events : List Event) : told (events.filter Event.counts) = told events := by
  unfold told
  rw [← List.head?_filterMap, ← List.head?_filterMap]
  refine congrArg List.head? (filterMap_counts (fun e hcounts => ?_) events)
  obtain ⟨c, x⟩ := e
  cases c with
  | bank r => cases hcounts
  | _ => rfl

namespace Reconciler

/-! ## What a copy comes to -/

/-- What the ledger has for an order: no record or one. There is no answer if the order is linked to
a record that is not there. -/
def recordFor (records : TransactionId → Option Transaction) (o : Order) :
    Option (Option Transaction) :=
  match o.transactionId with
  | none => some none
  | some id => (records id).map some

/-- The status of an order that is settled as the bank says, unless its record forbids that. -/
def settledAs (record : Option Transaction) : OutcomeKind → Option OrderStatus
  | .success => record.bind fun t => if t.status = .failed then none else some .success
  | .failure | .needsAuth => if record.any (·.status == .finish) then none else some .failed
  | .pending => none

/-- The status that the answer of the bank, once there is one, comes to. -/
def askedAs (r : Reconciler) (o : Order) (record : Option Transaction)
    (answer : Option ProviderResponse) : Option OrderStatus :=
  answer.bind fun response =>
    settledAs record (r.classifiers.classify o.provider response.code).kind

/-- The status that an order comes to about which the bank need not be asked. -/
def expiresAs (r : Reconciler) (o : Order) (record : Option Transaction)
    (answer : Option ProviderResponse) : Option OrderStatus :=
  match record.map Transaction.status with
  | some .finish => some .success
  | some .pending => r.askedAs o record answer
  | some .processing | some .failed | none => some .failed

/-- The status that a copy of an order is given when it is reconciled, if it is given one. -/
def comesTo (r : Reconciler) (o : Order) (records : TransactionId → Option Transaction)
    (answer : Option ProviderResponse) : Option OrderStatus :=
  if o.isUnresolved then (recordFor records o).bind fun record =>
    if r.config.requiresRetrieval o && !o.isRetrieved then r.askedAs o record answer
    else r.expiresAs o record answer
  else none

/-! ## Work on a copy of a resolved order -/

/-- A resolved order is stored. -/
structure Overtaken (key : OrderId) (stored : Order) (g : Past) : Prop where
  found : g.books.orders key = some stored
  resolved : stored.isTerminal = true

/-- All orders are as they were, and none is reported to be resolved. -/
def Undisturbed (orders : OrderId → Option Order) (x : Except ServiceError Resolution) (g : Past) :
    Prop :=
  g.books.orders = orders ∧ ∀ resolution, x = .ok resolution → resolution = .skipped

section

variable {r : Reconciler} {g : Past} {o stored : Order}

theorem undisturbed_error (e : ServiceError) : Undisturbed g.books.orders (.error e) g :=
  ⟨rfl, nofun⟩

theorem undisturbed_skipped : Undisturbed g.books.orders (.ok .skipped) g :=
  ⟨rfl, fun _ h => by cases h; rfl⟩

/-- Work that can only give a copy one status, for which only the other stored statuses matter. -/
theorem undisturbed_unless {x : ReconcileM Resolution} {next : OrderStatus} {C : Past → Prop}
    (hx : next ≠ stored.status → Attains .any x g (Undisturbed g.books.orders))
    (hC : ∀ after, C after → next ≠ stored.status) :
    Attains .any x g fun y after => C after → Undisturbed g.books.orders y after := by
  by_cases hsame : next = stored.status
  · exact (Program.meets_grows x.run g).mono fun _ after _ h => absurd hsame (hC after h)
  · exact (hx hsame).mono fun _ _ hleft _ => hleft

namespace Overtaken

/-- A resolved order does not give way to one of another status. -/
theorem write {o' : Order} {resolution : Resolution} (h : Overtaken o.id stored g)
    (hid : o'.id = o.id) (hother : o'.status ≠ stored.status) :
    Attains .any (write o' resolution) g (Undisturbed g.books.orders) := by
  rw [attains_write, hid]
  refine ⟨fun e _ _ => ?_, fun found hfound hgives => ?_⟩
  · cases e with
    | conflict reason => exact undisturbed_skipped
    | _ => exact undisturbed_error _
  · cases h.found.symm.trans hfound
    exact absurd (OrderStatus.eq_of_acceptsOverwrite hgives h.resolved) hother

theorem settle {success : Bool} {reason : Option String} (h : Overtaken o.id stored g)
    (hother : (if success then .success else .failed) ≠ stored.status) :
    Attains .any (settle o success reason) g (Undisturbed g.books.orders) := by
  unfold Reconciler.settle
  simp only [attains_bind, attains_now, attains_accept]
  refine fun _ => ⟨fun e _ => undisturbed_error _, fun settled hsettled _ => ?_⟩
  obtain ⟨_, rfl⟩ := Order.settle_ok hsettled
  exact h.write rfl hother

theorem writeExpired (h : Overtaken o.id stored g) (hother : .failed ≠ stored.status) :
    Attains .any (r.writeExpired o) g (Undisturbed g.books.orders) := by
  unfold Reconciler.writeExpired
  simp only [attains_bind, attains_now, attains_accept]
  refine fun _ => ⟨fun e _ => undisturbed_error _, fun expired hexpired => ?_⟩
  obtain ⟨_, rfl⟩ := Order.expire_ok hexpired
  exact h.write rfl hother

/-- A ledger record is changed, and all orders are as they were. -/
theorem moved {c : Call} {x : c.Answer} (h : Overtaken o.id stored g)
    (horders : (g.note c x).books.orders = g.books.orders) : Overtaken o.id stored (g.note c x) :=
  ⟨horders ▸ h.found, h.resolved⟩

theorem resolveSuccess (h : Overtaken o.id stored g)
    (hother : ∀ record, recordFor g.books.records o = some record →
      settledAs record .success ≠ some stored.status) :
    Attains .any (resolveSuccess o) g (Undisturbed g.books.orders) := by
  unfold Reconciler.resolveSuccess
  simp only [attains_bind, attains_linked]
  refine ⟨fun _ => undisturbed_skipped, fun id hid =>
    ⟨fun _ _ _ => undisturbed_error _, fun t ht => ?_⟩⟩
  have hrecord := hother (some t) (by simp [recordFor, hid, ht])
  have hconfirm (hsuccess : .success ≠ stored.status) : Attains .any (do
      let _ ← ask (.ledger (.confirm t.id))
      Reconciler.settle o true none) g (Undisturbed g.books.orders) := by
    simp only [attains_bind, attains_confirm]
    exact ⟨fun _ _ _ => undisturbed_error _, fun t' _ _ _ _ =>
      (h.moved rfl).settle (g := g.note (.ledger (.confirm t.id)) (.ok t')) hsuccess⟩
  cases hstatus : t.status with
  | finish => exact h.settle (by simpa [settledAs, hstatus] using hrecord)
  | failed => exact undisturbed_skipped
  | processing => exact hconfirm (by simpa [settledAs, hstatus] using hrecord)
  | pending => exact hconfirm (by simpa [settledAs, hstatus] using hrecord)

theorem resolveFailure {reason : String} (h : Overtaken o.id stored g)
    (hother : ∀ record, recordFor g.books.records o = some record →
      settledAs record .failure ≠ some stored.status) :
    Attains .any (resolveFailure o reason) g (Undisturbed g.books.orders) := by
  unfold Reconciler.resolveFailure
  simp only [attains_bind, attains_linked]
  constructor
  · intro hfree
    have hrecord := hother none (by simp [recordFor, hfree])
    exact h.settle (by simpa [settledAs] using hrecord)
  · refine fun id hid => ⟨fun _ _ _ => undisturbed_error _, fun t ht => ?_⟩
    have hrecord := hother (some t) (by simp [recordFor, hid, ht])
    have hwithdraw (hfailed : .failed ≠ stored.status) : Attains .any (do
        let _ ← ask (.ledger (if t.isCancellable then .cancel t.id reason else .fail t.id reason))
        Reconciler.settle o false (some reason)) g (Undisturbed g.books.orders) := by
      split
      · simp only [attains_bind, attains_cancel]
        exact ⟨fun _ _ _ => undisturbed_error _, fun t' _ _ _ _ =>
          (h.moved rfl).settle (g := g.note (.ledger (.cancel t.id reason)) (.ok t')) hfailed⟩
      · simp only [attains_bind, attains_fail]
        exact ⟨fun _ _ _ => undisturbed_error _, fun t' _ _ _ _ =>
          (h.moved rfl).settle (g := g.note (.ledger (.fail t.id reason)) (.ok t')) hfailed⟩
    cases hstatus : t.status with
    | failed => exact h.settle (by simpa [settledAs, hstatus] using hrecord)
    | finish => exact undisturbed_skipped
    | processing => exact hwithdraw (by simpa [settledAs, hstatus] using hrecord)
    | pending => exact hwithdraw (by simpa [settledAs, hstatus] using hrecord)

/-- Once the bank has answered, its answer is the first in the past whatever is done next. So only
the answers have to be followed for which the copy does not come to the stored status. -/
theorem retrieve (h : Overtaken o.id stored g) (hnew : told g.events = none) :
    Attains .any (r.retrieve o) g fun x after =>
      (∀ record, recordFor g.books.records o = some record →
        r.askedAs o record (told after.events) ≠ some stored.status) →
      Undisturbed g.books.orders x after := by
  unfold Reconciler.retrieve
  simp only [attains_bind, attains_bank]
  refine ⟨fun e _ _ => undisturbed_error (g := g.note (.bank _) (.error e)) e, fun response => ?_⟩
  let asked := g.note (.bank (.retrieveStatus o.id o.bankTraceId)) (.ok response)
  have hovertaken : Overtaken o.id stored asked := h.moved rfl
  have htold : told asked.events = some response := by
    show told (g.events ++ [_]) = _
    unfold told at hnew ⊢
    rw [List.findSome?_append, hnew]
    rfl
  by_cases hother : ∀ record, recordFor g.books.records o = some record →
      settledAs record (r.classifiers.classify o.provider response.code).kind ≠ some stored.status
  · refine Attains.mono (Q := Undisturbed g.books.orders) ?_ fun _ _ hleft _ => hleft
    cases hkind : (r.classifiers.classify o.provider response.code).kind with
    | pending => exact undisturbed_skipped (g := asked)
    | success =>
        rw [hkind] at hother
        exact hovertaken.resolveSuccess hother
    | failure =>
        rw [hkind] at hother
        exact hovertaken.resolveFailure hother
    | needsAuth =>
        rw [hkind] at hother
        exact hovertaken.resolveFailure hother
  · refine (Program.meets_grows _ asked).mono fun _ after hle hnot => absurd ?_ hother
    intro record hrecord
    have hanswer := hnot record hrecord
    rw [told_mono htold hle] at hanswer
    exact hanswer

theorem expire (h : Overtaken o.id stored g) (hnew : told g.events = none) :
    Attains .any (r.expire o) g fun x after =>
      (∀ record, recordFor g.books.records o = some record →
        r.expiresAs o record (told after.events) ≠ some stored.status) →
      Undisturbed g.books.orders x after := by
  unfold Reconciler.expire
  simp only [attains_bind, attains_linked]
  refine ⟨fun hfree => ?_, fun id hid => ⟨fun _ _ _ _ => undisturbed_error _, fun t ht => ?_⟩⟩
  · refine undisturbed_unless h.writeExpired fun after hnot => ?_
    simpa [expiresAs] using hnot none (by simp [recordFor, hfree])
  · have hrecord : recordFor g.books.records o = some (some t) := by simp [recordFor, hid, ht]
    have hwithdraw (hfailed : .failed ≠ stored.status) : Attains .any (do
        if t.isCancellable then
          let _ ← ask (.ledger (.cancel t.id r.config.expiredReason))
          r.writeExpired o
        else r.writeExpired o) g (Undisturbed g.books.orders) := by
      split
      · simp only [attains_bind, attains_cancel]
        exact ⟨fun _ _ _ => undisturbed_error _, fun t' _ _ _ _ => (h.moved rfl).writeExpired
          (g := g.note (.ledger (.cancel t.id r.config.expiredReason)) (.ok t')) hfailed⟩
      · exact h.writeExpired hfailed
    have hfinish (hsuccess : .success ≠ stored.status) : Attains .any (do
        Reconciler.write (← accept (o.settle true none (← now))) .succeeded) g
          (Undisturbed g.books.orders) := by
      simp only [attains_bind, attains_now, attains_accept]
      refine fun _ => ⟨fun e _ => undisturbed_error _, fun settled hsettled => ?_⟩
      obtain ⟨_, rfl⟩ := Order.settle_ok hsettled
      exact h.write rfl hsuccess
    cases hstatus : t.status with
    | pending =>
        refine (h.retrieve hnew).mono fun _ _ hleft hnot => hleft fun record hfound => ?_
        cases hrecord.symm.trans hfound
        simpa [expiresAs, hstatus] using hnot (some t) hrecord
    | finish =>
        refine undisturbed_unless hfinish fun after hnot => ?_
        simpa [expiresAs, hstatus] using hnot (some t) hrecord
    | processing =>
        refine undisturbed_unless hwithdraw fun after hnot => ?_
        simpa [expiresAs, hstatus] using hnot (some t) hrecord
    | failed =>
        refine undisturbed_unless hwithdraw fun after hnot => ?_
        simpa [expiresAs, hstatus] using hnot (some t) hrecord

theorem reconcile (h : Overtaken o.id stored g) (hnew : told g.events = none) :
    Attains .any (r.reconcile o) g fun x after =>
      r.comesTo o g.books.records (told after.events) ≠ some stored.status →
      Undisturbed g.books.orders x after := by
  unfold Reconciler.reconcile
  cases hopen : o.isUnresolved with
  | false => exact fun _ => undisturbed_skipped
  | true =>
      simp only [Bool.not_true, Bool.false_eq_true, if_false]
      split
      · next hask =>
          refine (h.retrieve hnew).mono fun _ _ hleft hnot => hleft fun record hrecord => ?_
          simpa [comesTo, hopen, hask, hrecord] using hnot
      · next hask =>
          refine (h.expire hnew).mono fun _ _ hleft hnot => hleft fun record hrecord => ?_
          simpa [comesTo, hopen, hask, hrecord] using hnot

end Overtaken

/-- **Whoever was first is not overwritten by another status.** An order is reconciled from any copy
of it, however old, while it is stored as resolved. Unless the copy comes to the very status that is
stored, no stored order changes and none is reported to be resolved, whatever the bank answers and
whichever calls are refused. -/
theorem overtaken_kept {services : Services} {w' : World} {x : Except ServiceError Resolution}
    (hrun : (r.reconcile o).run.Yields ⟨services, []⟩ x w')
    (hstored : services.orders.get? o.id = some stored) (hresolved : stored.isTerminal = true)
    (hother : r.comesTo o services.ledger.get? (told w'.history) ≠ some stored.status) :
    w'.services.orders.get? = services.orders.get? ∧
      ∀ resolution, x = .ok resolution → resolution = .skipped := by
  let w : World := ⟨services, []⟩
  have hovertaken : Overtaken o.id stored w.past.gist := ⟨hstored, hresolved⟩
  have hattains := (hovertaken.reconcile (r := r) rfl).sound.sound hrun (permitted_any _)
  rw [show told w'.past.gist.events = told w'.history from told_counts _] at hattains
  exact hattains hother

end

/-! ### A copy that was read while the order was being processed -/

/-- The order as it was read. -/
def unfinished : Order :=
  { Order.create default default default .cashIn .zero default with status := .processing }

/-- The order as it is stored by then. -/
def finished (status : OrderStatus) : Order :=
  { unfinished with status := status, failReason := some "wrong password" }

/-- What comes of the copy, with the world that is left. -/
def belated (status : OrderStatus) : Option (Except ServiceError Resolution × World) :=
  (reconcile ⟨.standard, .standard⟩ unfinished).run.follow (List.replicate 20 (.fair "200"))
    ⟨{ (default : Services) with orders := .insert .empty (finished status) }, []⟩

/-- The copy would be failed, and the order has succeeded. -/
theorem overtaken_kept_success : ∃ x w', belated .success = some (x, w') ∧
    w'.services.orders.get? unfinished.id = some (finished .success) ∧
    ∀ resolution, x = .ok resolution → resolution = .skipped := by
  have hcheck : (belated .success).any (fun r => decide
      (comesTo ⟨.standard, .standard⟩ unfinished (Ledger.get? default) (told r.2.history) ≠
        some .success)) = true := by decide +kernel
  obtain ⟨⟨x, w'⟩, hrun, hother⟩ := (Option.any_eq_true _ _).mp hcheck
  have hstored : ({ (default : Services) with
      orders := .insert .empty (finished .success) } : Services).orders.get? unfinished.id =
        some (finished .success) := OrderStore.get?_insert_self _ _
  obtain ⟨hkept, hskipped⟩ := overtaken_kept (Program.yields_of_follow hrun) hstored rfl
    (of_decide_eq_true hother)
  exact ⟨x, w', hrun, (congrFun hkept unfinished.id).trans hstored, hskipped⟩

/-- The order has failed meanwhile, and the copy is failed as well: it is written in the place of the
stored order, and reported as expired. -/
theorem overtaken_rewritten : (finished .failed).isTerminal = true ∧
    ∃ w' o, belated .failed = some (.ok .expired, w') ∧
      w'.services.orders.get? unfinished.id = some o ∧ o ≠ finished .failed ∧
      o.failReason = some "order expired" ∧ o.isExpired = true := by
  refine ⟨rfl, ?_⟩
  have hcheck : (belated .failed).any (fun r =>
      decide (r.1.toOption = some .expired) &&
        (r.2.services.orders.get? unfinished.id).any fun o =>
          o.failReason == some "order expired" && o.isExpired) = true := by decide +kernel
  obtain ⟨⟨x, w'⟩, hrun, hfound⟩ := (Option.any_eq_true _ _).mp hcheck
  rw [Bool.and_eq_true] at hfound
  obtain ⟨hexpired, hwritten⟩ := hfound
  obtain ⟨o, ho, hfields⟩ := (Option.any_eq_true _ _).mp hwritten
  simp only [Bool.and_eq_true, beq_iff_eq] at hfields
  have hx : x = .ok .expired := by
    rcases x with e | resolution
    · simp [Except.toOption] at hexpired
    · simpa [Except.toOption] using hexpired
  refine ⟨w', o, hx ▸ hrun, ho, ?_, hfields⟩
  rintro rfl
  exact absurd hfields.1 (by decide)

end Reconciler

end Wallet
