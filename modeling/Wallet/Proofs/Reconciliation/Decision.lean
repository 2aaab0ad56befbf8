import Wallet.Proofs.Reconciliation.Overtaken
import Wallet.Proofs.Store.Records

/-!
# Decisions about an order

Reconciling an order falls into two parts. First it is decided what to do: the ledger record is read,
and the bank is asked if need be, but nothing is changed. Then the decision is carried out: the ledger
is asked to settle the record, and the order is written last (`reconcile_eq`).

What the first part may come to is `Considered`, what the second `CarriedOut`, and both together
`Course`. Every run of the work on an order takes such a course (`reconcile_course`).
-/

namespace Wallet

/-! ## Endings -/

/-- The status of an order that is reported to be resolved. -/
def Resolution.status? : Resolution → Option OrderStatus
  | .succeeded => some .success
  | .failed | .expired => some .failed
  | .skipped => none

/-- What becomes of an order. -/
inductive Ending where
  /-- It is settled as the bank says. -/
  | settled (success : Bool) (reason : Option String)
  /-- It has succeeded, for its record is finished. -/
  | finished
  /-- It fails because its deadline has passed. -/
  | expired

namespace Ending

def status : Ending → OrderStatus
  | .settled true _ | .finished => .success
  | .settled false _ | .expired => .failed

def resolution : Ending → Resolution
  | .settled true _ | .finished => .succeeded
  | .settled false _ => .failed
  | .expired => .expired

/-- The status of the record that goes with it. -/
def recordStatus : Ending → TransactionStatus
  | .settled true _ | .finished => .finish
  | .settled false _ | .expired => .failed

theorem status?_resolution (e : Ending) : e.resolution.status? = some e.status := by
  cases e with
  | settled success reason => cases success <;> rfl
  | finished => rfl
  | expired => rfl

theorem isTerminal_status (e : Ending) : e.status.isTerminal = true := by
  cases e with
  | settled success reason => cases success <;> rfl
  | finished => rfl
  | expired => rfl

end Ending

/-- What is done about an order: what the ledger is asked to do first, if anything, and what becomes of
the order. -/
structure Decision where
  request : Option Ledger.Request
  ending : Ending

namespace Reconciler

/-! ## Deciding and carrying out -/

/-- What is done about an order once the bank has told of it. -/
def answered (record : Option Transaction) (reason : String) : OutcomeKind → Option Decision
  | .pending => none
  | .success => record.bind fun t => match t.status with
      | .finish => some ⟨none, .settled true none⟩
      | .failed => none
      | .processing | .pending => some ⟨some (.confirm t.id), .settled true none⟩
  | .failure | .needsAuth => match record with
      | none => some ⟨none, .settled false (some reason)⟩
      | some t => match t.status with
          | .failed => some ⟨none, .settled false (some reason)⟩
          | .finish => none
          | .processing | .pending =>
              some ⟨some (if t.isCancellable then .cancel t.id reason else .fail t.id reason),
                .settled false (some reason)⟩

/-- What is done about an order about which the bank need not be asked. -/
def lapsed (r : Reconciler) : Option Transaction → Decision
  | none => ⟨none, .expired⟩
  | some t => match t.status with
      | .finish => ⟨none, .finished⟩
      | .processing | .pending | .failed =>
          ⟨if t.isCancellable then some (.cancel t.id r.config.expiredReason) else none, .expired⟩

/-- Whether the bank has to be asked before the record is looked at. -/
def asksFirst (r : Reconciler) (o : Order) : Bool :=
  r.config.requiresRetrieval o && !o.isRetrieved

/-- Asks the bank and decides as it says. -/
def inquire (r : Reconciler) (o : Order) : ReconcileM (Option Decision) := do
  let response ← ask (.bank (.retrieveStatus o.id o.bankTraceId))
  match (r.classifiers.classify o.provider response.code).kind with
  | .pending => pure none
  | kind => do pure (answered (← linked o) response.reason kind)

/-- Decides what to do about an order, and changes nothing. -/
def consider (r : Reconciler) (o : Order) : ReconcileM (Option Decision) :=
  if !o.isUnresolved then pure none
  else if r.asksFirst o then r.inquire o
  else do
    let record ← linked o
    if record.any (·.status == .pending) then r.inquire o else pure (some (r.lapsed record))

/-- Brings an order to its end. -/
def conclude (r : Reconciler) (o : Order) : Ending → ReconcileM Resolution
  | .settled success reason => settle o success reason
  | .finished => do write (← accept (o.settle true none (← now))) .succeeded
  | .expired => r.writeExpired o

/-- Carries out what was decided about an order; without a decision it is skipped. -/
def carryOut (r : Reconciler) (o : Order) : Option Decision → ReconcileM Resolution
  | none => pure .skipped
  | some d => match d.request with
      | none => r.conclude o d.ending
      | some request => do
          let _ ← ask (.ledger request)
          r.conclude o d.ending

section

variable (r : Reconciler) (o : Order)

theorem retrieve_eq : r.retrieve o = r.inquire o >>= r.carryOut o := by
  unfold retrieve inquire
  rw [bind_assoc]
  refine bind_congr fun response => ?_
  generalize (r.classifiers.classify o.provider response.code).kind = kind
  cases kind with
  | pending => rfl
  | success =>
      unfold resolveSuccess
      rw [bind_assoc]
      refine bind_congr fun record => ?_
      rw [pure_bind]
      cases record with
      | none => rfl
      | some t => cases hstatus : t.status <;> simp only [answered, Option.bind_some, hstatus] <;> rfl
  | failure | needsAuth =>
      unfold resolveFailure
      rw [bind_assoc]
      refine bind_congr fun record => ?_
      rw [pure_bind]
      cases record with
      | none => rfl
      | some t => cases hstatus : t.status <;> simp only [answered, hstatus] <;> rfl

/-- Reconciling an order is to decide and to carry out. -/
theorem reconcile_eq : r.reconcile o = r.consider o >>= r.carryOut o := by
  unfold reconcile consider
  rw [show (r.config.requiresRetrieval o && !o.isRetrieved) = r.asksFirst o from rfl]
  cases o.isUnresolved with
  | false => rfl
  | true =>
      simp only [Bool.not_true, Bool.false_eq_true, if_false]
      cases r.asksFirst o with
      | true => exact retrieve_eq r o
      | false =>
          simp only [Bool.false_eq_true, if_false]
          unfold expire
          rw [bind_assoc]
          refine bind_congr fun record => ?_
          cases record with
          | none => rfl
          | some t =>
              obtain ⟨_, _, state, status⟩ := t
              cases status with
              | pending => exact retrieve_eq r o
              | finish => rfl
              | processing | failed => cases state <;> rfl

end

/-! ## What deciding comes to -/

/-- Asking the bank about an order. -/
abbrev inquiry (o : Order) : Call := .bank (.retrieveStatus o.id o.bankTraceId)

/-- What an answer of the bank means for an order. -/
def meaning (r : Reconciler) (o : Order) (response : ProviderResponse) : OutcomeKind :=
  (r.classifiers.classify o.provider response.code).kind

/-- Whether the bank has to be asked about an order that has this record. -/
def mustAsk (r : Reconciler) (o : Order) (record : Option Transaction) : Bool :=
  r.asksFirst o || record.any (·.status == .pending)

/-- What may come of deciding, and what is left then. Nothing has happened but perhaps the bank was
asked. -/
inductive Considered (r : Reconciler) (o : Order) (g : Past) :
    Except ServiceError (Option Decision) → Past → Prop
  | resolved : o.isUnresolved = false → Considered r o g (.ok none) g
  | unread (e : ServiceError) : Considered r o g (.error e) g
  | lapsed {record : Option Transaction} : o.isUnresolved = true →
      recordFor g.books.records o = some record → r.mustAsk o record = false →
      Considered r o g (.ok (some (r.lapsed record))) g
  | untold (e : ServiceError) : Considered r o g (.error e) (g.note (inquiry o) (.error e))
  | undecided {response : ProviderResponse} : r.meaning o response = .pending →
      Considered r o g (.ok none) (g.note (inquiry o) (.ok response))
  | unsettled {response : ProviderResponse} (e : ServiceError) : r.meaning o response ≠ .pending →
      Considered r o g (.error e) (g.note (inquiry o) (.ok response))
  | answered {response : ProviderResponse} {record : Option Transaction} : o.isUnresolved = true →
      recordFor g.books.records o = some record → r.meaning o response ≠ .pending →
      Considered r o g (.ok (answered record response.reason (r.meaning o response)))
        (g.note (inquiry o) (.ok response))

section

variable {may : Faults} {r : Reconciler} {o : Order} {g : Past}

/-- What is so of every record that is stored is so of that of an order. -/
theorem forall_recordFor {records : TransactionId → Option Transaction} {P : Transaction → Prop}
    {record : Option Transaction} (h : ∀ id t, records id = some t → P t)
    (hrecord : recordFor records o = some record) : ∀ t, record = some t → P t := by
  rintro t rfl
  unfold recordFor at hrecord
  cases hlink : o.transactionId with
  | none => simp [hlink] at hrecord
  | some id => exact h id t (by simpa [hlink] using hrecord)

/-- What the ledger has for an order is read, or it cannot be read. -/
theorem attains_record {Q : Except ServiceError (Option Transaction) → Past → Prop}
    (herror : ∀ e, Q (.error e) g)
    (hok : ∀ record, recordFor g.books.records o = some record → Q (.ok record) g) :
    Attains may (linked o) g Q := by
  rw [attains_linked]
  constructor
  · intro hfree
    exact hok none (by simp [recordFor, hfree])
  · intro id hid
    exact ⟨fun e _ _ => herror e, fun t ht => hok (some t) (by simp [recordFor, hid, ht])⟩

theorem inquire_considered (hopen : o.isUnresolved = true) :
    Attains may (r.inquire o) g (Considered r o g) := by
  unfold inquire
  simp only [attains_bind, attains_bank]
  refine ⟨fun e _ => .untold e, fun response => ?_⟩
  have hdecided (hmeans : r.meaning o response ≠ .pending) : Attains may
      (do pure (answered (← linked o) response.reason (r.meaning o response)))
      (g.note (inquiry o) (.ok response)) (Considered r o g) := by
    simp only [attains_bind, attains_pure]
    exact attains_record (fun e => .unsettled e hmeans) fun _ hrecord =>
      .answered hopen hrecord hmeans
  cases hkind : (r.classifiers.classify o.provider response.code).kind with
  | pending => exact .undecided hkind
  | success | failure | needsAuth =>
      rw [show r.meaning o response = _ from hkind] at hdecided
      exact hdecided (by decide)

theorem consider_considered : Attains may (r.consider o) g (Considered r o g) := by
  unfold consider
  cases hopen : o.isUnresolved with
  | false => exact .resolved hopen
  | true =>
      simp only [Bool.not_true, Bool.false_eq_true, if_false]
      cases hask : r.asksFirst o with
      | true => exact inquire_considered hopen
      | false =>
          simp only [Bool.false_eq_true, if_false, attains_bind]
          refine attains_record .unread fun record hrecord => ?_
          dsimp only
          split
          · exact inquire_considered hopen
          · next hfree => exact .lapsed hopen hrecord (by simp [mustAsk, hask, hfree])

/-! ## What carrying out comes to -/

/-- Nobody is told that the order was resolved. -/
def Unreported (x : Except ServiceError Resolution) : Prop :=
  ∀ resolution, x = .ok resolution → resolution = .skipped

/-- The ledger has done what it had to do by a decision. -/
inductive Moved (d : Decision) (g : Past) : Past → Prop
  | nothing : d.request = none → Moved d g g
  | moved {request : Ledger.Request} {id : TransactionId} {t t' : Transaction} {now : Timestamp} :
      d.request = some request → request.moves? = some id → g.books.records id = some t →
      request.transition now t = .ok t' → Moved d g (g.note (.ledger request) (.ok t'))

/-- Nothing is moved by a decision that asks for nothing. -/
theorem Moved.unmoved {d : Decision} {g₁ : Past} (hnone : d.request = none) (h : Moved d g g₁) : g₁ = g := by
  cases h with
  | nothing _ => rfl
  | moved hsome _ _ _ =>
      rw [hnone] at hsome
      cases hsome

/-- What may come of carrying out a decision, and what is left then. The order is written last, and
only in the place of one that gives way. -/
inductive CarriedOut (o : Order) (d : Decision) (g : Past) :
    Except ServiceError Resolution → Past → Prop
  | refused (e : ServiceError) : CarriedOut o d g (.error e) g
  | unwritten {x : Except ServiceError Resolution} {g₁ : Past} : Moved d g g₁ → Unreported x →
      CarriedOut o d g x g₁
  | written {o' stored : Order} {g₁ : Past} : Moved d g g₁ → o.Resolves o' →
      o'.status = d.ending.status → g₁.books.orders o.id = some stored →
      stored.status.acceptsOverwrite o'.status = true →
      CarriedOut o d g (.ok d.ending.resolution) (g₁.note (.orders (.replace o')) (.ok o'))

theorem unreported_error (e : ServiceError) : Unreported (.error e) := nofun

theorem unreported_skipped : Unreported (.ok .skipped) := fun _ h => by cases h; rfl

theorem unreported_unwritten (e : ServiceError) : Unreported (unwritten e) := by
  cases e with
  | conflict reason => exact unreported_skipped
  | _ => exact unreported_error _

theorem write_carriedOut {d : Decision} {o' : Order} {g₁ : Past} (hmoved : Moved d g g₁)
    (hresolves : o.Resolves o') (hstatus : o'.status = d.ending.status) :
    Attains may (write o' d.ending.resolution) g₁ (CarriedOut o d g) := by
  rw [attains_write, hresolves.ties.1]
  exact ⟨fun e _ _ => .unwritten hmoved (unreported_unwritten e), fun _ hstored hgives =>
    .written hmoved hresolves hstatus hstored hgives⟩

/-- An order is brought to its end by writing it, unless it has come to one already. -/
theorem attains_conclude {ending : Ending} {Q : Except ServiceError Resolution → Past → Prop}
    (herror : o.isUnresolved = false → ∀ e, Q (.error e) g)
    (hwrite : ∀ o', o.Resolves o' → o'.status = ending.status →
      Attains may (write o' ending.resolution) g Q) :
    Attains may (r.conclude o ending) g Q := by
  unfold conclude
  cases ending with
  | settled success reason =>
      unfold settle
      simp only [attains_bind, attains_now, attains_accept]
      refine fun _ => ⟨fun e he => herror (Order.settle_error he) _, fun settled hsettled _ => ?_⟩
      obtain ⟨_, rfl⟩ := Order.settle_ok hsettled
      cases success with
      | true => exact hwrite _ (.retrieved hsettled) rfl
      | false => exact hwrite _ (.retrieved hsettled) rfl
  | finished =>
      simp only [attains_bind, attains_now, attains_accept]
      refine fun _ => ⟨fun e he => herror (Order.settle_error he) _, fun settled hsettled => ?_⟩
      obtain ⟨_, rfl⟩ := Order.settle_ok hsettled
      exact hwrite _ (.settled hsettled) rfl
  | expired =>
      unfold writeExpired
      simp only [attains_bind, attains_now, attains_accept]
      refine fun _ => ⟨fun e he => herror (Order.expire_error he) _, fun expired hexpired => ?_⟩
      obtain ⟨_, rfl⟩ := Order.expire_ok hexpired
      exact hwrite _ (.expired hexpired) rfl

theorem conclude_carriedOut {d : Decision} {g₁ : Past} (hmoved : Moved d g g₁) :
    Attains may (r.conclude o d.ending) g₁ (CarriedOut o d g) :=
  attains_conclude (fun _ e => .unwritten hmoved (unreported_error e)) fun _ hresolves hstatus =>
    write_carriedOut hmoved hresolves hstatus

/-- A record is moved as it was asked, or the ledger refuses as it may. -/
theorem attains_move {request : Ledger.Request} {id : TransactionId}
    {Q : Except ServiceError Transaction → Past → Prop} (hmoves : request.moves? = some id) :
    Attains may (ask (.ledger request)) g Q ↔
      (∀ e, g.books.Moves id (fun now t => request.transition now t) (.error e) →
        may.refuses (.ledger request) e → Q (.error e) g) ∧
      ∀ t' t, g.books.records id = some t → ∀ now, request.transition now t = .ok t' →
        Q (.ok t') (g.note (.ledger request) (.ok t')) := by
  cases request with
  | init _ | find _ => cases hmoves
  | confirm _ | cancel _ _ | fail _ _ | setPending _ =>
      cases hmoves
      exact Books.forall_moves_permitted fun _ => trivial

/-- A record is moved as it was asked, or the ledger refuses. -/
theorem attains_moving {request : Ledger.Request} {id : TransactionId}
    {Q : Except ServiceError Transaction → Past → Prop} (hmoves : request.moves? = some id)
    (herror : ∀ e, Q (.error e) g)
    (hok : ∀ {t t' now}, g.books.records id = some t → request.transition now t = .ok t' →
      Q (.ok t') (g.note (.ledger request) (.ok t'))) :
    Attains may (ask (.ledger request)) g Q :=
  (attains_move hmoves).mpr ⟨fun e _ _ => herror e, fun _ _ ht _ hmoved => hok ht hmoved⟩

end

end Reconciler

/-! ## What the ledger is asked -/

/-- A request that brings records to a status, and resolves them. -/
def Ledger.Request.Brings (request : Request) (status : TransactionStatus) : Prop :=
  ∀ now t t', request.transition now t = .ok t' → t'.status = status ∧ t'.state = .resolved

namespace Ledger.Request

theorem brings_confirm (id : TransactionId) : (confirm id).Brings .finish := by
  intro _ _ _ h
  obtain ⟨_, rfl⟩ := Transaction.moveTo_ok h
  exact ⟨rfl, rfl⟩

theorem brings_fail (id : TransactionId) (reason : String) : (fail id reason).Brings .failed := by
  intro _ _ _ h
  obtain ⟨_, rfl⟩ := Transaction.fail_ok h
  exact ⟨rfl, rfl⟩

theorem brings_cancel (id : TransactionId) (reason : String) : (cancel id reason).Brings .failed := by
  intro _ _ _ h
  exact brings_fail id reason _ _ _ (Transaction.cancel_ok h).2

end Ledger.Request

/-- The ledger is asked at most to bring the record of the order to the status that goes with the
ending. -/
def Decision.Suits (d : Decision) (record : Option Transaction) : Prop :=
  ∀ request, d.request = some request → ∃ t, record = some t ∧ request.moves? = some t.id ∧
    request.Brings d.ending.recordStatus

namespace Reconciler

section

variable {may : Faults} {r : Reconciler} {o : Order} {g : Past} {record : Option Transaction}
  {d : Decision}

theorem suits_of_none {ending : Ending} : Decision.Suits ⟨none, ending⟩ record :=
  fun _ h => by cases h

theorem suits_of_some {t : Transaction} {request : Ledger.Request} {ending : Ending}
    (hmoves : request.moves? = some t.id) (hbrings : request.Brings ending.recordStatus) :
    Decision.Suits ⟨some request, ending⟩ (some t) := by
  intro _ h
  cases h
  exact ⟨t, rfl, hmoves, hbrings⟩

theorem lapsed_suits : (r.lapsed record).Suits record := by
  unfold lapsed
  cases record with
  | none => exact suits_of_none
  | some t =>
      simp only
      cases t.status with
      | finish => exact suits_of_none
      | processing | pending | failed =>
          cases t.isCancellable with
          | true => exact suits_of_some rfl (Ledger.Request.brings_cancel _ _)
          | false => exact suits_of_none

theorem answered_suits {reason : String} {kind : OutcomeKind}
    (h : answered record reason kind = some d) : d.Suits record := by
  unfold answered at h
  cases kind with
  | pending => cases h
  | success =>
      cases record with
      | none => cases h
      | some t =>
          simp only [Option.bind_some] at h
          cases hstatus : t.status <;> rw [hstatus] at h <;> cases h
          · exact suits_of_some rfl (Ledger.Request.brings_confirm _)
          · exact suits_of_some rfl (Ledger.Request.brings_confirm _)
          · exact suits_of_none
  | failure | needsAuth =>
      cases record with
      | none =>
          cases h
          exact suits_of_none
      | some t =>
          have hasked : Decision.Suits ⟨some (if t.isCancellable then .cancel t.id reason
              else .fail t.id reason), .settled false (some reason)⟩ (some t) := by
            cases t.isCancellable with
            | true => exact suits_of_some rfl (Ledger.Request.brings_cancel _ _)
            | false => exact suits_of_some rfl (Ledger.Request.brings_fail _ _)
          simp only at h
          cases hstatus : t.status <;> rw [hstatus] at h <;> cases h
          · exact hasked
          · exact hasked
          · exact suits_of_none

/-- A decision suits the record that was read for it. -/
theorem Considered.suits {g₁ : Past} (h : Considered r o g (.ok (some d)) g₁) :
    ∃ record, recordFor g.books.records o = some record ∧ d.Suits record := by
  generalize hx : Except.ok (some d) = x at h
  cases h with
  | lapsed _ hrecord _ =>
      cases hx
      exact ⟨_, hrecord, lapsed_suits⟩
  | answered _ hrecord _ => exact ⟨_, hrecord, answered_suits (Except.ok.inj hx).symm⟩
  | _ => cases hx

/-! ## Both parts together -/

theorem carryOut_carriedOut (hsuits : d.Suits record) :
    Attains may (r.carryOut o (some d)) g (CarriedOut o d g) := by
  cases hrequest : d.request with
  | none =>
      simp only [carryOut, hrequest]
      exact conclude_carriedOut (.nothing hrequest)
  | some request =>
      obtain ⟨t, _, hid, _⟩ := hsuits request hrequest
      simp only [carryOut, hrequest, attains_bind]
      exact attains_moving hid .refused fun ht hmoved =>
        conclude_carriedOut (.moved hrequest hid ht hmoved)

/-- The courses that the work on an order may take: it comes to no decision, and the order is left as it
is, or it carries out the decision that it comes to. -/
inductive Course (r : Reconciler) (o : Order) (g : Past) : Except ServiceError Resolution → Past → Prop
  | undecided {y : Except ServiceError (Option Decision)} {x : Except ServiceError Resolution}
      {after : Past} : Considered r o g y after → (∀ d, y ≠ .ok (some d)) → Unreported x →
      Course r o g x after
  | decided {d : Decision} {x : Except ServiceError Resolution} {g₁ after : Past} :
      Considered r o g (.ok (some d)) g₁ → CarriedOut o d g₁ x after → Course r o g x after

/-- The work on an order takes one of its courses. -/
theorem reconcile_course : Attains may (r.reconcile o) g (Course r o g) := by
  rw [reconcile_eq, attains_bind]
  refine consider_considered.mono fun y g₁ hconsidered => ?_
  rcases y with e | decision
  · exact .undecided hconsidered (fun _ h => by cases h) (unreported_error e)
  cases decision with
  | none => exact .undecided hconsidered (fun _ h => by cases h) unreported_skipped
  | some d =>
      obtain ⟨_, _, hsuits⟩ := hconsidered.suits
      exact (carryOut_carriedOut hsuits).mono fun _ _ => .decided hconsidered

/-- Every run of the work on an order takes one of its courses. -/
theorem course_of_yields {w w' : World} {x : Except ServiceError Resolution}
    (hrun : (r.reconcile o).run.Yields w x w') : Course r o w.past.gist x w'.past.gist :=
  reconcile_course.sound.sound hrun (permitted_any _)

end

end Reconciler

end Wallet
