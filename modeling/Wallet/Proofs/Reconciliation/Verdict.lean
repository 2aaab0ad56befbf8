import Wallet.Proofs.Reconciliation.Twice

/-!
# Verdicts

What is decided about an unresolved order depends on its record and on the answer of the bank only
(`verdict`). The decision suits the record and the ledger can carry it out (`verdict_sound`). Whoever
decides once more, when the record is at rest and the bank answers as before, comes to the same end and
has nothing left to ask of the ledger (`verdict_again`).
-/

namespace Wallet

/-- The ledger can be reached. -/
def Faults.LedgerInReach (may : Faults) : Prop :=
  ∀ r what, ¬may.refuses (.ledger r) (.unavailable what)

theorem Faults.InReach.ledgerInReach {may : Faults} (h : may.InReach) : may.LedgerInReach :=
  fun _ _ => h.not_ledger

/-- What a ledger within reach refuses it refuses for a reason. -/
theorem Faults.LedgerInReach.ordinary {may : Faults} (h : may.LedgerInReach) {r : Ledger.Request}
    {e : ServiceError} (hmay : may.refuses (.ledger r) e) : Faults.ordinary.refuses (.ledger r) e := by
  rintro ⟨what, rfl⟩
  exact absurd hmay (h r what)

/-- The ledger does what it is asked to do by a decision about a record. -/
def Decision.Feasible (d : Decision) (record : Option Transaction) : Prop :=
  ∀ request t, d.request = some request → record = some t →
    ∀ now, ∃ t', request.transition now t = .ok t'

namespace Transaction

variable {t : Transaction} {now : Timestamp} {reason : String}

theorem moveTo_of_can {next : TransactionStatus} (h : t.status.canTransitionTo next = true) :
    ∃ t', t.moveTo next now = .ok t' :=
  ⟨_, if_pos h⟩

theorem fail_of_can (h : t.status.canTransitionTo .failed = true) :
    ∃ t', t.fail reason now = .ok t' := by
  obtain ⟨moved, hmoved⟩ : ∃ moved, t.moveTo .failed now = .ok moved := moveTo_of_can h
  exact ⟨_, by rw [fail, hmoved]; rfl⟩

theorem cancel_of_initial (hstate : t.state = .initial)
    (h : t.status.canTransitionTo .failed = true) : ∃ t', t.cancel reason now = .ok t' := by
  obtain ⟨t', hfailed⟩ : ∃ t', t.fail reason now = .ok t' := fail_of_can h
  exact ⟨t', by rw [cancel, if_pos (by simp [isCancellable, hstate]), hfailed]⟩

end Transaction

namespace Reconciler

/-! ## What is decided -/

/-- What is decided about an unresolved order, given its record and the answer of the bank. -/
def verdict (r : Reconciler) (o : Order) (record : Option Transaction)
    (y : Except ServiceError ProviderResponse) : Except ServiceError (Option Decision) :=
  if r.mustAsk o record then
    y.map fun response => answered record response.reason (r.meaning o response)
  else .ok (some (r.lapsed record))

/-- The bank is asked if it has to be, and the verdict follows its answer. -/
def Weighs (r : Reconciler) (o : Order) (record : Option Transaction) (g : Past)
    (x : Except ServiceError (Option Decision)) (g₁ : Past) : Prop :=
  ∃ y, x = r.verdict o record y ∧ g₁ = if r.mustAsk o record then g.note (inquiry o) y else g

section

variable {may : Faults} {r : Reconciler} {o : Order} {g g₁ after : Past} {record : Option Transaction}
  {d : Decision} {x : Except ServiceError (Option Decision)}
  {y : Except ServiceError ProviderResponse}

theorem verdict_cases (h : r.verdict o record y = .ok (some d)) :
    r.mustAsk o record = false ∧ d = r.lapsed record ∨
      ∃ response, y = .ok response ∧
        answered record response.reason (r.meaning o response) = some d := by
  unfold verdict at h
  split at h
  · cases y with
    | error e => cases h
    | ok response => exact .inr ⟨response, rfl, Except.ok.inj h⟩
  · next hfree =>
      cases h
      exact .inl ⟨by simpa using hfree, rfl⟩

/-- The record of the order is read if the ledger can be reached. -/
theorem attains_linked_inReach {Q : Except ServiceError (Option Transaction) → Past → Prop}
    (hmay : may.LedgerInReach) (hrecord : recordFor g.books.records o = some record)
    (hQ : Q (.ok record) g) : Attains may (linked o) g Q := by
  rw [attains_linked]
  unfold recordFor at hrecord
  constructor
  · intro hfree
    rw [hfree] at hrecord
    cases hrecord
    exact hQ
  · intro id hid
    simp only [hid, Option.map_eq_some_iff] at hrecord
    obtain ⟨t, ht, rfl⟩ := hrecord
    refine ⟨fun e he hrefused => ?_, fun t' ht' => ?_⟩
    · exact absurd he (Faults.ordinary_inReach.not_findsRecord ht (hmay.ordinary hrefused))
    · cases ht.symm.trans ht'
      exact hQ

theorem inquire_weighs (hmay : may.LedgerInReach)
    (hrecord : recordFor g.books.records o = some record) (hask : r.mustAsk o record = true) :
    Attains may (r.inquire o) g (Weighs r o record g) := by
  have hweighs {x : Except ServiceError (Option Decision)}
      (y : Except ServiceError ProviderResponse)
      (hx : x = y.map fun response => answered record response.reason (r.meaning o response)) :
      Weighs r o record g x (g.note (inquiry o) y) :=
    ⟨y, by rw [verdict, if_pos hask, hx], (if_pos hask).symm⟩
  unfold inquire
  simp only [attains_bind, attains_bank]
  refine ⟨fun e _ => hweighs (.error e) rfl, fun response => ?_⟩
  cases hkind : (r.classifiers.classify o.provider response.code).kind with
  | pending => exact hweighs (.ok response) (by simp [Except.map, meaning, hkind, answered])
  | success | failure | needsAuth =>
      simp only [attains_bind, attains_pure]
      refine attains_linked_inReach hmay hrecord (hweighs (.ok response) ?_)
      simp [Except.map, meaning, hkind]

/-- Nothing but the record and the answer of the bank matters. -/
theorem consider_weighs (hmay : may.LedgerInReach) (hopen : o.isUnresolved = true)
    (hrecord : recordFor g.books.records o = some record) :
    Attains may (r.consider o) g (Weighs r o record g) := by
  unfold consider
  rw [hopen]
  simp only [Bool.not_true, Bool.false_eq_true, if_false]
  cases hfirst : r.asksFirst o with
  | true => exact inquire_weighs hmay hrecord (by simp [mustAsk, hfirst])
  | false =>
      simp only [Bool.false_eq_true, if_false, attains_bind]
      refine attains_linked_inReach hmay hrecord ?_
      dsimp only
      split
      · next hheld => exact inquire_weighs hmay hrecord (by simp [mustAsk, hheld])
      · next hfree =>
          have hneedless : r.mustAsk o record = false := by simp [mustAsk, hfirst, hfree]
          exact ⟨.error (.unavailable ""), by simp [verdict, hneedless], by simp [hneedless]⟩

theorem lapsed_feasible (hcoherent : ∀ t, record = some t → t.Coherent) :
    (r.lapsed record).Feasible record := by
  rintro request t hrequest rfl now
  have ht := hcoherent t rfl
  simp only [lapsed] at hrequest
  cases hstatus : t.status with
  | finish => simp [hstatus] at hrequest
  | pending | failed => simp [hstatus, ht.isCancellable] at hrequest
  | processing =>
      simp only [hstatus, ht.isCancellable, decide_true, if_true, Option.some.injEq] at hrequest
      cases hrequest
      exact Transaction.cancel_of_initial (ht.mpr hstatus) (by rw [hstatus]; rfl)

theorem answered_feasible {reason : String} {kind : OutcomeKind}
    (hcoherent : ∀ t, record = some t → t.Coherent) (hd : answered record reason kind = some d) :
    d.Feasible record := by
  rintro request t hrequest rfl now
  have ht := hcoherent t rfl
  cases kind with
  | pending => cases hd
  | success =>
      simp only [answered, Option.bind_some] at hd
      cases hstatus : t.status <;> simp only [hstatus] at hd <;> cases hd <;> cases hrequest
      · exact Transaction.moveTo_of_can (by rw [hstatus]; rfl)
      · exact Transaction.moveTo_of_can (by rw [hstatus]; rfl)
  | failure | needsAuth =>
      simp only [answered] at hd
      cases hstatus : t.status <;> simp only [hstatus] at hd <;> cases hd <;> cases hrequest
      · rw [ht.isCancellable, hstatus]
        exact Transaction.cancel_of_initial (ht.mpr hstatus) (by rw [hstatus]; rfl)
      · rw [ht.isCancellable, hstatus]
        exact Transaction.fail_of_can (by rw [hstatus]; rfl)

/-- A verdict suits the record, can be carried out, and leaves the record at rest if it asks nothing of
the ledger. -/
theorem verdict_sound (hcoherent : ∀ t, record = some t → t.Coherent)
    (h : r.verdict o record y = .ok (some d)) :
    d.Suits record ∧ d.Feasible record ∧ (d.request = none → d.ending.Rests record) := by
  rcases verdict_cases h with ⟨hneedless, rfl⟩ | ⟨response, _, hd⟩
  · simp only [mustAsk, Bool.or_eq_false_iff] at hneedless
    exact ⟨lapsed_suits, lapsed_feasible hcoherent, lapsed_rests hcoherent hneedless.2⟩
  · exact ⟨answered_suits hd, answered_feasible hcoherent hd, answered_rests hcoherent hd⟩

theorem Weighs.books (h : Weighs r o record g x g₁) : g₁.books = g.books := by
  obtain ⟨_, _, rfl⟩ := h
  split <;> rfl

/-- What the bank was asked, and nothing else that counts. -/
theorem Weighs.adds (h : Weighs r o record g x g₁) : ∃ events, g₁.events = g.events ++ events ∧
    events.filterMap Event.move? = [] ∧
    ∀ y, (∀ q ∈ events.filterMap Event.inquiry?, q.2 = y) → x = r.verdict o record y := by
  obtain ⟨told, rfl, rfl⟩ := h
  split
  · next hask =>
      refine ⟨[⟨inquiry o, told⟩], rfl, rfl, fun y hy => ?_⟩
      rw [show told = y from hy _ (List.mem_singleton_self _)]
  · next hfree =>
      exact ⟨[], by simp, rfl, fun y _ => by simp [verdict, hfree]⟩

/-! ## Deciding once more -/

/-- An answer to decide by tells how the order ends. -/
theorem answered_ending {reason : String} {kind : OutcomeKind}
    (hd : answered record reason kind = some d) :
    kind = .success ∧ d.ending.status = .success ∨
      (kind = .failure ∨ kind = .needsAuth) ∧ d.ending.status = .failed := by
  cases kind with
  | pending => cases hd
  | success =>
      cases record with
      | none => cases hd
      | some t =>
          simp only [answered, Option.bind_some] at hd
          cases hstatus : t.status <;> simp only [hstatus] at hd <;> cases hd <;>
            exact .inl ⟨rfl, rfl⟩
  | failure | needsAuth =>
      refine .inr ⟨by simp, ?_⟩
      cases record with
      | none =>
          cases hd
          rfl
      | some t =>
          simp only [answered] at hd
          cases hstatus : t.status <;> simp only [hstatus] at hd <;> cases hd <;> rfl

/-- The answer by which an order was brought to its end can be decided by again. -/
theorem answered_again {reason : String} {kind : OutcomeKind} {record' : Option Transaction}
    (hd : answered record reason kind = some d) (hrests : d.ending.Rests record') :
    ∃ again, answered record' reason kind = some again := by
  cases record' with
  | none =>
      have hfailed : d.ending.status = .failed := hrests
      rcases answered_ending hd with ⟨_, hsuccess⟩ | ⟨rfl | rfl, _⟩
      · cases hsuccess.symm.trans hfailed
      · exact ⟨_, rfl⟩
      · exact ⟨_, rfl⟩
  | some t =>
      obtain ⟨_, ⟨hstatus, hending⟩ | ⟨hstatus, hending⟩⟩ := hrests.cases
      · rcases answered_ending hd with ⟨rfl, _⟩ | ⟨_, hended⟩
        · simp [answered, hstatus]
        · cases hended.symm.trans hending
      · rcases answered_ending hd with ⟨_, hended⟩ | ⟨rfl | rfl, _⟩
        · cases hended.symm.trans hending
        · simp [answered, hstatus]
        · simp [answered, hstatus]

/-- Whoever decides about an order whose record has been left at rest comes to the same end as before,
and asks nothing of the ledger. -/
theorem verdict_again {record' : Option Transaction} (h : r.verdict o record y = .ok (some d))
    (hrests : d.ending.Rests record') :
    ∃ again, r.verdict o record' y = .ok (some again) ∧ again.Repeats d.ending.status := by
  unfold verdict
  cases hfirst : r.asksFirst o with
  | true =>
      have hask (record : Option Transaction) : r.mustAsk o record = true := by
        simp [mustAsk, hfirst]
      rcases verdict_cases h with ⟨hneedless, _⟩ | ⟨response, rfl, hd⟩
      · rw [hask record] at hneedless
        cases hneedless
      · obtain ⟨again, hagain⟩ := answered_again hd hrests
        exact ⟨again, by simp [hask, Except.map, hagain], answered_repeats hrests hagain⟩
  | false =>
      -- a record at rest is not on hold, so the bank need not be asked any more
      have hneedless : r.mustAsk o record' = false := by
        cases record' with
        | none => simp [mustAsk, hfirst]
        | some t =>
            obtain ⟨_, ⟨hstatus, _⟩ | ⟨hstatus, _⟩⟩ := hrests.cases <;>
              simp [mustAsk, hfirst, hstatus]
      exact ⟨r.lapsed record', by simp [hneedless], lapsed_repeats hrests⟩

end

end Reconciler

end Wallet
