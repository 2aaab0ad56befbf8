import Wallet.Proofs.Store.Settled

/-!
# A ledger in balance

Any requests to an empty ledger in any sequence, each at an instant of its own and with the switches
of the ledger as they may stand then. As long as records are registered as they are made, each under
an identifier that is still free, the two fields that say how far a record is agree, and the
counters of the ledger agree with its records: every finished record was confirmed once, and every
failed one was either cancelled or failed.
-/

namespace Wallet

namespace Table

variable {κ α : Type} [DecidableEq κ]

/-- How the number of values that satisfy a predicate changes: the new value comes to it, and the
one whose place it takes goes. -/
theorem countP_put (p : α → Bool) (t : Table κ α) (key : κ) (a : α) :
    (t.put key a).values.countP p + (t.get? key).toList.countP p =
      t.values.countP p + [a].countP p := by
  have hvalues := ((t.perm_put key a).map Prod.snd).countP_eq p
  have hold : ((t.get? key).toList.map (Prod.mk key)).map Prod.snd = (t.get? key).toList := by
    rw [List.map_map]
    exact List.map_id _
  rw [List.map_append, hold, List.countP_append, List.map_cons, ← List.singleton_append,
    List.countP_append, Nat.add_comm ([a].countP p)] at hvalues
  exact hvalues

end Table

namespace TransactionStatus

/-- How far a record is. -/
def rank : TransactionStatus → Nat
  | .processing => 0
  | .pending => 1
  | .finish | .failed => 2

theorem rank_lt_of_canTransitionTo {status next : TransactionStatus}
    (h : status.canTransitionTo next = true) : status.rank < next.rank := by
  cases status <;> cases next <;> first | decide | cases h

end TransactionStatus

namespace Transaction

/-- A record as it is made, with whatever fee, discount, payer and payee. -/
def Made (t : Transaction) : Prop :=
  ∃ id now orderId amount fee discount payerId payeeId, t =
    { create id now orderId amount with
      fee := fee, discount := discount, payerId := payerId, payeeId := payeeId }

/-- A record and what has become of it: it moves the same money between the same users for the same
order, and its status is the same or further along. -/
structure Onward (t t' : Transaction) : Prop where
  id : t'.id = t.id
  orderId : t'.orderId = t.orderId
  amount : t'.amount = t.amount
  fee : t'.fee = t.fee
  discount : t'.discount = t.discount
  payerId : t'.payerId = t.payerId
  payeeId : t'.payeeId = t.payeeId
  status : t'.status = t.status ∨ t.status.rank < t'.status.rank

variable {t t' t'' : Transaction} {now : Timestamp}

theorem Onward.refl (t : Transaction) : t.Onward t :=
  ⟨rfl, rfl, rfl, rfl, rfl, rfl, rfl, .inl rfl⟩

theorem Onward.trans (h : t.Onward t') (h' : t'.Onward t'') : t.Onward t'' where
  id := h'.id.trans h.id
  orderId := h'.orderId.trans h.orderId
  amount := h'.amount.trans h.amount
  fee := h'.fee.trans h.fee
  discount := h'.discount.trans h.discount
  payerId := h'.payerId.trans h.payerId
  payeeId := h'.payeeId.trans h.payeeId
  status := by
    rcases h.status with hsame | hfurther
    · rw [← hsame]
      exact h'.status
    · rcases h'.status with hsame' | hfurther'
      · exact .inr (hsame' ▸ hfurther)
      · exact .inr (Nat.lt_trans hfurther hfurther')

end Transaction

namespace Ledger

/-- How many records of the ledger have a status. -/
def inStatus (l : Ledger) (status : TransactionStatus) : Nat :=
  l.records.values.countP (·.status == status)

/-- Whether a request is to fail a record. A cancelled record counts apart. -/
def Request.fails : Request → Bool
  | .fail _ _ => true
  | _ => false

/-- The status to which a request moves a record. -/
def Request.leads? : Request → Option TransactionStatus
  | .confirm _ => some .finish
  | .setPending _ => some .pending
  | .cancel _ _ | .fail _ _ => some .failed
  | .init _ | .find _ => none

/-- How many of the attempts fail a record. -/
def failures (l : Ledger) : List Attempt → Nat
  | [] => 0
  | a :: attempts =>
      (if a.request.fails && l.grants a then 1 else 0) + (l.meet a).2.failures attempts

/-- Every record that is to be registered is as it is made, and the ledger holds none under its
identifier. -/
def Fresh (l : Ledger) : List Attempt → Prop
  | [] => True
  | a :: attempts =>
      (∀ t, a.request = .init t → t.Made ∧ l.get? t.id = none) ∧ (l.meet a).2.Fresh attempts

/-- The records agree with themselves and with the counters of a ledger that has made some number of
failures. -/
structure Balanced (l : Ledger) (failures : Nat) : Prop where
  initial : ∀ id t, l.get? id = some t → (t.state = .initial ↔ t.status = .processing)
  confirms : l.confirms = l.inStatus .finish
  failures : l.cancels + failures = l.inStatus .failed

/-- What an attempt may come to. Only a registration and a movement write. -/
inductive Comes (l : Ledger) (a : Attempt) : Except ServiceError Transaction × Ledger → Prop
  | refused (e : ServiceError) : Comes l a (.error e, l.under a)
  | looked (id : TransactionId) (t : Transaction) (request : a.request = .find id) :
      Comes l a (.ok t, l.under a)
  | registered (t : Transaction) (request : a.request = .init t) :
      Comes l a (.ok t, (l.under a).insert t)
  | moved (id : TransactionId) (t t' : Transaction) (moves : a.request.moves? = some id)
      (stored : l.get? id = some t) (changed : a.request.transition a.now t = .ok t') :
      Comes l a (.ok t', (l.under a).moved a.request id t')

variable {l : Ledger} {a : Attempt} {id : TransactionId} {t t' : Transaction} {now : Timestamp}
  {failures : Nat}

theorem fresh_append (l : Ledger) (before after : List Attempt) :
    l.Fresh (before ++ after) ↔ l.Fresh before ∧ (l.along before).Fresh after := by
  induction before generalizing l with
  | nil => exact ⟨fun h => ⟨trivial, h⟩, And.right⟩
  | cons a before ih =>
      show _ ∧ (l.meet a).2.Fresh (before ++ after) ↔ (_ ∧ _) ∧ _
      rw [ih, and_assoc]
      rfl

/-! ## One attempt -/

theorem meet_comes (l : Ledger) (a : Attempt) : l.Comes a (l.meet a) := by
  obtain ⟨unavailable, rejectInit, failOnCancel, now, request⟩ := a
  cases hmoves : request.moves? with
  | some id =>
      unfold meet
      rcases (l.under _).serve_moving_cases now hmoves with ⟨e, hserved⟩ | ⟨t, t', ht, hmoved, hserved⟩
      · rw [hserved]
        exact .refused e
      · rw [hserved]
        exact .moved id t t' hmoves ht hmoved
  | none =>
      cases request with
      | init t =>
          simp only [meet, serve, init]
          split
          · exact .refused _
          · split
            · exact .refused _
            · exact .registered t rfl
      | find id =>
          simp only [meet, serve, find]
          split
          · exact .refused _
          · split
            · exact .looked id _ rfl
            · exact .refused _
      | _ => cases hmoves

/-- An error has changed nothing. -/
theorem meet_error {e : ServiceError} (h : (l.meet a).1 = .error e) : (l.meet a).2 = l.under a := by
  have hcomes := l.meet_comes a
  generalize l.meet a = left at hcomes h ⊢
  cases hcomes with
  | refused _ => rfl
  | looked _ _ _ => rfl
  | registered _ _ => cases h
  | moved _ _ _ _ _ _ => cases h

/-- What a movement makes of a record: it takes a step of the status table and is resolved. -/
theorem Request.transition_moved {r : Request} (hmoves : r.moves? = some id)
    (h : r.transition now t = .ok t') :
    t.status.canTransitionTo t'.status = true ∧ t'.state = .resolved ∧ r.leads? = some t'.status ∧
      t.Onward t' := by
  have honward : ∀ {next failReason}, t.status.canTransitionTo next = true → t.Onward { t with
      status := next, state := .resolved, updatedAt := now, failReason := failReason } :=
    fun hcan => { Transaction.Onward.refl t with
      status := .inr (TransactionStatus.rank_lt_of_canTransitionTo hcan) }
  cases r with
  | init _ => cases hmoves
  | find _ => cases hmoves
  | confirm _ | setPending _ =>
      obtain ⟨hcan, rfl⟩ := Transaction.moveTo_ok h
      exact ⟨hcan, rfl, rfl, honward hcan⟩
  | fail _ _ =>
      obtain ⟨hcan, rfl⟩ := Transaction.fail_ok h
      exact ⟨hcan, rfl, rfl, honward hcan⟩
  | cancel _ _ =>
      obtain ⟨hcan, rfl⟩ := Transaction.fail_ok (Transaction.cancel_ok h).2
      exact ⟨hcan, rfl, rfl, honward hcan⟩

/-- Nothing that is stored is lost or goes back. -/
theorem meet_onward (hfresh : ∀ u, a.request = .init u → l.get? u.id = none)
    (hstored : l.get? id = some t) : ∃ t', (l.meet a).2.get? id = some t' ∧ t.Onward t' := by
  have hcomes := l.meet_comes a
  generalize l.meet a = left at hcomes ⊢
  cases hcomes with
  | refused _ => exact ⟨t, hstored, .refl t⟩
  | looked _ _ _ => exact ⟨t, hstored, .refl t⟩
  | registered u hrequest =>
      have hne : id ≠ u.id := by
        rintro rfl
        rw [hfresh u hrequest] at hstored
        cases hstored
      exact ⟨t, (Table.get?_put ..).trans ((if_neg hne).trans hstored), .refl t⟩
  | moved key u u' hmoves hfound hchanged =>
      by_cases hkey : id = key
      · subst hkey
        cases hstored.symm.trans hfound
        exact ⟨u', get?_moved_self, (Request.transition_moved hmoves hchanged).2.2.2⟩
      · exact ⟨t, (get?_moved_of_ne hkey).trans hstored, .refl t⟩

/-! ### Records and counters -/

theorem inStatus_insert {status : TransactionStatus} (hfree : l.get? t.id = none)
    (hmade : t.status = .processing) (hfinal : status.isFinal = true) :
    (l.insert t).inStatus status = l.inStatus status := by
  have hput := l.records.countP_put (·.status == status) t.id t
  have hnone : l.records.get? t.id = none := hfree
  have hother : (t.status == status) = false := by
    rw [hmade]
    cases status <;> first | rfl | cases hfinal
  simp only [hnone, Option.toList_none, List.countP_cons, List.countP_nil, hother] at hput
  exact hput

/-- A movement puts one record more into the status that it leads to; the record was not settled
before. -/
theorem inStatus_moved {r : Request} {status : TransactionStatus} (hstored : l.get? id = some t)
    (hopen : t.status.isFinal = false) (hfinal : status.isFinal = true) :
    (l.moved r id t').inStatus status =
      l.inStatus status + if t'.status = status then 1 else 0 := by
  have hput := l.records.countP_put (·.status == status) id t'
  have hfound : l.records.get? id = some t := hstored
  have hother : (t.status == status) = false := by
    rw [beq_eq_false_iff_ne]
    rintro rfl
    rw [hopen] at hfinal
    cases hfinal
  simp only [hfound, Option.toList_some, List.countP_cons, List.countP_nil, hother] at hput
  unfold inStatus
  rw [moved_records]
  simpa using hput

theorem confirms_moved (l : Ledger) (r : Request) (id : TransactionId) (t : Transaction) :
    (l.moved r id t).confirms = l.confirms + if r.leads? = some .finish then 1 else 0 := by
  cases r <;> rfl

theorem cancels_moved (l : Ledger) (r : Request) (id : TransactionId) (t : Transaction) :
    (l.moved r id t).cancels + (if r.fails then 1 else 0) =
      l.cancels + if r.leads? = some .failed then 1 else 0 := by
  cases r <;> rfl

theorem Balanced.under (h : l.Balanced failures) (a : Attempt) :
    (l.under a).Balanced failures :=
  ⟨h.initial, h.confirms, h.failures⟩

/-- A ledger stays in balance. -/
theorem Balanced.meet (h : l.Balanced failures)
    (hfresh : ∀ t, a.request = .init t → t.Made ∧ l.get? t.id = none) :
    (l.meet a).2.Balanced (failures + if a.request.fails && l.grants a then 1 else 0) := by
  have hcomes := l.meet_comes a
  unfold grants
  generalize l.meet a = left at hcomes ⊢
  cases hcomes with
  | refused e =>
      have hnone : (a.request.fails && (Except.error e : Except _ Transaction).isOk) = false :=
        Bool.and_false _
      rw [hnone]
      exact h.under a
  | looked _ _ hrequest =>
      rw [hrequest]
      exact h.under a
  | registered t hrequest =>
      obtain ⟨hmade, hfree⟩ := hfresh t hrequest
      have hinitial : t.state = .initial ∧ t.status = .processing := by
        obtain ⟨_, _, _, _, _, _, _, _, rfl⟩ := hmade
        exact ⟨rfl, rfl⟩
      rw [hrequest]
      refine ⟨fun id u hu => ?_, ?_, ?_⟩
      · rcases eq_or_ne id t.id with rfl | hne
        · cases ((Table.get?_put ..).trans (if_pos rfl)).symm.trans hu
          exact ⟨fun _ => hinitial.2, fun _ => hinitial.1⟩
        · exact h.initial id u (((Table.get?_put ..).trans (if_neg hne)).symm.trans hu)
      · exact h.confirms.trans (inStatus_insert (l := l) hfree hinitial.2 rfl).symm
      · exact h.failures.trans (inStatus_insert (l := l) hfree hinitial.2 rfl).symm
  | moved id t t' hmoves hstored hchanged =>
      obtain ⟨hcan, hresolved, hleads, _⟩ := Request.transition_moved hmoves hchanged
      have hopen : t.status.isFinal = false := Transaction.not_isFinal_of_canTransitionTo hcan
      have hcounted : ∀ {status : TransactionStatus}, status.isFinal = true →
          ((l.under a).moved a.request id t').inStatus status =
            l.inStatus status + if a.request.leads? = some status then 1 else 0 := by
        intro status hfinal
        rw [inStatus_moved (l := l.under a) hstored hopen hfinal, hleads]
        simp only [Option.some.injEq]
        rfl
      refine ⟨fun key u hu => ?_, ?_, ?_⟩
      · rcases eq_or_ne key id with rfl | hne
        · cases get?_moved_self.symm.trans hu
          -- what has been moved is neither initial nor processing
          rw [hresolved]
          refine ⟨nofun, fun hprocessing => ?_⟩
          rw [hprocessing] at hcan
          cases hstatus : t.status <;> rw [hstatus] at hcan <;> cases hcan
        · exact h.initial key u ((get?_moved_of_ne (l := l.under a) hne).symm.trans hu)
      · rw [confirms_moved, hcounted rfl]
        exact congrArg (· + _) h.confirms
      · have hcancels := (l.under a).cancels_moved a.request id t'
        have hfailures : (l.under a).cancels + failures = l.inStatus .failed := h.failures
        have hgranted : (a.request.fails && (Except.ok t' : Except ServiceError _).isOk) =
            a.request.fails := Bool.and_true _
        rw [hcounted rfl, hgranted]
        show ((l.under a).moved a.request id t').cancels + _ = _
        omega

/-! ## Any number of attempts -/

theorem balanced_empty : empty.Balanced 0 := by
  refine ⟨fun id t hstored => ?_, rfl, rfl⟩
  cases hstored

theorem along_balanced {attempts : List Attempt} (h : l.Balanced failures)
    (hfresh : l.Fresh attempts) :
    (l.along attempts).Balanced (failures + l.failures attempts) := by
  induction attempts generalizing l failures with
  | nil => exact h
  | cons a attempts ih =>
      have hrest := ih (h.meet hfresh.1) hfresh.2
      rw [Nat.add_assoc] at hrest
      exact hrest

theorem along_onward {attempts : List Attempt} (hfresh : l.Fresh attempts)
    (hstored : l.get? id = some t) : ∃ t', (l.along attempts).get? id = some t' ∧ t.Onward t' := by
  induction attempts generalizing l t with
  | nil => exact ⟨t, hstored, .refl t⟩
  | cons a attempts ih =>
      obtain ⟨u, hu, honward⟩ := meet_onward (fun _ hrequest => (hfresh.1 _ hrequest).2) hstored
      obtain ⟨t', ht', honward'⟩ := ih hfresh.2 hu
      exact ⟨t', ht', honward.trans honward'⟩

/-- Whatever is asked of an empty ledger, in whatever sequence and however its switches are set
between, as long as records are registered as they are made and under identifiers that are still
free: a record is initial exactly while it is processing; from any point to any later one it stays
stored with its order, its amounts and its users, and its status only goes forward; the
confirmations are as many as the finished records, and the cancellations and failures together as
many as the failed ones; and an error has changed neither a record nor a counter. -/
theorem along_in_balance (attempts : List Attempt) (hfresh : empty.Fresh attempts) :
    (∀ id t, (empty.along attempts).get? id = some t →
      (t.state = .initial ↔ t.status = .processing)) ∧
    (∀ before after, attempts = before ++ after → ∀ id t, (empty.along before).get? id = some t →
      ∃ t', (empty.along attempts).get? id = some t' ∧ t.Onward t') ∧
    (empty.along attempts).confirms = (empty.along attempts).inStatus .finish ∧
    (empty.along attempts).cancels + empty.failures attempts =
      (empty.along attempts).inStatus .failed ∧
    ∀ before a after e, attempts = before ++ a :: after →
      ((empty.along before).meet a).1 = .error e →
        ((empty.along before).meet a).2.records = (empty.along before).records ∧
        ((empty.along before).meet a).2.cancels = (empty.along before).cancels ∧
        ((empty.along before).meet a).2.confirms = (empty.along before).confirms := by
  have hbalanced := along_balanced balanced_empty hfresh
  rw [Nat.zero_add] at hbalanced
  refine ⟨hbalanced.initial, ?_, hbalanced.confirms, hbalanced.failures, ?_⟩
  · rintro before after rfl id t hstored
    rw [along_append]
    exact along_onward ((fresh_append ..).mp hfresh).2 hstored
  · intro before a after e _ herror
    rw [meet_error herror]
    exact ⟨rfl, rfl, rfl⟩

/-! ### Three records -/

/-- A record with a payer, as it is made. -/
def paidBy (n : Nat) : Transaction :=
  { Transaction.create ⟨.ofNat n⟩ default default .zero with payerId := some default }

/-- One record is put on hold and confirmed, one is cancelled at the second try, and one is failed.
The fourth is refused. -/
def threeRecords : List Attempt :=
  [(Request.init (paidBy 1)).plainly, (Request.init (paidBy 2)).plainly,
    (Request.init (paidBy 3)).plainly,
    { (Request.init (paidBy 4)).plainly with rejectInit := some "over limit" },
    (Request.setPending (paidBy 1).id).plainly, (Request.confirm (paidBy 1).id).plainly,
    { (Request.cancel (paidBy 2).id "bank failed").plainly with failOnCancel := true },
    (Request.cancel (paidBy 2).id "bank failed").plainly,
    (Request.fail (paidBy 3).id "bank failed").plainly]

theorem made_paidBy (n : Nat) : (paidBy n).Made :=
  ⟨_, _, _, _, .zero, .zero, _, none, rfl⟩

theorem threeRecords_fresh : empty.Fresh threeRecords := by
  simp only [Fresh, threeRecords, Request.plainly, Request.init.injEq, forall_eq', reduceCtorEq,
    false_implies, implies_true, and_true]
  exact ⟨⟨made_paidBy 1, rfl⟩, ⟨made_paidBy 2, by decide⟩, ⟨made_paidBy 3, by decide⟩,
    made_paidBy 4, by decide⟩

/-- The finished record is the one that was confirmed, and of the failed ones each has its
cancellation or its failure. -/
theorem along_in_balance_three : empty.Fresh threeRecords ∧
    (empty.along threeRecords).inStatus .finish = 1 ∧
    (empty.along threeRecords).inStatus .failed = 2 ∧ empty.failures threeRecords = 1 := by
  obtain ⟨_, _, hconfirms, hfailed, _⟩ := along_in_balance threeRecords threeRecords_fresh
  have hconfirmed : (empty.along threeRecords).confirms = 1 := by decide
  have hcancelled : (empty.along threeRecords).cancels = 1 := by decide
  have hfailures : empty.failures threeRecords = 1 := by decide
  refine ⟨threeRecords_fresh, hconfirms.symm.trans hconfirmed, ?_, hfailures⟩
  rw [← hfailed, hcancelled, hfailures]

end Ledger

end Wallet
