import Wallet.Proofs.Changes
import Wallet.Proofs.World.Writes
import Wallet.Service.Ledger

/-!
# What one request does to the ledger

A request that moves a record is turned away if the ledger cannot be reached, it finds no record, or
the record refuses to be moved. Else the record is moved as asked, and confirmations and cancellations
are counted. A request that is turned away changes nothing.
-/

namespace Wallet

namespace Ledger

/-- How a request moves a record at an instant. -/
def Request.transition (now : Timestamp) :
    Request → Transaction → Except TransactionError Transaction
  | .confirm _, t => t.confirm now
  | .cancel _ reason, t => t.cancel reason now
  | .setPending _, t => t.setPending now
  | .fail _ reason, t => t.fail reason now
  | .init _, t | .find _, t => .ok t

/-- Why the ledger turns a request away before it looks at the record, if it does. -/
def barred? (l : Ledger) (r : Request) : Option ServiceError :=
  if l.unavailable then some down
  else match r with
    | .cancel _ _ => if l.failOnCancel then some (.unavailable "ledger cancel") else none
    | _ => none

/-- The ledger once a request has moved a record. -/
def moved (l : Ledger) (r : Request) (id : TransactionId) (t : Transaction) : Ledger :=
  let entered := { l with records := l.records.put id t }
  match r with
  | .confirm _ => { entered with confirms := l.confirms + 1 }
  | .cancel _ _ => { entered with cancels := l.cancels + 1 }
  | _ => entered

variable {l : Ledger} {r : Request} {id : TransactionId} {t t' : Transaction} {now : Timestamp}

/-! ## Records that are found -/

theorem find_ok (h : l.find id = .ok t) : l.unavailable = false ∧ l.get? id = some t := by
  unfold find at h
  split at h
  · cases h
  · next hup =>
      cases hget : l.get? id with
      | none =>
          rw [hget] at h
          cases h
      | some found =>
          rw [hget] at h
          cases h
          exact ⟨by simpa using hup, rfl⟩

theorem find_of_get? (hup : l.unavailable = false) (h : l.get? id = some t) :
    l.find id = .ok t := by
  simp [find, hup, h]

/-! ## Records that are moved -/

@[simp] theorem moved_records : (l.moved r id t).records = l.records.put id t := by
  cases r <;> rfl

@[simp] theorem moved_unavailable : (l.moved r id t).unavailable = l.unavailable := by
  cases r <;> rfl

@[simp] theorem moved_failOnCancel : (l.moved r id t).failOnCancel = l.failOnCancel := by
  cases r <;> rfl

theorem get?_moved_self : (l.moved r id t).get? id = some t := by
  unfold get?
  rw [moved_records, Table.get?_put, if_pos rfl]

theorem get?_moved_of_ne {id' : TransactionId} (h : id' ≠ id) :
    (l.moved r id t).get? id' = l.get? id' := by
  unfold get?
  rw [moved_records, Table.get?_put, if_neg h]

theorem find_moved (h : l.find id = .ok t) : (l.moved r id t').find id = .ok t' :=
  find_of_get? (by simpa using (find_ok h).1) get?_moved_self

/-- What a change of a stored record is answered with, and what it leaves once it is counted. -/
theorem settled_change (l : Ledger) (id : TransactionId)
    (transition : Transaction → Except TransactionError Transaction) (count : Ledger → Ledger) :
    settled l ((l.change id transition).map fun r => (r.1, count r.2)) = match l.get? id with
      | none => (.error (missing id), l)
      | some t => match transition t with
          | .ok t' => (.ok t', count { l with records := l.records.put id t' })
          | .error e => (.error (.ofTransactionError e), l) := by
  unfold change
  cases l.get? id with
  | none => rfl
  | some t =>
      simp only
      cases transition t <;> rfl

/-- A change that is not counted. -/
theorem settled_uncounted (l : Ledger) (id : TransactionId)
    (transition : Transaction → Except TransactionError Transaction) :
    settled l (l.change id transition) = match l.get? id with
      | none => (.error (missing id), l)
      | some t => match transition t with
          | .ok t' => (.ok t', { l with records := l.records.put id t' })
          | .error e => (.error (.ofTransactionError e), l) := by
  have hplain : ((l.change id transition).map fun r => (r.1, r.2)) = l.change id transition := by
    cases l.change id transition <;> rfl
  rw [← hplain]
  exact l.settled_change id transition fun l => l

/-- What the ledger answers to a request that moves a record, and what it leaves. -/
theorem serve_moving (l : Ledger) (now : Timestamp) (h : r.moves? = some id) :
    l.serve now r = match l.barred? r with
      | some e => (.error e, l)
      | none => match l.get? id with
          | none => (.error (missing id), l)
          | some t => match r.transition now t with
              | .ok t' => (.ok t', l.moved r id t')
              | .error e => (.error (.ofTransactionError e), l) := by
  obtain ⟨records, rejectInit, failOnCancel, unavailable, cancels, confirms⟩ := l
  cases unavailable with
  | true => cases r <;> rfl
  | false =>
      cases r with
      | init t => cases h
      | find id => cases h
      | confirm _ =>
          cases h
          exact settled_change _ id (fun t => t.confirm now) fun l =>
            { l with confirms := l.confirms + 1 }
      | cancel _ reason =>
          cases h
          cases failOnCancel with
          | true => rfl
          | false =>
              exact settled_change _ id (fun t => t.cancel reason now) fun l =>
                { l with cancels := l.cancels + 1 }
      | setPending _ =>
          cases h
          exact settled_uncounted _ id fun t => t.setPending now
      | fail _ reason =>
          cases h
          exact settled_uncounted _ id fun t => t.fail reason now

/-- A request that moves a record is turned away, and nothing changes, or it moves the record. -/
theorem serve_moving_cases (l : Ledger) (now : Timestamp) (h : r.moves? = some id) :
    (∃ e, l.serve now r = (.error e, l)) ∨
      ∃ t t', l.get? id = some t ∧ r.transition now t = .ok t' ∧
        l.serve now r = (.ok t', l.moved r id t') := by
  rw [serve_moving l now h]
  cases l.barred? r with
  | some e => exact .inl ⟨e, rfl⟩
  | none =>
      cases hfound : l.get? id with
      | none => exact .inl ⟨_, rfl⟩
      | some t =>
          simp only
          cases hmoves : r.transition now t with
          | error e => exact .inl ⟨_, rfl⟩
          | ok t' => exact .inr ⟨t, t', rfl, hmoves, rfl⟩

/-- Whether a record can be cancelled depends neither on the reason nor on the instant. -/
theorem cancel_refused {reason reason' : String} {now' : Timestamp} {e : ServiceError}
    (h : l.serve now (.cancel id reason) = (.error e, l)) :
    ∃ e', l.serve now' (.cancel id reason') = (.error e', l) := by
  rcases l.serve_moving_cases now' (r := .cancel id reason') rfl with
    hrefused | ⟨t, t', ht, hcancelled, hserved⟩
  · exact hrefused
  · obtain ⟨hinitial, hfailed⟩ := Transaction.cancel_ok hcancelled
    obtain ⟨hcan, _⟩ := Transaction.fail_ok hfailed
    have hcancels {reason : String} : (Request.cancel id reason).moves? = some id := rfl
    have hbarred : l.barred? (.cancel id reason) = none := by
      cases hbar : l.barred? (.cancel id reason) with
      | none => rfl
      | some e =>
          have hbar' : l.barred? (.cancel id reason') = some e := hbar
          rw [serve_moving l now' hcancels, hbar'] at hserved
          cases hserved
    rw [serve_moving l now hcancels, hbarred, ht] at h
    simp [Request.transition, Transaction.cancel, Transaction.isCancellable, hinitial,
      Transaction.fail, Transaction.moveTo, hcan, Except.map] at h

end Ledger

end Wallet
