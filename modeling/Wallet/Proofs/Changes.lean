import Wallet.Order.Change
import Wallet.Transaction.Change

/-!
# What changes do

For each change of an order or a ledger record: when it is accepted, and what it gives then.
-/

namespace Wallet

namespace Order

variable {o o' : Order} {now : Timestamp} {reason : String}

theorem isUnresolved_of_not_isTerminal (h : o.isTerminal = false) :
    o.status.isUnresolved = true := by
  unfold isTerminal at h
  cases hstatus : o.status <;> first | rfl | (rw [hstatus] at h; cases h)

theorem transition_ok {next : OrderStatus} (h : o.transition next now = .ok o') :
    o.status.canTransitionTo next = true ∧
      o' = { o with status := next, awaitingOtp := false, updatedAt := now } := by
  unfold transition at h
  split at h
  · next hcan =>
      cases h
      exact ⟨hcan, rfl⟩
  · cases h

theorem transitionFor_ok {next : OrderStatus} (h : o.transitionFor next reason now = .ok o') :
    o.status.canTransitionTo next = true ∧ o' = { o with
      status := next, awaitingOtp := false, updatedAt := now, failReason := some reason } := by
  unfold transitionFor at h
  cases hmoved : o.transition next now with
  | error e =>
      rw [hmoved] at h
      cases h
  | ok moved =>
      obtain ⟨hcan, rfl⟩ := transition_ok hmoved
      rw [hmoved] at h
      cases h
      exact ⟨hcan, rfl⟩

theorem failUnlessResolved?_some (h : o.failUnlessResolved? reason now = some o') :
    o.isVerifying = false ∧ o.isTerminal = false ∧ o' = { o with
      status := .failed, awaitingOtp := false, updatedAt := now, failReason := some reason } := by
  unfold failUnlessResolved? at h
  split at h
  · cases h
  · next hopen =>
      simp only [Bool.or_eq_true, not_or, Bool.not_eq_true] at hopen
      cases hfailed : o.fail reason now with
      | error e =>
          rw [hfailed] at h
          cases h
      | ok failed =>
          obtain ⟨_, rfl⟩ := transitionFor_ok hfailed
          rw [hfailed] at h
          cases h
          exact ⟨hopen.1, hopen.2, rfl⟩

theorem settle_ok {success : Bool} {reason : Option String}
    (h : o.settle success reason now = .ok o') :
    o.status.isUnresolved = true ∧ o' = { o with
      status := if success then .success else .failed
      awaitingOtp := false
      updatedAt := now
      failReason := if success then o.failReason else reason } := by
  unfold settle at h
  simp only at h
  split at h
  · next hopen =>
      cases h
      exact ⟨hopen, rfl⟩
  · cases h

/-- An order that is not resolved yet can be brought to any end. -/
theorem settle_error {success : Bool} {reason : Option String} {e : OrderError}
    (h : o.settle success reason now = .error e) : o.isUnresolved = false := by
  unfold settle at h
  simp only at h
  split at h
  · cases h
  · next hresolved => exact eq_false_of_ne_true hresolved

theorem expire_error {e : OrderError} (h : o.expire reason now = .error e) :
    o.isUnresolved = false := by
  unfold expire at h
  cases hsettled : o.settle false (some reason) now with
  | error e => exact settle_error hsettled
  | ok o' =>
      rw [hsettled] at h
      cases h

theorem expire_ok (h : o.expire reason now = .ok o') :
    o.status.isUnresolved = true ∧ o' = { o with
      status := .failed
      awaitingOtp := false
      updatedAt := now
      failReason := some reason
      isExpired := true } := by
  unfold expire at h
  cases hsettled : o.settle false (some reason) now with
  | error e =>
      rw [hsettled] at h
      cases h
  | ok settled =>
      obtain ⟨hopen, rfl⟩ := settle_ok hsettled
      rw [hsettled] at h
      cases h
      exact ⟨hopen, rfl⟩

/-- What may be written in place of an order that is reconciled. -/
inductive Resolves (o : Order) : Order → Prop
  | settled {o' : Order} {success : Bool} {reason : Option String} {now : Timestamp} :
      o.settle success reason now = .ok o' → Resolves o o'
  | retrieved {o' : Order} {success : Bool} {reason : Option String} {now later : Timestamp} :
      o.settle success reason now = .ok o' → Resolves o (o'.markRetrieved later)
  | expired {o' : Order} {reason : String} {now : Timestamp} :
      o.expire reason now = .ok o' → Resolves o o'

theorem Resolves.ties (h : o.Resolves o') :
    o'.id = o.id ∧ o'.transactionId = o.transactionId := by
  cases h with
  | settled h =>
      obtain ⟨_, rfl⟩ := settle_ok h
      exact ⟨rfl, rfl⟩
  | retrieved h =>
      obtain ⟨_, rfl⟩ := settle_ok h
      exact ⟨rfl, rfl⟩
  | expired h =>
      obtain ⟨_, rfl⟩ := expire_ok h
      exact ⟨rfl, rfl⟩

theorem Resolves.status (h : o.Resolves o') : o'.status = .success ∨ o'.status = .failed := by
  cases h with
  | @settled _ success _ _ h =>
      obtain ⟨_, rfl⟩ := settle_ok h
      cases success <;> simp
  | @retrieved _ success _ _ _ h =>
      obtain ⟨_, rfl⟩ := settle_ok h
      cases success <;> simp [markRetrieved]
  | expired h =>
      obtain ⟨_, rfl⟩ := expire_ok h
      exact .inr rfl

theorem Resolves.unresolved (h : o.Resolves o') : o.isUnresolved = true := by
  cases h with
  | settled h => exact (settle_ok h).1
  | retrieved h => exact (settle_ok h).1
  | expired h => exact (expire_ok h).1

/-- An unresolved order gives way to a resolved one. -/
theorem Resolves.acceptsOverwrite (h : o.Resolves o') :
    o.status.acceptsOverwrite o'.status = true := by
  have hopen : o.status.isUnresolved = true := h.unresolved
  cases hstatus : o.status <;> rw [hstatus] at hopen <;> cases hopen <;>
    rcases h.status with hended | hended <;> rw [hended] <;> rfl

theorem markAwaitingOtp_ok (h : o.markAwaitingOtp now = .ok o') :
    o.status = .processing ∧ o' = { o with awaitingOtp := true, updatedAt := now } := by
  unfold markAwaitingOtp at h
  split at h
  · next hprocessing =>
      cases h
      exact ⟨hprocessing, rfl⟩
  · cases h

theorem linkTransaction_ok {id : TransactionId} (h : o.linkTransaction id now = .ok o') :
    (∀ existing, o.transactionId = some existing → existing = id) ∧
      o' = { o with transactionId := some id, updatedAt := now } := by
  unfold linkTransaction at h
  split at h
  · next existing hlinked =>
      split at h
      · next hsame =>
          cases h
          refine ⟨?_, rfl⟩
          intro other hother
          rw [hlinked] at hother
          cases hother
          exact hsame
      · cases h
  · next hfree =>
      cases h
      exact ⟨fun existing hlinked => by simp [hfree] at hlinked, rfl⟩

end Order

namespace Transaction

variable {t t' : Transaction} {now : Timestamp} {reason : String}

/-- A settled record has nowhere to go. -/
theorem not_isFinal_of_canTransitionTo {status next : TransactionStatus}
    (h : status.canTransitionTo next = true) : status.isFinal = false := by
  cases status with
  | processing => rfl
  | pending => rfl
  | finish => cases next <;> cases h
  | failed => cases next <;> cases h

theorem moveTo_ok {next : TransactionStatus} (h : t.moveTo next now = .ok t') :
    t.status.canTransitionTo next = true ∧
      t' = { t with status := next, state := .resolved, updatedAt := now } := by
  unfold moveTo at h
  split at h
  · next hcan =>
      cases h
      exact ⟨hcan, rfl⟩
  · cases h

theorem fail_ok (h : t.fail reason now = .ok t') :
    t.status.canTransitionTo .failed = true ∧ t' = { t with
      status := .failed, state := .resolved, updatedAt := now, failReason := some reason } := by
  unfold fail at h
  cases hmoved : t.moveTo .failed now with
  | error e =>
      rw [hmoved] at h
      cases h
  | ok moved =>
      obtain ⟨hcan, rfl⟩ := moveTo_ok hmoved
      rw [hmoved] at h
      cases h
      exact ⟨hcan, rfl⟩

theorem cancel_ok (h : t.cancel reason now = .ok t') :
    t.state = .initial ∧ t.fail reason now = .ok t' := by
  unfold cancel at h
  split at h
  · next hcan => exact ⟨by simpa [isCancellable] using hcan, h⟩
  · cases h

end Transaction

end Wallet
