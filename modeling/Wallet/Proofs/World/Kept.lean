import Wallet.Proofs.Store.Basic
import Wallet.Proofs.Store.Records
import Wallet.Proofs.World.Run

/-!
# Stores that are kept

The books show what is stored, but not how often it was written. A run that files no order leaves the
order store as it was, with its count of writes; one that enters no record leaves the ledger as it was,
with its counts of confirmations and cancellations (`stores_of_yields`).
-/

namespace Wallet

/-- The records of a ledger, and how many confirmations and cancellations there were. -/
def Ledger.content (l : Ledger) : Table TransactionId Transaction × Nat × Nat :=
  (l.records, l.confirms, l.cancels)

theorem OrderStore.serve_kept (s : OrderStore) (now : Timestamp) (r : Request)
    (h : (Event.mk (.orders r) (s.serve now r).1).filed? = none) : (s.serve now r).2 = s := by
  rcases s.serve_cases now r with ⟨hok, _, _, hdone⟩ | ⟨_, _, hsame⟩
  · rw [hdone]
    -- a request that is done files its order, unless it only reads
    cases r with
    | find _ | findExpired _ _ => rfl
    | create o | replace o | process o =>
        cases hx : (s.serve now _).1 with
        | error e =>
            rw [hx] at hok
            cases hok
        | ok o' =>
            rw [hx] at h
            cases h
  · exact hsame

/-- A request that moves a record enters it, if it is not turned away. -/
theorem Ledger.serve_moving_kept (l : Ledger) (now : Timestamp) {r : Request} {id : TransactionId}
    (hmoves : r.moves? = some id)
    (hentered : ∀ t, (Event.mk (.ledger r) (.ok t)).entered? = some id)
    (h : (Event.mk (.ledger r) (l.serve now r).1).entered? = none) : (l.serve now r).2 = l := by
  rcases l.serve_moving_cases now hmoves with ⟨e, hrefused⟩ | ⟨t, t', _, _, hmoved⟩
  · rw [hrefused]
  · rw [hmoved, hentered] at h
    cases h

theorem Ledger.serve_kept (l : Ledger) (now : Timestamp) (r : Request)
    (h : (Event.mk (.ledger r) (l.serve now r).1).entered? = none) : (l.serve now r).2 = l := by
  cases r with
  | find _ => rfl
  | init t =>
      simp only [serve] at h ⊢
      cases hinit : l.init t with
      | error e => rfl
      | ok registered =>
          rw [hinit] at h
          cases h
  | confirm _ | cancel _ _ | setPending _ | fail _ _ =>
      exact l.serve_moving_kept now rfl (fun _ => rfl) h

namespace World

variable {w : World} {m : Moment} {c : Call}

theorem answer_orders (h : (Event.mk c (w.answer m c).1).filed? = none) :
    (w.answer m c).2.services.orders = w.services.orders := by
  simp only [answer, Services.serve] at h ⊢
  split at h
  · rfl
  · cases c with
    | orders r => exact (w.services.amid m).orders.serve_kept _ r h
    | submit n =>
        show ((w.services.amid m).submitJob n).orders = _
        unfold Services.submitJob Services.takeSlot
        cases (w.services.amid m).pool.submit? <;> rfl
    | _ => rfl

theorem answer_ledger (h : (Event.mk c (w.answer m c).1).entered? = none) :
    (w.answer m c).2.services.ledger.content = w.services.ledger.content := by
  simp only [answer, Services.serve] at h ⊢
  split at h
  · rfl
  · cases c with
    | ledger r =>
        have hkept := (w.services.amid m).ledger.serve_kept (w.services.amid m).readClock.1 r h
        exact (congrArg Ledger.content hkept).trans rfl
    | submit n =>
        show ((w.services.amid m).submitJob n).ledger.content = _
        unfold Services.submitJob Services.takeSlot
        cases (w.services.amid m).pool.submit? <;> rfl
    | _ => rfl

end World

/-- A run goes on with the history, and what it does not write it keeps. -/
theorem Program.stores_of_yields {α : Type} {x : Program α} {w w' : World} {a : α}
    (hrun : x.Yields w a w') : ∃ later, w'.history = w.history ++ later ∧
      ((∀ e ∈ later, e.filed? = none) → w'.services.orders = w.services.orders) ∧
      ((∀ e ∈ later, e.entered? = none) →
        w'.services.ledger.content = w.services.ledger.content) := by
  induction x generalizing w with
  | done b =>
      obtain ⟨_, rfl⟩ := hrun
      exact ⟨[], by simp, fun _ => rfl, fun _ => rfl⟩
  | call c next ih =>
      obtain ⟨m, _, hrest⟩ := hrun
      obtain ⟨later, hhistory, horders, hledger⟩ := ih _ hrest
      refine ⟨⟨c, (w.answer m c).1⟩ :: later, ?_, fun h => ?_, fun h => ?_⟩
      · rw [hhistory]
        exact List.append_cons .. |>.symm
      · exact (horders fun e he => h e (.tail _ he)).trans (World.answer_orders (h _ (.head _)))
      · exact (hledger fun e he => h e (.tail _ he)).trans (World.answer_ledger (h _ (.head _)))

end Wallet
