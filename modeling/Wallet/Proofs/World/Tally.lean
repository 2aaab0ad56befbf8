import Wallet.Proofs.World.Gist

/-!
# Tallies

What the books do not show: which vouchers are in use, how many records have been cancelled, and what
the bank was asked and has answered. All of it follows from the history of a world event by event, and
the events that do not count leave it as it is.
-/

namespace Wallet

/-- Something the bank was asked, with its answer. -/
abbrev Inquiry : Type := Bank.Request × Except ServiceError ProviderResponse

/-- What the bank was asked and has answered, if the event is that. -/
def Event.inquiry? : Event → Option Inquiry
  | ⟨.bank r, x⟩ => some (r, x)
  | _ => none

@[ext] structure Tally where
  /-- The codes of the vouchers in use, by trace id. -/
  vouchers : String → Option String
  /-- How many records have been cancelled. -/
  cancels : Nat
  /-- What the bank was asked, the oldest first. -/
  inquiries : List Inquiry

namespace Tally

def use (t : Tally) (trace code : String) : Tally :=
  { t with vouchers := Function.update t.vouchers trace (some code) }

def takeBack (t : Tally) (trace : String) : Tally :=
  { t with vouchers := Function.update t.vouchers trace none }

def cancel (t : Tally) : Tally := { t with cancels := t.cancels + 1 }

def inquire (t : Tally) (r : Bank.Request) (x : Except ServiceError ProviderResponse) : Tally :=
  { t with inquiries := t.inquiries ++ [(r, x)] }

/-- The tally that an event leaves. -/
def after (t : Tally) : Event → Tally
  | ⟨.promotion (.useVoucher code _ trace _), .ok _⟩ => t.use trace code
  | ⟨.promotion (.reverse trace), .ok _⟩ => t.takeBack trace
  | ⟨.ledger (.cancel _ _), .ok _⟩ => t.cancel
  | ⟨.bank r, x⟩ => t.inquire r x
  | _ => t

theorem after_of_not_counts {e : Event} (h : e.counts = false) (t : Tally) : t.after e = t := by
  obtain ⟨c, x⟩ := e
  cases c with
  | ledger r => cases r <;> cases x <;> first | rfl | cases h
  | promotion r => cases r <;> cases x <;> first | rfl | cases h
  | bank r => cases h
  | _ => rfl

theorem after_inquiries (t : Tally) (e : Event) :
    (t.after e).inquiries = t.inquiries ++ e.inquiry?.toList := by
  obtain ⟨c, x⟩ := e
  cases c with
  | ledger r => cases r <;> cases x <;> exact (List.append_nil _).symm
  | promotion r => cases r <;> cases x <;> exact (List.append_nil _).symm
  | bank r => rfl
  | _ => exact (List.append_nil _).symm

/-- The tally that some events leave one after the other. -/
def along (t : Tally) (events : List Event) : Tally := events.foldl after t

theorem along_concat (t : Tally) (events : List Event) (e : Event) :
    t.along (events ++ [e]) = (t.along events).after e := by
  simp [along]

@[simp] theorem along_note (t : Tally) (p : Past) (c : Call) (x : c.Answer) :
    t.along (p.note c x).events = (t.along p.events).after ⟨c, x⟩ :=
  t.along_concat p.events ⟨c, x⟩

theorem along_counts (t : Tally) (events : List Event) :
    t.along (events.filter Event.counts) = t.along events := by
  induction events generalizing t with
  | nil => rfl
  | cons e rest ih =>
      cases hcounts : e.counts with
      | true =>
          rw [List.filter_cons_of_pos hcounts]
          exact ih (t.after e)
      | false =>
          rw [List.filter_cons_of_neg (by simp [hcounts]), ih]
          exact congrArg (along · rest) (after_of_not_counts hcounts t).symm

end Tally

/-! ## The tally of a world -/

namespace Ledger

variable {l : Ledger} {changed : Except ServiceError (Transaction × Ledger)}

theorem cancels_change {id : TransactionId}
    {transition : Transaction → Except TransactionError Transaction} {r : Transaction × Ledger}
    (h : l.change id transition = .ok r) : r.2.cancels = l.cancels := by
  unfold change at h
  cases hget : l.get? id with
  | none =>
      rw [hget] at h
      cases h
  | some t =>
      rw [hget] at h
      cases hmoved : transition t with
      | ok t' =>
          simp only [hmoved] at h
          cases h
          rfl
      | error e =>
          simp only [hmoved] at h
          cases h

theorem cancels_settled (h : ∀ r, changed = .ok r → r.2.cancels = l.cancels) :
    (settled l changed).2.cancels = l.cancels := by
  cases changed with
  | error e => rfl
  | ok r => exact h r rfl

/-- Only a cancellation that was made is counted. -/
def Counts (l : Ledger) (r : Request) (x : Except ServiceError Transaction × Ledger) : Prop :=
  x.2.cancels = match r, x.1 with
    | .cancel _ _, .ok _ => l.cancels + 1
    | _, _ => l.cancels

theorem cancel_counts (id : TransactionId) (reason : String) (now : Timestamp) :
    l.Counts (.cancel id reason) (settled l (l.cancel id reason now)) := by
  unfold cancel
  split
  · rfl
  · split
    · rfl
    · cases hchanged : l.change id fun t => t.cancel reason now with
      | error e => rfl
      | ok r => exact congrArg (· + 1) (cancels_change hchanged)

theorem serve_counts (l : Ledger) (now : Timestamp) (r : Request) :
    l.Counts r (l.serve now r) := by
  cases r with
  | init t =>
      simp only [serve, init]
      split
      · rfl
      · split <;> rfl
  | confirm id =>
      simp only [serve, confirm]
      split
      · rfl
      · cases hchanged : l.change id fun t => t.confirm now with
        | error e => rfl
        | ok r => exact cancels_change hchanged
  | cancel id reason => exact cancel_counts id reason now
  | setPending id =>
      simp only [serve, setPending]
      split
      · rfl
      · exact cancels_settled fun _ => cancels_change
  | fail id reason =>
      simp only [serve, fail]
      split
      · rfl
      · exact cancels_settled fun _ => cancels_change
  | find id => rfl

end Ledger

namespace Promotion

/-- The codes of the vouchers in use, by trace id. -/
def inUse (p : Promotion) (trace : String) : Option String :=
  (p.usages.get? trace).map Discount.voucherCode

theorem inUse_useVoucher {p : Promotion} {code trace : String} {amount : Money}
    {r : Discount × Promotion} (h : p.useVoucher code trace amount = .ok r) :
    r.2.inUse = Function.update p.inUse trace (some code) := by
  unfold useVoucher at h
  split at h
  · cases h
  · cases h
    funext k
    simp only [inUse, Table.get?_put, Function.update_apply]
    split <;> rfl

theorem inUse_reverse (p : Promotion) (trace : String) :
    (p.reverse trace).inUse = Function.update p.inUse trace none := by
  funext k
  unfold reverse
  cases hused : p.usages.get? trace with
  | none =>
      by_cases heq : k = trace
      · simp [inUse, heq, hused]
      · simp [heq]
  | some d =>
      simp only [inUse, Table.get?_erase, Function.update_apply]
      split <;> rfl

end Promotion

namespace World

/-- The vouchers in use, the number of cancellations, and what the bank was asked. -/
def tally (w : World) : Tally :=
  ⟨w.services.promotion.inUse, w.services.ledger.cancels, w.history.filterMap Event.inquiry?⟩

/-- An answer has been tallied. -/
def Tallied (w : World) (c : Call) (x : c.Answer × Services) : Prop :=
  tally ⟨x.2, w.history ++ [⟨c, x.1⟩]⟩ = w.tally.after ⟨c, x.1⟩

variable {w : World} {c : Call} {x : c.Answer × Services}

theorem tallied_of (hvouchers : x.2.promotion.inUse = (w.tally.after ⟨c, x.1⟩).vouchers)
    (hcancels : x.2.ledger.cancels = (w.tally.after ⟨c, x.1⟩).cancels) : w.Tallied c x := by
  refine Tally.ext hvouchers hcancels ?_
  show (w.history ++ [Event.mk c x.1]).filterMap Event.inquiry? = _
  rw [Tally.after_inquiries, List.filterMap_append, List.filterMap_cons, List.filterMap_nil]
  cases (Event.mk c x.1).inquiry? <;> rfl

theorem refusal_tallied (m : Moment) {what : String} {x : c.Answer}
    (h : c.refusal? (.unavailable what) = some x) : w.Tallied c (x, w.services.amid m) := by
  cases c with
  | ledger r | promotion r =>
      cases h
      -- which events are tallied depends on what was asked
      cases r <;> exact tallied_of rfl rfl
  | orders r | bank r | deliver n =>
      cases h
      exact tallied_of rfl rfl
  | _ => cases h

theorem ledger_tallied {r : Ledger.Request} {y : Except ServiceError Transaction × Ledger}
    {services : Services} (hcounts : w.services.ledger.Counts r y)
    (hvouchers : services.promotion.inUse = w.services.promotion.inUse)
    (hledger : services.ledger = y.2) : w.Tallied (.ledger r) (y.1, services) := by
  obtain ⟨answer, ledger⟩ := y
  cases hledger
  cases r <;> cases answer <;> exact tallied_of hvouchers hcounts

theorem promotion_tallied {p : Promotion} {r : Promotion.Request} {services : Services}
    (hp : p.inUse = w.services.promotion.inUse) (hservices : services.promotion = (p.serve r).2)
    (hcancels : services.ledger.cancels = w.services.ledger.cancels) :
    w.Tallied (.promotion r) ((p.serve r).1, services) := by
  cases r with
  | useVoucher code user trace amount =>
      simp only [Promotion.serve] at hservices ⊢
      cases hused : p.useVoucher code trace amount with
      | error e =>
          rw [hused] at hservices
          refine tallied_of ?_ hcancels
          rw [hservices]
          exact hp
      | ok r =>
          rw [hused] at hservices
          refine tallied_of ?_ hcancels
          rw [hservices]
          exact (Promotion.inUse_useVoucher hused).trans
            (congrArg (Function.update · trace (some code)) hp)
  | reverse trace =>
      refine tallied_of ?_ hcancels
      rw [hservices]
      exact (p.inUse_reverse trace).trans (congrArg (Function.update · trace none) hp)

theorem answerAmid_tallied (m : Moment) (c : Call) : w.Tallied c (w.services.answerAmid m c) := by
  cases c with
  | ledger r => exact ledger_tallied ((w.services.amid m).ledger.serve_counts _ r) rfl rfl
  | promotion r => exact promotion_tallied (p := (w.services.amid m).promotion) rfl rfl rfl
  | submit n =>
      show w.Tallied (.submit n) ((), (w.services.amid m).submitJob n)
      unfold Services.submitJob Services.takeSlot
      cases (w.services.amid m).pool.submit? <;> exact tallied_of rfl rfl
  | _ => exact tallied_of rfl rfl

/-- The tally of a world goes on as its events do. -/
theorem tally_answer (w : World) (m : Moment) (c : Call) :
    (w.answer m c).2.tally = w.tally.after ⟨c, (w.answer m c).1⟩ := by
  have htallied : w.Tallied c (w.services.serve m c) := by
    unfold Services.serve
    split
    · next x hrefusal =>
        obtain ⟨what, _, hx⟩ := Option.bind_eq_some_iff.mp hrefusal
        exact refusal_tallied m hx
    · exact answerAmid_tallied m c
  exact htallied

end World

/-- What a run has done is in the history it leaves. -/
theorem Program.tally_of_yields {α : Type} {x : Program α} {w w' : World} {a : α} {t : Tally}
    (hrun : x.Yields w a w') (h : w.tally = t.along w.history) :
    w'.tally = t.along w'.history := by
  induction x generalizing w with
  | done b =>
      obtain ⟨_, rfl⟩ := hrun
      exact h
  | call c next ih =>
      obtain ⟨m, _, hrest⟩ := hrun
      -- one event carries both the tally and the history on
      apply ih _ hrest
      rw [World.tally_answer, h]
      exact (t.along_concat w.history _).symm

end Wallet
