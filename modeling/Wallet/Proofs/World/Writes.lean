import Wallet.Proofs.World.Gist

/-!
# What events write

An event files at most one order and enters at most one ledger record. All other orders and records
are afterwards as they were before, so what is stored under an identifier goes back to the last event
that wrote there.
-/

namespace Wallet

/-- The record that a request to the ledger moves on, if it is that. -/
def Ledger.Request.moves? : Ledger.Request → Option TransactionId
  | .confirm id | .cancel id _ | .setPending id | .fail id _ => some id
  | .init _ | .find _ => none

namespace Event

/-- The order that an event files. -/
def filed? : Event → Option OrderId
  | ⟨.orders (.create _), .ok o⟩ | ⟨.orders (.replace _), .ok o⟩
  | ⟨.orders (.process _), .ok o⟩ => some o.id
  | _ => none

/-- The record that an event enters. -/
def entered? : Event → Option TransactionId
  | ⟨.ledger (.init t), .ok _⟩ => some t.id
  | ⟨.ledger r, .ok _⟩ => r.moves?
  | _ => none

/-- The record that an event registers. -/
def registered? : Event → Option Transaction
  | ⟨.ledger (.init _), .ok t⟩ => some t
  | _ => none

variable {e : Event} {b : Books}

/-- An event that files no order under an identifier leaves what is stored there. -/
theorem orders_after {key : OrderId} (h : e.filed? ≠ some key) :
    (b.after e).orders key = b.orders key := by
  obtain ⟨c, x⟩ := e
  cases c with
  | orders r =>
      cases r <;> cases x <;>
        first | rfl | exact b.file_of_ne _ fun heq => h (congrArg some heq.symm)
  | ledger r => cases r <;> cases x <;> rfl
  | _ => rfl

/-- An event that enters no record under an identifier leaves what is stored there. -/
theorem records_after {id : TransactionId} (h : e.entered? ≠ some id) :
    (b.after e).records id = b.records id := by
  obtain ⟨c, x⟩ := e
  cases c with
  | orders r => cases r <;> cases x <;> rfl
  | ledger r =>
      cases r <;> cases x <;>
        first | rfl | exact b.enter_of_ne _ fun heq => h (congrArg some heq.symm)
  | _ => rfl

theorem counts_of_filed {key : OrderId} (h : e.filed? = some key) : e.counts = true := by
  obtain ⟨c, x⟩ := e
  cases c with
  | orders r => cases r <;> cases x <;> first | rfl | cases h
  | _ => cases h

theorem counts_of_entered {id : TransactionId} (h : e.entered? = some id) : e.counts = true := by
  obtain ⟨c, x⟩ := e
  cases c with
  | ledger r => cases r <;> cases x <;> first | rfl | cases h
  | _ => cases h

theorem counts_of_registered {t : Transaction} (h : e.registered? = some t) : e.counts = true := by
  obtain ⟨c, x⟩ := e
  cases c with
  | ledger r => cases r <;> cases x <;> first | rfl | cases h
  | _ => cases h

end Event

namespace Past

variable {p : Past} {r : Ledger.Request} {id : TransactionId} {t : Transaction}

theorem note_moved (h : r.moves? = some id) :
    (p.note (.ledger r) (.ok t)).books = p.books.enter id t := by
  cases r <;> cases h <;> rfl

end Past

/-! ## Registered records -/

/-- The records that some events have registered. -/
def registered (events : List Event) : List Transaction := events.filterMap Event.registered?

theorem registered_concat (events : List Event) (e : Event) :
    registered (events ++ [e]) = registered events ++ e.registered?.toList := by
  unfold registered
  rw [List.filterMap_append, List.filterMap_cons, List.filterMap_nil]
  cases e.registered? <;> rfl

theorem registered_counts (events : List Event) :
    registered (events.filter Event.counts) = registered events := by
  refine filterMap_counts (fun e hcounts => ?_) events
  cases hregistered : e.registered? with
  | none => rfl
  | some t =>
      rw [Event.counts_of_registered hregistered] at hcounts
      cases hcounts

/-! ## Moved records -/

/-- The change of a record that the ledger was asked for, if it has made it. -/
def Event.move? : Event → Option Ledger.Request
  | ⟨.ledger r, .ok _⟩ => r.moves?.map fun _ => r
  | _ => none

theorem moves_counts (events : List Event) :
    (events.filter Event.counts).filterMap Event.move? = events.filterMap Event.move? := by
  refine filterMap_counts (fun e hcounts => ?_) events
  obtain ⟨c, x⟩ := e
  cases c with
  | ledger r => cases r <;> cases x <;> first | rfl | cases hcounts
  | _ => rfl

end Wallet
