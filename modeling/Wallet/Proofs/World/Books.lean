import Mathlib.Logic.Function.Basic
import Wallet.Program

/-!
# Books

What is stored of orders and of ledger records, apart from how it is stored, and which answers to a
call agree with it. A program that is right for all answers that agree with the books is right for
any store that keeps such books.

A call of the order store, the ledger or the promotion service may always be answered with
`unavailable`; it has no effect then.
-/

namespace Wallet

/-- A call that was made and its answer. -/
structure Event where
  call : Call
  answer : call.Answer

/-- The stored orders and ledger records. -/
structure Books where
  orders : OrderId → Option Order
  records : TransactionId → Option Transaction

namespace Books

/-- The books with an order under its identifier. -/
def file (b : Books) (o : Order) : Books :=
  { b with orders := Function.update b.orders o.id (some o) }

/-- The books with a record under an identifier. -/
def enter (b : Books) (id : TransactionId) (t : Transaction) : Books :=
  { b with records := Function.update b.records id (some t) }

theorem file_self (b : Books) (o : Order) : (b.file o).orders o.id = some o :=
  Function.update_self ..

theorem file_of_ne (b : Books) (o : Order) {key : OrderId} (h : key ≠ o.id) :
    (b.file o).orders key = b.orders key :=
  Function.update_of_ne h ..

theorem enter_self (b : Books) (id : TransactionId) (t : Transaction) :
    (b.enter id t).records id = some t :=
  Function.update_self ..

theorem enter_of_ne (b : Books) {id id' : TransactionId} (t : Transaction) (h : id' ≠ id) :
    (b.enter id t).records id' = b.records id' :=
  Function.update_of_ne h ..

/-- The books that an event leaves. -/
def after (b : Books) : Event → Books
  | ⟨.orders (.create _), .ok o⟩ => b.file o
  | ⟨.orders (.replace _), .ok o⟩ => b.file o
  | ⟨.orders (.process _), .ok o⟩ => b.file o
  | ⟨.ledger (.init t), .ok _⟩ => b.enter t.id t
  | ⟨.ledger (.confirm id), .ok t⟩ => b.enter id t
  | ⟨.ledger (.cancel id _), .ok t⟩ => b.enter id t
  | ⟨.ledger (.setPending id), .ok t⟩ => b.enter id t
  | ⟨.ledger (.fail id _), .ok t⟩ => b.enter id t
  | _ => b

/-! ## Answers that agree with the books -/

/-- The answers to a call that creates an order. -/
def Creates (b : Books) (o : Order) : Except ServiceError Order → Prop
  | .ok o' => o' = o ∧ b.orders o.id = none
  | .error (.unavailable _) => True
  | .error (.conflict _) => b.orders o.id ≠ none
  | .error _ => False

/-- The answers to a call that replaces an order. -/
def Replaces (b : Books) (o : Order) : Except ServiceError Order → Prop
  | .ok o' => o' = o ∧ ∃ stored, b.orders o.id = some stored ∧
      stored.status.acceptsOverwrite o.status = true
  | .error (.unavailable _) => True
  | .error (.notFound _ _) => b.orders o.id = none
  | .error (.conflict _) => ∃ stored, b.orders o.id = some stored ∧
      stored.status.acceptsOverwrite o.status = false
  | .error _ => False

/-- The answers to a call that replaces an order unless its deadline has passed. -/
def Processes (b : Books) (o : Order) (x : Except ServiceError Order) : Prop :=
  b.Replaces o x ∨ ∃ stored now, b.orders o.id = some stored ∧ stored.isPastDeadline now = true ∧
    x = .error (.expired o.id)

/-- The answers to a call that looks for an order. -/
def Finds (b : Books) (id : OrderId) : Except ServiceError (Option Order) → Prop
  | .ok o => o = b.orders id
  | .error e => ∃ what, e = .unavailable what

/-- The answers to a call that lists overdue orders, none of them twice. -/
def Lists (b : Books) (now : Timestamp) : Except ServiceError (List Order) → Prop
  | .ok found => ∃ rows : List (OrderId × Order), found = rows.map Prod.snd ∧
      (rows.map Prod.fst).Nodup ∧
      ∀ row ∈ rows, b.orders row.1 = some row.2 ∧ OrderStore.isOverdue now row.2 = true
  | .error e => ∃ what, e = .unavailable what

/-- The answers to a call that registers a ledger record. -/
def Registers (t : Transaction) : Except ServiceError Transaction → Prop
  | .ok t' => t' = t
  | .error e => (∃ what, e = .unavailable what) ∨ ∃ reason, e = .rejected reason

/-- The answers to a call that changes a ledger record by a transition of its own. -/
def Moves (b : Books) (id : TransactionId)
    (transition : Timestamp → Transaction → Except TransactionError Transaction) :
    Except ServiceError Transaction → Prop
  | .ok t' => ∃ t now, b.records id = some t ∧ transition now t = .ok t'
  | .error (.unavailable _) => True
  | .error (.notFound _ _) => b.records id = none
  | .error (.conflict _) => ∃ t now e, b.records id = some t ∧ transition now t = .error e
  | .error _ => False

/-- The answers to a call that looks for a ledger record. -/
def FindsRecord (b : Books) (id : TransactionId) : Except ServiceError Transaction → Prop
  | .ok t => b.records id = some t
  | .error (.unavailable _) => True
  | .error (.notFound _ _) => b.records id = none
  | .error _ => False

/-- The answers that agree with the books. A record is never registered under an identifier that is
in use, for identifiers of records are made once only. Banks, clocks, contexts and the worker pool
may answer anything. -/
def Allows (b : Books) : (c : Call) → c.Answer → Prop
  | .orders (.create o), x => b.Creates o x
  | .orders (.replace o), x => b.Replaces o x
  | .orders (.process o), x => b.Processes o x
  | .orders (.find id), x => b.Finds id x
  | .orders (.findExpired now _), x => b.Lists now x
  | .ledger (.init t), x => Registers t x
  | .ledger (.confirm id), x => b.Moves id (fun now t => t.confirm now) x
  | .ledger (.cancel id reason), x => b.Moves id (fun now t => t.cancel reason now) x
  | .ledger (.setPending id), x => b.Moves id (fun now t => t.setPending now) x
  | .ledger (.fail id reason), x => b.Moves id (fun now t => t.fail reason now) x
  | .ledger (.find id), x => b.FindsRecord id x
  | .freshTransactionId, id => b.records id = none
  | _, _ => True

/-! Each kind of answer is an error or what was asked for. -/

section

variable {b : Books} {o : Order} {t : Transaction} {id : TransactionId}

theorem forall_except {ε α : Type} {P : Except ε α → Prop} :
    (∀ x, P x) ↔ (∀ e, P (.error e)) ∧ ∀ a, P (.ok a) := by
  constructor
  · intro h
    exact ⟨fun e => h _, fun a => h _⟩
  · rintro ⟨herror, hok⟩ (e | a)
    · exact herror e
    · exact hok a

/-- What is said of a change that was translated, said of the change. -/
theorem mapError_iff {ε δ α : Type} {x : Except ε α} {f : ε → δ} {P : Except δ α → Prop} :
    P (x.mapError f) ↔ (∀ e, x = .error e → P (.error (f e))) ∧ ∀ a, x = .ok a → P (.ok a) := by
  cases x with
  | error e =>
      constructor
      · intro h
        constructor
        · intro e' he
          cases he
          exact h
        · intro a ha
          cases ha
      · intro h
        exact h.1 e rfl
  | ok a =>
      constructor
      · intro h
        constructor
        · intro e he
          cases he
        · intro a' ha
          cases ha
          exact h
      · intro h
        exact h.2 a rfl

theorem forall_creates {P : Except ServiceError Order → Prop} :
    (∀ x, b.Creates o x → P x) ↔
      (∀ e, b.Creates o (.error e) → P (.error e)) ∧ (b.orders o.id = none → P (.ok o)) := by
  rw [forall_except]
  simp [Creates]

theorem forall_replaces {P : Except ServiceError Order → Prop} :
    (∀ x, b.Replaces o x → P x) ↔
      (∀ e, b.Replaces o (.error e) → P (.error e)) ∧
        ∀ stored, b.orders o.id = some stored → stored.status.acceptsOverwrite o.status = true →
          P (.ok o) := by
  rw [forall_except]
  simp [Replaces]

theorem forall_processes {P : Except ServiceError Order → Prop} :
    (∀ x, b.Processes o x → P x) ↔
      (∀ e, b.Processes o (.error e) → P (.error e)) ∧
        ∀ stored, b.orders o.id = some stored → stored.status.acceptsOverwrite o.status = true →
          P (.ok o) := by
  rw [forall_except]
  simp [Processes, Replaces]

theorem forall_finds {id : OrderId} {P : Except ServiceError (Option Order) → Prop} :
    (∀ x, b.Finds id x → P x) ↔
      (∀ e, b.Finds id (.error e) → P (.error e)) ∧ P (.ok (b.orders id)) := by
  rw [forall_except]
  simp [Finds]

theorem forall_registers {P : Except ServiceError Transaction → Prop} :
    (∀ x, Registers t x → P x) ↔ (∀ e, Registers t (.error e) → P (.error e)) ∧ P (.ok t) := by
  rw [forall_except]
  simp [Registers]

theorem forall_findsRecord {P : Except ServiceError Transaction → Prop} :
    (∀ x, b.FindsRecord id x → P x) ↔
      (∀ e, b.FindsRecord id (.error e) → P (.error e)) ∧
        ∀ t, b.records id = some t → P (.ok t) := by
  rw [forall_except]
  simp [FindsRecord]

theorem forall_moves {transition : Timestamp → Transaction → Except TransactionError Transaction}
    {P : Except ServiceError Transaction → Prop} :
    (∀ x, b.Moves id transition x → P x) ↔
      (∀ e, b.Moves id transition (.error e) → P (.error e)) ∧
        ∀ t' t, b.records id = some t → ∀ now, transition now t = .ok t' → P (.ok t') := by
  rw [forall_except]
  simp [Moves]

end

end Books

/-! ## The past of a program -/

/-- The books and all events so far, the oldest first. -/
structure Past where
  books : Books
  events : List Event

namespace Past

/-- The past once a call has been answered. -/
def note (p : Past) (c : Call) (x : c.Answer) : Past :=
  ⟨p.books.after ⟨c, x⟩, p.events ++ [⟨c, x⟩]⟩

@[simp] theorem note_events (p : Past) (c : Call) (x : c.Answer) :
    (p.note c x).events = p.events ++ [⟨c, x⟩] := rfl

@[simp] theorem note_create (p : Past) (o o' : Order) :
    (p.note (.orders (.create o)) (.ok o')).books = p.books.file o' := rfl

@[simp] theorem note_replace (p : Past) (o o' : Order) :
    (p.note (.orders (.replace o)) (.ok o')).books = p.books.file o' := rfl

@[simp] theorem note_process (p : Past) (o o' : Order) :
    (p.note (.orders (.process o)) (.ok o')).books = p.books.file o' := rfl

@[simp] theorem note_init (p : Past) (t t' : Transaction) :
    (p.note (.ledger (.init t)) (.ok t')).books = p.books.enter t.id t := rfl

@[simp] theorem note_confirm (p : Past) (id : TransactionId) (t : Transaction) :
    (p.note (.ledger (.confirm id)) (.ok t)).books = p.books.enter id t := rfl

@[simp] theorem note_cancel (p : Past) (id : TransactionId) (reason : String) (t : Transaction) :
    (p.note (.ledger (.cancel id reason)) (.ok t)).books = p.books.enter id t := rfl

@[simp] theorem note_setPending (p : Past) (id : TransactionId) (t : Transaction) :
    (p.note (.ledger (.setPending id)) (.ok t)).books = p.books.enter id t := rfl

@[simp] theorem note_fail (p : Past) (id : TransactionId) (reason : String) (t : Transaction) :
    (p.note (.ledger (.fail id reason)) (.ok t)).books = p.books.enter id t := rfl

end Past

/-- What an event leaves of the books is the books, unless it writes an order or a record. -/
def Event.Quiet (e : Event) : Prop := ∀ b : Books, b.after e = b

theorem Event.quiet_orders_error (r : OrderStore.Request) (e : ServiceError) :
    Event.Quiet ⟨.orders r, .error e⟩ := by
  intro b
  cases r <;> rfl

theorem Event.quiet_ledger_error (r : Ledger.Request) (e : ServiceError) :
    Event.Quiet ⟨.ledger r, .error e⟩ := by
  intro b
  cases r <;> rfl

end Wallet
