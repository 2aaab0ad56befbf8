import Wallet.Metrics
import Wallet.Saga.Outcome
import Wallet.Service.Bank
import Wallet.Service.Ledger
import Wallet.Service.Notifier
import Wallet.Service.OrderStore
import Wallet.Service.Promotion

/-!
# Programs over collaborators

Flows and sweeps are programs: trees of calls to collaborators, each with what to do for every
answer. What a program does is fixed by how its calls are answered, and that is up to whoever
interprets it: the services in memory, or the same services with some calls refused.
-/

namespace Wallet

/-- A call that a program makes. -/
inductive Call where
  | orders (r : OrderStore.Request)
  | ledger (r : Ledger.Request)
  | promotion (r : Promotion.Request)
  | bank (r : Bank.Request)
  /-- Hands a notification to the user. -/
  | deliver (n : Notification)
  /-- Hands a notification to the worker pool. -/
  | submit (n : Notification)
  /-- Reads the civil clock. -/
  | now
  /-- Reads both clocks. -/
  | clocks
  | freshOrderId
  | freshTransactionId
  /-- Opens a context that ends after a duration. -/
  | budget (d : Duration)
  | hasEnded (c : Context)
  | count (m : Metric)
  | sample (m : Metric)
  /-- Records a play in the execution log. -/
  | record (saga : String) (outcomes : List StepOutcome)

namespace Call

/-- What a call is answered with. -/
abbrev Answer : Call → Type
  | orders r => Except ServiceError r.Result
  | ledger _ => Except ServiceError Transaction
  | promotion r => Except ServiceError r.Result
  | bank _ => Except ServiceError ProviderResponse
  | deliver _ => Except ServiceError Unit
  | submit _ => Unit
  | now => Timestamp
  | clocks => Reading
  | freshOrderId => OrderId
  | freshTransactionId => TransactionId
  | budget _ => Except Crash Context
  | hasEnded _ => Bool
  | count _ => Unit
  | sample _ => Unit
  | record _ _ => Unit

/-- The answer with which a collaborator refuses a call; the other calls cannot be refused. -/
def refusal? (e : ServiceError) : (c : Call) → Option c.Answer
  | orders _ => some (.error e)
  | ledger _ => some (.error e)
  | promotion _ => some (.error e)
  | bank _ => some (.error e)
  | deliver _ => some (.error e)
  | _ => none

end Call

/-- A program that makes calls and ends with a value. -/
inductive Program (α : Type) where
  | done (a : α)
  | call (c : Call) (next : c.Answer → Program α)

namespace Program

/-- The program that makes one call and ends with its answer. -/
def request (c : Call) : Program c.Answer := .call c .done

def bind {α β : Type} : Program α → (α → Program β) → Program β
  | .done a, f => f a
  | .call c next, f => .call c fun x => (next x).bind f

instance : Monad Program where
  pure := .done
  bind := bind

/-- Runs a program in a monad that answers its calls. -/
def interpret {m : Type → Type} [Monad m] (answer : (c : Call) → m c.Answer) {α : Type} :
    Program α → m α
  | .done a => pure a
  | .call c next => do (next (← answer c)).interpret answer

/-- Runs a program over a state. -/
def run {σ : Type} (answer : (c : Call) → σ → c.Answer × σ) {α : Type} : Program α → σ → α × σ
  | .done a, s => (a, s)
  | .call c next, s =>
      let (x, s) := answer c s
      (next x).run answer s

/-! ## Laws -/

theorem bind_done {α : Type} (p : Program α) : p.bind .done = p := by
  induction p with
  | done a => rfl
  | call c next ih => simp only [bind, ih]

theorem bind_bind {α β γ : Type} (p : Program α) (f : α → Program β) (g : β → Program γ) :
    (p.bind f).bind g = p.bind fun a => (f a).bind g := by
  induction p with
  | done a => rfl
  | call c next ih => simp only [bind, ih]

instance : LawfulMonad Program :=
  .mk' Program (fun p => bind_done p) (fun _ _ => rfl) bind_bind

/-- Running one program and then another runs the second from where the first ends. -/
theorem run_bind {σ : Type} (answer : (c : Call) → σ → c.Answer × σ) {α β : Type} (p : Program α)
    (f : α → Program β) (s : σ) :
    (p >>= f).run answer s = (f (p.run answer s).1).run answer (p.run answer s).2 := by
  induction p generalizing s with
  | done a => rfl
  | call c next ih => exact ih _ _

/-! ## Requests -/

/-- Asks the order store. -/
def orders (r : OrderStore.Request) : Program (Except ServiceError r.Result) := request (.orders r)

/-- Asks the ledger. -/
def ledger (r : Ledger.Request) : Program (Except ServiceError Transaction) := request (.ledger r)

/-- Asks the promotion service. -/
def promotion (r : Promotion.Request) : Program (Except ServiceError r.Result) :=
  request (.promotion r)

/-- Asks the bank. -/
def bank (r : Bank.Request) : Program (Except ServiceError ProviderResponse) := request (.bank r)

def submit (n : Notification) : Program Unit := request (.submit n)

def now : Program Timestamp := request .now

def count (m : Metric) : Program Unit := request (.count m)

/-- The job that delivers a notification; that it could not be delivered is of no consequence. -/
def delivery (n : Notification) : Program Unit := .call (.deliver n) fun _ => .done ()

end Program

end Wallet
