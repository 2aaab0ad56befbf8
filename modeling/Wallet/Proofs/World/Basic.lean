import Wallet.Proofs.World.Books
import Wallet.Services

/-!
# Worlds

A world is the services of a process with the history of all calls. What surrounds the services may
be different at every call: the clocks, the handles of contexts, the pool, the vouchers on offer,
whether the ledger turns records down, what the bank answers, and whether the collaborator can be
reached at all. All that is the `Moment` of the call.

Every answer of a world agrees with the books that its services keep (`World.answer_agrees`).
-/

namespace Wallet

theorem Table.get?_put_eq_update {κ α : Type} [DecidableEq κ] (t : Table κ α) (key : κ) (a : α) :
    (t.put key a).get? = Function.update t.get? key (some a) := by
  funext k
  rw [Table.get?_put, Function.update_apply]

theorem Table.get?_of_mem {κ α : Type} [DecidableEq κ] {t : Table κ α} {row : κ × α}
    (h : row ∈ t.rows) : t.get? row.1 = some row.2 := by
  obtain ⟨before, after, hrows⟩ := List.append_of_mem h
  have hdistinct := t.distinct
  rw [hrows, List.map_append, List.nodup_append] at hdistinct
  refine List.lookup_eq_some_iff.mpr ⟨before, after, hrows, ?_⟩
  intro other hother
  have hne := hdistinct.2.2 other.1 (List.mem_map_of_mem hother) row.1 (by simp)
  simpa using hne.symm

theorem perm_putRow {κ α : Type} [DecidableEq κ] (key : κ) (a : α) (rows : List (κ × α)) :
    (putRow key a rows ++ (rows.lookup key).toList.map (Prod.mk key)).Perm ((key, a) :: rows) := by
  induction rows with
  | nil => simp [putRow]
  | cons row rows ih =>
      obtain ⟨k, b⟩ := row
      by_cases hkey : k = key
      · subst hkey
        simp [putRow]
      · have hother : (key == k) = false := by simpa using Ne.symm hkey
        simp only [putRow, hkey, if_false, List.lookup_cons, hother, List.cons_append]
        exact (ih.cons _).trans (.swap _ _ _)

/-- The new row comes to the rows of a table, and the one whose place it takes goes. -/
theorem Table.perm_put {κ α : Type} [DecidableEq κ] (t : Table κ α) (key : κ) (a : α) :
    ((t.put key a).rows ++ (t.get? key).toList.map (Prod.mk key)).Perm ((key, a) :: t.rows) :=
  perm_putRow key a t.rows

/-! ## The stores and their books -/

namespace OrderStore

variable {s : OrderStore} {records : TransactionId → Option Transaction}

theorem get?_insert (o : Order) : (s.insert o).get? = Function.update s.get? o.id (some o) :=
  Table.get?_put_eq_update s.orders o.id o

/-- What the order store answers agrees with its books, and it leaves the books of the event. -/
def Agrees (s : OrderStore) (records : TransactionId → Option Transaction) (r : Request)
    (x : Except ServiceError r.Result × OrderStore) : Prop :=
  Books.Allows ⟨s.get?, records⟩ (.orders r) x.1 ∧
    Books.after ⟨s.get?, records⟩ ⟨.orders r, x.1⟩ = ⟨x.2.get?, records⟩

theorem create_agrees (o : Order) :
    s.Agrees records (.create o) (settled s (s.create o)) := by
  unfold create
  split
  · exact ⟨trivial, rfl⟩
  · split
    · next heq => exact ⟨by simp [settled, Books.Allows, Books.Creates, heq], rfl⟩
    · next heq => exact ⟨⟨rfl, heq⟩, by simp [settled, Books.after, Books.file, get?_insert]⟩

theorem overwrite_replaces {stored o : Order} (hstored : s.get? o.id = some stored) :
    Books.Replaces ⟨s.get?, records⟩ o (settled s (s.overwrite stored o)).1 := by
  unfold overwrite
  split
  · next haccepts => exact ⟨rfl, stored, hstored, haccepts⟩
  · next hrefuses => exact ⟨stored, hstored, by simpa using hrefuses⟩

theorem get?_overwrite (stored o : Order) :
    (settled s (s.overwrite stored o)).2.get? =
      match (settled s (s.overwrite stored o)).1 with
      | .ok o => Function.update s.get? o.id (some o)
      | .error _ => s.get? := by
  unfold overwrite
  split
  · exact get?_insert o
  · rfl

theorem replace_agrees (o : Order) :
    s.Agrees records (.replace o) (settled s (s.replace o)) := by
  unfold replace
  split
  · exact ⟨trivial, rfl⟩
  · split
    · next heq => exact ⟨heq, rfl⟩
    · next stored heq =>
        refine ⟨overwrite_replaces heq, ?_⟩
        rw [get?_overwrite]
        cases (settled s (s.overwrite stored o)).1 <;> rfl

theorem process_agrees (o : Order) (now : Timestamp) :
    s.Agrees records (.process o) (settled s (s.process o now)) := by
  unfold process
  split
  · exact ⟨.inl trivial, rfl⟩
  · split
    · next heq => exact ⟨.inl heq, rfl⟩
    · next stored heq =>
        split
        · next hpast => exact ⟨.inr ⟨stored, now, heq, hpast, rfl⟩, rfl⟩
        · refine ⟨.inl (overwrite_replaces heq), ?_⟩
          rw [get?_overwrite]
          cases (settled s (s.overwrite stored o)).1 <;> rfl

theorem find_agrees (id : OrderId) : s.Agrees records (.find id) (s.find id, s) := by
  unfold find
  split
  · exact ⟨⟨_, rfl⟩, rfl⟩
  · exact ⟨rfl, rfl⟩

theorem findExpired_agrees (now : Timestamp) (limit : Nat) :
    s.Agrees records (.findExpired now limit) (s.findExpired now limit, s) := by
  unfold findExpired
  split
  · exact ⟨⟨_, rfl⟩, rfl⟩
  · let overdue := s.orders.rows.filter fun row => isOverdue now row.2
    let sorted := overdue.mergeSort fun a b => OrderId.le a.2.id b.2.id
    have hoverdue : (overdue.map Prod.fst).Nodup :=
      s.orders.distinct.sublist (List.filter_sublist.map Prod.fst)
    have hsorted : (sorted.map Prod.fst).Nodup :=
      ((List.mergeSort_perm overdue _).map Prod.fst).nodup_iff.mpr hoverdue
    refine ⟨⟨sorted.take limit, ?_, hsorted.sublist ((List.take_sublist _ _).map _), ?_⟩, rfl⟩
    · have hvalues : s.orders.values.filter (isOverdue now) = overdue.map Prod.snd :=
        List.filter_map
      have hmap : sorted.map Prod.snd =
          (overdue.map Prod.snd).mergeSort fun a b => OrderId.le a.id b.id :=
        List.map_mergeSort fun _ _ _ _ => rfl
      rw [List.map_take, hmap, hvalues]
    · intro row hrow
      have hmem := List.mem_mergeSort.mp (List.mem_of_mem_take hrow)
      obtain ⟨hstored, hpast⟩ := List.mem_filter.mp hmem
      exact ⟨Table.get?_of_mem hstored, hpast⟩

/-- The order store keeps books. -/
theorem serve_agrees (s : OrderStore) (records : TransactionId → Option Transaction)
    (now : Timestamp) (r : Request) : s.Agrees records r (s.serve now r) := by
  cases r with
  | create o => exact create_agrees o
  | replace o => exact replace_agrees o
  | process o => exact process_agrees o now
  | find id => exact find_agrees id
  | findExpired now limit => exact findExpired_agrees now limit

end OrderStore

namespace Ledger

variable {l : Ledger} {orders : OrderId → Option Order}

/-- What the ledger answers agrees with its books, and it leaves the books of the event. -/
def Agrees (l : Ledger) (orders : OrderId → Option Order) (r : Request)
    (x : Except ServiceError Transaction × Ledger) : Prop :=
  Books.Allows ⟨orders, l.get?⟩ (.ledger r) x.1 ∧
    Books.after ⟨orders, l.get?⟩ ⟨.ledger r, x.1⟩ = ⟨orders, x.2.get?⟩

theorem init_agrees (t : Transaction) : l.Agrees orders (.init t) (settled l (l.init t)) := by
  unfold init
  split
  · exact ⟨.inl ⟨_, rfl⟩, rfl⟩
  · split
    · exact ⟨.inr ⟨_, rfl⟩, rfl⟩
    · exact ⟨rfl, congrArg (Books.mk orders) (Table.get?_put_eq_update l.records t.id t).symm⟩

/-- A change of a record agrees with the books. -/
def ChangeAgrees (l : Ledger) (orders : OrderId → Option Order) (id : TransactionId)
    (transition : Timestamp → Transaction → Except TransactionError Transaction)
    (x : Except ServiceError Transaction × Ledger) : Prop :=
  Books.Moves ⟨orders, l.get?⟩ id transition x.1 ∧
    x.2.get? = match x.1 with
      | .ok t => Function.update l.get? id (some t)
      | .error _ => l.get?

variable {id : TransactionId}
  {transition : Timestamp → Transaction → Except TransactionError Transaction}

theorem change_agrees
    (transition : Timestamp → Transaction → Except TransactionError Transaction)
    (now : Timestamp) :
    l.ChangeAgrees orders id transition (settled l (l.change id (transition now))) := by
  unfold change
  split
  · next heq => exact ⟨heq, rfl⟩
  · next t heq =>
      split
      · next t' hmoved =>
          exact ⟨⟨t, now, heq, hmoved⟩, Table.get?_put_eq_update l.records id t'⟩
      · next e hrefused => exact ⟨⟨t, now, e, heq, hrefused⟩, rfl⟩

/-- Counting a change does not change the records. -/
theorem counted_agrees {changed : Except ServiceError (Transaction × Ledger)}
    (count : Ledger → Ledger) (hcount : ∀ l, (count l).get? = l.get?)
    (h : l.ChangeAgrees orders id transition (settled l changed)) :
    l.ChangeAgrees orders id transition
      (settled l (changed.map fun r => (r.1, count r.2))) := by
  cases changed with
  | error e => exact h
  | ok r => exact ⟨h.1, (hcount r.2).trans h.2⟩

theorem down_agrees (what : String) :
    l.ChangeAgrees orders id transition (settled l (.error (.unavailable what))) :=
  ⟨trivial, rfl⟩

theorem confirm_agrees (l : Ledger) (orders : OrderId → Option Order) (id : TransactionId)
    (now : Timestamp) :
    l.ChangeAgrees orders id (fun now t => t.confirm now) (settled l (l.confirm id now)) := by
  unfold confirm
  split
  · exact down_agrees _
  · exact counted_agrees (fun l => { l with confirms := l.confirms + 1 }) (fun _ => rfl)
      (change_agrees (fun now t => t.confirm now) now)

theorem cancel_agrees (l : Ledger) (orders : OrderId → Option Order) (id : TransactionId)
    (reason : String) (now : Timestamp) :
    l.ChangeAgrees orders id (fun now t => t.cancel reason now)
      (settled l (l.cancel id reason now)) := by
  unfold cancel
  split
  · exact down_agrees _
  · split
    · exact down_agrees _
    · exact counted_agrees (fun l => { l with cancels := l.cancels + 1 }) (fun _ => rfl)
        (change_agrees (fun now t => t.cancel reason now) now)

theorem setPending_agrees (l : Ledger) (orders : OrderId → Option Order) (id : TransactionId)
    (now : Timestamp) :
    l.ChangeAgrees orders id (fun now t => t.setPending now) (settled l (l.setPending id now)) := by
  unfold setPending
  split
  · exact down_agrees _
  · exact change_agrees (fun now t => t.setPending now) now

theorem fail_agrees (l : Ledger) (orders : OrderId → Option Order) (id : TransactionId)
    (reason : String) (now : Timestamp) :
    l.ChangeAgrees orders id (fun now t => t.fail reason now)
      (settled l (l.fail id reason now)) := by
  unfold fail
  split
  · exact down_agrees _
  · exact change_agrees (fun now t => t.fail reason now) now

theorem find_agrees (id : TransactionId) : l.Agrees orders (.find id) (l.find id, l) := by
  unfold find
  split
  · exact ⟨trivial, rfl⟩
  · split
    · next heq => exact ⟨heq, rfl⟩
    · next heq => exact ⟨heq, rfl⟩

/-- The ledger keeps books. -/
theorem serve_agrees (l : Ledger) (orders : OrderId → Option Order) (now : Timestamp)
    (r : Request) : l.Agrees orders r (l.serve now r) := by
  cases r with
  | init t => exact init_agrees t
  | confirm id =>
      obtain ⟨hmoves, hget⟩ := confirm_agrees l orders id now
      refine ⟨hmoves, ?_⟩
      simp only [serve]
      rw [hget]
      cases (settled l (l.confirm id now)).1 <;> rfl
  | cancel id reason =>
      obtain ⟨hmoves, hget⟩ := cancel_agrees l orders id reason now
      refine ⟨hmoves, ?_⟩
      simp only [serve]
      rw [hget]
      cases (settled l (l.cancel id reason now)).1 <;> rfl
  | setPending id =>
      obtain ⟨hmoves, hget⟩ := setPending_agrees l orders id now
      refine ⟨hmoves, ?_⟩
      simp only [serve]
      rw [hget]
      cases (settled l (l.setPending id now)).1 <;> rfl
  | fail id reason =>
      obtain ⟨hmoves, hget⟩ := fail_agrees l orders id reason now
      refine ⟨hmoves, ?_⟩
      simp only [serve]
      rw [hget]
      cases (settled l (l.fail id reason now)).1 <;> rfl
  | find id => exact find_agrees id

end Ledger

/-! ## Worlds -/

/-- What surrounds one call. -/
structure Moment where
  /-- The last reading of the civil clock. -/
  clock : Timestamp
  timeline : Timeline
  pool : Pool
  vouchers : Table String Money
  /-- Why the ledger turns new records down, if it does. -/
  rejectInit : Option String
  /-- What the bank answers. -/
  response : Except ServiceError ProviderResponse
  /-- What cannot be reached, if the collaborator cannot. -/
  outage : Option String

namespace Moment

/-- Nothing goes wrong, one voucher is on offer, and the bank answers with a code. -/
def fair (code : String) : Moment where
  clock := default
  timeline := .start
  pool := .standard
  vouchers := Table.empty.put "TET" ((Money.ofInt? 1000).getD .zero)
  rejectInit := none
  response := .ok ⟨⟨code⟩, some "BANK-000001", none⟩
  outage := none

/-- The collaborator cannot be reached. -/
def down : Moment := { fair "" with outage := some "service" }

end Moment

namespace Services

/-- The books that the services keep. -/
def books (s : Services) : Books := ⟨s.orders.get?, s.ledger.get?⟩

/-- The services in the surroundings of a call. -/
def amid (s : Services) (m : Moment) : Services :=
  { s with
    clock := m.clock
    timeline := m.timeline
    pool := m.pool
    promotion := { s.promotion with vouchers := m.vouchers }
    ledger := { s.ledger with rejectInit := m.rejectInit } }

/-- Answers a call that reaches its collaborator. -/
def answerAmid (s : Services) (m : Moment) : (c : Call) → c.Answer × Services
  | .bank _ => (m.response, s.amid m)
  | c => answer c (s.amid m)

/-- Answers a call, or refuses it when its collaborator cannot be reached. -/
def serve (s : Services) (m : Moment) (c : Call) : c.Answer × Services :=
  match m.outage.bind fun what => c.refusal? (.unavailable what) with
  | some refusal => (refusal, s.amid m)
  | none => s.answerAmid m c

end Services

/-- The services of a process and all calls so far, the oldest first. -/
structure World where
  services : Services
  history : List Event

namespace World

/-- Empty services and no calls. -/
def start (pool : Pool) (sinks : List Sink) (clock : Timestamp) : World :=
  ⟨.start pool sinks clock, []⟩

def past (w : World) : Past := ⟨w.services.books, w.history⟩

/-- How a call is answered, and the world it leaves. -/
def answer (w : World) (m : Moment) (c : Call) : c.Answer × World :=
  let (x, services) := w.services.serve m c
  (x, ⟨services, w.history ++ [⟨c, x⟩]⟩)

/-- Identifiers of ledger records are made once only. -/
def Fresh (w : World) (m : Moment) : Call → Prop
  | .freshTransactionId => w.services.ledger.get? ⟨(w.services.amid m).makeId.1⟩ = none
  | _ => True

instance (w : World) (m : Moment) : (c : Call) → Decidable (w.Fresh m c)
  | .freshTransactionId =>
      inferInstanceAs (Decidable (w.services.ledger.get? ⟨(w.services.amid m).makeId.1⟩ = none))
  | .orders _ | .ledger _ | .promotion _ | .bank _ | .deliver _ | .submit _ | .now | .clocks
  | .freshOrderId | .budget _ | .hasEnded _ | .count _ | .sample _ | .record _ _ => isTrue trivial

/-- What a call is answered agrees with the books, and the services keep the books of the event. -/
def Agrees (s : Services) (c : Call) (x : c.Answer × Services) : Prop :=
  s.books.Allows c x.1 ∧ x.2.books = s.books.after ⟨c, x.1⟩

theorem refusal_agrees (s : Services) (m : Moment) {what : String} {c : Call} {x : c.Answer}
    (h : c.refusal? (.unavailable what) = some x) : Agrees s c (x, s.amid m) := by
  cases c with
  | orders r =>
      cases h
      exact ⟨by cases r <;> simp [Books.Allows, Books.Creates, Books.Replaces, Books.Processes,
        Books.Finds, Books.Lists], (Event.quiet_orders_error r _ s.books).symm⟩
  | ledger r =>
      cases h
      exact ⟨by cases r <;> simp [Books.Allows, Books.Registers, Books.Moves, Books.FindsRecord],
        (Event.quiet_ledger_error r _ s.books).symm⟩
  | promotion r =>
      cases h
      exact ⟨trivial, rfl⟩
  | bank r =>
      cases h
      exact ⟨trivial, rfl⟩
  | deliver n =>
      cases h
      exact ⟨trivial, rfl⟩
  | _ => cases h

theorem answerAmid_agrees (w : World) (m : Moment) {c : Call} (hfresh : w.Fresh m c) :
    Agrees w.services c (w.services.answerAmid m c) := by
  cases c with
  | orders r =>
      obtain ⟨hallows, hafter⟩ := (w.services.amid m).orders.serve_agrees w.services.ledger.get?
        ((w.services.amid m).readClock).1 r
      exact ⟨hallows, hafter.symm⟩
  | ledger r =>
      obtain ⟨hallows, hafter⟩ := (w.services.amid m).ledger.serve_agrees w.services.orders.get?
        ((w.services.amid m).readClock).1 r
      exact ⟨hallows, hafter.symm⟩
  | freshTransactionId => exact ⟨hfresh, rfl⟩
  | submit n =>
      refine ⟨trivial, ?_⟩
      show (Services.submitJob _ _).books = _
      unfold Services.submitJob Services.takeSlot
      cases (w.services.amid m).pool.submit? <;> rfl
  | _ => exact ⟨trivial, rfl⟩

/-- Every answer of a world agrees with the books that its services keep. -/
theorem answer_agrees (w : World) (m : Moment) {c : Call} (hfresh : w.Fresh m c) :
    w.past.books.Allows c (w.answer m c).1 ∧
      (w.answer m c).2.past = w.past.note c (w.answer m c).1 := by
  have hagrees : Agrees w.services c (w.services.serve m c) := by
    unfold Services.serve
    split
    · next x hrefusal =>
        obtain ⟨what, _, hx⟩ := Option.bind_eq_some_iff.mp hrefusal
        exact refusal_agrees w.services m hx
    · exact answerAmid_agrees w m hfresh
  exact ⟨hagrees.1, congrArg (Past.mk · _) hagrees.2⟩

end World

end Wallet
