import Wallet.Proofs.Reconciliation.Footprint
import Wallet.Reconciliation.Sweep

/-!
# Twins

Two programs are twins if they make the same calls one after the other, but for the instants in what
they write, as long as the calls are answered alike. Work on an order is its own twin: whenever it is
done, it does the same in the footprint of the order, and it has nothing to do with anything else.
-/

namespace Wallet

/-- The programs make matching calls within a footprint, however alike these are answered, and end
with related values. -/
inductive Program.Twins (fp : Footprint) {α β : Type} (R : α → β → Prop) :
    Program α → Program β → Prop
  | done {a : α} {b : β} : R a b → Twins fp R (.done a) (.done b)
  | call {c c' : Call} {S : c.Answer → c'.Answer → Prop} {next : c.Answer → Program α}
      {next' : c'.Answer → Program β} : fp.Matches c c' S →
      (∀ x x', S x x' → Twins fp R (next x) (next' x')) →
        Twins fp R (.call c next) (.call c' next')

theorem Program.Twins.bind {fp : Footprint} {α β α' β' : Type} {R : α → β → Prop}
    {S : α' → β' → Prop} {x : Program α} {y : Program β} {f : α → Program α'} {g : β → Program β'}
    (h : x.Twins fp R y) (hnext : ∀ a b, R a b → (f a).Twins fp S (g b)) :
    (x >>= f).Twins fp S (y >>= g) := by
  induction h with
  | done hvalues => exact hnext _ _ hvalues
  | call hmatches _ ih => exact .call hmatches ih

section

variable {fp : Footprint} {α β : Type} {R : α → β → Prop} {y : Program β}

theorem Program.Twins.of_done {a : α} (h : (Program.done a).Twins fp R y) :
    ∃ b, y = .done b ∧ R a b := by
  cases h with
  | done hvalues => exact ⟨_, rfl, hvalues⟩

theorem Program.Twins.of_call {c : Call} {next : c.Answer → Program α}
    (h : (Program.call c next).Twins fp R y) :
    ∃ (c' : Call) (S : c.Answer → c'.Answer → Prop) (next' : c'.Answer → Program β),
      y = .call c' next' ∧ fp.Matches c c' S ∧
        ∀ x x', S x x' → (next x).Twins fp R (next' x') := by
  cases h with
  | call hmatches hnext => exact ⟨_, _, _, rfl, hmatches, hnext⟩

end

namespace Reconciler

variable {fp : Footprint} {α β α' β' : Type}

/-- Two parts of reconciling an order are twins, whose values are related. -/
def Twins (fp : Footprint) (R : α → β → Prop) (x : ReconcileM α) (y : ReconcileM β) : Prop :=
  x.run.Twins fp (Agree R) y.run

theorem twins_pure {R : α → β → Prop} {a : α} {b : β} (h : R a b) :
    Twins fp R (pure a) (pure b) := .done (.ok h)

theorem twins_bind {R : α → β → Prop} {S : α' → β' → Prop} {x : ReconcileM α} {y : ReconcileM β}
    {f : α → ReconcileM α'} {g : β → ReconcileM β'} (h : Twins fp R x y)
    (hnext : ∀ a b, R a b → Twins fp S (f a) (g b)) : Twins fp S (x >>= f) (y >>= g) := by
  refine Program.Twins.bind h fun r r' hr => ?_
  cases hr with
  | ok hvalues => exact hnext _ _ hvalues
  | error e => exact .done (.error e)

theorem twins_now : Twins fp (fun _ _ => True) now now :=
  .call .now fun _ _ _ => .done (.ok trivial)

/-- What is done with a changed order is done twice with the same version, timestamps aside. -/
theorem twins_change {o : Order} {S : α → β → Prop} {change : Timestamp → Except OrderError Order}
    {f : Order → ReconcileM α} {g : Order → ReconcileM β}
    (hchange : ∀ t t', Agree (SameVersion o) (change t) (change t'))
    (hnext : ∀ a b, SameVersion o a b → Twins fp S (f a) (g b)) :
    Twins fp S (now >>= fun t => accept (change t) >>= f) (now >>= fun t => accept (change t) >>= g) := by
  refine twins_bind twins_now fun t t' _ => twins_bind (R := SameVersion o) ?_ hnext
  show Program.Twins fp _ (.done ((change t).mapError _)) (.done ((change t').mapError _))
  have hagree := hchange t t'
  generalize change t = x at hagree ⊢
  generalize change t' = y at hagree ⊢
  cases hagree with
  | ok hsame => exact .done (.ok hsame)
  | error e => exact .done (.error _)

theorem twins_bank (trace : Option String) :
    Twins fp Eq (ask (.bank (.retrieveStatus fp.key trace)))
      (ask (.bank (.retrieveStatus fp.key trace))) := by
  refine .call (.bank trace) fun x x' hx => .done ?_
  cases hx
  cases x with
  | ok response => exact .ok rfl
  | error e => exact .error e

theorem twins_move {r : Ledger.Request} {id : TransactionId} (hmoves : r.moves? = some id)
    (hlink : fp.link = some id) : Twins fp SameRecord (ask (.ledger r)) (ask (.ledger r)) :=
  .call (.move hmoves hlink) fun _ _ hx => .done hx

/-- What is done with the linked record is done twice with the same record, timestamps aside. -/
theorem twins_linked {o : Order} {S : α → β → Prop} {f : Option Transaction → ReconcileM α}
    {g : Option Transaction → ReconcileM β} (hlink : fp.link = o.transactionId)
    (hnone : Twins fp S (f none) (g none))
    (hsome : ∀ t now, fp.link = some t.id →
      Twins fp S (f (some t)) (g (some { t with updatedAt := now }))) :
    Twins fp S (linked o >>= f) (linked o >>= g) := by
  unfold linked
  cases hid : o.transactionId with
  | none => exact hnone
  | some id =>
      rw [hid] at hlink
      refine .call (.find hlink) fun x x' hx => ?_
      cases hx with
      | error e => exact .done (.error e)
      | ok hfound =>
          obtain ⟨hsame, rfl⟩ := hfound
          obtain ⟨now, rfl⟩ := Transaction.of_timeless hsame
          exact hsome _ now hlink

theorem twins_write {o o' : Order} (resolution : Resolution) (hsame : SameOrder o o')
    (hown : o.id = fp.key) : Twins fp Eq (write o resolution) (write o' resolution) := by
  refine .call (.replace hsame hown) fun x x' hx => ?_
  cases hx with
  | ok _ => exact .done (.ok rfl)
  | error e => cases e <;> first | exact .done (.ok rfl) | exact .done (.error _)

/-! ## Work on an order -/

end Reconciler

/-- What work on an order reads and writes. -/
def Order.footprint (o : Order) : Footprint := ⟨o.id, o.transactionId⟩

namespace Reconciler

variable (o : Order)

theorem settle_twins (success : Bool) (reason : Option String) :
    Twins o.footprint Eq (settle o success reason) (settle o success reason) := by
  unfold settle
  refine twins_change (fun _ _ => o.settle_agree success reason) fun a b hsame => ?_
  refine twins_bind twins_now fun t t' _ => twins_write _ ?_ hsame.2
  obtain ⟨_, rfl⟩ := Order.of_timeless hsame.1
  rfl

theorem resolveSuccess_twins :
    Twins o.footprint Eq (resolveSuccess o) (resolveSuccess o) := by
  unfold resolveSuccess
  refine twins_linked rfl (twins_pure rfl) fun t now hlink => ?_
  simp only
  cases t.status with
  | finish => exact settle_twins o true none
  | failed => exact twins_pure rfl
  | processing | pending =>
      exact twins_bind (twins_move rfl hlink) fun _ _ _ => settle_twins o true none

theorem resolveFailure_twins (reason : String) :
    Twins o.footprint Eq (resolveFailure o reason) (resolveFailure o reason) := by
  unfold resolveFailure
  refine twins_linked rfl (settle_twins o false _) fun t now hlink => ?_
  simp only
  cases t.status with
  | failed => exact settle_twins o false _
  | finish => exact twins_pure rfl
  | processing | pending =>
      have hmoves : (if t.isCancellable then Ledger.Request.cancel t.id reason
          else .fail t.id reason).moves? = some t.id := by
        split <;> rfl
      exact twins_bind (twins_move hmoves hlink) fun _ _ _ => settle_twins o false _

variable (r : Reconciler)

theorem retrieve_twins : Twins o.footprint Eq (r.retrieve o) (r.retrieve o) := by
  unfold retrieve
  refine twins_bind (twins_bank o.bankTraceId) fun response _ hsame => ?_
  cases hsame
  cases (r.classifiers.classify o.provider response.code).kind with
  | success => exact resolveSuccess_twins o
  | failure | needsAuth => exact resolveFailure_twins o _
  | pending => exact twins_pure rfl

theorem writeExpired_twins : Twins o.footprint Eq (r.writeExpired o) (r.writeExpired o) := by
  unfold writeExpired
  exact twins_change (fun _ _ => o.expire_agree _) fun _ _ hsame => twins_write _ hsame.1 hsame.2

theorem expire_twins : Twins o.footprint Eq (r.expire o) (r.expire o) := by
  unfold expire
  refine twins_linked rfl (writeExpired_twins o r) fun t now hlink => ?_
  simp only
  cases t.status with
  | finish =>
      exact twins_change (fun _ _ => o.settle_agree true none) fun _ _ hsame =>
        twins_write _ hsame.1 hsame.2
  | pending => exact retrieve_twins o r
  | processing | failed =>
      -- both copies of the record are cancellable, or neither is
      show Twins _ _ (if t.isCancellable then _ else _) (if t.isCancellable then _ else _)
      split
      · exact twins_bind (twins_move rfl hlink) fun _ _ _ => writeExpired_twins o r
      · exact writeExpired_twins o r

/-- Work on an order is its own twin. -/
theorem reconcile_twins : Twins o.footprint Eq (r.reconcile o) (r.reconcile o) := by
  unfold reconcile
  split
  · exact twins_pure rfl
  split
  · exact retrieve_twins o r
  · exact expire_twins o r

end Reconciler

end Wallet
