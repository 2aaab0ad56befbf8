import Mathlib.Algebra.GroupWithZero.Nat
import Wallet.Proofs.Consistency.Reachable
import Wallet.Proofs.Reconciliation.Twins

/-!
# Interleaved sweeps

A sweep has several orders at work at a time, and the calls of their work come in any order. When the
orders and the records that they are linked to are different ones, work on an order does in a sweep
what it would do alone, from the services with which the sweep starts (`Interleaved.faithful`). So
neither how the calls are interleaved nor in which order the orders are listed makes a difference
(`interleaving_immaterial`).
-/

namespace Wallet.Reconciler

open Services (answerBy)

variable {bank : OrderId → Except ServiceError ProviderResponse} {limit limit' : Nat}
  {v v' v'' : Services} {report report' report'' : SweepReport}

/-! ## Runs of a sweep -/

/-- How a sweep may get from works that are left, services and a report to the services and the report
with which it ends. One of the first works, as many as the limit says, makes its next call, or is done
and noted. -/
inductive Interleaved (bank : OrderId → Except ServiceError ProviderResponse) (limit : Nat) :
    List (Program (Except ServiceError Resolution)) → Services → SweepReport → Services →
      SweepReport → Prop
  | done (v : Services) (report : SweepReport) : Interleaved bank limit [] v report v report
  | note {before after : List (Program (Except ServiceError Resolution))}
      {result : Except ServiceError Resolution} {v v' : Services} {report report' : SweepReport} :
      before.length < limit →
      Interleaved bank limit (before ++ after) (v.answer (.count (resultMetric result))).2
        (report.note result) v' report' →
      Interleaved bank limit (before ++ .done result :: after) v report v' report'
  | call {before after : List (Program (Except ServiceError Resolution))} {c : Call}
      {next : c.Answer → Program (Except ServiceError Resolution)} {v v' : Services}
      {report report' : SweepReport} :
      before.length < limit →
      Interleaved bank limit (before ++ next (answerBy bank c v).1 :: after) (answerBy bank c v).2
        report v' report' →
      Interleaved bank limit (before ++ .call c next :: after) v report v' report'

/-- The first work may go on to its end before any other call is made. -/
theorem Interleaved.first {x : Program (Except ServiceError Resolution)}
    {rest : List (Program (Except ServiceError Resolution))} (hlimit : 0 < limit)
    (h : Interleaved bank limit rest
      ((x.run (answerBy bank) v).2.answer (.count (resultMetric (x.run (answerBy bank) v).1))).2
      (report.note (x.run (answerBy bank) v).1) v' report') :
    Interleaved bank limit (x :: rest) v report v' report' := by
  induction x generalizing v with
  | done result =>
      show Interleaved bank limit ([] ++ .done result :: rest) v report v' report'
      exact .note hlimit h
  | call c next ih =>
      show Interleaved bank limit ([] ++ .call c next :: rest) v report v' report'
      exact .call hlimit (ih _ h)

/-- Orders may be reconciled one after the other. -/
theorem reconcileAll_interleaved (r : Reconciler) (hlimit : 0 < limit) (candidates : List Order)
    (v : Services) (report : SweepReport) :
    Interleaved bank limit (candidates.map fun o => (r.reconcile o).run) v report
      ((r.reconcileAll candidates report).run (answerBy bank) v).2
      ((r.reconcileAll candidates report).run (answerBy bank) v).1 := by
  induction candidates generalizing v report with
  | nil => exact .done v report
  | cons o rest ih =>
      refine .first hlimit ?_
      unfold reconcileAll
      rw [Program.run_bind]
      exact ih _ _

/-! ## Each work alone -/

/-- The work on an order in a sweep, and the same work alone: what it touches, what is left of it in the
sweep and alone, and what the services have come to alone. -/
structure Task where
  footprint : Footprint
  work : Program (Except ServiceError Resolution)
  twin : Program (Except ServiceError Resolution)
  alone : Services

/-- How a task ends alone. -/
def Task.ended (bank : OrderId → Except ServiceError ProviderResponse) (t : Task) :
    Except ServiceError Resolution × Services :=
  t.twin.run (answerBy bank) t.alone

/-- In the footprint of a task everything is as it is alone. -/
structure Task.Fair (v : Services) (t : Task) : Prop where
  twins : t.work.Twins t.footprint (Agree Eq) t.twin
  alike : v.Alike t.footprint t.alone

/-- A run has done for each of its tasks what is done alone, and nothing else. -/
structure Faithful (bank : OrderId → Except ServiceError ProviderResponse) (tasks : List Task)
    (v : Services) (report : SweepReport) (v' : Services) (report' : SweepReport) : Prop where
  report : report' = (tasks.map fun t => (t.ended bank).1).foldl SweepReport.note report
  alike : ∀ t ∈ tasks, v'.Alike t.footprint (t.ended bank).2
  orders : ∀ key, (∀ t ∈ tasks, t.footprint.key ≠ key) → v'.orders.get? key = v.orders.get? key
  records : ∀ id, (∀ t ∈ tasks, t.footprint.link ≠ some id) →
    v'.ledger.get? id = v.ledger.get? id
  flags : v'.flags = v.flags
  counted : ∀ k, v'.counted k + (tasks.map fun t => t.alone.counted k).sum =
    v.counted k + (tasks.map fun t => (t.ended bank).2.counted k).sum

/-- In which order results are noted makes no difference. -/
theorem note_comm (report : SweepReport) (x y : Except ServiceError Resolution) :
    (report.note x).note y = (report.note y).note x := by
  rcases x with _ | x <;> rcases y with _ | y
  · rfl
  · cases y <;> rfl
  · cases x <;> rfl
  · cases x <;> cases y <;> rfl

theorem foldl_note_perm {results results' : List (Except ServiceError Resolution)}
    (h : results.Perm results') (report : SweepReport) :
    results.foldl SweepReport.note report = results'.foldl SweepReport.note report :=
  h.foldl_eq' (fun x _ y _ report => note_comm report x y) report

theorem agree_eq {x y : Except ServiceError Resolution} (h : Agree Eq x y) : x = y := by
  cases h with
  | ok h => rw [h]
  | error e => rfl

/-- The entry whose image stands somewhere in the list of all images. -/
theorem split_map {α β : Type} {f : α → β} {before after : List β} {x : β} {entries : List α}
    (h : before ++ x :: after = entries.map f) : ∃ first t rest,
      entries = first ++ t :: rest ∧ before = first.map f ∧ f t = x ∧ after = rest.map f := by
  obtain ⟨first, others, rfl, hfirst, hothers⟩ := List.append_eq_map_iff.mp h
  obtain ⟨t, rest, rfl, hx, hrest⟩ := List.map_eq_cons_iff.mp hothers
  exact ⟨first, t, rest, rfl, hfirst.symm, hx, hrest.symm⟩

section

variable {before after : List Task} {t : Task}

/-- A task is apart from those around it, and these are apart from each other. -/
theorem apart_of_pairwise
    (h : ((before ++ t :: after).map Task.footprint).Pairwise Footprint.Apart) :
    (∀ other ∈ before ++ after, t.footprint.Apart other.footprint) ∧
      ((before ++ after).map Task.footprint).Pairwise Footprint.Apart := by
  rw [List.map_append, List.map_cons, List.pairwise_middle Footprint.Apart.symm,
    List.pairwise_cons, ← List.map_append] at h
  exact ⟨fun other hother => h.1 _ (List.mem_map_of_mem hother), h.2⟩

/-- A task that is done has been done as alone, and the others do not touch what it has touched. -/
theorem Faithful.note {result : Except ServiceError Resolution} {v₁ : Services}
    (h : Faithful bank (before ++ after) v₁ (report.note result) v' report')
    (horders : v₁.orders = v.orders) (hledger : v₁.ledger = v.ledger)
    (hdone : t.twin = .done result) (halike : v.Alike t.footprint t.alone)
    (hapart : ∀ other ∈ before ++ after, t.footprint.Apart other.footprint) :
    Faithful bank (before ++ t :: after) v report v' report' := by
  have hended : t.ended bank = (result, t.alone) := by
    unfold Task.ended
    rw [hdone]
    rfl
  have hflags : v'.flags = v.flags := by
    rw [h.flags]
    simp only [Services.flags, horders, hledger]
  have hperm : (before ++ t :: after).Perm (t :: (before ++ after)) := List.perm_middle
  constructor
  case report =>
    rw [foldl_note_perm (hperm.map _), List.map_cons, List.foldl_cons, hended]
    exact h.report
  case alike =>
    intro other hother
    rcases List.mem_cons.mp (hperm.mem_iff.mp hother) with rfl | hother
    · rw [hended]
      refine halike.kept ?_ (fun id hid => ?_) hflags
      · rw [h.orders _ fun other hother => (hapart other hother).1.symm, horders]
      · rw [h.records id fun other hother => (hapart other hother).2 id hid, hledger]
    · exact h.alike other hother
  case orders =>
    intro key hkey
    rw [h.orders key fun other hother => hkey other (hperm.mem_iff.mpr (.tail _ hother)), horders]
  case records =>
    intro id hid
    rw [h.records id fun other hother => hid other (hperm.mem_iff.mpr (.tail _ hother)), hledger]
  case flags => exact hflags
  case counted =>
    intro k
    have hcounted := h.counted k
    have hsame : v₁.counted k = v.counted k := by
      cases k <;> simp only [Services.counted, horders, hledger]
    rw [(hperm.map _).sum_nat, (hperm.map _).sum_nat, List.map_cons, List.map_cons, List.sum_cons,
      List.sum_cons, hended]
    simp only
    omega

/-- A task whose work has made a call goes on alone with the same call. -/
theorem Faithful.call {t' : Task} {v₁ : Services}
    (h : Faithful bank (before ++ t' :: after) v₁ report v' report')
    (hfootprint : t'.footprint = t.footprint) (hended : t'.ended bank = t.ended bank)
    (hstep : Services.InStep t.footprint v t.alone v₁ t'.alone) :
    Faithful bank (before ++ t :: after) v report v' report' := by
  have hperm (t : Task) : (before ++ t :: after).Perm (t :: (before ++ after)) := List.perm_middle
  have hothers {P : Task → Prop} (hall : ∀ other ∈ before ++ t :: after, P other) (hown : P t') :
      ∀ other ∈ before ++ t' :: after, P other := by
    intro other hother
    rcases List.mem_cons.mp ((hperm t').mem_iff.mp hother) with rfl | hother
    · exact hown
    · exact hall other ((hperm t).mem_iff.mpr (.tail _ hother))
  have hmem : t ∈ before ++ t :: after := by simp
  have hmem' : t' ∈ before ++ t' :: after := by simp
  constructor
  case report =>
    rw [h.report]
    simp only [List.map_append, List.map_cons, hended]
  case alike =>
    intro other hother
    rcases List.mem_cons.mp ((hperm t).mem_iff.mp hother) with rfl | hother
    · rw [← hended, ← hfootprint]
      exact h.alike t' hmem'
    · exact h.alike other ((hperm t').mem_iff.mpr (.tail _ hother))
  case orders =>
    intro key hkey
    rw [h.orders key (hothers hkey (hfootprint ▸ hkey t hmem))]
    exact hstep.within.orders key fun heq => hkey t hmem heq.symm
  case records =>
    intro id hid
    rw [h.records id (hothers hid (hfootprint ▸ hid t hmem))]
    exact hstep.within.records id (hid t hmem)
  case flags => exact h.flags.trans hstep.within.flags
  case counted =>
    intro k
    have hcounted := h.counted k
    have hrise := hstep.counted k
    simp only [List.map_append, List.map_cons, List.sum_append, List.sum_cons, hended] at hcounted ⊢
    omega

end

/-- **In a sweep as alone.** When the tasks of a sweep touch different orders and records, each does
what it does alone, however the calls are interleaved. -/
theorem Interleaved.faithful {works : List (Program (Except ServiceError Resolution))}
    (h : Interleaved bank limit works v report v' report') (tasks : List Task)
    (hworks : works = tasks.map Task.work) (hfair : ∀ t ∈ tasks, t.Fair v)
    (hapart : (tasks.map Task.footprint).Pairwise Footprint.Apart) :
    Faithful bank tasks v report v' report' := by
  induction h generalizing tasks with
  | done v report =>
      cases List.map_eq_nil_iff.mp hworks.symm
      exact ⟨rfl, by simp, fun _ _ => rfl, fun _ _ => rfl, rfl, by simp⟩
  | note _ _ ih =>
      obtain ⟨before, t, after, rfl, rfl, hwork, rfl⟩ := split_map hworks
      obtain ⟨hothers, hapart⟩ := apart_of_pairwise hapart
      have ht := hfair t (by simp)
      obtain ⟨_, htwin, hagree⟩ := (hwork ▸ ht.twins).of_done
      cases agree_eq hagree
      have hrest := ih (before ++ after) (by simp) (fun other hother => ?_) hapart
      · exact hrest.note rfl rfl htwin ht.alike hothers
      · have hfair := hfair other (List.perm_middle.mem_iff.mpr (.tail _ hother))
        exact ⟨hfair.twins, hfair.alike.kept rfl (fun _ _ => rfl) rfl⟩
  | @call _ _ c next v _ _ _ _ _ ih =>
      obtain ⟨before, t, after, rfl, rfl, hwork, rfl⟩ := split_map hworks
      obtain ⟨hothers, _⟩ := apart_of_pairwise hapart
      have ht := hfair t (by simp)
      obtain ⟨c', S, next', htwin, hmatches, hnext⟩ := (hwork ▸ ht.twins).of_call
      obtain ⟨hanswers, hstep⟩ := hmatches.inStep bank ht.alike
      -- the task goes on with the answers of the two calls, in the sweep and alone
      let t' : Task := ⟨t.footprint, next (answerBy bank c v).1,
        next' (answerBy bank c' t.alone).1, (answerBy bank c' t.alone).2⟩
      have hended : t'.ended bank = t.ended bank := by
        unfold Task.ended
        rw [htwin]
        rfl
      have hrest := ih (before ++ t' :: after) (by simp [t']) (fun other hother => ?_)
        (by simpa [t'] using hapart)
      · exact hrest.call rfl hended hstep
      · rcases List.mem_cons.mp (List.perm_middle.mem_iff.mp hother) with rfl | hother
        · exact ⟨hnext _ _ hanswers, hstep.alike⟩
        · have hfair := hfair other (List.perm_middle.mem_iff.mpr (.tail _ hother))
          exact ⟨hfair.twins, hfair.alike.elsewhere hstep.within (hothers other hother)⟩

/-! ## Candidates -/

variable {r : Reconciler} {candidates candidates' : List Order}

/-- The work on an order that has not begun. -/
def task (r : Reconciler) (v : Services) (o : Order) : Task :=
  ⟨o.footprint, (r.reconcile o).run, (r.reconcile o).run, v⟩

/-- Different orders that are linked to different records are apart. -/
theorem apart_of_nodup (hids : (candidates.map Order.id).Nodup)
    (hlinks : (candidates.filterMap Order.transactionId).Nodup) :
    (candidates.map Order.footprint).Pairwise Footprint.Apart := by
  have hkeys := List.pairwise_map.mp hids
  have hrecords := List.pairwise_filterMap.mp hlinks
  refine List.pairwise_map.mpr ((hkeys.and hrecords).imp fun {o o'} h => ⟨h.1, ?_⟩)
  intro id hid hid'
  exact h.2 id hid id hid' rfl

theorem Interleaved.candidates_faithful (hids : (candidates.map Order.id).Nodup)
    (hlinks : (candidates.filterMap Order.transactionId).Nodup) (hfiled : v.ledger.Filed)
    (h : Interleaved bank limit (candidates.map fun o => (r.reconcile o).run) v report v' report') :
    Faithful bank (candidates.map (task r v)) v report v' report' := by
  refine h.faithful _ (by simp [task]) (fun t ht => ?_) ?_
  · obtain ⟨o, _, rfl⟩ := List.mem_map.mp ht
    exact ⟨reconcile_twins o r, rfl, fun _ _ => rfl, fun _ _ _ hstored => hfiled hstored, rfl⟩
  · rw [List.map_map]
    exact apart_of_nodup hids hlinks

/-- **Interleaving is immaterial.** Whatever the stores hold, and whatever the bank tells of each order,
a sweep over different orders that are linked to different records, or to none, comes to the same report,
the same orders and records and the same counts, in whichever order they are listed, however many are at
work at a time, and however their calls are interleaved. -/
theorem interleaving_immaterial (hsame : candidates.Perm candidates')
    (hids : (candidates.map Order.id).Nodup)
    (hlinks : (candidates.filterMap Order.transactionId).Nodup) (hfiled : v.ledger.Filed)
    (h : Interleaved bank limit (candidates.map fun o => (r.reconcile o).run) v report v' report')
    (h' : Interleaved bank limit' (candidates'.map fun o => (r.reconcile o).run) v report
      v'' report'') : report' = report'' ∧ v'.HoldSame v'' := by
  have hone := h.candidates_faithful hids hlinks hfiled
  have hother := h'.candidates_faithful ((hsame.map _).nodup_iff.mp hids)
    ((hsame.filterMap _).nodup_iff.mp hlinks) hfiled
  have htasks : (candidates.map (task r v)).Perm (candidates'.map (task r v)) := hsame.map _
  refine ⟨?_, ⟨?_, ?_, ?_⟩⟩
  · rw [hone.report, hother.report]
    exact foldl_note_perm (htasks.map _) report
  -- a place that some task touches is as the task leaves it alone, and any other as it was before
  · intro key
    by_cases hkey : ∃ t ∈ candidates.map (task r v), t.footprint.key = key
    · obtain ⟨t, ht, rfl⟩ := hkey
      exact (hone.alike t ht).order.trans (hother.alike t (htasks.mem_iff.mp ht)).order.symm
    · have hnone : ∀ t ∈ candidates.map (task r v), t.footprint.key ≠ key :=
        fun t ht heq => hkey ⟨t, ht, heq⟩
      rw [hone.orders key hnone,
        hother.orders key fun t ht => hnone t (htasks.mem_iff.mpr ht)]
  · intro id
    by_cases hid : ∃ t ∈ candidates.map (task r v), t.footprint.link = some id
    · obtain ⟨t, ht, hlink⟩ := hid
      exact ((hone.alike t ht).record id hlink).trans
        ((hother.alike t (htasks.mem_iff.mp ht)).record id hlink).symm
    · have hnone : ∀ t ∈ candidates.map (task r v), t.footprint.link ≠ some id :=
        fun t ht heq => hid ⟨t, ht, heq⟩
      rw [hone.records id hnone,
        hother.records id fun t ht => hnone t (htasks.mem_iff.mpr ht)]
  · intro k
    have hcounted := hone.counted k
    have hcounted' := hother.counted k
    rw [(htasks.map _).sum_nat, (htasks.map fun t => (t.ended bank).2.counted k).sum_nat] at hcounted
    omega

/-- A sweep that reconciles the orders one after the other, while the bank knows that all is paid. -/
def sweepPaid (v : Services) (candidates : List Order) : SweepReport × Services :=
  (reconcileAll ⟨.standard, .standard⟩ candidates .empty).run
    (answerBy fun _ => .ok (.ofCode (.of "200"))) v

/-- Of two payments one waits for its password and expires, and the other, about which the bank is
asked, succeeds, whichever is reconciled first. -/
theorem interleaving_immaterial_payIn : ∃ (v : Services) (candidates : List Order),
    (sweepPaid v candidates).1.expired = 1 ∧ (sweepPaid v candidates).1.succeeded = 1 ∧
      (sweepPaid v candidates).1 = (sweepPaid v candidates.reverse).1 ∧
      (sweepPaid v candidates).2.HoldSame (sweepPaid v candidates.reverse).2 := by
  have hcheck : (visited [(payIn, calm "103"), (payIn, calm "102")]).any (fun w =>
      let candidates := w.services.orders.orders.values
      decide ((candidates.map Order.id).Nodup) &&
        decide ((candidates.filterMap Order.transactionId).Nodup) &&
        decide ((sweepPaid w.services candidates).1.expired = 1) &&
        decide ((sweepPaid w.services candidates).1.succeeded = 1)) = true := by
    decide +kernel
  obtain ⟨w, hvisited, hw⟩ := (Option.any_eq_true _ _).mp hcheck
  simp only [Bool.and_eq_true, decide_eq_true_eq] at hw
  obtain ⟨⟨⟨hids, hlinks⟩, hexpired⟩, hsucceeded⟩ := hw
  have hfiled : w.services.ledger.Filed := fun ht =>
    (reachable_of_visited hvisited).consistent.entered ht
  refine ⟨w.services, w.services.orders.orders.values, hexpired, hsucceeded, ?_⟩
  exact interleaving_immaterial (List.reverse_perm _).symm hids hlinks hfiled
    (reconcileAll_interleaved _ Nat.one_pos _ _ _) (reconcileAll_interleaved _ Nat.one_pos _ _ _)

end Wallet.Reconciler
