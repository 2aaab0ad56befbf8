import Wallet.Proofs.Reconciliation.Interleaved
import Wallet.Proofs.Reconciliation.Sweeping

/-!
# The accounts of a sweep

A sweep reports of how many orders it has made what. The counts are true (`Accounts`): each candidate
is counted once, the stored orders that have changed are those that are counted as resolved, and each
of them has the status that was counted. So nothing that a sweep has resolved is ever examined again
(`sweep_accounted`).
-/

namespace Wallet

/-- The status of the order that is stored under an identifier. -/
def World.statusOf (w : World) (id : OrderId) : Option OrderStatus :=
  (w.services.orders.get? id).map Order.status

/-- The order that is stored under an identifier is resolved. -/
def World.Resolved (w : World) (id : OrderId) : Prop :=
  w.statusOf id = some .success ∨ w.statusOf id = some .failed

/-- How many orders are counted. -/
def SweepReport.counted (r : SweepReport) : Nat :=
  r.succeeded + r.failed + r.expired + r.skipped + r.errors

namespace Reconciler

variable {r : Reconciler} {o o' : Order} {x : Except ServiceError Resolution} {stored : Option Order}
  {w w₁ w' : World} {limit : Nat} {report report' : SweepReport}

/-! ## What is reported -/

/-- The status that an order is reported to have been given, if it was given one. -/
def reported : Except ServiceError Resolution → Option OrderStatus
  | .ok resolution => resolution.status?
  | .error _ => none

theorem reported_of_unreported (h : Unreported x) : reported x = none := by
  rcases x with e | resolution
  · rfl
  · cases h resolution rfl
    rfl

/-- What a report counts: all orders, how many were given which status, and how many were left. -/
theorem foldl_note (results : List (Except ServiceError Resolution)) (report : SweepReport) :
    (results.foldl SweepReport.note report).examined = report.examined ∧
      (results.foldl SweepReport.note report).counted = report.counted + results.length ∧
      (results.foldl SweepReport.note report).succeeded =
        report.succeeded + results.countP (reported · = some .success) ∧
      (results.foldl SweepReport.note report).failed +
          (results.foldl SweepReport.note report).expired =
        report.failed + report.expired + results.countP (reported · = some .failed) ∧
      (results.foldl SweepReport.note report).skipped +
          (results.foldl SweepReport.note report).errors =
        report.skipped + report.errors + results.countP (reported · = none) := by
  induction results generalizing report with
  | nil => simp
  | cons x rest ih =>
      obtain ⟨hexamined, hcounted, hsucceeded, hfailed, hleft⟩ := ih (report.note x)
      simp only [List.foldl_cons, List.countP_cons, List.length_cons, hexamined, hcounted, hsucceeded,
        hfailed, hleft]
      rcases x with e | resolution
      · simp [SweepReport.note, SweepReport.counted, reported]
        omega
      · cases resolution <;>
          simp [SweepReport.note, SweepReport.counted, reported, Resolution.status?] <;> omega

/-! ## An order in a sweep -/

/-- What is left of the work on an order, and what is stored of it: it has not been written yet, or it
has been written and the work is done. -/
inductive AtWork (o : Order) : Program (Except ServiceError Resolution) → Option Order → Prop
  | unwritten {p : Program (Except ServiceError Resolution)} : Resolving o p → AtWork o p (some o)
  | written {x : Except ServiceError Resolution} {o' : Order} : o.Resolves o' →
      reported x = some o'.status → AtWork o (.done x) (some o')

/-- Once an order has been written its work is done, and so it is if the order could not be written. -/
theorem AtWork.replace {b : Books} {resolution : Resolution} {answer : Except ServiceError Order}
    (hstored : b.orders o.id = some o) (hresolves : o.Resolves o')
    (hstatus : resolution.status? = some o'.status) (hallows : b.Replaces o' answer) :
    AtWork o (.done (afterWrite resolution answer))
        ((b.after ⟨.orders (.replace o'), answer⟩).orders o.id) ∧
      ∀ key, key ≠ o.id → (b.after ⟨.orders (.replace o'), answer⟩).orders key = b.orders key := by
  have hid := hresolves.ties.1
  rcases answer with e | filed
  · rw [Event.quiet_orders_error (.replace o') e b, hstored]
    exact ⟨.unwritten (.left (unreported_unwritten e)), fun _ _ => rfl⟩
  · obtain ⟨rfl, _⟩ := hallows
    constructor
    · show AtWork o _ ((b.file filed).orders o.id)
      rw [← hid, Books.file_self]
      exact .written hresolves hstatus
    · intro key hkey
      exact b.file_of_ne filed (hid ▸ hkey)

/-- The next call of the work changes no other order. -/
theorem AtWork.answer {m : Moment} {c : Call}
    {next : c.Answer → Program (Except ServiceError Resolution)} (hfresh : w.Fresh m c)
    (h : AtWork o (.call c next) (w.services.orders.get? o.id)) :
    AtWork o (next (w.answer m c).1) ((w.answer m c).2.services.orders.get? o.id) ∧
      ∀ key, key ≠ o.id →
        (w.answer m c).2.services.orders.get? key = w.services.orders.get? key := by
  obtain ⟨hallows, hpast⟩ := w.answer_agrees m hfresh
  have horders : (w.answer m c).2.services.orders.get? =
      (w.past.books.after ⟨c, (w.answer m c).1⟩).orders := congrArg (·.books.orders) hpast
  rw [horders]
  generalize hstored : w.services.orders.get? o.id = stored at h
  cases h with
  | unwritten hresolving =>
      cases hresolving with
      | call hmute hnext =>
          have hkept (key : OrderId) : (w.past.books.after ⟨c, (w.answer m c).1⟩).orders key =
              w.past.books.orders key := Event.orders_after (by rw [hmute]; nofun)
          refine ⟨?_, fun key _ => hkept key⟩
          rw [hkept, show w.past.books.orders o.id = some o from hstored]
          exact .unwritten (hnext _)
      | write hresolves hstatus hnext =>
          rw [hnext]
          exact AtWork.replace hstored hresolves hstatus hallows

/-- An order whose work is done: nothing is reported of it and it is as it was, or it is stored as it is
reported. -/
theorem AtWork.done (h : AtWork o (.done x) stored) :
    reported x = none ∧ stored = some o ∨
      ∃ o', o.Resolves o' ∧ stored = some o' ∧ reported x = some o'.status := by
  cases h with
  | unwritten hresolving =>
      cases hresolving with
      | left hunreported => exact .inl ⟨reported_of_unreported hunreported, rfl⟩
  | written hresolves hreported => exact .inr ⟨_, hresolves, rfl, hreported⟩

theorem AtWork.reported_iff {status : OrderStatus} (hopen : o.isUnresolved = true)
    (hterminal : status.isTerminal = true) (h : AtWork o (.done x) stored) :
    reported x = some status ↔ stored.map Order.status = some status := by
  rcases h.done with ⟨hnone, rfl⟩ | ⟨o', _, rfl, hreported⟩
  · rw [hnone, Option.map_some, Option.some.injEq]
    refine ⟨fun h => (by cases h), ?_⟩
    rintro rfl
    unfold Order.isUnresolved at hopen
    cases hstatus : o.status <;> simp_all [OrderStatus.isTerminal, OrderStatus.isUnresolved]
  · rw [hreported, Option.map_some]

theorem AtWork.unreported_iff (hopen : o.isUnresolved = true) (h : AtWork o (.done x) stored) :
    reported x = none ↔ stored = some o := by
  rcases h.done with ⟨hnone, rfl⟩ | ⟨o', hresolves, rfl, hreported⟩
  · simp [hnone]
  · rw [hreported, Option.some.injEq]
    refine ⟨fun h => (by cases h), ?_⟩
    rintro rfl
    unfold Order.isUnresolved at hopen
    rcases hresolves.status with hstatus | hstatus <;> simp [hstatus, OrderStatus.isUnresolved] at hopen

/-! ## All orders of a sweep -/

/-- How the work on some orders has ended: with which results, and what is stored then. -/
structure Cleared (ends : List (Order × Except ServiceError Resolution)) (w : World)
    (report : SweepReport) (w' : World) (report' : SweepReport) : Prop where
  report : report' = (ends.map Prod.snd).foldl SweepReport.note report
  stored : ∀ e ∈ ends, AtWork e.1 (.done e.2) (w'.services.orders.get? e.1.id)
  others : ∀ key, (∀ e ∈ ends, e.1.id ≠ key) →
    w'.services.orders.get? key = w.services.orders.get? key

section

variable {before after tasks : List (Order × Program (Except ServiceError Resolution))}
  {t : Order × Program (Except ServiceError Resolution)}
  {ends : List (Order × Except ServiceError Resolution)}

/-- A task is about another order than those around it. -/
theorem distinct_of_nodup (h : ((before ++ t :: after).map (·.1.id)).Nodup) :
    (∀ other ∈ before ++ after, other.1.id ≠ t.1.id) ∧
      ((before ++ after).map (·.1.id)).Nodup := by
  obtain ⟨hnot, hrest⟩ := List.nodup_cons.mp ((List.perm_middle.map _).nodup_iff.mp h)
  refine ⟨fun other hother heq => hnot ?_, hrest⟩
  exact List.mem_map.mpr ⟨other, hother, heq⟩

theorem mem_of_perm (hperm : (ends.map Prod.fst).Perm (tasks.map Prod.fst))
    {e : Order × Except ServiceError Resolution} (he : e ∈ ends) : ∃ t ∈ tasks, t.1 = e.1 :=
  List.mem_map.mp (hperm.mem_iff.mp (List.mem_map_of_mem he))

/-- **No order gets lost.** The work on each order ends, and what is stored of it then is as its result
says, whatever the other workers have done meanwhile. -/
theorem Clears.cleared {works : List (Program (Except ServiceError Resolution))}
    (h : Clears limit works w report w' report')
    (tasks : List (Order × Program (Except ServiceError Resolution)))
    (hworks : works = tasks.map Prod.snd) (hids : (tasks.map (·.1.id)).Nodup)
    (hwork : ∀ t ∈ tasks, AtWork t.1 t.2 (w.services.orders.get? t.1.id)) :
    ∃ ends, (ends.map Prod.fst).Perm (tasks.map Prod.fst) ∧ Cleared ends w report w' report' := by
  induction h generalizing tasks with
  | done w report =>
      cases List.map_eq_nil_iff.mp hworks.symm
      exact ⟨[], .nil, rfl, by simp, fun _ _ => rfl⟩
  | @note _ _ result w _ _ _ m _ _ ih =>
      obtain ⟨before, ⟨o, _⟩, after, rfl, rfl, rfl, rfl⟩ := split_map hworks
      obtain ⟨hothers, hrest⟩ := distinct_of_nodup hids
      have hkept : (w.answer m (.count (resultMetric result))).2.services.orders =
          w.services.orders := World.answer_orders rfl
      obtain ⟨ends, hperm, hcleared⟩ := ih (before ++ after) (by simp) hrest fun t ht => by
        rw [hkept]
        exact hwork t (List.perm_middle.mem_iff.mpr (.tail _ ht))
      refine ⟨(o, result) :: ends, ?_, ?_, ?_, ?_⟩
      · rw [List.map_append] at hperm
        rw [List.map_append]
        exact (hperm.cons o).trans List.perm_middle.symm
      · exact hcleared.report
      · intro e he
        rcases List.mem_cons.mp he with rfl | he
        · rw [hcleared.others o.id, hkept]
          · exact hwork (o, .done result) (by simp)
          · intro e he
            obtain ⟨t, ht, heq⟩ := mem_of_perm hperm he
            exact heq ▸ hothers t ht
        · exact hcleared.stored e he
      · intro key hkey
        rw [hcleared.others key fun e he => hkey e (.tail _ he), hkept]
  | @call _ _ c next w _ _ _ m _ hfresh _ ih =>
      obtain ⟨before, ⟨o, _⟩, after, rfl, rfl, rfl, rfl⟩ := split_map hworks
      obtain ⟨hothers, _⟩ := distinct_of_nodup hids
      obtain ⟨hnext, hkept⟩ := (hwork (o, .call c next) (by simp)).answer hfresh
      obtain ⟨ends, hperm, hcleared⟩ := ih (before ++ (o, next (w.answer m c).1) :: after) (by simp)
        (by simpa using hids) fun t ht => by
          rcases List.mem_cons.mp (List.perm_middle.mem_iff.mp ht) with rfl | ht
          · exact hnext
          · rw [hkept t.1.id (hothers t ht)]
            exact hwork t (List.perm_middle.mem_iff.mpr (.tail _ ht))
      refine ⟨ends, by simpa using hperm, hcleared.report, hcleared.stored, fun key hkey => ?_⟩
      have hmem : o ∈ ends.map Prod.fst := hperm.mem_iff.mpr (by simp)
      obtain ⟨e, he, rfl⟩ := List.mem_map.mp hmem
      rw [hcleared.others key hkey, hkept key (hkey e he).symm]

/-- Where the orders were stored as they were listed, all that has changed is that some are resolved. -/
theorem Cleared.changed (h : Cleared ends w report w' report')
    (hlisted : ∀ e ∈ ends, w.services.orders.get? e.1.id = some e.1) (key : OrderId) :
    w'.services.orders.get? key = w.services.orders.get? key ∨
      ∃ e ∈ ends, ∃ o', e.1.id = key ∧ e.1.Resolves o' ∧ w'.services.orders.get? key = some o' := by
  by_cases hkey : ∃ e ∈ ends, e.1.id = key
  · obtain ⟨e, he, rfl⟩ := hkey
    rcases (h.stored e he).done with ⟨_, hsame⟩ | ⟨o', hresolves, hchanged, _⟩
    · exact .inl (hsame.trans (hlisted e he).symm)
    · exact .inr ⟨e, he, o', rfl, hresolves, hchanged⟩
  · exact .inl (h.others key fun e he heq => hkey ⟨e, he, heq⟩)

/-- As many orders are counted as there are results of the kind that tells them. -/
theorem countP_orders {candidates : List Order} (hperm : (ends.map Prod.fst).Perm candidates)
    (P : Except ServiceError Resolution → Bool) (Q : Order → Bool)
    (hiff : ∀ e ∈ ends, P e.2 = true ↔ Q e.1 = true) :
    candidates.countP Q = (ends.map Prod.snd).countP P := by
  rw [← hperm.countP_eq, List.countP_map, List.countP_map]
  exact List.countP_congr fun e he => (hiff e he).symm

end

/-! ## The accounts -/

/-- The counts of a sweep are true. The candidates are overdue orders, none of them listed twice, and
each of them is counted once. As many as are counted as succeeded have the status of success now, as
many as are counted as failed or expired have failed, and the others are as they were. Nothing else has
changed. -/
structure Accounts (now : Timestamp) (candidates : List Order) (w : World) (report : SweepReport)
    (w' : World) : Prop where
  listed : ∀ o ∈ candidates, w.services.orders.get? o.id = some o ∧
    OrderStore.isOverdue now o = true
  distinct : (candidates.map Order.id).Nodup
  examined : report.examined = candidates.length
  total : report.succeeded + report.failed + report.expired + report.skipped + report.errors =
    report.examined
  succeeded : candidates.countP (fun o => w'.statusOf o.id = some .success) = report.succeeded
  failed : candidates.countP (fun o => w'.statusOf o.id = some .failed) =
    report.failed + report.expired
  left : candidates.countP (fun o => w'.services.orders.get? o.id = some o) =
    report.skipped + report.errors
  changed : ∀ key, w'.services.orders.get? key = w.services.orders.get? key ∨
    w'.Resolved key ∧ ∃ o ∈ candidates, o.id = key

section

variable {now : Timestamp} {candidates : List Order}

/-- A sweep works on the batch that it finds, and in the end each of its orders is as its result says. -/
theorem Swept.cleared (hfiled : w.services.orders.Filed) (h : Swept r now candidates w report w') :
    candidates = w.services.orders.batch now r.config.batchLimit ∧
      (candidates.map Order.id).Nodup ∧
      (∀ o ∈ candidates, w.services.orders.get? o.id = some o ∧
        OrderStore.isOverdue now o = true) ∧
      ∃ ends, (ends.map Prod.fst).Perm candidates ∧
        Cleared ends w { SweepReport.empty with examined := candidates.length } w' report := by
  obtain ⟨opened, hlisting, hclears⟩ := h
  obtain ⟨hlists, hkept⟩ := listing_yields hlisting
  have hbatch := hlists candidates rfl
  have hids : (candidates.map Order.id).Nodup := by
    rw [hbatch]
    exact (OrderStore.overdue_ids_nodup hfiled).sublist (OrderStore.batch_sublist.map Order.id)
  have hlisted (o) (ho : o ∈ candidates) : w.services.orders.get? o.id = some o ∧
      OrderStore.isOverdue now o = true :=
    (OrderStore.mem_overdue hfiled).mp (OrderStore.batch_sublist.subset (hbatch ▸ ho))
  obtain ⟨ends, hperm, hreport, hstored, hothers⟩ := hclears.cleared
    (candidates.map fun o => (o, (r.reconcile o).run)) (by simp)
    (by simpa [Function.comp_def] using hids) fun t ht => by
      obtain ⟨o, ho, rfl⟩ := List.mem_map.mp ht
      rw [hkept, (hlisted o ho).1]
      exact .unwritten (reconcile_resolving r o)
  refine ⟨hbatch, hids, hlisted, ends, by simpa [Function.comp_def] using hperm, hreport, hstored,
    fun key hkey => ?_⟩
  rw [hothers key hkey, hkept]

/-- The accounts of a sweep are true. -/
theorem Swept.accounts (hfiled : w.services.orders.Filed) (h : Swept r now candidates w report w') :
    Accounts now candidates w report w' := by
  obtain ⟨_, hids, hlisted, ends, hperm, hcleared⟩ := h.cleared hfiled
  have hmem (e) (he : e ∈ ends) : e.1 ∈ candidates := hperm.mem_iff.mp (List.mem_map_of_mem he)
  have hopen (e) (he : e ∈ ends) : e.1.isUnresolved = true :=
    (Bool.and_eq_true_iff.mp (hlisted e.1 (hmem e he)).2).1
  obtain ⟨hexamined, hcounted, hsucceeded, hfailed, hleft⟩ := foldl_note (ends.map Prod.snd)
    { SweepReport.empty with examined := candidates.length }
  rw [← hcleared.report] at hexamined hcounted hsucceeded hfailed hleft
  have hlength : (ends.map Prod.snd).length = candidates.length := by
    rw [← hperm.length_eq, List.length_map, List.length_map]
  have hstatuses {status : OrderStatus} (hterminal : status.isTerminal = true) :
      candidates.countP (fun o => w'.statusOf o.id = some status) =
        (ends.map Prod.snd).countP (reported · = some status) := by
    refine countP_orders hperm _ _ fun e he => ?_
    rw [decide_eq_true_eq, decide_eq_true_eq]
    exact (hcleared.stored e he).reported_iff (hopen e he) hterminal
  refine ⟨hlisted, hids, hexamined, ?_, ?_, ?_, ?_, fun key => ?_⟩
  · rw [hexamined, ← hlength]
    simpa [SweepReport.counted, SweepReport.empty] using hcounted
  · rw [hsucceeded, hstatuses rfl]
    simp [SweepReport.empty]
  · rw [hfailed, hstatuses rfl]
    simp [SweepReport.empty]
  · rw [hleft, countP_orders hperm (reported · = none)]
    · simp [SweepReport.empty]
    · intro e he
      rw [decide_eq_true_eq, decide_eq_true_eq]
      exact (hcleared.stored e he).unreported_iff (hopen e he)
  · refine (hcleared.changed (fun e he => (hlisted e.1 (hmem e he)).1) key).imp_right ?_
    rintro ⟨e, he, o', hkey, hresolves, hstored⟩
    refine ⟨?_, e.1, hmem e he, hkey⟩
    unfold World.Resolved World.statusOf
    rw [hstored]
    exact hresolves.status.imp (congrArg some) (congrArg some)

/-- After a sweep every order is stored under its own identifier still. -/
theorem Swept.filed (hfiled : w.services.orders.Filed) (h : Swept r now candidates w report w') :
    w'.services.orders.Filed := by
  obtain ⟨_, _, hlisted, ends, hperm, hcleared⟩ := h.cleared hfiled
  intro key o ho
  rcases hcleared.changed (fun e he => (hlisted e.1 (hperm.mem_iff.mp (List.mem_map_of_mem he))).1)
    key with hkept | ⟨e, _, o', rfl, hresolves, hstored⟩
  · exact hfiled (hkept.symm.trans ho)
  · cases ho.symm.trans hstored
    exact hresolves.ties.1

theorem not_resolved_of_overdue (hstored : w.services.orders.get? o.id = some o)
    (hoverdue : OrderStore.isOverdue now o = true) : ¬w.Resolved o.id := by
  have hopen : o.status.isUnresolved = true := (Bool.and_eq_true_iff.mp hoverdue).1
  unfold World.Resolved World.statusOf
  rw [hstored]
  rintro (hstatus | hstatus) <;>
    simp [Option.some.inj hstatus, OrderStatus.isUnresolved] at hopen

/-- Where nothing is overdue a sweep does nothing, and reports so if the orders can be read. -/
theorem sweep_idle {s : Services} (hnone : s.orders.overdue s.clock.tick = []) :
    (s.orders.unavailable = false → (s.run r.sweep).1 = .ok .empty) ∧
      (s.run r.sweep).2.orders = s.orders ∧ (s.run r.sweep).2.ledger = s.ledger ∧
      (s.run r.sweep).2.bank = s.bank := by
  have hlisting : (s.run r.listing).1.2 = s.orders.findExpired s.clock.tick r.config.batchLimit := rfl
  unfold Services.run at hlisting ⊢
  rw [sweep_eq, Program.run_bind, hlisting]
  cases hdown : s.orders.unavailable with
  | true =>
      rw [OrderStore.findExpired_down hdown]
      exact ⟨fun h => (by cases h), rfl, rfl, rfl⟩
  | false =>
      rw [OrderStore.findExpired_eq hdown, OrderStore.batch, hnone, List.take_nil]
      exact ⟨fun _ => rfl, rfl, rfl, rfl⟩

/-- **The report of a sweep is true, and what is resolved is settled for good.** Whatever is stored,
however a sweep is configured, and whatever it is answered: its report counts each of its candidates
once, no more than the batch limit, and the stored orders have changed as it says. Whichever sweep
follows, and whenever, as long as nobody else writes an order: it examines none that is resolved. And
if the batch was not full and none of its orders was left, there is nothing to do for another sweep at
the same instant. -/
theorem sweep_accounted (hfiled : w.services.orders.Filed)
    (h : Swept r now candidates w report w') :
    Accounts now candidates w report w' ∧ report.examined ≤ r.config.batchLimit ∧
      (∀ {r' : Reconciler} {later : Timestamp} {again : List Order} {w₁ w₂ : World}
        {report' : SweepReport}, w₁.services.orders.get? = w'.services.orders.get? →
        Swept r' later again w₁ report' w₂ → ∀ o ∈ again, ¬w'.Resolved o.id) ∧
      (report.examined < r.config.batchLimit → report.skipped = 0 → report.errors = 0 →
        ∀ (r' : Reconciler) (s : Services), s.orders.get? = w'.services.orders.get? →
          s.clock.tick = now →
            (s.orders.unavailable = false → (s.run r'.sweep).1 = .ok .empty) ∧
              (s.run r'.sweep).2.orders = s.orders ∧ (s.run r'.sweep).2.ledger = s.ledger ∧
              (s.run r'.sweep).2.bank = s.bank) := by
  have haccounts := h.accounts hfiled
  have hbatch := (h.cleared hfiled).1
  have hfiled' : w'.services.orders.Filed := h.filed hfiled
  refine ⟨haccounts, ?_, fun {r' later again w₁ w₂ report'} hsame hagain o ho => ?_,
    fun hfull hskipped herrors r' s hsame hclock => ?_⟩
  · rw [haccounts.examined, hbatch]
    exact OrderStore.batch_length_le
  · obtain ⟨hstored, hoverdue⟩ := (hagain.accounts (hfiled'.congr hsame)).listed o ho
    exact not_resolved_of_overdue (hsame ▸ hstored) hoverdue
  · refine sweep_idle (List.eq_nil_iff_forall_not_mem.mpr fun o ho => ?_)
    rw [hclock] at ho
    obtain ⟨hstored, hoverdue⟩ := (OrderStore.mem_overdue (hfiled'.congr hsame)).mp ho
    rw [hsame] at hstored
    -- it was overdue before, so it was a candidate, and no candidate is as it was
    rcases haccounts.changed o.id with hkept | ⟨hresolved, _⟩
    · have hcandidate : o ∈ candidates := by
        rw [haccounts.examined, hbatch] at hfull
        rw [hbatch, OrderStore.batch_of_not_full hfull]
        exact (OrderStore.mem_overdue hfiled).mpr ⟨hkept.symm.trans hstored, hoverdue⟩
      have hleft := haccounts.left
      rw [hskipped, herrors, List.countP_eq_zero] at hleft
      exact hleft o hcandidate (decide_eq_true hstored)
    · exact not_resolved_of_overdue hstored hoverdue hresolved

/-- An order that is being verified is the only candidate, and the bank says that it was paid. The next
sweep finds nothing to do. -/
theorem sweep_accounted_parked : ∃ w',
    Swept ⟨.standard, .standard⟩ fairInstant [parkedOrder] parkedWorld ⟨1, 1, 0, 0, 0, 0⟩ w' ∧
      w'.statusOf parkedOrder.id = some .success ∧
      (({ w'.services with clock := default } : Services).run (sweep ⟨.standard, .standard⟩)).1 =
        .ok .empty := by
  have hcheck : (sweepFairly ⟨.standard, .standard⟩ "200" parkedWorld).any (fun x =>
      decide (x.1 = ([parkedOrder], ⟨1, 1, 0, 0, 0, 0⟩)) &&
        !x.2.services.orders.unavailable) = true := by decide +kernel
  obtain ⟨⟨_, w'⟩, hsweep, hw⟩ := (Option.any_eq_true _ _).mp hcheck
  simp only [Bool.and_eq_true, decide_eq_true_eq, Bool.not_eq_true'] at hw
  obtain ⟨rfl, hup⟩ := hw
  have hswept := swept_of_sweepFairly hsweep
  obtain ⟨haccounts, _, _, hidle⟩ := sweep_accounted (OrderStore.filed_empty.insert parkedOrder) hswept
  have hsucceeded := haccounts.succeeded
  refine ⟨w', hswept, by simpa [List.countP_cons] using hsucceeded, ?_⟩
  exact (hidle (by decide) rfl rfl _ { w'.services with clock := default } rfl rfl).1 hup

end

end Reconciler

end Wallet
