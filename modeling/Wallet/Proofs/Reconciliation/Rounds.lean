import Mathlib.Data.List.Perm.Subperm
import Wallet.Proofs.Reconciliation.Accounts

/-!
# Sweep after sweep

A sweep takes up the oldest overdue orders. So an order that is left out has to wait for a full batch
of older ones, and as long as each sweep resolves at least one of them its turn comes: every sweep that
is not stuck shortens the line. After as many of them as there are overdue orders each has been examined
(`examined_unless_stuck`). But a full batch that stays unresolved is taken up again and again
(`Rounds.stuck`), and everybody behind it has to wait (`starved`). A sweep that was refused its listing
changes nothing and does not count.
-/

namespace Wallet.Reconciler

/-- One of several sweeps. -/
structure Round where
  now : Timestamp
  candidates : List Order
  report : SweepReport

/-- A sweep has taken up a full batch and resolved none of it. -/
def Round.Stuck (limit : Nat) (round : Round) : Prop :=
  round.candidates.length = limit ∧
    round.report.succeeded + round.report.failed + round.report.expired = 0

instance (limit : Nat) (round : Round) : Decidable (round.Stuck limit) :=
  inferInstanceAs (Decidable (_ ∧ _))

/-- How many sweeps are not stuck. -/
def advances (limit : Nat) (rounds : List Round) : Nat :=
  rounds.countP fun round => ¬round.Stuck limit

theorem advances_stuck {limit : Nat} {round : Round} {rest : List Round} (h : round.Stuck limit) :
    advances limit (round :: rest) = advances limit rest :=
  List.countP_cons_of_neg (by simp [h])

theorem advances_free {limit : Nat} {round : Round} {rest : List Round} (h : ¬round.Stuck limit) :
    advances limit (round :: rest) = advances limit rest + 1 :=
  List.countP_cons_of_pos (by simp [h])

/-- Sweeps one after the other, and those of them that have returned a report. Nobody else writes an
order between them, and of the orders that are stored the same are overdue at each of them as at a given
instant. -/
inductive Rounds (r : Reconciler) (now : Timestamp) : World → List Round → World → Prop
  | none (w : World) : Rounds r now w [] w
  | aborted {w w₁ w' w'' : World} {e : ReconciliationError} {rounds : List Round} :
      w₁.services.orders.get? = w.services.orders.get? → r.sweep.Yields w₁ (.error e) w' →
      Rounds r now w' rounds w'' → Rounds r now w rounds w''
  | next {w w₁ w' w'' : World} {round : Round} {rest : List Round} :
      w₁.services.orders.get? = w.services.orders.get? →
      (∀ key o, w.services.orders.get? key = some o →
        OrderStore.isOverdue round.now o = OrderStore.isOverdue now o) →
      Swept r round.now round.candidates w₁ round.report w' →
      Rounds r now w' rest w'' → Rounds r now w (round :: rest) w''

variable {r : Reconciler} {now : Timestamp} {w w₁ w' : World} {round : Round} {rounds : List Round}
  {o : Order}

/-! ## One sweep -/

/-- An overdue order that a sweep leaves out has to make way for a full batch of older ones, and it is
stored as it was. -/
theorem Swept.left_out {candidates : List Order} {report : SweepReport}
    (hfiled : w.services.orders.Filed) (h : Swept r now candidates w report w')
    (ho : o ∈ w.services.orders.overdue now) (hout : o ∉ candidates) :
    candidates.length = r.config.batchLimit ∧ (∀ other ∈ candidates, OrderId.le other.id o.id) ∧
      w'.services.orders.get? o.id = w.services.orders.get? o.id := by
  obtain ⟨hbatch, _, hlisted, _⟩ := h.cleared hfiled
  obtain ⟨hfull, holder⟩ := OrderStore.batch_of_left_out ho (hbatch ▸ hout)
  rw [← hbatch] at hfull holder
  refine ⟨hfull, holder, ?_⟩
  rcases (h.accounts hfiled).changed o.id with hkept | ⟨_, c, hc, hid⟩
  · exact hkept
  · have hstored := (hlisted c hc).1
    rw [hid, ((OrderStore.mem_overdue hfiled).mp ho).1] at hstored
    cases hstored
    exact absurd hc hout

/-- No order becomes overdue by a sweep. -/
theorem Accounts.overdue_subset {instant : Timestamp} {candidates : List Order} {report : SweepReport}
    (hfiled : w.services.orders.Filed) (hfiled' : w'.services.orders.Filed)
    (h : Accounts instant candidates w report w') :
    w'.services.orders.overdue now ⊆ w.services.orders.overdue now := by
  intro o ho
  obtain ⟨hstored, hoverdue⟩ := (OrderStore.mem_overdue hfiled').mp ho
  rcases h.changed o.id with hkept | ⟨hresolved, _⟩
  · exact (OrderStore.mem_overdue hfiled).mpr ⟨hkept.symm.trans hstored, hoverdue⟩
  · exact absurd hresolved (not_resolved_of_overdue hstored hoverdue)

/-- A sweep that is not stuck although its batch is full has resolved one of its candidates. -/
theorem Accounts.exists_resolved {instant : Timestamp} {limit : Nat}
    (h : Accounts instant round.candidates w round.report w')
    (hfull : round.candidates.length = limit) (hfree : ¬round.Stuck limit) :
    ∃ o ∈ round.candidates, w'.Resolved o.id := by
  have hsome : round.report.succeeded + round.report.failed + round.report.expired ≠ 0 :=
    fun hnone => hfree ⟨hfull, hnone⟩
  have hsucceeded := h.succeeded
  have hfailed := h.failed
  by_cases hnone : round.report.succeeded = 0
  · obtain ⟨o, ho, hstatus⟩ := List.countP_pos_iff.mp (show 0 < _ by rw [hfailed]; omega)
    exact ⟨o, ho, .inr (of_decide_eq_true hstatus)⟩
  · obtain ⟨o, ho, hstatus⟩ := List.countP_pos_iff.mp (show 0 < _ by rw [hsucceeded]; omega)
    exact ⟨o, ho, .inl (of_decide_eq_true hstatus)⟩

/-- A sweep that resolves nothing leaves all orders as they were. -/
theorem Accounts.kept {instant : Timestamp} {candidates : List Order} {report : SweepReport}
    (h : Accounts instant candidates w report w')
    (hnone : report.succeeded + report.failed + report.expired = 0) :
    w'.services.orders.get? = w.services.orders.get? := by
  have hsucceeded := h.succeeded.trans (show report.succeeded = 0 by omega)
  have hfailed := h.failed.trans (show report.failed + report.expired = 0 by omega)
  rw [List.countP_eq_zero] at hsucceeded hfailed
  funext key
  rcases h.changed key with hkept | ⟨hresolved, c, hc, rfl⟩
  · exact hkept
  · rcases hresolved with hstatus | hstatus
    · exact absurd (decide_eq_true hstatus) (hsucceeded c hc)
    · exact absurd (decide_eq_true hstatus) (hfailed c hc)

/-! ## Sweep after sweep -/

/-- An order that stands in a list and not in its sublist makes the one longer than the other. -/
theorem length_lt_of_subset {l l' : List Order} (hnodup : l.Nodup) (hsubset : l ⊆ l') (ho : o ∈ l')
    (hnot : o ∉ l) : l.length < l'.length := by
  have hcons : (o :: l).Nodup := List.nodup_cons.mpr ⟨hnot, hnodup⟩
  exact (List.subperm_of_subset hcons (List.cons_subset.mpr ⟨ho, hsubset⟩)).length_le

/-- A sweep finds those orders overdue that were so before it. -/
theorem overdue_eq {instant : Timestamp} (hfiled : w.services.orders.Filed)
    (hsame : w₁.services.orders.get? = w.services.orders.get?)
    (hdue : ∀ key o, w.services.orders.get? key = some o →
      OrderStore.isOverdue instant o = OrderStore.isOverdue now o) :
    w₁.services.orders.overdue instant = w.services.orders.overdue now := by
  have hfiled₁ : w₁.services.orders.Filed := hfiled.congr hsame
  refine OrderStore.overdue_congr hfiled₁ hfiled fun o => ?_
  rw [OrderStore.mem_overdue hfiled₁, OrderStore.mem_overdue hfiled, hsame]
  exact and_congr_right fun hstored => by rw [hdue _ _ hstored]

/-- A sweep that returns no report leaves the orders as they were. -/
theorem orders_of_aborted {e : ReconciliationError} (h : r.sweep.Yields w (.error e) w') :
    w'.services.orders.get? = w.services.orders.get? := by
  obtain ⟨_, _, hlisting⟩ := listing_of_aborted h
  rw [(listing_yields hlisting).2]

/-- No sweep makes the line of overdue orders longer. -/
theorem Swept.line_le {instant : Timestamp} {candidates : List Order} {report : SweepReport}
    (hfiled : w.services.orders.Filed) (h : Swept r instant candidates w report w') :
    (w'.services.orders.overdue now).length ≤ (w.services.orders.overdue now).length := by
  have hfiled' : w'.services.orders.Filed := h.filed hfiled
  have hsubset : w'.services.orders.overdue now ⊆ w.services.orders.overdue now :=
    (h.accounts hfiled).overdue_subset hfiled hfiled'
  exact (List.subperm_of_subset (OrderStore.overdue_nodup hfiled') hsubset).length_le

/-- A sweep with a full batch makes it shorter, unless it is stuck. -/
theorem Swept.line_lt (hfiled : w.services.orders.Filed)
    (h : Swept r round.now round.candidates w round.report w')
    (hline : w.services.orders.overdue round.now = w.services.orders.overdue now)
    (hfull : round.candidates.length = r.config.batchLimit)
    (hfree : ¬round.Stuck r.config.batchLimit) :
    (w'.services.orders.overdue now).length < (w.services.orders.overdue now).length := by
  have hfiled' : w'.services.orders.Filed := h.filed hfiled
  have haccounts := h.accounts hfiled
  obtain ⟨c, hc, hresolved⟩ := haccounts.exists_resolved hfull hfree
  have hbefore : c ∈ w.services.orders.overdue now :=
    hline ▸ (OrderStore.mem_overdue hfiled).mpr (haccounts.listed c hc)
  have hafter : c ∉ w'.services.orders.overdue now := fun hc' =>
    have hlisted := (OrderStore.mem_overdue hfiled').mp hc'
    not_resolved_of_overdue hlisted.1 hlisted.2 hresolved
  exact length_lt_of_subset (OrderStore.overdue_nodup hfiled')
    (haccounts.overdue_subset hfiled hfiled') hbefore hafter

/-- While an order waits every sweep takes up older orders only, as many as it may, and each sweep that
is not stuck makes the line shorter. -/
theorem Rounds.waiting (h : Rounds r now w rounds w') (hfiled : w.services.orders.Filed)
    (ho : o ∈ w.services.orders.overdue now) (hnever : ∀ round ∈ rounds, o ∉ round.candidates) :
    advances r.config.batchLimit rounds < (w.services.orders.overdue now).length ∧
      ∀ round ∈ rounds, round.candidates.length = r.config.batchLimit ∧
        ∀ other ∈ round.candidates, OrderId.le other.id o.id := by
  induction h with
  | none w => exact ⟨List.length_pos_of_mem ho, by simp⟩
  | @aborted w _ w' _ _ _ hsame haborted _ ih =>
      have hkept := (orders_of_aborted haborted).trans hsame
      have hline : w'.services.orders.overdue now = w.services.orders.overdue now :=
        overdue_eq hfiled hkept fun _ _ _ => rfl
      rw [← hline]
      exact ih (hfiled.congr hkept) (hline ▸ ho) hnever
  | @next w w₁ w' _ round rest hsame hdue hswept _ ih =>
      have hfiled₁ : w₁.services.orders.Filed := hfiled.congr hsame
      have hfiled' : w'.services.orders.Filed := hswept.filed hfiled₁
      have hline := overdue_eq hfiled hsame hdue
      have hline₁ : w₁.services.orders.overdue now = w.services.orders.overdue now :=
        overdue_eq hfiled hsame fun _ _ _ => rfl
      obtain ⟨hfull, holder, hkept⟩ :=
        hswept.left_out hfiled₁ (hline ▸ ho) (hnever round (.head _))
      have ho' : o ∈ w'.services.orders.overdue now := by
        obtain ⟨hstored, hoverdue⟩ := (OrderStore.mem_overdue hfiled).mp ho
        exact (OrderStore.mem_overdue hfiled').mpr ⟨by rw [hkept, hsame, hstored], hoverdue⟩
      obtain ⟨hadvances, hwaits⟩ := ih hfiled' ho' fun other hother => hnever other (.tail _ hother)
      refine ⟨?_, List.forall_mem_cons.mpr ⟨⟨hfull, holder⟩, hwaits⟩⟩
      rw [← hline₁]
      by_cases hstuck : round.Stuck r.config.batchLimit
      · rw [advances_stuck hstuck]
        exact Nat.lt_of_lt_of_le hadvances (hswept.line_le hfiled₁)
      · rw [advances_free hstuck]
        have hshorter := hswept.line_lt hfiled₁ (hline.trans hline₁.symm) hfull hstuck
        omega

/-- **Everybody's turn comes, unless a sweep is stuck.** Whatever is stored, however large a batch may
be, and whatever the sweeps are answered: once as many sweeps were not stuck as there were overdue
orders in the beginning, each of these has been examined. While an order waits every sweep examines a
full batch of older orders. -/
theorem examined_unless_stuck (h : Rounds r now w rounds w') (hfiled : w.services.orders.Filed) :
    ((w.services.orders.overdue now).length ≤ advances r.config.batchLimit rounds →
      ∀ o ∈ w.services.orders.overdue now, ∃ round ∈ rounds, o ∈ round.candidates) ∧
      ∀ o ∈ w.services.orders.overdue now, (∀ round ∈ rounds, o ∉ round.candidates) →
        ∀ round ∈ rounds, round.candidates.length = r.config.batchLimit ∧
          ∀ other ∈ round.candidates, OrderId.le other.id o.id := by
  refine ⟨fun henough o ho => ?_, fun o ho hnever => (h.waiting hfiled ho hnever).2⟩
  by_contra hnone
  have hnever (round) (hround : round ∈ rounds) : o ∉ round.candidates :=
    fun hmem => hnone ⟨round, hround, hmem⟩
  have hfewer := (h.waiting hfiled ho hnever).1
  omega

/-- **A batch that stays unresolved is taken up for ever.** If every sweep is stuck they all examine the
orders that the first of them has listed, and nobody else's turn comes. -/
theorem Rounds.stuck (h : Rounds r now w rounds w') (hfiled : w.services.orders.Filed)
    (hstuck : ∀ round ∈ rounds, round.Stuck r.config.batchLimit) :
    ∀ round ∈ rounds, round.candidates = w.services.orders.batch now r.config.batchLimit := by
  induction h with
  | none w => simp
  | aborted hsame haborted _ ih =>
      have hkept := (orders_of_aborted haborted).trans hsame
      have hrest := ih (hfiled.congr hkept) hstuck
      unfold OrderStore.batch at hrest ⊢
      rwa [overdue_eq hfiled hkept fun _ _ _ => rfl] at hrest
  | @next w w₁ w' _ round rest hsame hdue hswept _ ih =>
      have hfiled₁ : w₁.services.orders.Filed := hfiled.congr hsame
      have hkept : w'.services.orders.get? = w.services.orders.get? :=
        ((hswept.accounts hfiled₁).kept (hstuck round (.head _)).2).trans hsame
      have hrest := ih (hswept.filed hfiled₁) fun other hother => hstuck other (.tail _ hother)
      unfold OrderStore.batch at hrest ⊢
      rw [overdue_eq hfiled hkept fun _ _ _ => rfl] at hrest
      refine List.forall_mem_cons.mpr ⟨?_, hrest⟩
      rw [(hswept.cleared hfiled₁).1, OrderStore.batch, overdue_eq hfiled hsame hdue]

/-! ### One order at a time -/

/-- Sweeps that take up one order each. -/
def oneByOne : Reconciler := ⟨.standard, { ReconciliationConfig.standard with batchLimit := 1 }⟩

/-- So many of these sweeps, one after the other. All collaborators can be reached, and the bank always
gives the same answer. -/
def roundsOf (code : String) : Nat → World → Option (List Round × World)
  | 0, w => some ([], w)
  | n + 1, w => (sweepFairly oneByOne code w).bind fun x =>
      (roundsOf code n x.2).map fun rest => (⟨fairInstant, x.1.1, x.1.2⟩ :: rest.1, rest.2)

theorem rounds_of_roundsOf {code : String} {n : Nat} {w : World}
    (h : roundsOf code n w = some (rounds, w')) : Rounds oneByOne fairInstant w rounds w' := by
  induction n generalizing w rounds with
  | zero =>
      cases h
      exact .none _
  | succ n ih =>
      obtain ⟨⟨_, w₁⟩, hsweep, hrest⟩ := Option.bind_eq_some_iff.mp h
      obtain ⟨⟨rest, _⟩, hrounds, heq⟩ := Option.map_eq_some_iff.mp hrest
      cases heq
      exact .next rfl (fun _ _ _ => rfl) (swept_of_sweepFairly hsweep) (ih hrounds)

/-- The overdue order that was made as the `n`th. -/
def nth (n : Nat) (status : OrderStatus) : Order :=
  { Order.create ⟨.ofNat n⟩ default default .cashIn .zero default with status := status }

/-- Two overdue orders are stored. The younger one expires when its turn comes, and so does the older
one unless it is being verified: then the bank is asked. -/
def line (status : OrderStatus) : World :=
  ⟨{ (default : Services) with
      orders := .insert (.insert .empty (nth 1 status)) (nth 2 .pending) }, []⟩

theorem line_filed (status : OrderStatus) : (line status).services.orders.Filed :=
  OrderStore.Filed.insert (OrderStore.Filed.insert OrderStore.filed_empty _) _

theorem line_overdue {status : OrderStatus} (h : status.isUnresolved = true) :
    (line status).services.orders.overdue fairInstant = [nth 1 status, nth 2 .pending] := by
  have hvalues : (line status).services.orders.orders.values = [nth 1 status, nth 2 .pending] := rfl
  have hoverdue : OrderStore.isOverdue fairInstant (nth 1 status) = true :=
    Bool.and_eq_true_iff.mpr ⟨h, rfl⟩
  unfold OrderStore.overdue
  rw [hvalues, List.filter_cons_of_pos hoverdue, List.filter_cons_of_pos (by decide), List.filter_nil]
  exact List.mergeSort_of_pairwise (by simp [OrderId.le, nth, Order.create, Uuid.ofNat])

/-- Two sweeps of which none is stuck: both orders expire. -/
theorem examined_unless_stuck_pending : ∃ rounds w',
    Rounds oneByOne fairInstant (line .pending) rounds w' ∧ rounds.length = 2 ∧
      ∀ o ∈ [nth 1 .pending, nth 2 .pending], ∃ round ∈ rounds, o ∈ round.candidates := by
  have hcheck : (roundsOf "102" 2 (line .pending)).any (fun x =>
      decide (x.1.length = 2) && decide (2 ≤ advances 1 x.1)) = true := by decide +kernel
  obtain ⟨⟨rounds, w'⟩, hrounds, hw⟩ := (Option.any_eq_true _ _).mp hcheck
  simp only [Bool.and_eq_true, decide_eq_true_eq] at hw
  obtain ⟨hlength, hadvances⟩ := hw
  have hrun := rounds_of_roundsOf hrounds
  obtain ⟨hexamined, _⟩ := examined_unless_stuck hrun (line_filed .pending)
  rw [line_overdue rfl] at hexamined
  exact ⟨rounds, w', hrun, hlength, hexamined hadvances⟩

/-- The bank cannot say what has become of the older of two orders. As many sweeps as there are orders
take up that order each, nothing goes wrong in any of them, and the younger order is not examined. -/
theorem starved : ∃ rounds w', roundsOf "102" 2 (line .verifying) = some (rounds, w') ∧
    Rounds oneByOne fairInstant (line .verifying) rounds w' ∧
    (line .verifying).services.orders.overdue fairInstant = [nth 1 .verifying, nth 2 .pending] ∧
    rounds.length = 2 ∧ (∀ round ∈ rounds, round.report = ⟨1, 0, 0, 0, 1, 0⟩) ∧
    ∀ round ∈ rounds, nth 2 .pending ∉ round.candidates := by
  have hcheck : (roundsOf "102" 2 (line .verifying)).any (fun x =>
      decide (x.1.length = 2) && decide (∀ round ∈ x.1, round.report = ⟨1, 0, 0, 0, 1, 0⟩) &&
        decide (∀ round ∈ x.1, round.Stuck 1)) = true := by decide +kernel
  obtain ⟨⟨rounds, w'⟩, hrounds, hw⟩ := (Option.any_eq_true _ _).mp hcheck
  simp only [Bool.and_eq_true, decide_eq_true_eq] at hw
  obtain ⟨⟨hlength, hreports⟩, hstuck⟩ := hw
  have hrun := rounds_of_roundsOf hrounds
  have hline : (line .verifying).services.orders.overdue fairInstant =
      [nth 1 .verifying, nth 2 .pending] := line_overdue rfl
  refine ⟨rounds, w', hrounds, hrun, hline, hlength, hreports, fun round hround => ?_⟩
  -- all of them are stuck, so the second takes up what the first has taken up
  rw [hrun.stuck (line_filed .verifying) hstuck round hround, OrderStore.batch, hline]
  decide

end Wallet.Reconciler
