import Wallet.Proofs.Consistency.Reachable
import Wallet.Proofs.Telling.Play
import Wallet.Proofs.Telling.Pool

/-!
# What callers and users are told

What the caller of a flow is told agrees with what is stored when the play ends
(`outcome_as_stored`), and so does what is told to users: one notification at most goes out, and it
goes out exactly if the play has brought an order to the status that it tells, or the order waits
for a one-time password (`notified_as_stored`).
-/

namespace Wallet

open Wallet.Flow

/-- The status of an order was changed to this one. -/
def Turned (before after : OrderId → Option Order) (key : OrderId) (status : OrderStatus) : Prop :=
  (before key).map Order.status ≠ some status ∧ (after key).map Order.status = some status

instance (before after : OrderId → Option Order) (key : OrderId) (status : OrderStatus) :
    Decidable (Turned before after key status) :=
  inferInstanceAs (Decidable (_ ≠ _ ∧ _ = _))

theorem NotificationKind.eq_of_status? {kind kind' : NotificationKind} {status : OrderStatus}
    (h : kind.status? = some status) (h' : kind'.status? = some status) : kind = kind' := by
  rw [← h'] at h
  cases kind <;> cases kind' <;> first | rfl | cases h

namespace Telling

/-- What was told since a past, one notification at most. It tells of the order that has come to the
status it tells, or asks for a one-time password. -/
structure Accounts (before p : Past) (asks : Prop) (ns : List Notification) : Prop where
  sent : notices p.events = notices before.events ++ ns
  once : ns.length ≤ 1
  tells : ∀ {key kind status}, NotificationKind.status? kind = some status →
    ((∃ n ∈ ns, n.orderId = key ∧ n.kind = kind) ↔
      Turned before.books.orders p.books.orders key status)
  asked : (∃ n ∈ ns, n.kind = .otpRequired) ↔ asks

section

variable {before p : Past} {ns : List Notification} {s : FlowState} {o : Order} {key : OrderId}
  {kind : NotificationKind} {status : OrderStatus}

/-- Of the statuses that are told only the order of the flow has come to one. -/
theorem Keeping.turned_iff (h : Keeping before ns s p o) (hkind : kind.status? = some status) :
    Turned before.books.orders p.books.orders key status ↔ key = o.id ∧ o.status = status := by
  by_cases hkey : key = o.id
  · have hunturned : (before.books.orders o.id).map Order.status ≠ some status := by
      intro hbefore
      obtain ⟨b, hb, rfl⟩ := Option.map_eq_some_iff.mp hbefore
      rw [h.fresh b hb] at hkind
      cases kind <;> cases hkind
    rw [hkey, Turned, h.stored]
    exact ⟨fun hturned => ⟨rfl, Option.some.inj hturned.2⟩,
      fun hstatus => ⟨hunturned, congrArg some hstatus.2⟩⟩
  · rw [Turned, h.others key hkey]
    exact ⟨fun hturned => absurd hturned.2 hturned.1, fun hself => absurd hself.1 hkey⟩

theorem Unbegun.accounts (h : Unbegun before s p) : Accounts before p False [] where
  sent := h.sent.trans (List.append_nil _).symm
  once := Nat.zero_le _
  tells := by
    intro key kind status _
    rw [Turned, h.orders]
    exact ⟨nofun, fun hturned => absurd hturned.2 hturned.1⟩
  asked := ⟨nofun, False.elim⟩

theorem Untold.accounts (h : Untold before s p) : Accounts before p False [] := by
  cases h with
  | unbegun h => exact h.accounts
  | @midway o h hmidway =>
      refine ⟨h.sent, Nat.zero_le _, fun {key kind status} hkind => ?_, nofun, False.elim⟩
      rw [h.turned_iff hkind]
      refine ⟨nofun, fun ⟨_, hstatus⟩ => ?_⟩
      rcases hmidway with hopen | hopen <;> rw [← hstatus, hopen] at hkind <;> cases kind <;>
        cases hkind

theorem Told.accounts (h : Told before status s p) : ∃ ns, Accounts before p False ns := by
  obtain ⟨o, n, h, hstatus, hn, htells⟩ := h
  refine ⟨[n], h.sent, Nat.le_refl _, fun {key kind status'} hkind => ?_, ?_, False.elim⟩
  · rw [h.turned_iff hkind]
    constructor
    · rintro ⟨m, hm, hkey, rfl⟩
      obtain rfl := List.mem_singleton.mp hm
      exact ⟨hkey.symm.trans hn, hstatus.trans (Option.some.inj (htells.symm.trans hkind))⟩
    · rintro ⟨hkey, hturned⟩
      rw [← hstatus, hturned] at htells
      exact ⟨n, List.mem_singleton_self n, hn.trans hkey.symm,
        NotificationKind.eq_of_status? htells hkind⟩
  · rintro ⟨m, hm, hasks⟩
    obtain rfl := List.mem_singleton.mp hm
    rw [hasks] at htells
    cases htells

theorem Settled.accounts (h : Settled before s p) : ∃ ns, Accounts before p False ns := by
  rcases h with h | ⟨status, h⟩
  · exact ⟨[], h.accounts⟩
  · exact h.accounts

/-- A user who is asked for a one-time password is told nothing of a status. -/
theorem Keeping.asks {n : Notification} (h : Keeping before [n] s p o) (hwaits : Waiting p o)
    (hn : n.kind = .otpRequired) : Accounts before p True [n] where
  sent := h.sent
  once := Nat.le_refl _
  tells := by
    intro key kind status hkind
    rw [h.turned_iff hkind]
    constructor
    · rintro ⟨m, hm, _, rfl⟩
      obtain rfl := List.mem_singleton.mp hm
      rw [hn] at hkind
      cases hkind
    · rintro ⟨_, hstatus⟩
      rw [← hstatus, hwaits.processing] at hkind
      cases kind <;> cases hkind
  asked := ⟨fun _ => trivial, fun _ => ⟨n, List.mem_singleton_self n, hn⟩⟩

/-- The caller of a flow is asked for a one-time password. -/
def Asks (r : Except Crash FlowOutcome) : Prop := ∃ o, r = .ok o ∧ o.nextAction = .enterOtp

theorem Accounts.of_not_asks {r : Except Crash FlowOutcome} (h : Accounts before p False ns)
    (hr : ¬Asks r) : Accounts before p (Asks r) ns :=
  ⟨h.sent, h.once, h.tells, h.asked.trans (iff_of_false id hr)⟩

theorem nextAction_eq_enterOtp {x : Execution FlowError} :
    nextAction s x = .enterOtp ↔ x.error = none ∧ s.awaitingOtp = true := by
  unfold nextAction Execution.isSuccess
  cases x.error <;> cases s.awaitingOtp <;> simp

theorem asks_outcome {x : Execution FlowError} :
    Asks (.ok (outcome s x)) ↔ x.error = none ∧ s.awaitingOtp = true := by
  refine ⟨fun ⟨o, ho, hasks⟩ => ?_, fun h => ⟨_, rfl, nextAction_eq_enterOtp.mpr h⟩⟩
  cases ho
  exact nextAction_eq_enterOtp.mp hasks

theorem Reported.accounts {r : Except Crash FlowOutcome} (h : Reported before p r) :
    ∃ ns, Accounts before p (Asks r) ns := by
  cases h with
  | crashed h => exact ⟨[], h.accounts.of_not_asks nofun⟩
  | @completed s x herror h =>
      rcases h with ⟨hawaiting, o, n, h, hwaits, _, hn⟩ | ⟨hanswered, h⟩
      · have hasks : Asks (.ok (outcome s x)) := asks_outcome.mpr ⟨herror, hawaiting⟩
        have htold := h.asks hwaits hn
        have hasked := htold.asked.trans (iff_of_true trivial hasks)
        exact ⟨[n], htold.sent, htold.once, htold.tells, hasked⟩
      · obtain ⟨ns, h⟩ := h.accounts
        refine ⟨ns, h.of_not_asks fun hasks => ?_⟩
        cases hanswered.symm.trans (asks_outcome.mp hasks).2
  | stopped herror h =>
      obtain ⟨ns, h⟩ := h.settled.accounts
      refine ⟨ns, h.of_not_asks fun hasks => ?_⟩
      cases herror.symm.trans (asks_outcome.mp hasks).1

/-! ## What the caller is told -/

/-- The order of an outcome is stored, and something holds of it. -/
def Returns (p : Past) (o : FlowOutcome) (P : Order → Prop) : Prop :=
  ∃ key order, o.orderId = some key ∧ p.books.orders key = some order ∧ P order

theorem Keeping.returns {x : Execution FlowError} {P : Order → Prop} (h : Keeping before ns s p o)
    (ho : P o) : Returns p (outcome s x) P := by
  refine ⟨o.id, o, ?_, h.stored, ho⟩
  simp only [outcome, h.order]
  rfl

section

variable {outcome : FlowOutcome}

theorem Reported.succeeded (h : Reported before p (.ok outcome))
    (hsuccess : outcome.isSuccess = true) (hnone : outcome.nextAction = .none) :
    Returns p outcome fun order => order.status = .success := by
  cases h with
  | completed herror h =>
      rcases h with ⟨hawaiting, _⟩ | ⟨_, o, n, h, hstatus, _⟩
      · cases (nextAction_eq_enterOtp.mpr ⟨herror, hawaiting⟩).symm.trans hnone
      · exact h.returns hstatus
  | stopped herror _ => cases herror.symm.trans (Option.isNone_iff_eq_none.mp hsuccess)

theorem Reported.waiting (h : Reported before p (.ok outcome))
    (hasks : outcome.nextAction = .enterOtp) :
    Returns p outcome fun order =>
      order.status = .processing ∧ order.awaitingOtp = true ∧ Initial p order := by
  cases h with
  | completed herror h =>
      rcases h with ⟨_, o, n, h, hwaits, _⟩ | ⟨hanswered, _⟩
      · exact h.returns ⟨hwaits.processing, hwaits.awaiting, hwaits.initial⟩
      · cases hanswered.symm.trans (nextAction_eq_enterOtp.mp hasks).2
  | stopped herror _ => cases herror.symm.trans (nextAction_eq_enterOtp.mp hasks).1

theorem Reported.pending (h : Reported before p (.ok outcome))
    (hpending : outcome.isPending = true) :
    Returns p outcome fun order => order.status = .verifying := by
  cases h with
  | completed herror _ => simp [FlowOutcome.isPending, Flow.outcome, herror] at hpending
  | @stopped s x e herror h =>
      have hputs : Puts e = true := by
        rw [← hpending]
        simp [FlowOutcome.isPending, Flow.outcome, herror, Puts]
      obtain ⟨o, n, h, hverifying, _⟩ := h.verifying hputs
      exact h.returns hverifying

end

end

end Telling

open Telling

section

variable {registry : ClassifierRegistry} {config : FlowConfig} {call : FlowCall}
  {operation : Context} {w w' : World} {r : Except Crash FlowOutcome} {o : FlowOutcome}

/-! ### Plays of the first payment -/

/-- Somebody brings in money. -/
def bringIn : FlowCall :=
  .pay .cashIn ⟨⟨.ofNat 1⟩, (Money.ofInt? 200000).getD .zero, ⟨"BIDV"⟩, none, .wallet, none⟩

/-- The one-time password of the first order is entered. -/
def enterPassword : FlowCall := .resume firstOrder "123456"

/-- The program of a call under the standard settings. -/
def FlowCall.plays (call : FlowCall) : Program (Except Crash FlowOutcome) :=
  call.program ⟨.standard, .standard⟩ .background

/-- What a play comes to with given moments around its calls, if it does not crash. -/
def Program.outcomeAmid (x : Program (Except Crash FlowOutcome)) (moments : List Moment)
    (w : World) : Option (FlowOutcome × World) :=
  match x.follow moments w with
  | some (.ok o, w) => some (o, w)
  | _ => none

theorem Program.follow_of_outcomeAmid {x : Program (Except Crash FlowOutcome)}
    {moments : List Moment} (h : x.outcomeAmid moments w = some (o, w')) :
    x.follow moments w = some (.ok o, w') := by
  unfold outcomeAmid at h
  split at h
  · next hfollow =>
      cases h
      exact hfollow
  · cases h

theorem FlowCall.plays_of_calm {code : String}
    (h : call.plays.outcomeAmid (calm code) w = some (o, w')) :
    call.plays.YieldsAmid Moment.HasSlot w (.ok o) w' := by
  refine Program.yieldsAmid_of_follow (fun m hm c => ?_) (Program.follow_of_outcomeAmid h)
  rw [List.eq_of_mem_replicate hm]
  exact Moment.hasSlot_fair code c

/-- Empty services. -/
def World.empty : World := .start .standard [] default

/-! ### The theorems -/

theorem Reachable.flow (h : Reachable registry w)
    (hrun : (call.program ⟨registry, config⟩ operation).Yields w r w') : Reachable registry w' :=
  h.act (.flow config call operation) (Program.yields_bind.mpr ⟨r, w', hrun, rfl, rfl⟩)

/-- **Callers are told how things stand.** Whatever world flows and sweeps have led to, and
whichever calls of a play are refused: if it is successful and nothing is left to do, the order is
stored as successful and linked to a finished record; if a one-time password has to be entered, the
order is stored as waiting for it and its record is initial; and if the play is pending, the order
is stored as verifying. -/
theorem outcome_as_stored (h : Reachable registry w)
    (hrun : (call.program ⟨registry, config⟩ operation).Yields w (.ok o) w') :
    (o.isSuccess = true → o.nextAction = .none → ∃ key order id t, o.orderId = some key ∧
      w'.services.orders.get? key = some order ∧ order.status = .success ∧
      order.transactionId = some id ∧ w'.services.ledger.get? id = some t ∧ t.status = .finish) ∧
    (o.nextAction = .enterOtp → ∃ key order id t, o.orderId = some key ∧
      w'.services.orders.get? key = some order ∧ order.status = .processing ∧
      order.awaitingOtp = true ∧ order.transactionId = some id ∧
      w'.services.ledger.get? id = some t ∧ t.state = .initial) ∧
    (o.isPending = true → ∃ key order, o.orderId = some key ∧
      w'.services.orders.get? key = some order ∧ order.status = .verifying) := by
  have hreported := (always_reported config call operation h.consistent).sound hrun
  refine ⟨fun hsuccess hnone => ?_, fun hasks => ?_, hreported.pending⟩
  · obtain ⟨key, order, hkey, hstored, hsucceeded⟩ := hreported.succeeded hsuccess hnone
    obtain ⟨id, t, hlink, ht, hfinish⟩ :=
      ((h.flow hrun).consistent.fits hstored).succeeded hsucceeded
    exact ⟨key, order, id, t, hkey, hstored, hsucceeded, hlink, ht, hfinish⟩
  · obtain ⟨key, order, hkey, hstored, hprocessing, hawaits, id, t, hlink, ht, hinitial⟩ :=
      hreported.waiting hasks
    exact ⟨key, order, id, t, hkey, hstored, hprocessing, hawaits, hlink, ht, hinitial⟩

/-- The bank asks for a one-time password. When it is entered the payment succeeds, or the bank does
not know yet. -/
theorem outcome_as_stored_bringIn : ∃ asked w paid w₁ unknown w₂,
    bringIn.plays.Yields .empty (.ok asked) w ∧ asked.nextAction = .enterOtp ∧
    enterPassword.plays.Yields w (.ok paid) w₁ ∧ paid.isSuccess = true ∧ paid.nextAction = .none ∧
    enterPassword.plays.Yields w (.ok unknown) w₂ ∧ unknown.isPending = true ∧
    (∃ key order, asked.orderId = some key ∧ w.services.orders.get? key = some order ∧
      order.awaitingOtp = true) ∧
    (∃ key order, paid.orderId = some key ∧ w₁.services.orders.get? key = some order ∧
      order.status = .success) ∧
    ∃ key order, unknown.orderId = some key ∧ w₂.services.orders.get? key = some order ∧
      order.status = .verifying := by
  have hcheck : (bringIn.plays.outcomeAmid (calm "103") .empty).any (fun asked =>
      decide (asked.1.nextAction = .enterOtp) &&
      (enterPassword.plays.outcomeAmid (calm "200") asked.2).any (fun paid =>
        paid.1.isSuccess && decide (paid.1.nextAction = .none)) &&
      (enterPassword.plays.outcomeAmid (calm "102") asked.2).any fun unknown =>
        unknown.1.isPending) = true := by
    decide +kernel
  obtain ⟨⟨asked, w⟩, hasked, hcheck⟩ := (Option.any_eq_true _ _).mp hcheck
  simp only [Bool.and_eq_true, decide_eq_true_eq] at hcheck
  obtain ⟨⟨hasks, hpaid⟩, hunknown⟩ := hcheck
  obtain ⟨⟨paid, w₁⟩, hpaid, hsuccess⟩ := (Option.any_eq_true _ _).mp hpaid
  obtain ⟨⟨unknown, w₂⟩, hunknown, hpending⟩ := (Option.any_eq_true _ _).mp hunknown
  simp only [Bool.and_eq_true, decide_eq_true_eq] at hsuccess
  have hasked := (FlowCall.plays_of_calm hasked).yields
  have hpaid := (FlowCall.plays_of_calm hpaid).yields
  have hunknown := (FlowCall.plays_of_calm hunknown).yields
  have hempty : Reachable .standard .empty := .start ..
  have hreachable : Reachable .standard w := hempty.flow hasked
  obtain ⟨key, order, _, _, hkey, hstored, _, hawaits, _⟩ :=
    (outcome_as_stored hempty hasked).2.1 hasks
  obtain ⟨key₁, order₁, _, _, hkey₁, hstored₁, hsucceeded, _⟩ :=
    (outcome_as_stored hreachable hpaid).1 hsuccess.1 hsuccess.2
  have hverifying := (outcome_as_stored hreachable hunknown).2.2 hpending
  exact ⟨asked, w, paid, w₁, unknown, w₂, hasked, hasks, hpaid, hsuccess.1, hsuccess.2, hunknown,
    hpending, ⟨key, order, hkey, hstored, hawaits⟩, ⟨key₁, order₁, hkey₁, hstored₁, hsucceeded⟩,
    hverifying⟩

/-- **Users are told what has happened.** A play hands at most one notification to the worker pool,
and if this has a free slot for it, the notification is accepted. It tells that an order has
succeeded, has failed or is being verified exactly if the play has brought the stored order to that
status, and it asks for a one-time password exactly if the caller is to enter it. -/
theorem notified_as_stored (h : Reachable registry w)
    (hrun : (call.program ⟨registry, config⟩ operation).YieldsAmid Moment.HasSlot w r w') :
    ∃ ns, w'.services.jobs = w.services.jobs ++ ns ∧
      notices w'.history = notices w.history ++ ns ∧ ns.length ≤ 1 ∧
      (∀ key kind status, NotificationKind.status? kind = some status →
        ((∃ n ∈ ns, n.orderId = key ∧ n.kind = kind) ↔
          Turned w.services.orders.get? w'.services.orders.get? key status)) ∧
      ((∃ n ∈ ns, n.kind = .otpRequired) ↔ ∃ o, r = .ok o ∧ o.nextAction = .enterOtp) := by
  obtain ⟨ns, hsent, honce, htells, hasked⟩ :=
    ((always_reported config call operation h.consistent).sound hrun.yields).accounts
  obtain ⟨later, hhistory, hjobs⟩ := Program.jobs_of_yieldsAmid hrun
  have hlater : notices later = ns := by
    have hsplit : notices w'.history = notices w.history ++ notices later := by
      rw [hhistory, notices, List.filterMap_append]
      rfl
    exact List.append_cancel_left (hsplit.symm.trans hsent)
  exact ⟨ns, hlater ▸ hjobs, hsent, honce, fun _ _ _ => htells, hasked⟩

/-- The user is asked for a one-time password, and when it is entered he is told that the order has
succeeded. -/
theorem notified_as_stored_bringIn : ∃ asked w paid w' ns ns',
    bringIn.plays.YieldsAmid Moment.HasSlot .empty (.ok asked) w ∧ asked.nextAction = .enterOtp ∧
    w.services.jobs = World.empty.services.jobs ++ ns ∧ (∃ n ∈ ns, n.kind = .otpRequired) ∧
    enterPassword.plays.YieldsAmid Moment.HasSlot w paid w' ∧
    Turned w.services.orders.get? w'.services.orders.get? firstOrder .success ∧
    w'.services.jobs = w.services.jobs ++ ns' ∧
    ∃ n ∈ ns', n.orderId = firstOrder ∧ n.kind = .orderSucceeded := by
  have hcheck : (bringIn.plays.outcomeAmid (calm "103") .empty).any (fun asked =>
      decide (asked.1.nextAction = .enterOtp) &&
      (enterPassword.plays.outcomeAmid (calm "200") asked.2).any fun paid =>
        decide (Turned asked.2.services.orders.get? paid.2.services.orders.get? firstOrder
          .success)) = true := by
    decide +kernel
  obtain ⟨⟨asked, w⟩, hasked, hcheck⟩ := (Option.any_eq_true _ _).mp hcheck
  simp only [Bool.and_eq_true, decide_eq_true_eq] at hcheck
  obtain ⟨hasks, hpaid⟩ := hcheck
  obtain ⟨⟨paid, w'⟩, hpaid, hturned⟩ := (Option.any_eq_true _ _).mp hpaid
  have hturned := of_decide_eq_true hturned
  have hasked := FlowCall.plays_of_calm hasked
  have hpaid := FlowCall.plays_of_calm hpaid
  have hempty : Reachable .standard .empty := .start ..
  obtain ⟨ns, hjobs, _, _, _, htells⟩ := notified_as_stored hempty hasked
  obtain ⟨ns', hjobs', _, _, htold, _⟩ := notified_as_stored (hempty.flow hasked.yields) hpaid
  exact ⟨asked, w, .ok paid, w', ns, ns', hasked, hasks, hjobs, htells.mpr ⟨asked, rfl, hasks⟩,
    hpaid, hturned, hjobs', (htold firstOrder .orderSucceeded .success rfl).mpr hturned⟩

end

end Wallet
