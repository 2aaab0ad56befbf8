import Wallet.Proofs.Standing.Reachable
import Wallet.Proofs.Versions.Reachable
import Wallet.Worker.Settings

/-!
# Paid orders are not dropped

Once the bank has moved the money of an order the order is to succeed. A rollback sees to that as long
as it has time, and then the order is resolved before any sweep comes upon it. A sweep that comes upon
it all the same sees to it if it asks the bank first. Neither is so for an order whose rollback ran
out of time, and about which the bank need not be asked: it expires like an order that nobody has paid.
-/

namespace Wallet

/-- As far as the bank was asked how an order stands, it has said that the money has moved. -/
def Affirmed (registry : ClassifierRegistry) (events : List Event) (o : Order) : Prop :=
  ∀ (trace : Option String) (response : ProviderResponse),
    Event.mk (.bank (.retrieveStatus o.id trace)) (.ok response) ∈ events →
      registry.classify o.provider response.code = .success

/-- Whether an event moves the money of an order. -/
def Event.pays (registry : ClassifierRegistry) (o : Order) : Event → Bool
  | ⟨.bank r, .ok response⟩ => r.movesMoney && decide (r.orderId = o.id) &&
      decide (registry.classify o.provider response.code = .success)
  | _ => false

theorem paid_of_any {registry : ClassifierRegistry} {events : List Event} {o : Order}
    (h : events.any (Event.pays registry o) = true) : Paid registry events o := by
  obtain ⟨⟨c, x⟩, hmem, hpays⟩ := List.any_eq_true.mp h
  cases c with
  | bank r =>
      cases x with
      | error e => cases hpays
      | ok response =>
          simp only [Event.pays, Bool.and_eq_true, decide_eq_true_eq] at hpays
          exact ⟨r, response, hmem, hpays.1.1, hpays.1.2, hpays.2⟩
  | _ => cases hpays

/-- Whether an event asks how an order stands, and the bank does not say that the money has moved. -/
def Event.denies (registry : ClassifierRegistry) (o : Order) : Event → Bool
  | ⟨.bank (.retrieveStatus _ _), .ok response⟩ =>
      decide (registry.classify o.provider response.code ≠ .success)
  | _ => false

theorem affirmed_of_any {registry : ClassifierRegistry} {events : List Event} {o : Order}
    (h : events.any (Event.denies registry o) = false) : Affirmed registry events o := by
  intro trace response hmem
  have hdenies := List.any_eq_false.mp h _ hmem
  simpa [Event.denies] using hdenies

theorem Affirmed.of_le {registry : ClassifierRegistry} {events events' : List Event} {o : Order}
    (h : Affirmed registry events' o) (hle : events <+: events') : Affirmed registry events o :=
  fun trace response hmem => h trace response (hle.subset hmem)

namespace Reconciler

/-- Work on an order touches the order and its record alone. -/
structure Frame (id : OrderId) (before : Books) (g : Past) : Prop where
  bound : g.books.Bound
  others : Others id before.orders g
  records : ∀ {rid t}, before.records rid = some t → t.orderId ≠ id → g.books.records rid = some t

/-- The order that is worked on was not written yet. -/
structure Untouched (o : Order) (before : Books) (g : Past) : Prop where
  bound : g.books.Bound
  unwritten : g.books.orders = before.orders
  listed : before.orders o.id = some o
  records : ∀ {rid t}, before.records rid = some t → t.orderId ≠ o.id →
    g.books.records rid = some t

/-- The order is as it was, or successful, and its record as it was, or finished. -/
structure Kept (o : Order) (before : Books) (g : Past) : Prop where
  order : g.books.orders o.id = some o ∨
    ∃ o', g.books.orders o.id = some o' ∧ o'.status = .success
  record : ∀ {id t}, o.transactionId = some id → before.records id = some t →
    ∃ t', g.books.records id = some t' ∧ t'.orderId = o.id ∧ (t' = t ∨ t'.status = .finish)

section

variable {registry : ClassifierRegistry} {config : ReconciliationConfig} {g : Past} {o o' : Order}
  {before : Books} {r : Reconciler}

/-! ## Other orders -/

theorem Untouched.start (h : g.books.Bound) (ho : g.books.orders o.id = some o) :
    Untouched o g.books g :=
  ⟨h, rfl, ho, fun ht _ => ht⟩

theorem keeps_frame : Keeps .any o (Untouched o before) (Frame o.id before) where
  left h := ⟨h.bound, .of_eq h.unwritten, h.records⟩
  asked _ h := ⟨h.bound, h.unwritten, h.listed, h.records⟩
  moved {g c x id t stored t'} h hid ht hstored hbooks hsame hback := by
    cases h.bound.entered ht
    rw [ht] at hstored
    cases hstored
    have ho : g.books.orders o.id = some o := h.unwritten ▸ h.listed
    obtain ⟨linked, hlinked, horder⟩ := h.bound.linked ho hid
    rw [ht] at hlinked
    cases hlinked
    refine ⟨?_, ?_, h.listed, ?_⟩
    · rw [hbooks]
      refine h.bound.enter hsame fun old hold => ?_
      rw [ht] at hold
      cases hold
      exact hback.symm
    · rw [hbooks]
      exact h.unwritten
    · intro rid other hother hne
      have hrecord := h.records hother hne
      rw [hbooks]
      by_cases heq : rid = t.id
      · -- the record that was changed is the order's own
        rw [heq, ht] at hrecord
        cases hrecord
        exact absurd horder hne
      · rw [Books.enter_of_ne _ _ heq]
        exact hrecord
  written {g o'} h hresolves := by
    obtain ⟨hid, hlink⟩ := hresolves.ties
    refine ⟨h.bound.file ?_, .file h.unwritten hid (Past.note_replace ..), h.records⟩
    intro id hid'
    rw [hid]
    exact h.bound.linked (h.unwritten ▸ h.listed) (hlink.symm.trans hid')

/-! ## The order itself -/

theorem Kept.start (h : g.books.Bound) (ho : g.books.orders o.id = some o) :
    Kept o g.books g where
  order := .inl ho
  record {id t} hid ht := by
    obtain ⟨linked, hlinked, hback⟩ := h.linked ho hid
    rw [ht] at hlinked
    cases hlinked
    exact ⟨t, ht, hback, .inl rfl⟩

theorem Kept.ask (h : Kept o before g) {r : Bank.Request} (x : Except ServiceError ProviderResponse) :
    Kept o before (g.note (.bank r) x) :=
  ⟨h.order, h.record⟩

/-- The order is written as successful. -/
theorem settle_kept {reason : Option String} (h : Kept o before g) :
    Attains .any (settle o true reason) g fun _ g => Kept o before g := by
  unfold settle
  simp only [attains_bind, attains_now, attains_accept, attains_write]
  refine fun _ => ⟨fun _ _ => h, fun settled hsettled _ => ⟨fun _ _ _ => h, fun _ _ _ => ?_⟩⟩
  obtain ⟨_, rfl⟩ := Order.settle_ok hsettled
  exact ⟨.inr ⟨_, Books.file_self .., rfl⟩, h.record⟩

/-- If the bank says that the order has succeeded, it is kept. -/
theorem resolveSuccess_kept (h : Kept o before g) (hbound : g.books.Bound) :
    Attains .any (resolveSuccess o) g fun _ g => Kept o before g := by
  unfold resolveSuccess
  simp only [attains_bind, attains_linked]
  refine ⟨fun _ => h, fun id hid => ⟨fun _ _ _ => h, fun t ht => ?_⟩⟩
  cases hbound.entered ht
  have hconfirm : Attains .any (do
      let _ ← ask (.ledger (.confirm t.id))
      settle o true none) g fun _ g => Kept o before g := by
    simp only [attains_bind, attains_confirm]
    refine ⟨fun _ _ _ => h, fun t' stored hstored now hconfirmed => settle_kept ⟨h.order, ?_⟩⟩
    obtain ⟨_, rfl⟩ := Transaction.moveTo_ok hconfirmed
    intro id' first hid' hfirst
    rw [hid] at hid'
    cases hid'
    obtain ⟨current, hcurrent, hback, _⟩ := h.record hid hfirst
    rw [hcurrent] at hstored
    cases hstored
    exact ⟨_, Books.enter_self .., hback, .inr rfl⟩
  cases t.status with
  | finish => exact settle_kept h
  | failed => exact h
  | processing => exact hconfirm
  | pending => exact hconfirm

/-- Whatever is found out, it does not matter if the bank has said that the money has not moved. -/
theorem attains_unaffirmed {x : ReconcileM Resolution} (h : ¬Affirmed registry g.events o) :
    Attains .any x g fun _ g => Affirmed registry g.events o → Kept o before g :=
  (Program.meets_grows x.run g).mono fun _ _ hle haffirmed => absurd (haffirmed.of_le hle) h

theorem retrieve_kept (h : Kept o before g) (hbound : g.books.Bound) :
    Attains .any (retrieve ⟨registry, config⟩ o) g fun _ g =>
      Affirmed registry g.events o → Kept o before g := by
  unfold retrieve
  simp only [attains_bind, attains_bank]
  refine ⟨fun _ _ _ => h.ask _, fun response => ?_⟩
  by_cases hsuccess : registry.classify o.provider response.code = .success
  · simp only [hsuccess]
    exact (resolveSuccess_kept (h.ask (.ok response)) hbound).mono fun _ _ hkept _ => hkept
  · have hnot : ¬Affirmed registry
        (g.note (.bank (.retrieveStatus o.id o.bankTraceId)) (.ok response)).events o :=
      fun haffirmed => hsuccess (haffirmed o.bankTraceId response (by simp))
    exact attains_unaffirmed hnot

/-- The order is resolved, or the bank is asked about it before anything is done. -/
def Retrieved (config : ReconciliationConfig) (o : Order) : Prop :=
  o.isUnresolved = true → config.requiresRetrieval o = true ∧ o.isRetrieved = false

theorem reconcile_kept (h : Kept o before g) (hbound : g.books.Bound)
    (hasked : Retrieved config o) :
    Attains .any (reconcile ⟨registry, config⟩ o) g fun _ g =>
      Affirmed registry g.events o → Kept o before g := by
  unfold reconcile
  by_cases hopen : o.isUnresolved = true
  · obtain ⟨hrequires, hretrieved⟩ := hasked hopen
    simp only [hopen, hrequires, hretrieved, Bool.not_true, Bool.not_false, Bool.and_self,
      Bool.false_eq_true, if_false, if_true]
    exact retrieve_kept h hbound
  · simp only [hopen, Bool.not_false, if_true]
    exact fun _ => h

/-! ## Whole sweeps -/

/-- Work on another order leaves the order and its record alone. -/
theorem Kept.of_frame {id : OrderId} {after : Past} (h : Kept o before g)
    (hframe : Frame id g.books after) (hne : o.id ≠ id) : Kept o before after where
  order := by
    rw [hframe.others o.id hne]
    exact h.order
  record {rid t} hid ht := by
    obtain ⟨t', ht', hback, hsame⟩ := h.record hid ht
    exact ⟨t', hframe.records ht' (hback ▸ hne), hback, hsame⟩

theorem tends_kept (hasked : Retrieved config o) :
    Tends .any ⟨registry, config⟩ fun g =>
      g.books.Bound ∧ (Affirmed registry g.events o → Kept o before g) := by
  rintro other g ⟨hbound, hkept⟩ hother
  have hframe := keeps_frame.reconcile (r := ⟨registry, config⟩) (.start hbound hother)
  have hgrows : Attains .any (reconcile ⟨registry, config⟩ other) g fun _ after =>
      g.events <+: after.events := Program.meets_grows _ g
  suffices hend : Attains .any (reconcile ⟨registry, config⟩ other) g fun _ after =>
      Frame other.id g.books after → Affirmed registry after.events o → Kept o before after from
    (Program.Meets.and hframe hend).mono fun _ _ ⟨hframe, hend⟩ =>
      ⟨⟨hframe.bound, hend hframe⟩, hframe.others⟩
  by_cases heq : other.id = o.id
  · by_cases haffirmed : Affirmed registry g.events o
    · rw [heq] at hother
      rcases (hkept haffirmed).order with ho | ⟨o', ho', hsuccess⟩
      · rw [ho] at hother
        cases hother
        exact (reconcile_kept (hkept haffirmed) hbound hasked).mono fun _ _ hend _ => hend
      · rw [ho'] at hother
        cases hother
        have hresolved : other.isUnresolved = false := by rw [Order.isUnresolved, hsuccess]; rfl
        unfold reconcile
        simp only [hresolved, Bool.not_false, if_true]
        exact fun _ _ => hkept haffirmed
    · exact (attains_unaffirmed haffirmed).mono fun _ _ hend _ => hend
  · refine hgrows.mono fun _ _ hle hframe haffirmed => ?_
    exact (hkept (haffirmed.of_le hle)).of_frame hframe (Ne.symm heq)

theorem sweep_kept {p : Past} (hbound : p.books.Bound) (ho : p.books.orders o.id = some o)
    (hasked : Retrieved config o) :
    (sweep ⟨registry, config⟩).Always p fun _ after =>
      Affirmed registry after.events o → Kept o p.books after.gist := by
  have hkept : Kept o p.gist.books p.gist := .start hbound ho
  have hone : Tends .any ⟨registry, config⟩ fun g =>
      g.books.Bound ∧ (Affirmed registry g.events o → Kept o p.books g) := tends_kept hasked
  have hmeets := sweep_meets (g := p.gist) hone hbound.filed ⟨hbound, fun _ => hkept⟩
  apply hmeets.sound.mono
  intro _ after hend haffirmed
  exact (hend (permitted_any after.events)).2 fun trace response hmem =>
    haffirmed trace response (List.mem_filter.mp hmem).1

end

end Reconciler

/-! ## Reachable worlds -/

section

variable {registry : ClassifierRegistry} {w : World} {o : Order}

theorem Reachable.bound (h : Reachable registry w) : w.services.books.Bound where
  filed ho := h.consistent.filed ho
  entered ht := h.consistent.entered ht
  linked ho hid := by
    obtain ⟨t, ht, hback⟩ := (h.consistent.fits ho).linked _ hid
    exact ⟨t, ht, hback.trans (h.consistent.filed ho)⟩

/-- What counts of the history says whether an order is paid. -/
theorem Paid.gist {p : Past} (h : Paid registry p.events o) : Paid registry p.gist.events o := by
  obtain ⟨r, response, hmem, hr⟩ := h
  exact ⟨r, response, List.mem_filter.mpr ⟨hmem, rfl⟩, hr⟩

/-- **A paid order is not dropped.** Let a sweep follow in a reachable world in whose history no call
of the order store, the ledger or the promotion service was out of reach, and let the bank have moved
the money of an order and say so whenever it is asked how the order stands. If no undoing action came
too late, or if the sweep has to ask the bank about the order, then neither the order nor its ledger
record fails in the sweep. -/
theorem paid_not_dropped {config : ReconciliationConfig} {key : OrderId}
    {result : Except ReconciliationError SweepReport} {w' : World} (h : Reachable registry w)
    (hsweep : (Reconciler.sweep ⟨registry, config⟩).Yields w result w')
    (hreached : ∀ e ∈ w.history, e.outage = false)
    (ho : w.services.orders.get? key = some o) (hpaid : Paid registry w.history o)
    (haffirmed : Affirmed registry w'.history o)
    (hcompleted : ¬CutShort w.history ∨ config.requiresRetrieval o = true) :
    (∀ o', w'.services.orders.get? key = some o' → o'.status = .failed → o.status = .failed) ∧
      ∀ id t t', o.transactionId = some id → w.services.ledger.get? id = some t →
        w'.services.ledger.get? id = some t' → t'.status = .failed → t.status = .failed := by
  cases h.bound.filed ho
  have hasked : Reconciler.Retrieved config o := by
    intro hopen
    rcases hcompleted with hinTime | hrequires
    · have horderly := h.orderly ⟨permitted_ordinary hreached, hinTime⟩
      rw [Order.isUnresolved, horderly.paid (by simp) ho hpaid.gist] at hopen
      cases hopen
    · refine ⟨hrequires, ?_⟩
      by_contra hretrieved
      have hterminal := h.lawful.retrieved ho (by simpa using hretrieved)
      rw [(Order.open_of_isUnresolved hopen).1] at hterminal
      cases hterminal
  obtain ⟨horder, hrecord⟩ :=
    (Reconciler.sweep_kept (p := w.past) h.bound ho hasked).sound hsweep haffirmed
  constructor
  · intro o' ho' hfailed
    rcases horder with hsame | ⟨succeeded, hsucceeded, hsuccess⟩
    · rw [show w'.past.gist.books.orders o.id = some o' from ho'] at hsame
      cases hsame
      exact hfailed
    · rw [show w'.past.gist.books.orders o.id = some o' from ho'] at hsucceeded
      cases hsucceeded
      rw [hfailed] at hsuccess
      cases hsuccess
  · intro id t t' hid ht ht' hfailed
    obtain ⟨current, hcurrent, _, rfl | hfinish⟩ := hrecord hid ht
    · rw [show w'.past.gist.books.records id = some t' from ht'] at hcurrent
      cases hcurrent
      exact hfailed
    · rw [show w'.past.gist.books.records id = some t' from ht'] at hcurrent
      cases hcurrent
      rw [hfailed] at hfinish
      cases hfinish

/-! ### A payment that takes too long -/

/-- Somebody sends money away under the standard settings, and may give up waiting for it. -/
def payOut : Act :=
  .flow (Settings.ofLookup fun _ => none).flowConfig
    (.pay .cashOut ⟨⟨.ofNat 1⟩, (Money.ofInt? 200000).getD .zero, ⟨"BIDV"⟩, none, .wallet, none⟩)
    (.cancellable 0)

/-- More than half a minute later, when the user has given up. -/
def late : Moment := { Moment.fair "200" with timeline := ⟨31000000000, [.fired]⟩ }

/-- When every deadline has passed. -/
def overdue : Moment := { Moment.fair "200" with clock := .last }

/-- The world after a payment during whose bank call the user has given up, and the world after the
sweep that follows. -/
def sweptLate (config : ReconciliationConfig) : Option (World × World) := do
  let w ← visited [(payOut, (calm "200").take 24 ++ List.replicate 20 late)]
  let (_, w') ← (Reconciler.sweep ⟨.standard, config⟩).follow (List.replicate 20 overdue) w
  some (w, w')

theorem swept_of_late {config : ReconciliationConfig} {w w' : World}
    (h : sweptLate config = some (w, w')) : Reachable .standard w ∧
      ∃ result, (Reconciler.sweep ⟨.standard, config⟩).Yields w result w' := by
  simp only [sweptLate, Option.bind_eq_bind, Option.bind_eq_some_iff, Option.some.injEq,
    Prod.mk.injEq] at h
  obtain ⟨_, hvisited, ⟨result, _⟩, hfollow, rfl, rfl⟩ := h
  exact ⟨reachable_of_visited hvisited, result, Program.yields_of_follow hfollow⟩

/-- Nothing is out of reach in either world, the bank has moved the money of the first order and says
so whenever it is asked, and the order and its record are unresolved before the sweep. -/
def LeftPaid (w w' : World) (o : Order) : Prop :=
  (∀ e ∈ w'.history, e.outage = false) ∧ w.services.orders.get? firstOrder = some o ∧
    Paid .standard w.history o ∧ Affirmed .standard w'.history o ∧
    w.standing = some (.processing, .processing)

/-- Whether all that can be seen to be so. -/
def leftPaid (w w' : World) : Bool :=
  !w'.history.any Event.outage && decide (w.standing = some (.processing, .processing)) &&
    (w.services.orders.get? firstOrder).any fun o =>
      w.history.any (Event.pays .standard o) && !w'.history.any (Event.denies .standard o)

theorem leftPaid_of {w w' : World} (h : leftPaid w w' = true) : ∃ o, LeftPaid w w' o := by
  simp only [leftPaid, Bool.and_eq_true, Bool.not_eq_true', decide_eq_true_eq] at h
  obtain ⟨⟨houtage, hstanding⟩, horder⟩ := h
  obtain ⟨o, ho, hpaid⟩ := (Option.any_eq_true _ _).mp horder
  simp only [Bool.and_eq_true, Bool.not_eq_true'] at hpaid
  refine ⟨o, fun e he => ?_, ho, paid_of_any hpaid.1, affirmed_of_any hpaid.2, hstanding⟩
  simpa using List.any_eq_false.mp houtage e he

/-- The settings under which the bank has to be asked about the first order. -/
def asking : ReconciliationConfig := ReconciliationConfig.standard.withRetrievalProvider ⟨"BIDV"⟩

/-- The sweep has to ask the bank, and the order succeeds. -/
theorem paid_not_dropped_asked : ∃ w w' o, Reachable .standard w ∧ LeftPaid w w' o ∧
    asking.requiresRetrieval o = true ∧ w'.standing = some (.success, .finish) ∧
    ∀ o', w'.services.orders.get? firstOrder = some o' → o'.status = .failed →
      o.status = .failed := by
  have hcheck : (sweptLate asking).any (fun r =>
      leftPaid r.1 r.2 && (decide (r.2.standing = some (.success, .finish)) &&
        (r.1.services.orders.get? firstOrder).any asking.requiresRetrieval)) = true := by
    decide +kernel
  obtain ⟨⟨w, w'⟩, hswept, hr⟩ := (Option.any_eq_true _ _).mp hcheck
  simp only [Bool.and_eq_true, decide_eq_true_eq] at hr
  obtain ⟨hchecked, hstanding, hrequires⟩ := hr
  obtain ⟨hreachable, result, hsweep⟩ := swept_of_late hswept
  obtain ⟨o, hleft⟩ := leftPaid_of hchecked
  have ⟨hreached, ho, hpaid, haffirmed, _⟩ := hleft
  rw [ho] at hrequires
  have hgrows : w.history <+: w'.history :=
    (Program.always_grows (Reconciler.sweep ⟨.standard, asking⟩) w.past).sound hsweep
  have hkept := paid_not_dropped hreachable hsweep (fun e he => hreached e (hgrows.subset he)) ho hpaid
    haffirmed (.inr hrequires)
  exact ⟨w, w', o, hreachable, hleft, hrequires, hstanding, hkept.1⟩

/-- The order expires, and its record is cancelled. -/
theorem paid_dropped : ∃ w w' o result, Reachable .standard w ∧
    (Reconciler.sweep ⟨.standard, (Settings.ofLookup fun _ => none).reconciliationConfig⟩).Yields w
      result w' ∧ LeftPaid w w' o ∧ w'.standing = some (.failed, .failed) := by
  have hcheck : (sweptLate (Settings.ofLookup fun _ => none).reconciliationConfig).any (fun r =>
      leftPaid r.1 r.2 && decide (r.2.standing = some (.failed, .failed))) = true := by
    decide +kernel
  obtain ⟨⟨w, w'⟩, hswept, hr⟩ := (Option.any_eq_true _ _).mp hcheck
  simp only [Bool.and_eq_true, decide_eq_true_eq] at hr
  obtain ⟨hreachable, result, hsweep⟩ := swept_of_late hswept
  obtain ⟨o, hleft⟩ := leftPaid_of hr.1
  exact ⟨w, w', o, result, hreachable, hsweep, hleft, hr.2⟩

end

end Wallet
