import Wallet.Proofs.Standing.Reachable
import Wallet.Proofs.Vouchers.Flow
import Wallet.Proofs.Vouchers.Sweep

/-!
# Vouchers of failed orders

Whatever flows and sweeps are run one after the other, as long as order store, ledger and promotion
service can be reached and no rollback runs out of time, no voucher is in use in the name of an order
that has failed, unless the order was once left verifying or waiting for a one-time password. Such an
order is failed by somebody who does not ask for its voucher.
-/

namespace Wallet

/-! ## Histories of worlds -/

/-- The promotion service takes a voucher back whenever it can be reached. -/
theorem World.answer_reverse {w : World} {m : Moment} {trace : String} {e : ServiceError}
    (h : (w.answer m (.promotion (.reverse trace))).1 = .error e) :
    ∃ what, e = .unavailable what := by
  cases m with
  | mk clock timeline pool vouchers rejectInit response outage =>
    cases outage with
    | none => cases h
    | some what =>
        cases h
        exact ⟨what, rfl⟩

/-- Only an outage keeps a voucher from being taken back. -/
theorem World.answer_returning (w : World) (m : Moment) (c : Call)
    (h : (Event.mk c (w.answer m c).1).outage = false) :
    c.Permits .returning (w.answer m c).1 := by
  refine (Call.permits_ordinary h).returning fun trace e heq => ?_
  cases congrArg Event.call heq
  injection heq with _ hx
  obtain ⟨what, rfl⟩ := answer_reverse hx
  rw [hx] at h
  cases h

/-- What every answer of a world satisfies, all events of its history satisfy. -/
theorem Program.Yields.history {α : Type} {x : Program α} {w w' : World} {a : α} {P : Event → Prop}
    (hP : ∀ (w : World) m c, P ⟨c, (w.answer m c).1⟩) (hrun : x.Yields w a w')
    (h : ∀ e ∈ w.history, P e) : ∀ e ∈ w'.history, P e := by
  induction x generalizing w with
  | done b =>
      obtain ⟨_, rfl⟩ := hrun
      exact h
  | call c next ih =>
      obtain ⟨m, _, hrest⟩ := hrun
      refine ih _ hrest ?_
      intro e he
      rcases List.mem_append.mp he with he | he
      · exact h e he
      · cases List.mem_singleton.mp he
        exact hP w m c

namespace Reachable

variable {registry : ClassifierRegistry} {w : World}

theorem history (h : Reachable registry w) {P : Event → Prop}
    (hP : ∀ (w : World) m c, P ⟨c, (w.answer m c).1⟩) : ∀ e ∈ w.history, P e := by
  induction h with
  | start pool sinks clock => simp [World.start]
  | act a _ hrun ih => exact hrun.history hP ih

/-- What a reachable world has tallied is in its history. -/
theorem tally (h : Reachable registry w) :
    w.tally = Tally.along ⟨fun _ => none, 0, []⟩ w.history := by
  induction h with
  | start pool sinks clock => rfl
  | act a _ hrun ih => exact Program.tally_of_yields hrun ih

/-- The vouchers in use are those that were used and not taken back. -/
theorem vouchers (h : Reachable registry w) :
    w.past.gist.vouchers = w.services.promotion.inUse := by
  have htally := congrArg Tally.vouchers h.tally
  rw [← Tally.along_counts] at htally
  exact htally.symm

end Reachable

/-! ## Failed orders -/

section

variable {registry : ClassifierRegistry} {w : World}

/-- No voucher is left behind, as long as orders stand. -/
structure Settled (registry : ClassifierRegistry) (p : Past) : Prop where
  orderly : Smooth .ordinary p.events → Orderly registry none p.gist
  vouched : Smooth .returning p.events → Vouched p.gist.vouchers p.gist

theorem Act.keeps_vouched (a : Act) {p : Past} (h : Settled registry p) :
    (a.program registry).Always p fun _ p =>
      Smooth .returning p.events → Vouched p.gist.vouchers p.gist := by
  cases a with
  | flow config call operation =>
      exact (Program.always_bind _ _ _ _).mpr
        (Flow.always_vouched ⟨registry, config⟩ call operation h.vouched)
  | sweep config =>
      refine (Program.always_bind _ _ _ _).mpr (Program.Always.of_smooth fun hsmooth => ?_)
      have hsweep := Reconciler.sweep_vouched (r := ⟨registry, config⟩) (h.orderly hsmooth.ordinary)
        (h.vouched hsmooth)
      exact hsweep.mono fun _ _ hend hsmooth => hend hsmooth.ordinary.permitted

theorem Act.keeps_settled (a : Act) {p : Past} (h : Settled registry p) :
    (a.program registry).Always p fun _ p => Settled registry p :=
  ((a.keeps_orderly h.orderly).and (a.keeps_vouched h)).mono fun _ _ hend => ⟨hend.1, hend.2⟩

theorem Reachable.settled (h : Reachable registry w) : Settled registry w.past :=
  h.invariant ⟨fun _ => orderly_empty registry, fun _ => .empty⟩ fun a _ hp => a.keeps_settled hp

/-- **A failed order holds no voucher.** In every reachable world in whose history no call of the
order store, the ledger or the promotion service was out of reach, and no undoing action came too
late, no voucher is in use in the name of an order that has failed, unless the order was stored as
verifying or as waiting for a one-time password before. -/
theorem failed_without_voucher {key : OrderId} {o : Order} (h : Reachable registry w)
    (hreached : ∀ e ∈ w.history, e.outage = false) (hinTime : ¬CutShort w.history)
    (ho : w.services.orders.get? key = some o) (hfailed : o.status = .failed)
    (hnot : ¬Lingered w.history key) : w.services.promotion.inUse (toString key) = none := by
  have hpermitted : Permitted .returning w.history := fun e he =>
    h.history (P := fun e => e.outage = false → e.call.Permits .returning e.answer)
      World.answer_returning e he (hreached e he)
  have hvouched := h.settled.vouched ⟨hpermitted, hinTime⟩
  have hclear : Clear w.past.gist.vouchers w.past.gist.events key := by
    refine hvouched.clear_of fun stored hstored => .inr ?_
    cases (Option.some.inj (ho.symm.trans hstored))
    exact hfailed
  rcases hclear with hfree | hlingered
  · rw [← h.vouchers]
    exact hfree
  · exact absurd (lingered_counts.mp hlingered) hnot

/-- Somebody brings in money with a voucher. -/
def payInVouchered : Act :=
  .flow .standard
    (.pay .cashIn
      ⟨⟨.ofNat 1⟩, (Money.ofInt? 200000).getD .zero, ⟨"BIDV"⟩, some "TET", .wallet, none⟩)
    .background

/-- The status of the first order, and the voucher in use in its name. -/
def World.voucher (w : World) : Option (OrderStatus × Option String) :=
  (w.services.orders.get? firstOrder).map fun o =>
    (o.status, w.services.promotion.inUse (toString firstOrder))

theorem World.voucher_eq {status : OrderStatus} {code : Option String}
    (h : w.voucher = some (status, code)) :
    ∃ o, w.services.orders.get? firstOrder = some o ∧ o.status = status ∧
      w.services.promotion.inUse (toString firstOrder) = code := by
  obtain ⟨o, ho, hpair⟩ := Option.map_eq_some_iff.mp h
  cases hpair
  exact ⟨o, ho, rfl, rfl⟩

/-- The bank refuses a payment with a voucher. -/
theorem failed_without_voucher_refused : ∃ w o, Reachable .standard w ∧
    (∀ e ∈ w.history, e.outage = false) ∧ ¬CutShort w.history ∧
    w.services.orders.get? firstOrder = some o ∧ o.status = .failed ∧
    ¬Lingered w.history firstOrder ∧ w.services.promotion.inUse (toString firstOrder) = none := by
  have hcheck : (visited [(payInVouchered, calm "400")]).any (fun w =>
      decide (w.voucher.map Prod.fst = some .failed) && !w.history.any Event.outage &&
        !w.history.any Event.findsEnded && !w.history.any (Event.lingers firstOrder)) = true := by
    decide +kernel
  obtain ⟨w, hvisited, hw⟩ := (Option.any_eq_true _ _).mp hcheck
  simp only [Bool.and_eq_true, decide_eq_true_eq, Bool.not_eq_true'] at hw
  obtain ⟨⟨⟨hstatus, houtage⟩, hended⟩, hlingers⟩ := hw
  obtain ⟨⟨status, code⟩, hvoucher, rfl⟩ := Option.map_eq_some_iff.mp hstatus
  obtain ⟨o, ho, hfailed, _⟩ := World.voucher_eq hvoucher
  have hreachable := reachable_of_visited hvisited
  have hreached : ∀ e ∈ w.history, e.outage = false := fun e he => by
    simpa using List.any_eq_false.mp houtage e he
  have hnot : ¬Lingered w.history firstOrder := by
    rintro ⟨e, he, hlingers'⟩
    exact List.any_eq_false.mp hlingers e he hlingers'
  exact ⟨w, o, hreachable, hreached, not_cutShort hended, ho, hfailed, hnot,
    failed_without_voucher hreachable hreached (not_cutShort hended) ho hfailed hnot⟩

/-- A payment with a voucher waits for a one-time password, and the bank refuses the password that is
handed in. The order fails, and its voucher stays in use. -/
theorem failed_with_voucher : ∃ w o, Reachable .standard w ∧
    (∀ e ∈ w.history, e.outage = false) ∧ ¬CutShort w.history ∧
    w.services.orders.get? firstOrder = some o ∧ o.status = .failed ∧
    w.services.promotion.inUse (toString firstOrder) = some "TET" := by
  have hcheck : (visited [(payInVouchered, calm "103"), (handIn, calm "406")]).any (fun w =>
      decide (w.voucher = some (.failed, some "TET")) && !w.history.any Event.outage &&
        !w.history.any Event.findsEnded) = true := by
    decide +kernel
  obtain ⟨w, hvisited, hw⟩ := (Option.any_eq_true _ _).mp hcheck
  simp only [Bool.and_eq_true, decide_eq_true_eq, Bool.not_eq_true'] at hw
  obtain ⟨⟨hvoucher, houtage⟩, hended⟩ := hw
  obtain ⟨o, ho, hfailed, hused⟩ := World.voucher_eq hvoucher
  have hreached : ∀ e ∈ w.history, e.outage = false := fun e he => by
    simpa using List.any_eq_false.mp houtage e he
  exact ⟨w, o, reachable_of_visited hvisited, hreached, not_cutShort hended, ho, hfailed, hused⟩

end

end Wallet
