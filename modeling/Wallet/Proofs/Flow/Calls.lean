import Wallet.Flow.Payment
import Wallet.Proofs.Asking.Basic
import Wallet.Proofs.World.Schedule

/-!
# The calls of a part

Along a schedule a program makes its calls in one sequence only. Where none of them writes, the
stores are as they were. `Comes` says what a part of a flow comes to along a schedule, and which
calls it has made up to there.
-/

namespace Wallet

/-- Whether a call may write an order, a ledger record or the usage of a voucher, or may hand out a
notification. -/
def Call.writes : Call → Bool
  | .orders (.find _) | .orders (.findExpired _ _) | .ledger (.find _) => false
  | .orders _ | .ledger _ | .promotion _ | .submit _ | .deliver _ => true
  | _ => false

namespace Services

/-- Orders, ledger records and vouchers are as they were, and so are the jobs of the pool. -/
structure Unwritten (v v' : Services) : Prop where
  orders : v'.orders = v.orders
  ledger : v'.ledger = v.ledger
  promotion : v'.promotion = v.promotion
  jobs : v'.jobs = v.jobs

variable {v v' v'' : Services} {t : Occasion} {c : Call}

theorem Unwritten.refl (v : Services) : v.Unwritten v := ⟨rfl, rfl, rfl, rfl⟩

theorem Unwritten.trans (h : v.Unwritten v') (h' : v'.Unwritten v'') : v.Unwritten v'' :=
  ⟨h'.orders.trans h.orders, h'.ledger.trans h.ledger, h'.promotion.trans h.promotion,
    h'.jobs.trans h.jobs⟩

theorem unwritten_meet (h : c.writes = false) : v.Unwritten (v.meet t c).2 := by
  cases c with
  | orders r => cases r <;> first | exact ⟨rfl, rfl, rfl, rfl⟩ | cases h
  | ledger r => cases r <;> first | exact ⟨rfl, rfl, rfl, rfl⟩ | cases h
  | promotion _ | submit _ | deliver _ => cases h
  | _ => exact ⟨rfl, rfl, rfl, rfl⟩

/-- On an occasion a call is met, or it is refused although it was served, or it is refused and
nothing is done, whatever the services are. -/
theorem undergo_cases (t : Occasion) (c : Call) :
    (∀ v : Services, v.undergo t c = v.meet t c) ∨
      ∃ refusal, (∀ v : Services, v.undergo t c = (refusal, (v.meet t c).2)) ∨
        ∀ v : Services, v.undergo t c = (refusal, v.around t) := by
  unfold undergo
  cases t.fault with
  | none => exact .inl fun _ => rfl
  | some fault =>
      dsimp only
      cases c.refusal? fault.error with
      | none => exact .inl fun _ => rfl
      | some refusal =>
          refine .inr ⟨refusal, ?_⟩
          cases fault.served with
          | true => exact .inl fun _ => rfl
          | false => exact .inr fun _ => rfl

/-- A call that does not write leaves all as it was, also when it fails. -/
theorem unwritten_undergo (h : c.writes = false) : v.Unwritten (v.undergo t c).2 := by
  rcases undergo_cases t c with hmet | ⟨refusal, hserved | haround⟩
  · rw [hmet]
    exact unwritten_meet h
  · rw [hserved]
    exact unwritten_meet h
  · rw [haround]
    exact ⟨rfl, rfl, rfl, rfl⟩

/-- Services with the same orders, ledger records, vouchers and jobs meet a call alike. -/
theorem Unwritten.meet {u : Services} (h : v.Unwritten u) (t : Occasion) (c : Call) :
    (u.meet t c).1 = (v.meet t c).1 ∧ (v.meet t c).2.Unwritten (u.meet t c).2 := by
  obtain ⟨horders, hledger, hpromotion, hjobs⟩ := h
  cases c with
  | orders r =>
      simp only [Services.meet, answer, around, readClock, horders]
      exact ⟨trivial, rfl, hledger, hpromotion, hjobs⟩
  | ledger r =>
      simp only [Services.meet, answer, around, readClock, hledger]
      exact ⟨trivial, horders, rfl, hpromotion, hjobs⟩
  | promotion r =>
      simp only [Services.meet, answer, around, hpromotion]
      exact ⟨trivial, horders, hledger, rfl, hjobs⟩
  | submit n =>
      simp only [Services.meet, answer, around, submitJob, takeSlot]
      cases t.pool.submit? with
      | some pool => exact ⟨trivial, horders, hledger, hpromotion, congrArg (· ++ [n]) hjobs⟩
      | none => exact ⟨trivial, horders, hledger, hpromotion, hjobs⟩
  | _ => exact ⟨rfl, horders, hledger, hpromotion, hjobs⟩

/-- And they answer it alike, also where it fails. -/
theorem Unwritten.undergo {u : Services} (h : v.Unwritten u) (t : Occasion) (c : Call) :
    (u.undergo t c).1 = (v.undergo t c).1 ∧ (v.undergo t c).2.Unwritten (u.undergo t c).2 := by
  rcases undergo_cases t c with hmet | ⟨refusal, hserved | haround⟩
  · rw [hmet, hmet]
    exact h.meet t c
  · rw [hserved, hserved]
    exact ⟨rfl, (h.meet t c).2⟩
  · rw [haround, haround]
    exact ⟨rfl, h.orders, h.ledger, h.promotion, h.jobs⟩

/-- A collaborator that does not fail has found what is stored. -/
theorem undergo_find (v : Services) (t : Occasion) (id : OrderId) :
    (∃ e, (v.undergo t (.orders (.find id))).1 = .error e) ∨
      (v.undergo t (.orders (.find id))).1 = .ok (v.orders.get? id) := by
  have hmet : (v.meet t (.orders (.find id))).1 = v.orders.find id := rfl
  unfold undergo
  cases t.fault with
  | some fault => exact .inl ⟨fault.error, rfl⟩
  | none =>
      simp only [hmet, OrderStore.find]
      split
      · exact .inl ⟨_, rfl⟩
      · exact .inr rfl

theorem undergo_now (v : Services) (t : Occasion) : (v.undergo t .now).1 = t.clock.tick := by
  unfold undergo
  cases t.fault <;> rfl

theorem undergo_clocks (v : Services) (t : Occasion) : (v.undergo t .clocks).1 = t.reading := by
  unfold undergo
  cases t.fault <;> rfl

theorem undergo_hasEnded (v : Services) (t : Occasion) (c : Context) :
    (v.undergo t (.hasEnded c)).1 = c.isDone t.timeline := by
  unfold undergo
  cases t.fault <;> rfl

end Services

namespace Schedule

variable {α β : Type} {schedule : Schedule}

/-- The calls that a program makes along the schedule, in their order. -/
def calls (schedule : Schedule) {α : Type} : Program α → Nat × Services → List Call
  | .done _, _ => []
  | .call c next, p => c :: schedule.calls (next (schedule.answer c p).1) (schedule.answer c p).2

theorem calls_bind (x : Program α) (f : α → Program β) (p : Nat × Services) :
    schedule.calls (x >>= f) p =
      schedule.calls x p ++ schedule.calls (f (schedule.run x p).1) (schedule.run x p).2 := by
  induction x generalizing p with
  | done a => rfl
  | call c next ih => exact congrArg (c :: ·) (ih _ _)

/-- Where no call writes, all is as it was. -/
theorem unwritten_of_calls {x : Program α} {p : Nat × Services}
    (h : ∀ c ∈ schedule.calls x p, c.writes = false) :
    p.2.Unwritten (schedule.run x p).2.2 := by
  induction x generalizing p with
  | done a => exact .refl _
  | call c next ih =>
      have hfirst : p.2.Unwritten (schedule.answer c p).2.2 :=
        Services.unwritten_undergo (h c (.head _))
      exact hfirst.trans (ih _ fun c' hc' => h c' (.tail _ hc'))

/-- From services with the same orders, ledger records, vouchers and jobs a program ends with the
same, and leaves the same. -/
theorem run_of_unwritten (x : Program α) (n : Nat) {v u : Services} (h : v.Unwritten u) :
    (schedule.run x (n, u)).1 = (schedule.run x (n, v)).1 ∧
      (schedule.run x (n, v)).2.2.Unwritten (schedule.run x (n, u)).2.2 := by
  induction x generalizing n v u with
  | done a => exact ⟨rfl, h⟩
  | call c next ih =>
      obtain ⟨hanswer, hnext⟩ := h.undergo (schedule n) c
      simp only [run_call]
      rw [hanswer]
      exact ih _ (n + 1) hnext

end Schedule

namespace Flow

/-- Along the schedule, from a number of calls and the services as they are then, the part ends with
a value, a state, a number of calls and services, and on the way it has made calls, that satisfy
`Q`. -/
def Comes {α : Type} (schedule : Schedule) (x : FlowM α) (s : FlowState) (n : Nat) (v : Services)
    (Q : α → FlowState → Nat → Services → List Call → Prop) : Prop :=
  Q (schedule.run (x.run s) (n, v)).1.1 (schedule.run (x.run s) (n, v)).1.2
    (schedule.run (x.run s) (n, v)).2.1 (schedule.run (x.run s) (n, v)).2.2
    (schedule.calls (x.run s) (n, v))

variable {α β : Type} {schedule : Schedule} {s : FlowState} {n : Nat} {v : Services}

theorem Comes.mono {x : FlowM α} {Q R : α → FlowState → Nat → Services → List Call → Prop}
    (h : Comes schedule x s n v Q) (hQR : ∀ a s n v cs, Q a s n v cs → R a s n v cs) :
    Comes schedule x s n v R :=
  hQR _ _ _ _ _ h

@[simp] theorem comes_pure (a : α) (Q : α → FlowState → Nat → Services → List Call → Prop) :
    Comes schedule (pure a) s n v Q ↔ Q a s n v [] := Iff.rfl

@[simp] theorem comes_lift (c : Call)
    (Q : c.Answer → FlowState → Nat → Services → List Call → Prop) :
    Comes schedule (StateT.lift (Program.request c)) s n v Q ↔
      Q (v.undergo (schedule n) c).1 s (n + 1) (v.undergo (schedule n) c).2 [c] := Iff.rfl

@[simp] theorem comes_modify (f : FlowState → FlowState)
    (Q : Unit → FlowState → Nat → Services → List Call → Prop) :
    Comes schedule (modify f) s n v Q ↔ Q () (f s) n v [] := Iff.rfl

@[simp] theorem comes_bind (x : FlowM α) (f : α → FlowM β)
    (Q : β → FlowState → Nat → Services → List Call → Prop) :
    Comes schedule (x >>= f) s n v Q ↔ Comes schedule x s n v fun a s m w cs =>
      Comes schedule (f a) s m w fun b s k u ds => Q b s k u (cs ++ ds) := by
  unfold Comes
  rw [StateT.run_bind, Schedule.run_bind, Schedule.calls_bind]

/-! ## Steps -/

section

variable (Q : Except FlowError α → FlowState → Nat → Services → List Call → Prop)

@[simp] theorem comes_step_pure (a : α) :
    Comes schedule (pure a : StepM α).run s n v Q ↔ Q (.ok a) s n v [] := Iff.rfl

@[simp] theorem comes_throw (e : FlowError) :
    Comes schedule (throw e : StepM α).run s n v Q ↔ Q (.error e) s n v [] := Iff.rfl

/-- A part that fails ends there, and one that does not goes on. -/
@[simp] theorem comes_step_bind (x : StepM β) (f : β → StepM α) :
    Comes schedule (x >>= f).run s n v Q ↔ Comes schedule x.run s n v fun r s m w cs => match r with
      | .ok a => Comes schedule (f a).run s m w fun r s k u ds => Q r s k u (cs ++ ds)
      | .error e => Q (.error e) s m w cs := by
  rw [ExceptT.run_bind, comes_bind]
  refine iff_of_eq (congrArg (Comes schedule x.run s n v) ?_)
  funext r s m w cs
  cases r with
  | ok a => rfl
  | error e => exact congrArg (Q (.error e) s m w) (List.append_nil cs)

end

@[simp] theorem comes_get
    (Q : Except FlowError FlowState → FlowState → Nat → Services → List Call → Prop) :
    Comes schedule (get : StepM FlowState).run s n v Q ↔ Q (.ok s) s n v [] := Iff.rfl

@[simp] theorem comes_step_modify (f : FlowState → FlowState)
    (Q : Except FlowError Unit → FlowState → Nat → Services → List Call → Prop) :
    Comes schedule (modify f : StepM Unit).run s n v Q ↔ Q (.ok ()) (f s) n v [] := Iff.rfl

@[simp] theorem comes_perform (c : Call)
    (Q : Except FlowError c.Answer → FlowState → Nat → Services → List Call → Prop) :
    Comes schedule (StepM.perform (Program.request c)).run s n v Q ↔
      Q (.ok (v.undergo (schedule n) c).1) s (n + 1) (v.undergo (schedule n) c).2 [c] := Iff.rfl

@[simp] theorem comes_askOrders (r : OrderStore.Request)
    (Q : Except FlowError r.Result → FlowState → Nat → Services → List Call → Prop) :
    Comes schedule (StepM.ask (Program.orders r)).run s n v Q ↔
      Q ((v.undergo (schedule n) (.orders r)).1.mapError .service) s (n + 1)
        (v.undergo (schedule n) (.orders r)).2 [.orders r] := Iff.rfl

@[simp] theorem comes_order
    (Q : Except FlowError Order → FlowState → Nat → Services → List Call → Prop) :
    Comes schedule StepM.order.run s n v Q ↔
      (s.order = none → Q (.error (.invalidRequest "order was not created")) s n v []) ∧
        ∀ o, s.order = some o → Q (.ok o) s n v [] := by
  unfold StepM.order
  simp only [comes_step_bind, comes_get, List.nil_append]
  cases s.order <;> simp

/-! ## Sagas -/

@[simp] theorem comes_action (part : StepM Unit) (c : Context)
    (Q : Except FlowError Unit → FlowState → Nat → Services → List Call → Prop) :
    Comes schedule (action part c) s n v Q ↔ Comes schedule part.run s n v fun r s m w cs =>
      Q r (keepReason r s) m w cs := by
  unfold action
  simp only [comes_bind, comes_modify, comes_pure, List.append_nil]

@[simp] theorem comes_attempt (operation : Context) (step : Step FlowError FlowM)
    (Q : StepOutcome × Except FlowError Unit → FlowState → Nat → Services → List Call → Prop) :
    Comes schedule (Saga.attempt conductor operation step) s n v Q ↔
      Comes schedule (step.runForward operation) s (n + 1) (v.undergo (schedule n) .clocks).2
        fun r s m w cs => Q (⟨step.name, Saga.forwardStatus r, none, (schedule n).reading.civil,
          (schedule m).reading.since (schedule n).reading, step.options⟩, r) s (m + 1)
          (w.undergo (schedule m) .clocks).2 ([.clocks] ++ (cs ++ [.clocks])) := by
  have hclocks (m : Nat) (w : Services)
      (Q : Reading → FlowState → Nat → Services → List Call → Prop) (s : FlowState) :
      Comes schedule conductor.clocks s m w Q ↔
        Q (schedule m).reading s (m + 1) (w.undergo (schedule m) .clocks).2 [.clocks] := by
    rw [← w.undergo_clocks (schedule m)]
    exact comes_lift .clocks Q
  unfold Saga.attempt
  simp only [comes_bind, hclocks, comes_pure, List.append_nil]

/-- Either the context has ended or the next step is attempted. -/
theorem comes_advance_cons {operation : Context} {step : Step FlowError FlowM}
    {rest : List (Step FlowError FlowM)}
    {Q : List StepOutcome × Option (ExecutionError FlowError) → FlowState → Nat → Services →
      List Call → Prop}
    (hended : operation.isDone (schedule n).timeline = true →
      Q ([], some (.cancelled step.name)) s (n + 1)
        (v.undergo (schedule n) (.hasEnded operation)).2 [.hasEnded operation])
    (hgoes : operation.isDone (schedule n).timeline = false →
      Comes schedule (Saga.attempt conductor operation step) s (n + 1)
        (v.undergo (schedule n) (.hasEnded operation)).2 fun x s m w cs => match x.2 with
          | .error e => Q ([x.1], some (.failed step.name e)) s m w ([.hasEnded operation] ++ cs)
          | .ok () => Comes schedule (Saga.advance conductor operation rest) s m w
              fun y s k u ds => Q (x.1 :: y.1, y.2) s k u ([.hasEnded operation] ++ (cs ++ ds))) :
    Comes schedule (Saga.advance conductor operation (step :: rest)) s n v Q := by
  unfold Saga.advance
  rw [comes_bind]
  refine (comes_lift (.hasEnded operation) _).mpr ?_
  rw [v.undergo_hasEnded (schedule n)]
  cases hdone : operation.isDone (schedule n).timeline with
  | true => simpa using hended hdone
  | false =>
      simp only [Bool.false_eq_true, if_false, comes_bind]
      refine (hgoes hdone).mono fun x s m w cs hx => ?_
      obtain ⟨outcome, result⟩ := x
      cases result with
      | error e => simpa only [comes_pure, List.append_nil] using hx
      | ok _ => simpa only [comes_bind, comes_pure, List.append_nil] using hx

end Flow

end Wallet
