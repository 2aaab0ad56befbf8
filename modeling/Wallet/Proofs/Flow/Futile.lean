import Wallet.Proofs.Flow.Calls
import Wallet.Proofs.Isolation.Flow

/-!
# One-time passwords that change nothing

A cash-in that waits for a one-time password is resumed again and again until the bank accepts one.
An attempt that the bank refuses, or that stops before the bank, is futile.

* What an attempt does is said by its calls: a futile one makes none that writes, since undoing it
  stops where another one-time password may be entered (`Flow.resume_asksOnce`).
* What comes after it therefore starts from the same stores. Times are the one thing that may
  differ, and the relation of two runs of a flow leaves them aside (`Pairing.Diagonal.stores`).
-/

namespace Wallet

/-- The calls write nothing, and ask the bank just this. -/
structure Asks (calls : List Call) (requests : List Bank.Request) : Prop where
  writes : ∀ c ∈ calls, c.writes = false
  inquiries : calls.filterMap Call.inquiry? = requests

theorem Asks.nil : Asks [] [] := ⟨fun _ hc => absurd hc List.not_mem_nil, rfl⟩

theorem Asks.append {cs ds : List Call} {rs qs : List Bank.Request} (h : Asks cs rs)
    (h' : Asks ds qs) : Asks (cs ++ ds) (rs ++ qs) where
  writes c hc := (List.mem_append.mp hc).elim (h.writes c) (h'.writes c)
  inquiries := by rw [List.filterMap_append, h.inquiries, h'.inquiries]

theorem asks_one {c : Call} (hwrites : c.writes = false) : Asks [c] c.inquiry?.toList where
  writes _ hc := List.mem_singleton.mp hc ▸ hwrites
  inquiries := by
    rw [List.filterMap_cons, List.filterMap_nil]
    cases c.inquiry? <;> rfl

namespace Flow

open StepM

variable {schedule : Schedule} {s : FlowState} {n : Nat} {v : Services} {id : OrderId}

/-- Finding the stored order writes nothing. -/
theorem stored_comes (id : OrderId) :
    Comes schedule (stored id).run s n v fun r s' m _ cs =>
      s' = s ∧ m = n + 1 ∧ Asks cs [] ∧ ∀ o, r = .ok o → v.orders.get? id = some o := by
  have hasks : Asks [.orders (.find id)] [] := asks_one rfl
  unfold stored
  rw [comes_step_bind]
  show Comes _ (ask (.orders (.find id))).run s n v _
  rw [comes_askOrders]
  rcases v.undergo_find (schedule n) id with ⟨e, hfound⟩ | hfound
  · rw [hfound]
    exact ⟨rfl, rfl, hasks, fun _ hok => by cases hok⟩
  · rw [hfound]
    cases hstored : v.orders.get? id with
    | none => exact ⟨rfl, rfl, hasks.append .nil, fun _ hok => by cases hok⟩
    | some o => exact ⟨rfl, rfl, hasks.append .nil, fun _ ho => congrArg some (Except.ok.inj ho)⟩

/-- Loading an order writes nothing, and an order that is loaded can be resumed. -/
theorem loadOrder_comes (id : OrderId) :
    Comes schedule loadOrder.run (.resuming .cashIn id) n v fun r s m _ cs => Asks cs [] ∧
      ∀ x, r = .ok x → m = n + 2 ∧ ∃ o, v.orders.get? id = some o ∧ s.order = some o ∧
        o.isPastDeadline (schedule (n + 1)).clock.tick = false ∧ isResumable .cashIn o = true := by
  have hresume : (FlowState.resuming .cashIn id).resume = some id := rfl
  have hkind : (FlowState.resuming .cashIn id).kind = .cashIn := rfl
  unfold loadOrder
  simp only [comes_step_bind, comes_get, List.nil_append, hresume, hkind]
  refine (stored_comes id).mono fun r s m w cs hfound => ?_
  obtain ⟨rfl, rfl, hasks, hstored⟩ := hfound
  cases r with
  | error e => exact ⟨hasks, fun _ hok => by cases hok⟩
  | ok o =>
      have hnow : Asks [.now] [] := asks_one rfl
      have hall : Asks (cs ++ ([.now] ++ [])) [] := hasks.append (hnow.append .nil)
      show Comes _ (perform (.request .now)).run _ (n + 1) w _
      rw [comes_perform]
      simp only [Services.undergo_now]
      by_cases hpast : o.isPastDeadline (schedule (n + 1)).clock.tick = true
      · rw [if_pos hpast]
        exact ⟨hall, fun _ hok => by cases hok⟩
      · rw [if_neg hpast]
        by_cases hresumable : isResumable .cashIn o = true
        · rw [if_pos hresumable]
          exact ⟨hall, fun _ _ => ⟨rfl, o, hstored o rfl, rfl, by simpa using hpast, hresumable⟩⟩
        · rw [if_neg hresumable]
          exact ⟨hall, fun _ hok => by cases hok⟩

/-- The bank is asked once, and a one-time password that it refuses may be entered again. -/
theorem verifyOtp_comes {settings : FlowSettings} {otp : String} {o : Order}
    {response : ProviderResponse} (horder : s.order = some o)
    (hreached : (schedule n).fault = none) (hanswer : (schedule n).response = .ok response)
    (hrefused : settings.classifiers.classify o.provider response.code = .wrongOtp ∨
      settings.classifiers.classify o.provider response.code = .needsOtp) :
    Comes schedule (verifyOtp settings otp).run s n v fun r s _ _ cs =>
      (∃ e, r = .error e) ∧ s.retryAllowed = true ∧ Asks cs [.verifyOtp o.id otp] := by
  have hasks : Asks [.bank (.verifyOtp o.id otp)] [.verifyOtp o.id otp] := asks_one rfl
  have hanswered : (v.undergo (schedule n) (.bank (.verifyOtp o.id otp))).1 = .ok response := by
    unfold Services.undergo
    rw [hreached]
    exact hanswer
  unfold verifyOtp
  simp only [comes_step_bind, comes_order, horder, Option.some.injEq, forall_eq', reduceCtorEq,
    false_implies, true_and]
  show Comes _ (perform (.request (.bank (.verifyOtp o.id otp)))).run s n v _
  rw [comes_perform]
  simp only [hanswered]
  rcases hrefused with hwrong | hneeds
  · simp only [hwrong]
    exact ⟨⟨_, rfl⟩, rfl, hasks⟩
  · simp only [hneeds]
    exact ⟨⟨_, rfl⟩, rfl, hasks⟩

theorem abortOtp_comes (hretry : s.retryAllowed = true) :
    Comes schedule abortOtp.run s n v fun _ _ _ _ cs => Asks cs [] := by
  unfold abortOtp
  simp only [comes_step_bind, comes_get, hretry, Bool.or_true, if_true]
  exact .nil

/-! ## The saga -/

/-- What is stored cannot be resumed as the clock stands: there is no order, or its deadline has
passed, or it is no cash-in that waits for a one-time password and is linked. -/
def Unsuitable (stored : Option Order) (now : Timestamp) : Prop :=
  ∀ o, stored = some o → o.isPastDeadline now = true ∨ o.type ≠ .cashIn ∨
    o.awaitingOtp = false ∨ o.transactionId = none

/-- The bank answers a call, and the answer means that the one-time password of the stored order was
wrong or is still needed. -/
def Refuses (settings : FlowSettings) (stored : Option Order) (t : Occasion) : Prop :=
  t.fault = none ∧ ∃ response, t.response = .ok response ∧ ∀ o, stored = some o →
    settings.classifiers.classify o.provider response.code = .wrongOtp ∨
    settings.classifiers.classify o.provider response.code = .needsOtp

theorem Unsuitable.not_resumable {o : Order} {now : Timestamp} {stored : Option Order}
    (h : Unsuitable stored now) (hstored : stored = some o) (hdue : o.isPastDeadline now = false) :
    isResumable .cashIn o = false := by
  unfold isResumable
  rcases h o hstored with hpast | htype | hwaits | hlinked
  · rw [hdue] at hpast
    cases hpast
  · have hother : (o.type == FlowKind.cashIn.orderType) = false := beq_eq_false_iff_ne.mpr htype
    rw [hother, Bool.false_and, Bool.false_and]
  · rw [hwaits, Bool.and_false, Bool.false_and]
  · rw [hlinked]
    exact Bool.and_false _

/-- Before the bank would be asked: what is stored cannot be resumed when the sixth call reads the
clock, or the operation context has ended when the third or the eighth call looks at it, each before
a step. -/
def Idle (operation : Context) (schedule : Schedule) (n : Nat) (stored : Option Order) : Prop :=
  Unsuitable stored (schedule (n + 5)).clock.tick ∨
    operation.isDone (schedule (n + 2)).timeline = true ∨
    operation.isDone (schedule (n + 7)).timeline = true

/-- The steps stop with nothing asked, so that nothing is to be undone, or they stop because the
bank has refused the one-time password, and another may be entered. -/
def StopsShort (otp : String) (idle : Prop) (stored : Option Order) (attempted : List StepOutcome)
    (s : FlowState) (cs : List Call) : Prop :=
  attempted.length ≤ 1 ∧ Asks cs [] ∨
    ¬ idle ∧ attempted.length = 2 ∧ s.retryAllowed = true ∧
      ∃ o, stored = some o ∧ Asks cs [.verifyOtp o.id otp]

theorem advance_comes {settings : FlowSettings} {otp : String} {operation : Context}
    (h : Idle operation schedule n (v.orders.get? id) ∨
      Refuses settings (v.orders.get? id) (schedule (n + 9))) :
    Comes schedule (Saga.advance conductor operation (otpSteps settings otp))
      (.resuming .cashIn id) (n + 2) v fun r s _ _ cs => (∃ e, r.2 = some e) ∧
        StopsShort otp (Idle operation schedule n (v.orders.get? id)) (v.orders.get? id) r.1 s cs := by
  have hended : Asks [.hasEnded operation] [] := asks_one rfl
  have hclocks : Asks [.clocks] [] := asks_one rfl
  refine comes_advance_cons (fun _ => ⟨⟨_, rfl⟩, .inl ⟨Nat.zero_le _, hended⟩⟩) fun hgoes => ?_
  rw [comes_attempt]
  show Comes schedule (action loadOrder operation) _ _ _ _
  rw [comes_action]
  refine (loadOrder_comes id).mono fun r s m w cs hfound => ?_
  obtain ⟨hasks, hloaded⟩ := hfound
  have hsofar : Asks ([.hasEnded operation] ++ ([.clocks] ++ (cs ++ [.clocks]))) [] :=
    hended.append (hclocks.append (hasks.append hclocks))
  cases r with
  | error e => exact ⟨⟨_, rfl⟩, .inl ⟨Nat.le_refl 1, hsofar⟩⟩
  | ok _ =>
      obtain ⟨rfl, o, hfound, horder, hdue, hresumable⟩ := hloaded _ rfl
      have hkept : v.Unwritten ((v.undergo (schedule (n + 2)) (.hasEnded operation)).2.undergo
          (schedule (n + 3)) .clocks).2 :=
        (Services.unwritten_undergo rfl).trans (Services.unwritten_undergo rfl)
      have hstored : v.orders.get? id = some o := hkept.orders ▸ hfound
      refine comes_advance_cons (fun _ => ⟨⟨_, rfl⟩, .inl ⟨Nat.le_refl 1, hsofar.append hended⟩⟩)
        fun hgoes' => ?_
      have hbusy : ¬ Idle operation schedule n (v.orders.get? id) := by
        rintro (hunsuitable | hdone | hdone)
        · rw [hunsuitable.not_resumable hstored hdue] at hresumable
          cases hresumable
        · rw [hgoes] at hdone
          cases hdone
        · rw [hgoes'] at hdone
          cases hdone
      obtain ⟨hreached, response, hanswer, hrefused⟩ := h.resolve_left hbusy
      rw [comes_attempt]
      show Comes schedule (action (verifyOtp settings otp) operation) _ _ _ _
      rw [comes_action]
      refine (verifyOtp_comes horder hreached hanswer (hrefused o hstored)).mono
        fun r s m w ds ⟨⟨e, hr⟩, hretry, hasked⟩ => ?_
      subst hr
      refine ⟨⟨_, rfl⟩, .inr ⟨hbusy, rfl, hretry, o, hstored, ?_⟩⟩
      exact hsofar.append (hended.append (hclocks.append (hasked.append hclocks)))

/-- A one-time password that may be entered again leaves nothing to undo. -/
theorem undo_comes {settings : FlowSettings} {otp saga : String} {compensation : Context}
    (hretry : s.retryAllowed = true) :
    Comes schedule (Saga.undo conductor saga compensation
      (undoableStep "verify_otp" (verifyOtp settings otp) abortOtp)) s n v
      fun _ _ _ _ cs => Asks cs [] := by
  have hended : Asks [.hasEnded compensation] [] := asks_one rfl
  have hcount (m : Metric) : Asks [.count m] [] := asks_one rfl
  show Comes schedule (StateT.lift (.request (.hasEnded compensation)) >>= fun ended => _) s n v _
  rw [comes_bind, comes_lift]
  cases (v.undergo (schedule n) (.hasEnded compensation)).1 with
  | true => exact hended.append ((hcount _).append .nil)
  | false =>
      show Comes schedule (StateT.lift (.request (.count _)) >>= fun _ => _) _ _ _ _
      rw [comes_bind, comes_lift]
      show Comes schedule (action abortOtp compensation >>= fun r => _) _ _ _ _
      rw [comes_bind, comes_action]
      refine (abortOtp_comes hretry).mono fun r s m w cs hcs => ?_
      cases r with
      | ok _ => exact hended.append ((hcount _).append (hcs.append .nil))
      | error e =>
          exact hended.append ((hcount _).append (hcs.append ((hcount _).append .nil)))

theorem unwind_comes {settings : FlowSettings} {otp saga : String} {compensation : Context}
    {idle : Prop} {stored : Option Order} {attempted : List StepOutcome} {cs : List Call}
    (h : StopsShort otp idle stored attempted s cs) :
    Comes schedule (Saga.unwind conductor saga compensation
      ((otpSteps settings otp).zip attempted)) s n v fun _ _ _ _ ds => Asks ds [] := by
  -- the first step has nothing that undoes it
  have hfirst (outcome : StepOutcome) (rest : List (Step FlowError FlowM × StepOutcome))
      (hrest : Comes schedule (Saga.unwind conductor saga compensation rest) s n v
        fun _ _ _ _ ds => Asks ds []) :
      Comes schedule (Saga.unwind conductor saga compensation
        ((step "load_order" loadOrder, outcome) :: rest)) s n v fun _ _ _ _ ds => Asks ds [] := by
    simp only [Saga.unwind, comes_bind, comes_pure, Saga.undo, step, Step.named]
    exact hrest.mono fun _ _ _ _ ds hds => hds.append (.append .nil .nil)
  rcases h with ⟨hlength, _⟩ | ⟨_, hlength, hretry, _⟩
  · rcases attempted with _ | ⟨outcome, _ | ⟨_, _⟩⟩
    · exact .nil
    · exact hfirst outcome [] .nil
    · simp at hlength
  · obtain ⟨first, second, rfl⟩ := List.length_eq_two.mp hlength
    refine hfirst first
      [(undoableStep "verify_otp" (verifyOtp settings otp) abortOtp, second)] ?_
    simp only [Saga.unwind, comes_bind, comes_pure, List.nil_append, List.append_nil]
    exact undo_comes hretry

/-- The bank is asked nothing, or it is asked just once, and that only where it is reached. -/
def AsksOnce (otp : String) (idle : Prop) (stored : Option Order) (cs : List Call) : Prop :=
  Asks cs [] ∨ ¬ idle ∧ ∃ o, stored = some o ∧ Asks cs [.verifyOtp o.id otp]

theorem AsksOnce.between {otp : String} {idle : Prop} {stored : Option Order}
    {before cs after : List Call} (h : AsksOnce otp idle stored cs) (hbefore : Asks before [])
    (hafter : Asks after []) : AsksOnce otp idle stored (before ++ (cs ++ after)) := by
  rcases h with hnothing | ⟨hbusy, o, hstored, honce⟩
  · exact .inl (hbefore.append (hnothing.append hafter))
  · exact .inr ⟨hbusy, o, hstored, hbefore.append (honce.append hafter)⟩

theorem StopsShort.asksOnce {otp : String} {idle : Prop} {stored : Option Order}
    {attempted : List StepOutcome} {cs : List Call} (h : StopsShort otp idle stored attempted s cs) :
    AsksOnce otp idle stored cs := by
  rcases h with ⟨_, hnothing⟩ | ⟨hbusy, _, _, honce⟩
  · exact .inl hnothing
  · exact .inr ⟨hbusy, honce⟩

theorem play_comes {settings : FlowSettings} {otp : String} {operation compensation : Context}
    (h : Idle operation schedule n (v.orders.get? id) ∨
      Refuses settings (v.orders.get? id) (schedule (n + 9))) :
    Comes schedule (Saga.play conductor ⟨"cash_in_verify_otp", otpSteps settings otp⟩ operation
      compensation) (.resuming .cashIn id) (n + 1) v fun _ _ _ _ cs =>
        AsksOnce otp (Idle operation schedule n (v.orders.get? id)) (v.orders.get? id) cs := by
  have hcount (m : Metric) : Asks [.count m] [] := asks_one rfl
  have hrecord (saga : String) (outcomes : List StepOutcome) : Asks [.record saga outcomes] [] :=
    asks_one rfl
  have hsample (m : Metric) : Asks [.sample m] [] := asks_one rfl
  unfold Saga.play
  rw [comes_bind]
  refine (comes_lift (.count _) _).mpr ?_
  have hsame : (v.undergo (schedule (n + 1)) (.count
      (Saga.metric "saga_executions_total" "cash_in_verify_otp"))).2.orders = v.orders :=
    (Services.unwritten_undergo rfl).orders
  rw [← hsame] at h ⊢
  rw [comes_bind]
  refine (advance_comes h).mono fun r s m w cs ⟨⟨e, herror⟩, hstops⟩ => ?_
  obtain ⟨attempted, error⟩ := r
  cases herror
  simp only [comes_bind]
  refine (unwind_comes hstops).mono fun undone s m w ds hds => ?_
  exact hstops.asksOnce.between (hcount _)
    (hds.append ((hcount _).append (.append .nil ((hrecord _ _).append ((hsample _).append .nil)))))

/-- A futile attempt writes nothing and asks the bank at most once. -/
theorem resume_asksOnce {settings : FlowSettings} {otp : String} {operation : Context}
    (h : Idle operation schedule n (v.orders.get? id) ∨
      Refuses settings (v.orders.get? id) (schedule (n + 9))) :
    AsksOnce otp (Idle operation schedule n (v.orders.get? id)) (v.orders.get? id)
      (schedule.calls (resumeCashIn settings id otp operation) (n, v)) := by
  have hbudget : Asks [.budget settings.config.compensationTimeout] [] := asks_one rfl
  have hsame : (v.undergo (schedule n)
      (.budget settings.config.compensationTimeout)).2.orders = v.orders :=
    (Services.unwritten_undergo rfl).orders
  rw [← hsame] at h ⊢
  unfold resumeCashIn play
  rw [Schedule.calls_bind]
  cases (schedule.run
      (Program.request (.budget settings.config.compensationTimeout)) (n, v)).1 with
  | error crash => exact .inl (hbudget.append .nil)
  | ok compensation =>
      simp only [Schedule.calls_bind]
      exact AsksOnce.between (play_comes h) hbudget .nil

end Flow

/-! ## Identifiers and times -/

/-- An order without its times. -/
def Order.undated (o : Order) : Order :=
  { o with createdAt := default, updatedAt := default, expiredAt := default }

/-- A ledger record without its times. -/
def Transaction.undated (t : Transaction) : Transaction :=
  { t with createdAt := default, updatedAt := default }

namespace Pairing

/-- The call has the same identifiers in both runs. -/
structure Diagonal (ρ : Pairing) : Prop where
  order : ∀ {a b}, ρ.order = some (a, b) → a = b
  record : ∀ {a b}, ρ.record = some (a, b) → a = b

variable {ρ : Pairing} {o o' : Order} {t t' : Transaction}

theorem Diagonal.text (h : ρ.Diagonal) {x y : String} (hxy : ρ.SameText x y) : x = y := by
  induction hxy with
  | same s => rfl
  | order hown => rw [h.order hown]
  | record hown => rw [h.record hown]
  | append _ _ ih ih' => rw [ih, ih']

theorem Diagonal.texts (h : ρ.Diagonal) {x y : Option String} (hxy : Option.Rel ρ.SameText x y) :
    x = y := by
  cases hxy with
  | none => rfl
  | some htext => rw [h.text htext]

theorem Diagonal.undatedOrder (h : ρ.Diagonal) (ho : ρ.SameOrder o o') :
    o.undated = o'.undated := by
  have hid : o.id = o'.id := h.order ho.id
  have hlink : o.transactionId = o'.transactionId := by
    have hrel := ho.link
    generalize o.transactionId = x at hrel ⊢
    generalize o'.transactionId = y at hrel ⊢
    cases hrel with
    | none => rfl
    | some hown => rw [h.record hown]
  have hreason : o.failReason = o'.failReason := h.texts ho.failReason
  have hrest := ho.rest
  simp only [Order.masked, Order.mk.injEq] at hrest
  simp only [Order.undated, Order.mk.injEq]
  grind

theorem Diagonal.undatedRecord (h : ρ.Diagonal) (ht : ρ.SameRecord t t') :
    t.undated = t'.undated := by
  have hid : t.id = t'.id := ht.id.elim id h.record
  have horder : t.orderId = t'.orderId := ht.orderId.elim id h.order
  have hreason : t.failReason = t'.failReason := h.texts ht.failReason
  have hrest := ht.rest
  simp only [Transaction.masked, Transaction.mk.injEq] at hrest
  simp only [Transaction.undated, Transaction.mk.injEq]
  grind

theorem Concluded.entries {x x' : Except Crash FlowOutcome} {v u : Services}
    (h : ρ.Concluded (x, v) (x', u)) : ρ.SameEntries v u := by
  cases h with
  | crashed _ services => exact services.toSameEntries
  | played _ entries _ _ _ => exact entries

/-- Runs that start from the same stores and end alike leave the same orders and ledger records,
times aside. -/
theorem Diagonal.stores (h : ρ.Diagonal) (hstart : ρ.rightStart = ρ.leftStart) {v u : Services}
    (hentries : ρ.SameEntries v u) :
    (∀ key, (v.orders.get? key).map Order.undated = (u.orders.get? key).map Order.undated) ∧
      ∀ key, (v.ledger.get? key).map Transaction.undated =
        (u.ledger.get? key).map Transaction.undated := by
  constructor
  · intro key
    by_cases hown : ρ.order = some (key, key)
    · have hrel := hentries.orders.own hown
      generalize v.orders.get? key = x at hrel ⊢
      generalize u.orders.get? key = y at hrel ⊢
      cases hrel with
      | none => rfl
      | some ho => exact congrArg some (h.undatedOrder ho)
    · have hleft := hentries.orders.left key fun b hb => hown (h.order hb ▸ hb)
      have hright := hentries.orders.right key fun a ha => hown (h.order ha ▸ ha)
      rw [hleft, hright, hstart]
  · intro key
    by_cases hown : ρ.record = some (key, key)
    · have hrel := hentries.ledger.own hown
      generalize v.ledger.get? key = x at hrel ⊢
      generalize u.ledger.get? key = y at hrel ⊢
      cases hrel with
      | none => rfl
      | some ht => exact congrArg some (h.undatedRecord ht)
    · have hleft := hentries.ledger.left key fun b hb => hown (h.record hb ▸ hb)
      have hright := hentries.ledger.right key fun a ha => hown (h.record ha ▸ ha)
      rw [hleft, hright, hstart]

/-- One order is resumed along two schedules, from the same services. -/
def resuming (left right : Schedule) (alike : ∀ n, (left n).Alike (right n)) (v : Services)
    (id : OrderId) : Pairing where
  left := left
  right := right
  alike := alike
  leftStart := v
  rightStart := v
  paying := false
  order := some (id, id)
  record := ((v.orders.get? id).bind Order.transactionId).map fun a => (a, a)

theorem resuming_diagonal {left right : Schedule} {alike : ∀ n, (left n).Alike (right n)}
    {v : Services} {id : OrderId} : (resuming left right alike v id).Diagonal where
  order hown := by
    cases hown
    rfl
  record hown := by
    obtain ⟨a, _, heq⟩ := Option.map_eq_some_iff.mp hown
    cases heq
    rfl

theorem resuming_inStep {left right : Schedule} (alike : ∀ n, (left n).Alike (right n))
    {v : Services} {id : OrderId} (hstored : ∀ o, v.orders.get? id = some o →
      o.id = id ∧ left.SameDeadline right o.expiredAt o.expiredAt) :
    (resuming left right alike v id).InStep v v := by
  refine inStep_start ⟨rfl, rfl, rfl, rfl, fun _ => rfl⟩ ?_ ?_ fun _ => rfl
  · intro a b hown
    cases hown
    show Option.Rel _ (v.orders.get? id) (v.orders.get? id)
    cases hfound : v.orders.get? id with
    | none => exact .none
    | some o =>
        obtain ⟨hid, hdeadline⟩ := hstored o hfound
        refine .some (.refl (by rw [hid]; rfl) (fun a hlink => ?_) hdeadline)
        simp [resuming, hfound, hlink]
  · intro a b hown
    cases resuming_diagonal.record hown
    show Option.Rel _ (v.ledger.get? a) (v.ledger.get? a)
    cases v.ledger.get? a with
    | none => exact .none
    | some t => exact .some (.refl t)

end Pairing

/-! ## Attempts -/

/-- A one-time password that is entered, under which context, and along which schedule. -/
structure OtpAttempt where
  otp : String
  operation : Context
  schedule : Schedule

namespace OtpAttempt

/-- Resumes an order with the one-time password. -/
def program (a : OtpAttempt) (settings : FlowSettings) (id : OrderId) :
    Program (Except Crash FlowOutcome) :=
  Flow.resumeCashIn settings id a.otp a.operation

/-- The services that the attempt leaves. -/
def leaves (a : OtpAttempt) (settings : FlowSettings) (id : OrderId) (v : Services) : Services :=
  (a.schedule.run (a.program settings id) (0, v)).2.2

/-- The calls of the attempt. -/
def calls (a : OtpAttempt) (settings : FlowSettings) (id : OrderId) (v : Services) : List Call :=
  a.schedule.calls (a.program settings id) (0, v)

/-- What the attempt asks the bank. -/
def inquiries (a : OtpAttempt) (settings : FlowSettings) (id : OrderId) (v : Services) :
    List Bank.Request :=
  (a.calls settings id v).filterMap Call.inquiry?

/-- The attempt ends before the bank would be asked. -/
def Idle (a : OtpAttempt) (stored : Option Order) : Prop :=
  Flow.Idle a.operation a.schedule 0 stored

/-- The tenth call is the one to the bank, and the bank refuses the one-time password. -/
def Refused (a : OtpAttempt) (settings : FlowSettings) (stored : Option Order) : Prop :=
  Flow.Refuses settings stored (a.schedule 9)

end OtpAttempt

/-- The services that attempts leave, one after the other. -/
def Services.entered (settings : FlowSettings) (id : OrderId) (v : Services)
    (attempts : List OtpAttempt) : Services :=
  attempts.foldl (fun v a => a.leaves settings id v) v

section

variable {settings : FlowSettings} {id : OrderId} {v : Services} {a : OtpAttempt}

theorem OtpAttempt.asksOnce
    (h : a.Idle (v.orders.get? id) ∨ a.Refused settings (v.orders.get? id)) :
    Flow.AsksOnce a.otp (a.Idle (v.orders.get? id)) (v.orders.get? id) (a.calls settings id v) :=
  Flow.resume_asksOnce h

/-- A futile attempt leaves all as it was. -/
theorem OtpAttempt.unwritten
    (h : a.Idle (v.orders.get? id) ∨ a.Refused settings (v.orders.get? id)) :
    v.Unwritten (a.leaves settings id v) := by
  show (0, v).2.Unwritten (a.schedule.run (a.program settings id) (0, v)).2.2
  refine Schedule.unwritten_of_calls ?_
  rcases OtpAttempt.asksOnce h with hnothing | ⟨_, _, _, honce⟩
  · exact hnothing.writes
  · exact honce.writes

/-- Any number of futile attempts leave all as it was. -/
theorem Services.unwritten_entered {attempts : List OtpAttempt}
    (h : ∀ a ∈ attempts, a.Idle (v.orders.get? id) ∨ a.Refused settings (v.orders.get? id)) :
    v.Unwritten (v.entered settings id attempts) := by
  induction attempts generalizing v with
  | nil => exact .refl v
  | cons a attempts ih =>
      have hfirst : v.Unwritten (a.leaves settings id v) := OtpAttempt.unwritten (h a (.head _))
      refine hfirst.trans (ih fun b hb => ?_)
      rw [hfirst.orders]
      exact h b (.tail _ hb)

end

/-- **Futile one-time passwords.** Whatever is stored: an attempt that ends before the bank would be
asked writes no order, ledger record or usage of a voucher, submits no notification and asks the
bank nothing; and so does an attempt whose one-time password the bank refuses, except that it has
asked the bank once. Hence a one-time password that is entered after any number of such attempts
comes to the same as without them: along one schedule exactly, and along two schedules that differ
in nothing but the civil time, the pool and the identifiers that are made, times aside, as long as
the deadline of the order passes at the same call of both. -/
theorem futile_attempts (settings : FlowSettings) (id : OrderId) (v : Services) :
    (∀ a : OtpAttempt, a.Idle (v.orders.get? id) →
      v.Unwritten (a.leaves settings id v) ∧ (∀ n, .submit n ∉ a.calls settings id v) ∧
        a.inquiries settings id v = []) ∧
    (∀ a : OtpAttempt, a.Refused settings (v.orders.get? id) →
      v.Unwritten (a.leaves settings id v) ∧ (∀ n, .submit n ∉ a.calls settings id v) ∧
        (a.inquiries settings id v ≠ [] → ∃ o, v.orders.get? id = some o ∧
          a.inquiries settings id v = [.verifyOtp o.id a.otp])) ∧
    ∀ attempts : List OtpAttempt,
      (∀ a ∈ attempts, a.Idle (v.orders.get? id) ∨ a.Refused settings (v.orders.get? id)) →
      ∀ (otp : String) (operation : Context) (n : Nat),
        let program := Flow.resumeCashIn settings id otp operation
        (∀ schedule : Schedule,
          let after := schedule.run program (n, v.entered settings id attempts)
          let alone := schedule.run program (n, v)
          after.1 = alone.1 ∧ alone.2.2.Unwritten after.2.2) ∧
        ∀ left right : Schedule, (∀ n, (left n).Alike (right n)) →
          (∀ o, v.orders.get? id = some o →
            o.id = id ∧ left.SameDeadline right o.expiredAt o.expiredAt) →
          let after := (left.run program (n, v.entered settings id attempts)).2.2
          let alone := (right.run program (n, v)).2.2
          (∀ key, (after.orders.get? key).map Order.undated =
            (alone.orders.get? key).map Order.undated) ∧
          ∀ key, (after.ledger.get? key).map Transaction.undated =
            (alone.ledger.get? key).map Transaction.undated := by
  have hsilent {a : OtpAttempt} {rs : List Bank.Request} (h : Asks (a.calls settings id v) rs)
      (n : Notification) : .submit n ∉ a.calls settings id v :=
    fun hn => Bool.noConfusion (h.writes _ hn)
  refine ⟨fun a hidle => ?_, fun a hrefused => ?_, fun attempts hfutile otp operation n => ?_⟩
  · rcases OtpAttempt.asksOnce (.inl hidle) with hnothing | ⟨hbusy, _⟩
    · exact ⟨OtpAttempt.unwritten (.inl hidle), hsilent hnothing, hnothing.inquiries⟩
    · exact absurd hidle hbusy
  · rcases OtpAttempt.asksOnce (.inr hrefused) with hnothing | ⟨_, o, hstored, honce⟩
    · exact ⟨OtpAttempt.unwritten (.inr hrefused), hsilent hnothing,
        fun hasked => absurd hnothing.inquiries hasked⟩
    · exact ⟨OtpAttempt.unwritten (.inr hrefused), hsilent honce,
        fun _ => ⟨o, hstored, honce.inquiries⟩⟩
  · have hsame : v.Unwritten (v.entered settings id attempts) := Services.unwritten_entered hfutile
    refine ⟨fun schedule => Schedule.run_of_unwritten _ n hsame, fun left right halike hstored => ?_⟩
    have hrun : (left.run (Flow.resumeCashIn settings id otp operation) (n, v)).2.2.Unwritten
        (left.run (Flow.resumeCashIn settings id otp operation)
          (n, v.entered settings id attempts)).2.2 :=
      (Schedule.run_of_unwritten _ n hsame).2
    have hentries := (Pairing.resume_concluded settings id otp operation rfl n
      (Pairing.resuming_inStep halike hstored)).entries
    simp only [hrun.orders, hrun.ledger]
    exact Pairing.resuming_diagonal.stores rfl hentries

/-! ### A wrong one-time password -/

namespace OtpAttempt

/-- A cash-in that waits for a one-time password. -/
def waiting : Order :=
  { Order.create ⟨.ofNat 1⟩ default default .cashIn .zero .last with
    status := .processing, transactionId := some ⟨.ofNat 2⟩, awaitingOtp := true }

/-- Services with the cash-in and its ledger record. -/
def expectant : Services :=
  { Services.start .standard [.memory] default with
    orders := OrderStore.empty.insert waiting
    ledger := Ledger.empty.insert (Transaction.create ⟨.ofNat 2⟩ default waiting.id .zero) }

/-- The bank answers that the one-time password was wrong. -/
def wrong : OtpAttempt := ⟨"000000", .background, fun _ => .fair (.ofNat 3) "407"⟩

/-- The context has ended from the start. -/
def tooLate : OtpAttempt := ⟨"123456", ⟨none, some 0⟩, fun _ => .fair (.ofNat 3) "200"⟩

/-- The bank agrees. -/
def prompt : Schedule := fun _ => .fair (.ofNat 3) "200"

/-- The bank agrees, at a later time. -/
def later : Schedule := fun _ => { Occasion.fair (.ofNat 3) "200" with clock := Timestamp.epoch.tick }

theorem futile_attempts_wrong :
    let settings : FlowSettings := ⟨.standard, .standard⟩
    let program := Flow.resumeCashIn settings waiting.id "123456" .background
    let after := (later.run program (0, expectant.entered settings waiting.id [wrong, tooLate])).2.2
    let alone := (prompt.run program (0, expectant)).2.2
    wrong.inquiries settings waiting.id expectant = [.verifyOtp waiting.id "000000"] ∧
      tooLate.inquiries settings waiting.id expectant = [] ∧
      (alone.orders.get? waiting.id).map Order.status = some .success ∧
      (after.orders.get? waiting.id).map Order.undated =
        (alone.orders.get? waiting.id).map Order.undated := by
  obtain ⟨hidle, hrefused, hence⟩ :=
    futile_attempts ⟨.standard, .standard⟩ waiting.id expectant
  have hwrong : wrong.Refused ⟨.standard, .standard⟩ (expectant.orders.get? waiting.id) := by
    refine ⟨rfl, _, rfl, fun o ho => ?_⟩
    cases ho
    exact .inl (by decide +kernel)
  have htooLate : tooLate.Idle (expectant.orders.get? waiting.id) := .inr (.inl rfl)
  have hasked := (hrefused wrong hwrong).2.2 (by decide +kernel)
  obtain ⟨o, ho, honce⟩ := hasked
  cases ho
  refine ⟨honce, (hidle tooLate htooLate).2.2, by decide +kernel, ?_⟩
  have hfutile : ∀ a ∈ [wrong, tooLate], a.Idle (expectant.orders.get? waiting.id) ∨
      a.Refused ⟨.standard, .standard⟩ (expectant.orders.get? waiting.id) := by
    rintro a (_ | ⟨_, _ | ⟨_, ha⟩⟩)
    · exact .inr hwrong
    · exact .inl htooLate
    · cases ha
  refine ((hence _ hfutile "123456" .background 0).2 later prompt (fun _ => ⟨rfl, rfl, rfl⟩)
    fun o ho => ?_).1 waiting.id
  cases ho
  exact ⟨rfl, fun _ => rfl⟩

end OtpAttempt

end Wallet
