import Wallet.Proofs.Isolation.Services

/-!
# Calls of both runs

Services in step answer the calls of the two runs alike, whether the collaborators fail or not, and stay
in step. An identifier that has just been made names nothing yet, so it may become an identifier of the
call.
-/

namespace Wallet

/-- Nothing is stored under an identifier, nor is a voucher used under its text. -/
structure Services.Unused (v : Services) (id : Uuid) : Prop where
  order : v.orders.get? ⟨id⟩ = none
  record : v.ledger.get? ⟨id⟩ = none
  usage : v.promotion.usages.get? (toString (OrderId.mk id)) = none

namespace Pairing

/-- The services hold the same entries of the call, and no other entries have been touched. -/
structure SameEntries (ρ : Pairing) (v u : Services) : Prop where
  orders : ρ.SameStore v.orders u.orders
  ledger : ρ.SameLedger v.ledger u.ledger
  promotion : ρ.SamePromotion v.promotion u.promotion

/-- The services during the two runs, of which nothing has been logged yet. -/
structure InStep (ρ : Pairing) (v u : Services) : Prop extends SameEntries ρ v u where
  leftLog : v.log = ρ.leftStart.log
  rightLog : u.log = ρ.rightStart.log
  leftSinks : v.sinks = ρ.leftStart.sinks
  rightSinks : u.sinks = ρ.rightStart.sinks

variable {ρ : Pairing} {v u : Services}

/-! ## Identifiers that are made -/

/-- The order of the call has the identifiers that are made at a call. -/
def withOrder (ρ : Pairing) (n : Nat) : Pairing :=
  { ρ with order := some (⟨(ρ.left n).id⟩, ⟨(ρ.right n).id⟩) }

/-- The ledger record of the call has the identifiers that are made at a call. -/
def withRecord (ρ : Pairing) (n : Nat) : Pairing :=
  { ρ with record := some (⟨(ρ.left n).id⟩, ⟨(ρ.right n).id⟩) }

theorem grows_withOrder (hnone : ρ.order = none) (n : Nat) : ρ.Grows (ρ.withOrder n) :=
  ⟨rfl, rfl, rfl, rfl, rfl, .inr ⟨hnone, n, rfl⟩, .inl rfl⟩

theorem grows_withRecord (hnone : ρ.record = none) (n : Nat) : ρ.Grows (ρ.withRecord n) :=
  ⟨rfl, rfl, rfl, rfl, rfl, .inl rfl, .inr ⟨hnone, n, rfl⟩⟩

/-- An order that nothing is known of yet becomes the order of the call. -/
theorem InStep.withOrder (h : ρ.InStep v u) (hnone : ρ.order = none) {n : Nat}
    (hleft : ρ.leftStart.Unused (ρ.left n).id) (hright : ρ.rightStart.Unused (ρ.right n).id) :
    (ρ.withOrder n).InStep v u where
  orders := {
    unavailable := h.orders.unavailable
    own := fun hown => by
      cases hown
      rw [h.orders.left _ (by simp [hnone]), hleft.order,
        h.orders.right _ (by simp [hnone]), hright.order]
      exact .none
    left := fun key _ => h.orders.left key (by simp [hnone])
    right := fun key _ => h.orders.right key (by simp [hnone]) }
  ledger := { h.ledger with
    own := fun hown =>
      optionRel_mono (h.ledger.own hown) fun _ _ ht => ht.grow (grows_withOrder hnone n) }
  promotion := { h.promotion with
    own := fun hown _ => by
      cases hown
      rw [h.promotion.left _ (by simp [hnone]), h.promotion.right _ (by simp [hnone])]
      show Option.Rel _ (ρ.leftStart.promotion.usages.get? _) (ρ.rightStart.promotion.usages.get? _)
      rw [hleft.usage, hright.usage]
      exact .none
    left := fun trace _ => h.promotion.left trace (by simp [hnone])
    right := fun trace _ => h.promotion.right trace (by simp [hnone]) }
  leftLog := h.leftLog
  rightLog := h.rightLog
  leftSinks := h.leftSinks
  rightSinks := h.rightSinks

/-- A record that nothing is known of yet becomes the record of the call. -/
theorem InStep.withRecord (h : ρ.InStep v u) (hnone : ρ.record = none) {n : Nat}
    (hleft : ρ.leftStart.Unused (ρ.left n).id) (hright : ρ.rightStart.Unused (ρ.right n).id) :
    (ρ.withRecord n).InStep v u where
  orders := { h.orders with
    own := fun hown =>
      optionRel_mono (h.orders.own hown) fun _ _ ho => ho.grow (grows_withRecord hnone n) }
  ledger := {
    unavailable := h.ledger.unavailable
    rejectInit := h.ledger.rejectInit
    failOnCancel := h.ledger.failOnCancel
    own := fun hown => by
      cases hown
      rw [h.ledger.left _ (by simp [hnone]), hleft.record,
        h.ledger.right _ (by simp [hnone]), hright.record]
      exact .none
    left := fun key _ => h.ledger.left key (by simp [hnone])
    right := fun key _ => h.ledger.right key (by simp [hnone]) }
  promotion := { h.promotion with
    own := fun hown hpaying => optionRel_mono (h.promotion.own hown hpaying) fun _ _ hd =>
      hd.grow (grows_withRecord hnone n) }
  leftLog := h.leftLog
  rightLog := h.rightLog
  leftSinks := h.leftSinks
  rightSinks := h.rightSinks

/-! ## Answers -/

/-- Services in step answer the two calls alike, and stay in step. -/
def Answered (ρ : Pairing) (c c' : Call) (S : c.Answer → c'.Answer → Prop) : Prop :=
  ∀ n {v u}, ρ.InStep v u →
    S (v.undergo (ρ.left n) c).1 (u.undergo (ρ.right n) c').1 ∧
      ρ.InStep (v.undergo (ρ.left n) c).2 (u.undergo (ρ.right n) c').2

theorem InStep.around (h : ρ.InStep v u) (n : Nat) :
    ρ.InStep (v.around (ρ.left n)) (u.around (ρ.right n)) :=
  ⟨⟨h.orders, h.ledger, h.promotion⟩, h.leftLog, h.rightLog, h.leftSinks, h.rightSinks⟩

/-- It is enough to look at the calls that reach their collaborators, and at refusals. -/
theorem answered_of_meet {c c' : Call} {S : c.Answer → c'.Answer → Prop}
    (hrefused : ∀ e, Option.Rel S (c.refusal? e) (c'.refusal? e))
    (hmet : ∀ n {v u}, ρ.InStep v u → S (v.meet (ρ.left n) c).1 (u.meet (ρ.right n) c').1 ∧
      ρ.InStep (v.meet (ρ.left n) c).2 (u.meet (ρ.right n) c').2) :
    ρ.Answered c c' S := by
  intro n v u h
  unfold Services.undergo
  rw [(ρ.alike n).fault]
  cases (ρ.right n).fault with
  | none => exact hmet n h
  | some fault =>
      have hrefusal := hrefused fault.error
      simp only
      generalize c.refusal? fault.error = x at hrefusal ⊢
      generalize c'.refusal? fault.error = y at hrefusal ⊢
      cases hrefusal with
      | none => exact hmet n h
      | some hrefusal =>
          refine ⟨hrefusal, ?_⟩
          simp only
          split
          · exact (hmet n h).2
          · exact h.around n

/-! ### Calls that no entry depends on -/

/-- Both values are the readings of the clock at one call. -/
def SameReading (ρ : Pairing) (now now' : Timestamp) : Prop :=
  ∃ n, now = (ρ.left n).clock.tick ∧ now' = (ρ.right n).clock.tick

theorem answered_now : ρ.Answered .now .now ρ.SameReading :=
  answered_of_meet (fun _ => .none) fun n _ _ h => by
    have haround := h.around n
    exact ⟨⟨n, rfl, rfl⟩, ⟨haround.orders, haround.ledger, haround.promotion⟩, haround.leftLog,
      haround.rightLog, haround.leftSinks, haround.rightSinks⟩

theorem answered_clocks : ρ.Answered .clocks .clocks fun x y => x.monotonic = y.monotonic :=
  answered_of_meet (fun _ => .none) fun n _ _ h => by
    have haround := h.around n
    exact ⟨congrArg Timeline.now (ρ.alike n).timeline,
      ⟨haround.orders, haround.ledger, haround.promotion⟩, haround.leftLog, haround.rightLog,
      haround.leftSinks, haround.rightSinks⟩

theorem answered_hasEnded (c : Context) : ρ.Answered (.hasEnded c) (.hasEnded c) Eq :=
  answered_of_meet (fun _ => .none) fun n _ _ h =>
    ⟨congrArg c.isDone (ρ.alike n).timeline, h.around n⟩

theorem answered_budget (d : Duration) : ρ.Answered (.budget d) (.budget d) Eq :=
  answered_of_meet (fun _ => .none) fun n _ _ h =>
    ⟨congrArg (Context.background.timeout · d) (ρ.alike n).timeline, h.around n⟩

theorem answered_freshOrderId : ρ.Answered .freshOrderId .freshOrderId fun a b =>
    ∃ n, a = ⟨(ρ.left n).id⟩ ∧ b = ⟨(ρ.right n).id⟩ :=
  answered_of_meet (fun _ => .none) fun n _ _ h => ⟨⟨n, rfl, rfl⟩, h.around n⟩

theorem answered_freshTransactionId : ρ.Answered .freshTransactionId .freshTransactionId fun a b =>
    ∃ n, a = ⟨(ρ.left n).id⟩ ∧ b = ⟨(ρ.right n).id⟩ :=
  answered_of_meet (fun _ => .none) fun n _ _ h => ⟨⟨n, rfl, rfl⟩, h.around n⟩

theorem answered_bank (r r' : Bank.Request) : ρ.Answered (.bank r) (.bank r') Eq :=
  answered_of_meet (fun _ => .some rfl) fun n _ _ h => ⟨(ρ.alike n).response, h.around n⟩

theorem answered_count (m : Metric) : ρ.Answered (.count m) (.count m) Eq :=
  answered_of_meet (fun _ => .none) fun _ _ _ h => ⟨rfl, ⟨h.orders, h.ledger, h.promotion⟩,
    h.leftLog, h.rightLog, h.leftSinks, h.rightSinks⟩

/-- Whether the pool has a slot for it in either run, a notification changes no entry. -/
theorem answered_submit (n n' : Notification) :
    ρ.Answered (.submit n) (.submit n') Eq := by
  have hsubmit (v : Services) (n : Notification) : (v.submitJob n).orders = v.orders ∧
      (v.submitJob n).ledger = v.ledger ∧ (v.submitJob n).promotion = v.promotion ∧
      (v.submitJob n).log = v.log ∧ (v.submitJob n).sinks = v.sinks := by
    unfold Services.submitJob Services.takeSlot
    cases v.pool.submit? <;> exact ⟨rfl, rfl, rfl, rfl, rfl⟩
  refine answered_of_meet (fun _ => .none) fun k v u h => ⟨rfl, ?_⟩
  obtain ⟨horders, hledger, hpromotion, hlog, hsinks⟩ := hsubmit (v.around (ρ.left k)) n
  obtain ⟨horders', hledger', hpromotion', hlog', hsinks'⟩ := hsubmit (u.around (ρ.right k)) n'
  exact {
    orders := horders.symm ▸ horders'.symm ▸ h.orders
    ledger := hledger.symm ▸ hledger'.symm ▸ h.ledger
    promotion := hpromotion.symm ▸ hpromotion'.symm ▸ h.promotion
    leftLog := hlog.trans h.leftLog
    rightLog := hlog'.trans h.rightLog
    leftSinks := hsinks.trans h.leftSinks
    rightSinks := hsinks'.trans h.rightSinks }

/-! ### Calls of the order store -/

section

variable {o o' : Order} {a b : OrderId}

theorem answered_orders {r r' : OrderStore.Request} {R : r.Result → r'.Result → Prop}
    (hserved : ∀ n {s s'}, ρ.SameStore s s' →
      ρ.Served R ρ.SameStore (s.serve (ρ.left n).clock.tick r)
        (s'.serve (ρ.right n).clock.tick r')) :
    ρ.Answered (.orders r) (.orders r') (Matched ρ.SameServiceError R) :=
  answered_of_meet (fun e => .some (.error (.same e))) fun n _ _ h =>
    have hserved := hserved n h.orders
    ⟨hserved.answer, ⟨hserved.next, h.ledger, h.promotion⟩, h.leftLog, h.rightLog, h.leftSinks,
      h.rightSinks⟩

theorem answered_create (ho : ρ.SameOrder o o') :
    ρ.Answered (.orders (.create o)) (.orders (.create o'))
      (Matched ρ.SameServiceError ρ.SameOrder) :=
  answered_orders fun _ _ _ h => h.create ho

theorem answered_replace (ho : ρ.SameOrder o o') :
    ρ.Answered (.orders (.replace o)) (.orders (.replace o'))
      (Matched ρ.SameServiceError ρ.SameOrder) :=
  answered_orders fun _ _ _ h => h.replace ho

theorem answered_process (ho : ρ.SameOrder o o') :
    ρ.Answered (.orders (.process o)) (.orders (.process o'))
      (Matched ρ.SameServiceError ρ.SameOrder) :=
  answered_orders fun n _ _ h => h.process ho n

theorem answered_find (hown : ρ.order = some (a, b)) :
    ρ.Answered (.orders (.find a)) (.orders (.find b))
      (Matched ρ.SameServiceError (Option.Rel ρ.SameOrder)) :=
  answered_orders fun _ _ _ h => ⟨h.find hown, h⟩

end

/-! ### Calls of the ledger -/

section

variable {t t' : Transaction} {a b : TransactionId}

theorem answered_ledger {r r' : Ledger.Request} {R : Transaction → Transaction → Prop}
    (hserved : ∀ n {l l'}, ρ.SameLedger l l' →
      ρ.Served R ρ.SameLedger (l.serve (ρ.left n).clock.tick r)
        (l'.serve (ρ.right n).clock.tick r')) :
    ρ.Answered (.ledger r) (.ledger r') (Matched ρ.SameServiceError R) :=
  answered_of_meet (fun e => .some (.error (.same e))) fun n _ _ h =>
    have hserved := hserved n h.ledger
    ⟨hserved.answer, ⟨h.orders, hserved.next, h.promotion⟩, h.leftLog, h.rightLog, h.leftSinks,
      h.rightSinks⟩

theorem answered_init (hown : ρ.record = some (t.id, t'.id)) (ht : ρ.SameRecord t t') :
    ρ.Answered (.ledger (.init t)) (.ledger (.init t'))
      (Matched ρ.SameServiceError fun t t' => ρ.record = some (t.id, t'.id)) :=
  answered_ledger fun _ _ _ h => h.init hown ht

theorem answered_findRecord (hown : ρ.record = some (a, b)) :
    ρ.Answered (.ledger (.find a)) (.ledger (.find b)) (Matched ρ.SameServiceError ρ.SameRecord) :=
  answered_ledger fun _ _ _ h => ⟨h.find hown, h⟩

theorem answered_move {r r' : Ledger.Request} (hr : ρ.SameMove r r') :
    ρ.Answered (.ledger r) (.ledger r') (Matched ρ.SameServiceError ρ.SameRecord) :=
  answered_ledger fun _ _ _ h => h.move hr _ _

end

/-! ### Calls of the promotion service -/

section

variable {a b : OrderId}

theorem answered_promotion {r r' : Promotion.Request} {R : r.Result → r'.Result → Prop}
    (hserved : ∀ {p p'}, ρ.SamePromotion p p' →
      ρ.Served R ρ.SamePromotion (p.serve r) (p'.serve r')) :
    ρ.Answered (.promotion r) (.promotion r') (Matched ρ.SameServiceError R) :=
  answered_of_meet (fun e => .some (.error (.same e))) fun _ _ _ h =>
    have hserved := hserved h.promotion
    ⟨hserved.answer, ⟨h.orders, h.ledger, hserved.next⟩, h.leftLog, h.rightLog, h.leftSinks,
      h.rightSinks⟩

theorem answered_useVoucher (hpaying : ρ.paying = true) (hown : ρ.order = some (a, b))
    (code : String) (user : UserId) (amount : Money) :
    ρ.Answered (.promotion (.useVoucher code user (toString a) amount))
      (.promotion (.useVoucher code user (toString b) amount))
      (Matched ρ.SameServiceError ρ.SameDiscount) :=
  answered_promotion fun h => h.use hpaying hown code amount

theorem answered_reverse (hpaying : ρ.paying = true) (hown : ρ.order = some (a, b)) :
    ρ.Answered (.promotion (.reverse (toString a))) (.promotion (.reverse (toString b)))
      (Matched ρ.SameServiceError Eq) :=
  answered_promotion fun h => ⟨.ok rfl, h.reverse hpaying hown⟩

end

end Pairing

end Wallet
