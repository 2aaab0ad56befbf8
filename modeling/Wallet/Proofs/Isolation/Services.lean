import Wallet.Proofs.Identifiers
import Wallet.Proofs.Isolation.Basic
import Wallet.Proofs.Store.Basic

/-!
# Services in step

In both runs the services hold the same order, ledger record and usage of the call, and whatever else
they hold is as it was at the start. A request of the call is answered alike by both, and leaves both
in step; this is shown for each service by itself.
-/

namespace Wallet

theorem Promotion.get?_usages_reverse (p : Promotion) (trace key : String) :
    (p.reverse trace).usages.get? key = if key = trace then none else p.usages.get? key := by
  unfold reverse
  split
  · next hnone =>
      split
      · next heq => rw [heq, hnone]
      · rfl
  · exact Table.get?_erase _ _ _

theorem Promotion.reverse_vouchers (p : Promotion) (trace : String) :
    (p.reverse trace).vouchers = p.vouchers := by
  unfold reverse
  split <;> rfl

namespace Pairing

/-! ## The order store -/

/-- The stores hold the same order of the call, and nothing else has been touched. -/
structure SameStore (ρ : Pairing) (s s' : OrderStore) : Prop where
  unavailable : s.unavailable = s'.unavailable
  own : ∀ {a b}, ρ.order = some (a, b) → Option.Rel ρ.SameOrder (s.get? a) (s'.get? b)
  left : ∀ key, (∀ b, ρ.order ≠ some (key, b)) → s.get? key = ρ.leftStart.orders.get? key
  right : ∀ key, (∀ a, ρ.order ≠ some (a, key)) → s'.get? key = ρ.rightStart.orders.get? key

variable {ρ : Pairing}

/-- The same is answered, and what is left behind is related. -/
structure Served {α β σ τ : Type} (ρ : Pairing) (R : α → β → Prop) (S : σ → τ → Prop)
    (x : Except ServiceError α × σ) (y : Except ServiceError β × τ) : Prop where
  answer : Matched ρ.SameServiceError R x.1 y.1
  next : S x.2 y.2

section

variable {α β σ τ : Type} {R : α → β → Prop} {S : σ → τ → Prop} {s : σ} {s' : τ}

theorem served_ok {a : α} {b : β} {next : σ} {next' : τ} (hvalues : R a b) (hnext : S next next') :
    ρ.Served R S (settled s (.ok (a, next))) (settled s' (.ok (b, next'))) :=
  ⟨.ok hvalues, hnext⟩

theorem served_error {e e' : ServiceError} (herror : ρ.SameServiceError e e') (hs : S s s') :
    ρ.Served R S (settled s (.error e)) (settled s' (.error e')) :=
  ⟨.error herror, hs⟩

end

section

variable {s s' : OrderStore} {o o' : Order} {a b : OrderId}

theorem SameStore.insert (h : ρ.SameStore s s') (ho : ρ.SameOrder o o') :
    ρ.SameStore (s.insert o) (s'.insert o') where
  unavailable := h.unavailable
  own hown := by
    cases ho.id.symm.trans hown
    rw [OrderStore.get?_insert_self, OrderStore.get?_insert_self]
    exact .some ho
  left key hkey := (s.get?_insert_of_ne fun heq => hkey _ (heq ▸ ho.id)).trans (h.left key hkey)
  right key hkey := (s'.get?_insert_of_ne fun heq => hkey _ (heq ▸ ho.id)).trans (h.right key hkey)

theorem SameStore.find (h : ρ.SameStore s s') (hown : ρ.order = some (a, b)) :
    Matched ρ.SameServiceError (Option.Rel ρ.SameOrder) (s.find a) (s'.find b) := by
  unfold OrderStore.find
  rw [h.unavailable]
  split
  · exact .error (.same _)
  · exact .ok (h.own hown)

theorem SameStore.create (h : ρ.SameStore s s') (ho : ρ.SameOrder o o') :
    ρ.Served ρ.SameOrder ρ.SameStore (settled s (s.create o)) (settled s' (s'.create o')) := by
  unfold OrderStore.create
  rw [h.unavailable]
  split
  · exact served_error (.same _) h
  · have hstored := h.own ho.id
    generalize s.get? o.id = x at hstored ⊢
    generalize s'.get? o'.id = y at hstored ⊢
    cases hstored with
    | none => exact served_ok ho (h.insert ho)
    | some _ =>
        exact served_error (.conflict (.append (.append (.same _) (.order ho.id)) (.same _))) h

theorem SameStore.overwrite (h : ρ.SameStore s s') (ho : ρ.SameOrder o o') {stored stored' : Order}
    (hstored : ρ.SameOrder stored stored') :
    ρ.Served ρ.SameOrder ρ.SameStore (settled s (s.overwrite stored o))
      (settled s' (s'.overwrite stored' o')) := by
  unfold OrderStore.overwrite
  rw [hstored.status, ho.status]
  split
  · have hnext := h.insert ho
    exact served_ok ho ⟨hnext.unavailable, hnext.own, hnext.left, hnext.right⟩
  · refine served_error (.conflict ?_) h
    exact .append (.append (.append (.append (.append (.same _) (.order ho.id)) (.same _)) (.same _))
      (.same _)) (.same _)

theorem SameStore.replace (h : ρ.SameStore s s') (ho : ρ.SameOrder o o') :
    ρ.Served ρ.SameOrder ρ.SameStore (settled s (s.replace o)) (settled s' (s'.replace o')) := by
  unfold OrderStore.replace
  rw [h.unavailable]
  split
  · exact served_error (.same _) h
  · have hstored := h.own ho.id
    generalize s.get? o.id = x at hstored ⊢
    generalize s'.get? o'.id = y at hstored ⊢
    cases hstored with
    | none => exact served_error (.notFound _ (.order ho.id)) h
    | some hstored => exact h.overwrite ho hstored

theorem SameStore.process (h : ρ.SameStore s s') (ho : ρ.SameOrder o o') (n : Nat) :
    ρ.Served ρ.SameOrder ρ.SameStore (settled s (s.process o (ρ.left n).clock.tick))
      (settled s' (s'.process o' (ρ.right n).clock.tick)) := by
  unfold OrderStore.process
  rw [h.unavailable]
  split
  · exact served_error (.same _) h
  · have hstored := h.own ho.id
    generalize s.get? o.id = x at hstored ⊢
    generalize s'.get? o'.id = y at hstored ⊢
    cases hstored with
    | none => exact served_error (.notFound _ (.order ho.id)) h
    | @some stored stored' hstored =>
        have hdue : stored.isPastDeadline (ρ.left n).clock.tick =
            stored'.isPastDeadline (ρ.right n).clock.tick := hstored.deadline n
        simp only [hdue]
        split
        · exact served_error (.expired ho.id) h
        · exact h.overwrite ho hstored

end

/-! ## The ledger -/

/-- The ledgers hold the same record of the call, and nothing else has been touched. -/
structure SameLedger (ρ : Pairing) (l l' : Ledger) : Prop where
  unavailable : l.unavailable = l'.unavailable
  rejectInit : l.rejectInit = l'.rejectInit
  failOnCancel : l.failOnCancel = l'.failOnCancel
  own : ∀ {a b}, ρ.record = some (a, b) → Option.Rel ρ.SameRecord (l.get? a) (l'.get? b)
  left : ∀ key, (∀ b, ρ.record ≠ some (key, b)) → l.get? key = ρ.leftStart.ledger.get? key
  right : ∀ key, (∀ a, ρ.record ≠ some (a, key)) → l'.get? key = ρ.rightStart.ledger.get? key

section

variable {l l' : Ledger} {t t' : Transaction} {a b : TransactionId}

theorem SameLedger.put (h : ρ.SameLedger l l') (hown : ρ.record = some (a, b))
    (ht : ρ.SameRecord t t') :
    ρ.SameLedger { l with records := l.records.put a t } { l' with records := l'.records.put b t' } where
  unavailable := h.unavailable
  rejectInit := h.rejectInit
  failOnCancel := h.failOnCancel
  own hab := by
    cases hown.symm.trans hab
    simp only [Ledger.get?, Table.get?_put, if_true]
    exact .some ht
  left key hkey := by
    have hne : key ≠ a := fun heq => hkey _ (heq ▸ hown)
    simp only [Ledger.get?, Table.get?_put, if_neg hne]
    exact h.left key hkey
  right key hkey := by
    have hne : key ≠ b := fun heq => hkey _ (heq ▸ hown)
    simp only [Ledger.get?, Table.get?_put, if_neg hne]
    exact h.right key hkey

theorem SameLedger.init (h : ρ.SameLedger l l') (hown : ρ.record = some (t.id, t'.id))
    (ht : ρ.SameRecord t t') :
    ρ.Served (fun t t' => ρ.record = some (t.id, t'.id)) ρ.SameLedger (settled l (l.init t))
      (settled l' (l'.init t')) := by
  unfold Ledger.init
  rw [h.unavailable, h.rejectInit]
  split
  · exact served_error (.same _) h
  · split
    · exact served_error (.same _) h
    · exact served_ok hown (h.put hown ht)

theorem SameLedger.find (h : ρ.SameLedger l l') (hown : ρ.record = some (a, b)) :
    Matched ρ.SameServiceError ρ.SameRecord (l.find a) (l'.find b) := by
  unfold Ledger.find
  rw [h.unavailable]
  split
  · exact .error (.same _)
  · have hstored := h.own hown
    generalize l.get? a = x at hstored ⊢
    generalize l'.get? b = y at hstored ⊢
    cases hstored with
    | none => exact .error (.notFound _ (.record hown))
    | some hstored => exact .ok hstored

/-- Both ledgers turn the request away before they look at the record, or none does. -/
theorem SameLedger.barred? (h : ρ.SameLedger l l') {r r' : Ledger.Request} (hr : ρ.SameMove r r') :
    l.barred? r = l'.barred? r' := by
  unfold Ledger.barred?
  rw [h.unavailable, h.failOnCancel]
  cases hr <;> rfl

theorem SameLedger.moved (h : ρ.SameLedger l l') {r r' : Ledger.Request} (hr : ρ.SameMove r r')
    (hown : ρ.record = some (a, b)) (ht : ρ.SameRecord t t') :
    ρ.SameLedger (l.moved r a t) (l'.moved r' b t') := by
  have hput := h.put hown ht
  cases hr with
  | setPending _ => exact hput
  | confirm _ | cancel _ _ =>
      exact ⟨hput.unavailable, hput.rejectInit, hput.failOnCancel, hput.own, hput.left, hput.right⟩

theorem SameLedger.move (h : ρ.SameLedger l l') {r r' : Ledger.Request} (hr : ρ.SameMove r r')
    (now now' : Timestamp) :
    ρ.Served ρ.SameRecord ρ.SameLedger (l.serve now r) (l'.serve now' r') := by
  -- the three moves differ in the transition and in what is counted, not in how they are served
  obtain ⟨a, b, hown, hleft, hright⟩ :
      ∃ a b, ρ.record = some (a, b) ∧ r.moves? = some a ∧ r'.moves? = some b := by
    cases hr with
    | confirm hown | setPending hown => exact ⟨_, _, hown, rfl, rfl⟩
    | cancel hown _ => exact ⟨_, _, hown, rfl, rfl⟩
  rw [Ledger.serve_moving l now hleft, Ledger.serve_moving l' now' hright, h.barred? hr]
  cases l'.barred? r' with
  | some e => exact ⟨.error (.same e), h⟩
  | none =>
      have hstored := h.own hown
      generalize l.get? a = x at hstored ⊢
      generalize l'.get? b = y at hstored ⊢
      cases hstored with
      | none => exact ⟨.error (.notFound _ (.record hown)), h⟩
      | @some t t' hstored =>
          have hmoved := hstored.move hr now now'
          simp only
          generalize r.transition now t = x at hmoved ⊢
          generalize r'.transition now' t' = y at hmoved ⊢
          cases hmoved with
          | ok ht => exact ⟨.ok ht, h.moved hr hown ht⟩
          | error herror =>
              cases herror
              exact ⟨.error (.same _), h⟩

end

/-! ## The promotion service -/

/-- The promotion services know the same vouchers and hold the same usage of the call, and no other
usage has been touched. -/
structure SamePromotion (ρ : Pairing) (p p' : Promotion) : Prop where
  vouchers : ∀ code, p.vouchers.get? code = p'.vouchers.get? code
  own : ∀ {a b}, ρ.order = some (a, b) → ρ.paying = true →
    Option.Rel ρ.SameDiscount (p.usages.get? (toString a)) (p'.usages.get? (toString b))
  left : ∀ trace, (ρ.paying = true → ∀ a b, ρ.order = some (a, b) → trace ≠ toString a) →
    p.usages.get? trace = ρ.leftStart.promotion.usages.get? trace
  right : ∀ trace, (ρ.paying = true → ∀ a b, ρ.order = some (a, b) → trace ≠ toString b) →
    p'.usages.get? trace = ρ.rightStart.promotion.usages.get? trace
  leftVouchers : p.vouchers = ρ.leftStart.promotion.vouchers
  rightVouchers : p'.vouchers = ρ.rightStart.promotion.vouchers

section

variable {p p' : Promotion} {a b : OrderId}

theorem SamePromotion.put (h : ρ.SamePromotion p p') (hpaying : ρ.paying = true)
    (hown : ρ.order = some (a, b)) {d d' : Discount} (hd : ρ.SameDiscount d d') :
    ρ.SamePromotion { p with usages := p.usages.put (toString a) d }
      { p' with usages := p'.usages.put (toString b) d' } where
  vouchers := h.vouchers
  own hab _ := by
    cases hown.symm.trans hab
    simp only [Table.get?_put, if_true]
    exact .some hd
  left trace htrace := by
    simp only [Table.get?_put, if_neg (htrace hpaying a b hown)]
    exact h.left trace htrace
  right trace htrace := by
    simp only [Table.get?_put, if_neg (htrace hpaying a b hown)]
    exact h.right trace htrace
  leftVouchers := h.leftVouchers
  rightVouchers := h.rightVouchers

theorem SamePromotion.use (h : ρ.SamePromotion p p') (hpaying : ρ.paying = true)
    (hown : ρ.order = some (a, b)) (code : String) (amount : Money) :
    ρ.Served ρ.SameDiscount ρ.SamePromotion (settled p (p.useVoucher code (toString a) amount))
      (settled p' (p'.useVoucher code (toString b) amount)) := by
  have hused (taken : Money) :
      ρ.SameDiscount ⟨code, taken, toString a⟩ ⟨code, taken, toString b⟩ :=
    ⟨rfl, rfl, .order hown⟩
  unfold Promotion.useVoucher
  rw [h.vouchers]
  cases p'.vouchers.get? code with
  | none => exact served_error (.same _) h
  | some value => exact served_ok (hused _) (h.put hpaying hown (hused _))

theorem SamePromotion.reverse (h : ρ.SamePromotion p p') (hpaying : ρ.paying = true)
    (hown : ρ.order = some (a, b)) :
    ρ.SamePromotion (p.reverse (toString a)) (p'.reverse (toString b)) where
  vouchers code := by
    simp only [Promotion.reverse_vouchers, h.vouchers]
  own hab _ := by
    cases hown.symm.trans hab
    simp only [Promotion.get?_usages_reverse, if_true]
    exact .none
  left trace htrace := by
    rw [Promotion.get?_usages_reverse, if_neg (htrace hpaying a b hown)]
    exact h.left trace htrace
  right trace htrace := by
    rw [Promotion.get?_usages_reverse, if_neg (htrace hpaying a b hown)]
    exact h.right trace htrace
  leftVouchers := by rw [Promotion.reverse_vouchers, h.leftVouchers]
  rightVouchers := by rw [Promotion.reverse_vouchers, h.rightVouchers]

end

end Pairing

end Wallet
