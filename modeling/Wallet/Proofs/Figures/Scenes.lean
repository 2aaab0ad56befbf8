import Wallet.Proofs.Flow.Calls
import Wallet.Proofs.World.Basic

/-!
# Scenes

A scene is a call of a program with the services as the call finds them. Along a schedule a program
goes through one sequence of scenes only. `Guarded` says of a program, by its calls alone, that some
condition holds in each of its scenes and another one at its end, whatever the occasions are.

A program that calls the bank late is cut in two before the call: nothing in the first part is a call
to the bank, so what is said of the call and of all that follows it is a matter of the second part
(`banks_bind`).
-/

namespace Wallet

/-! ## Scenes along a schedule -/

namespace Schedule

variable {α β : Type} {schedule : Schedule}

/-- The calls that a program makes along the schedule, each with the services that it finds. -/
def scenes (schedule : Schedule) {α : Type} : Program α → Nat × Services → List (Call × Services)
  | .done _, _ => []
  | .call c next, p =>
      (c, p.2) :: schedule.scenes (next (schedule.answer c p).1) (schedule.answer c p).2

theorem scenes_bind (x : Program α) (f : α → Program β) (p : Nat × Services) :
    schedule.scenes (x >>= f) p =
      schedule.scenes x p ++ schedule.scenes (f (schedule.run x p).1) (schedule.run x p).2 := by
  induction x generalizing p with
  | done a => rfl
  | call c next ih => exact congrArg ((c, p.2) :: ·) (ih _ _)

end Schedule

namespace Program

variable {α β : Type} {G : Call → Services → Prop} {v : Services}

/-- Whatever the occasions are, each call of the program is made where `G` holds, and the program ends
where `Q` holds. -/
def Guarded (G : Call → Services → Prop) : Program α → Services → (α → Services → Prop) → Prop
  | .done a, v, Q => Q a v
  | .call c next, v, Q =>
      G c v ∧ ∀ t : Occasion, (next (v.undergo t c).1).Guarded G (v.undergo t c).2 Q

theorem Guarded.mono {x : Program α} {Q R : α → Services → Prop} (h : x.Guarded G v Q)
    (hQR : ∀ a v, Q a v → R a v) : x.Guarded G v R := by
  induction x generalizing v with
  | done a => exact hQR a v h
  | call c next ih => exact ⟨h.1, fun t => ih _ (h.2 t)⟩

theorem Guarded.weaken {G' : Call → Services → Prop} {x : Program α} {Q : α → Services → Prop}
    (h : x.Guarded G v Q) (hG : ∀ c v, G c v → G' c v) : x.Guarded G' v Q := by
  induction x generalizing v with
  | done a => exact h
  | call c next ih => exact ⟨hG c v h.1, fun t => ih _ (h.2 t)⟩

theorem guarded_bind (x : Program α) (f : α → Program β) (v : Services) (Q : β → Services → Prop) :
    (x >>= f).Guarded G v Q ↔ x.Guarded G v fun a v => (f a).Guarded G v Q := by
  induction x generalizing v with
  | done a => exact Iff.rfl
  | call c next ih => exact and_congr Iff.rfl (forall_congr' fun t => ih _ _)

/-- What is said of a program holds along every schedule. -/
theorem Guarded.sound {x : Program α} {Q : α → Services → Prop} (h : x.Guarded G v Q)
    (schedule : Schedule) (n : Nat) :
    (∀ scene ∈ schedule.scenes x (n, v), G scene.1 scene.2) ∧
      Q (schedule.run x (n, v)).1 (schedule.run x (n, v)).2.2 := by
  induction x generalizing n v with
  | done a => exact ⟨fun _ hscene => absurd hscene List.not_mem_nil, h⟩
  | call c next ih =>
      obtain ⟨hscenes, hend⟩ := ih (v.undergo (schedule n) c).1 (h.2 (schedule n)) (n + 1)
      refine ⟨?_, hend⟩
      rintro scene (_ | ⟨_, hscene⟩)
      · exact h.1
      · exact hscenes scene hscene

end Program

/-! ## The call to the bank -/

/-- Whether a call goes to the bank. -/
def Call.isBank : Call → Bool
  | .bank _ => true
  | _ => false

theorem Call.exists_of_isBank {c : Call} (h : c.isBank = true) : ∃ r, c = .bank r := by
  cases c with
  | bank r => exact ⟨r, rfl⟩
  | _ => cases h

/-- No call goes to the bank. -/
def Call.offBank (c : Call) (_ : Services) : Prop := c.isBank = false

namespace Program

variable {α β : Type} {v : Services}

/-- Along every schedule, `P` holds of each call to the bank: of the request, the services that it
finds, the scenes that follow and the services at the end. -/
def Banks (x : Program α) (v : Services)
    (P : Bank.Request → Services → List (Call × Services) → Services → Prop) : Prop :=
  ∀ (schedule : Schedule) (n : Nat) before r u later,
    schedule.scenes x (n, v) = before ++ (.bank r, u) :: later →
      P r u later (schedule.run x (n, v)).2.2

variable {P : Bank.Request → Services → List (Call × Services) → Services → Prop}

theorem banks_of_offBank {x : Program α} {Q : α → Services → Prop}
    (h : x.Guarded Call.offBank v Q) : x.Banks v P := by
  intro schedule n before r u later hscenes
  have hoff := (h.sound schedule n).1 (.bank r, u) (by simp [hscenes])
  cases hoff

/-- A program that keeps to a guard keeps to it when it calls the bank and from there on. -/
theorem banks_of_guarded {x : Program α} {G : Call → Services → Prop} {Q : α → Services → Prop}
    (h : x.Guarded G v Q) :
    x.Banks v fun r u later w =>
      G (.bank r) u ∧ (∀ scene ∈ later, G scene.1 scene.2) ∧ ∃ a, Q a w := by
  intro schedule n before r u later hscenes
  obtain ⟨hguard, hend⟩ := h.sound schedule n
  rw [hscenes] at hguard
  refine ⟨hguard (.bank r, u) (by simp), fun scene hscene => hguard scene ?_, _, hend⟩
  exact List.mem_append_right _ (List.mem_cons_of_mem _ hscene)

/-- If the first part does not call the bank, the second one does. -/
theorem banks_bind {x : Program α} {f : α → Program β} {Q : α → Services → Prop}
    (hx : x.Guarded Call.offBank v Q) (hf : ∀ a w, Q a w → (f a).Banks w P) :
    (x >>= f).Banks v P := by
  intro schedule n before r u later hscenes
  obtain ⟨hoff, hend⟩ := hx.sound schedule n
  rw [Schedule.scenes_bind] at hscenes
  rw [Schedule.run_bind]
  -- the call to the bank is not among the scenes of the first part
  rcases List.append_eq_append_iff.mp hscenes with
    ⟨gap, -, hsecond⟩ | ⟨gap, hfirst, hgap⟩
  · exact hf _ _ hend schedule _ gap r u later hsecond
  · cases gap with
    | nil => exact hf _ _ hend schedule _ [] r u later hgap.symm
    | cons scene gap =>
        obtain ⟨rfl, -⟩ := List.cons.inj hgap
        cases hoff (.bank r, u) (by simp [hfirst])

/-- What a program does with its value without a further call is of no consequence. -/
theorem Banks.map {x : Program α} (h : x.Banks v P) (f : α → β) :
    (x >>= fun a => pure (f a)).Banks v P := by
  intro schedule n before r u later hscenes
  have hrest : schedule.scenes (pure (f (schedule.run x (n, v)).1)) (schedule.run x (n, v)).2 = [] :=
    rfl
  rw [Schedule.scenes_bind, hrest, List.append_nil] at hscenes
  rw [Schedule.run_bind]
  exact h schedule n before r u later hscenes

end Program

/-! ## What a call does to the services -/

namespace Services

variable {v : Services} {t : Occasion} {c : Call}

theorem meet_agrees (v : Services) (t : Occasion) (hc : c ≠ .freshTransactionId) :
    World.Agrees v c (v.meet t c) := by
  cases c with
  | orders r =>
      obtain ⟨hallows, hafter⟩ := (v.around t).orders.serve_agrees v.ledger.get?
        ((v.around t).readClock).1 r
      exact ⟨hallows, hafter.symm⟩
  | ledger r =>
      obtain ⟨hallows, hafter⟩ := (v.around t).ledger.serve_agrees v.orders.get?
        ((v.around t).readClock).1 r
      exact ⟨hallows, hafter.symm⟩
  | freshTransactionId => exact absurd rfl hc
  | submit n =>
      refine ⟨trivial, ?_⟩
      show (Services.submitJob _ _).books = _
      unfold Services.submitJob Services.takeSlot
      cases (v.around t).pool.submit? <;> rfl
  | _ => exact ⟨trivial, rfl⟩

/-- A call leaves the books as they are, also where it fails, or as an answer leaves them that agrees
with them. -/
theorem undergo_books (v : Services) (t : Occasion) (c : Call) :
    (v.undergo t c).2.books = v.books ∨
      ∃ x, v.books.Allows c x ∧ (v.undergo t c).2.books = v.books.after ⟨c, x⟩ := by
  by_cases hc : c = .freshTransactionId
  · subst hc
    refine .inl ?_
    unfold undergo
    cases t.fault <;> rfl
  · obtain ⟨hallows, hafter⟩ := v.meet_agrees t hc
    rcases undergo_cases t c with hmet | ⟨refusal, hserved | haround⟩
    · rw [hmet]
      exact .inr ⟨_, hallows, hafter⟩
    · rw [hserved]
      exact .inr ⟨_, hallows, hafter⟩
    · rw [haround]
      exact .inl rfl

theorem books_of_idle (v : Services) (t : Occasion) (hidle : c.writes = false) :
    (v.undergo t c).2.books = v.books := by
  obtain ⟨horders, hledger, -, -⟩ := v.unwritten_undergo (t := t) hidle
  unfold books
  rw [horders, hledger]

/-- A call whose answer is no refusal is met. -/
theorem undergo_eq_meet {x : c.Answer} (hanswer : (v.undergo t c).1 = x)
    (hx : ∀ e, c.refusal? e ≠ some x) : v.undergo t c = v.meet t c := by
  subst hanswer
  unfold undergo at hx ⊢
  cases hfault : t.fault with
  | none => rfl
  | some fault =>
      simp only [hfault] at hx ⊢
      cases hrefusal : c.refusal? fault.error with
      | none => rfl
      | some refusal =>
          have hother := hx fault.error
          simp [hrefusal] at hother

/-- An answer that is no refusal agrees with the books. -/
theorem undergo_agrees {x : c.Answer} (hanswer : (v.undergo t c).1 = x)
    (hx : ∀ e, c.refusal? e ≠ some x) (hc : c ≠ .freshTransactionId) :
    v.books.Allows c x ∧ (v.undergo t c).2.books = v.books.after ⟨c, x⟩ := by
  have hmet := undergo_eq_meet hanswer hx
  rw [hmet] at hanswer ⊢
  subst hanswer
  exact v.meet_agrees t hc

/-- What the order store answers without an error agrees with the books. -/
theorem undergo_orders {r : OrderStore.Request} {x : r.Result}
    (h : (v.undergo t (.orders r)).1 = .ok x) :
    v.books.Allows (.orders r) (.ok x) ∧
      (v.undergo t (.orders r)).2.books = v.books.after ⟨.orders r, .ok x⟩ :=
  undergo_agrees h nofun nofun

/-- What the ledger answers without an error agrees with the books. -/
theorem undergo_ledger {r : Ledger.Request} {x : Transaction}
    (h : (v.undergo t (.ledger r)).1 = .ok x) :
    v.books.Allows (.ledger r) (.ok x) ∧
      (v.undergo t (.ledger r)).2.books = v.books.after ⟨.ledger r, .ok x⟩ :=
  undergo_agrees h nofun nofun

/-- A voucher that is used is a registered one, and it takes off its value, at most the amount. -/
theorem undergo_useVoucher {code trace : String} {user : UserId} {amount : Money} {d : Discount}
    (h : (v.undergo t (.promotion (.useVoucher code user trace amount))).1 = .ok d) :
    ∃ value, v.promotion.vouchers.get? code = some value ∧ d.amount = value.least amount := by
  rw [undergo_eq_meet h nofun] at h
  have h : (settled v.promotion (v.promotion.useVoucher code trace amount)).1 = .ok d := h
  unfold Promotion.useVoucher at h
  cases hvalue : v.promotion.vouchers.get? code with
  | none =>
      rw [hvalue] at h
      cases h
  | some value =>
      rw [hvalue] at h
      cases h
      exact ⟨value, rfl, rfl⟩

/-- No call changes which vouchers are registered. -/
theorem undergo_vouchers (v : Services) (t : Occasion) (c : Call) :
    (v.undergo t c).2.promotion.vouchers = v.promotion.vouchers := by
  have hmeet : (v.meet t c).2.promotion.vouchers = v.promotion.vouchers := by
    cases c with
    | promotion r =>
        cases r with
        | useVoucher code user trace amount =>
            show (settled v.promotion (v.promotion.useVoucher code trace amount)).2.vouchers = _
            unfold Promotion.useVoucher
            cases v.promotion.vouchers.get? code <;> rfl
        | reverse trace =>
            show (v.promotion.reverse trace).vouchers = _
            unfold Promotion.reverse
            cases v.promotion.usages.get? trace <;> rfl
    | submit n =>
        show (Services.submitJob _ _).promotion.vouchers = _
        unfold Services.submitJob Services.takeSlot
        cases (v.around t).pool.submit? <;> rfl
    | _ => rfl
  rcases undergo_cases t c with hmet | ⟨refusal, hserved | haround⟩
  · rw [hmet]
    exact hmeet
  · rw [hserved]
    exact hmeet
  · rw [haround]
    rfl

end Services

end Wallet
