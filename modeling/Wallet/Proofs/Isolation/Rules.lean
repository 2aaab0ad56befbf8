import Wallet.Proofs.Isolation.Calls

/-!
# Programs run side by side

Run from services in step, the two programs make as many calls, end with related values and leave the
services in step. `Together` says so of programs, `Pairs` of actions over the state of a flow, and
`Agrees` of parts that may fail. There is one rule for each way of building a part and one for each call;
`Leads` and `Reaches` are for parts that make identifiers of the call.
-/

namespace Wallet.Pairing

open StepM

variable {α β α' β' : Type} {ρ ρ' : Pairing} {R : α → β → Prop} {S : α' → β' → Prop}

/-- How two runs have ended: the value, the number of calls so far, and the services of each. -/
structure Ends (ρ : Pairing) (R : α → β → Prop) (l : α × Nat × Services) (r : β × Nat × Services) :
    Prop where
  value : R l.1 r.1
  calls : l.2.1 = r.2.1
  services : ρ.InStep l.2.2 r.2.2

/-! ## Programs -/

/-- Run from services in step, the two programs end so as well. -/
def Together (ρ : Pairing) (x : Program α) (y : Program β) (R : α → β → Prop) : Prop :=
  ∀ n {v u}, ρ.InStep v u → ρ.Ends R (ρ.left.run x (n, v)) (ρ.right.run y (n, u))

theorem together_pure {a : α} {b : β} (h : R a b) : ρ.Together (pure a) (pure b) R :=
  fun _ _ _ hstep => ⟨h, rfl, hstep⟩

theorem together_request {c c' : Call} {S : c.Answer → c'.Answer → Prop} (h : ρ.Answered c c' S) :
    ρ.Together (.request c) (.request c') S :=
  fun n _ _ hstep => ⟨(h n hstep).1, rfl, (h n hstep).2⟩

theorem together_bind {x : Program α} {y : Program β} {f : α → Program α'} {g : β → Program β'}
    (h : ρ.Together x y R) (hnext : ∀ a b, R a b → ρ.Together (f a) (g b) S) :
    ρ.Together (x >>= f) (y >>= g) S := by
  intro n v u hstep
  have hfirst := h n hstep
  rw [Schedule.run_bind, Schedule.run_bind]
  generalize ρ.left.run x (n, v) = l at hfirst ⊢
  generalize ρ.right.run y (n, u) = r at hfirst ⊢
  obtain ⟨a, m, v⟩ := l
  obtain ⟨b, m', u⟩ := r
  obtain ⟨hvalue, hcalls, hstep⟩ := hfirst
  cases hcalls
  exact hnext a b hvalue m hstep

/-! ## Actions -/

/-- From the same state of the flow the two actions go on together and leave the same state. -/
def Pairs (ρ : Pairing) (x : FlowM α) (y : FlowM β) (R : α → β → Prop) : Prop :=
  ∀ s t, ρ.SameState s t →
    ρ.Together (x.run s) (y.run t) fun r r' => R r.1 r'.1 ∧ ρ.SameState r.2 r'.2

theorem pairs_pure {a : α} {b : β} (h : R a b) : ρ.Pairs (pure a) (pure b) R :=
  fun _ _ hstate => together_pure ⟨h, hstate⟩

theorem pairs_bind {x : FlowM α} {y : FlowM β} {f : α → FlowM α'} {g : β → FlowM β'}
    (h : ρ.Pairs x y R) (hnext : ∀ a b, R a b → ρ.Pairs (f a) (g b) S) :
    ρ.Pairs (x >>= f) (y >>= g) S :=
  fun _ _ hstate => together_bind (h _ _ hstate) fun r r' hr => hnext r.1 r'.1 hr.1 _ _ hr.2

theorem pairs_modify {f g : FlowState → FlowState}
    (h : ∀ s t, ρ.SameState s t → ρ.SameState (f s) (g t)) : ρ.Pairs (modify f) (modify g) Eq :=
  fun _ _ hstate => together_pure ⟨rfl, h _ _ hstate⟩

theorem pairs_lift {x : Program α} {y : Program β} (h : ρ.Together x y R) :
    ρ.Pairs (StateT.lift x) (StateT.lift y) R :=
  fun _ _ hstate => together_bind h fun _ _ hvalue => together_pure ⟨hvalue, hstate⟩

/-! ## Parts that may fail -/

/-- The two parts go on together and end with related values or with the same error. -/
def Agrees (ρ : Pairing) (x : StepM α) (y : StepM β) (R : α → β → Prop) : Prop :=
  ρ.Pairs x.run y.run (Matched ρ.SameFlowError R)

theorem agrees_pure {a : α} {b : β} (h : R a b) : ρ.Agrees (pure a) (pure b) R :=
  pairs_pure (.ok h)

theorem agrees_throw {e e' : FlowError} (h : ρ.SameFlowError e e') :
    ρ.Agrees (throw e) (throw e') R :=
  pairs_pure (.error h)

theorem agrees_bind {x : StepM α} {y : StepM β} {f : α → StepM α'} {g : β → StepM β'}
    (h : ρ.Agrees x y R) (hnext : ∀ a b, R a b → ρ.Agrees (f a) (g b) S) :
    ρ.Agrees (x >>= f) (y >>= g) S := by
  refine pairs_bind h fun r r' hr => ?_
  cases hr with
  | ok hvalue => exact hnext _ _ hvalue
  | error herror => exact pairs_pure (.error herror)

theorem agrees_tryCatch {x y : StepM α} {handle handle' : FlowError → StepM α}
    {R : α → α → Prop} (h : ρ.Agrees x y R)
    (hhandle : ∀ e e', ρ.SameFlowError e e' → ρ.Agrees (handle e) (handle' e') R) :
    ρ.Agrees (tryCatch x handle) (tryCatch y handle') R := by
  show ρ.Pairs (ExceptT.tryCatch x handle).run (ExceptT.tryCatch y handle').run _
  unfold ExceptT.tryCatch
  show ρ.Pairs (x.run >>= _) (y.run >>= _) _
  refine pairs_bind h fun r r' hr => ?_
  cases hr with
  | ok hvalue => exact pairs_pure (.ok hvalue)
  | error herror => exact hhandle _ _ herror

theorem agrees_get : ρ.Agrees get get ρ.SameState :=
  fun _ _ hstate => together_pure ⟨.ok hstate, hstate⟩

theorem agrees_modify {f g : FlowState → FlowState}
    (h : ∀ s t, ρ.SameState s t → ρ.SameState (f s) (g t)) :
    ρ.Agrees (modify f) (modify g) Eq :=
  fun _ _ hstate => together_pure ⟨.ok rfl, h _ _ hstate⟩

theorem agrees_perform {x : Program α} {y : Program β} (h : ρ.Together x y R) :
    ρ.Agrees (perform x) (perform y) R :=
  pairs_bind (pairs_lift h) fun _ _ hvalue => pairs_pure (.ok hvalue)

theorem agrees_ask {x : Program (Except ServiceError α)} {y : Program (Except ServiceError β)}
    (h : ρ.Together x y (Matched ρ.SameServiceError R)) : ρ.Agrees (ask x) (ask y) R :=
  pairs_bind (pairs_lift h) fun _ _ hanswer =>
    pairs_pure (hanswer.mapError fun _ _ => .service)

theorem agrees_accept {x y : Except OrderError Order} (h : Matched Eq ρ.SameOrder x y) :
    ρ.Agrees (accept x) (accept y) ρ.SameOrder :=
  pairs_pure (h.mapError fun _ _ he => he ▸ .same _)

theorem agrees_now : ρ.Agrees (perform .now) (perform .now) ρ.SameReading :=
  agrees_perform (together_request answered_now)

/-! ### The state of the flow -/

theorem agrees_request : ρ.Agrees request request Eq := by
  refine agrees_bind agrees_get fun s t hstate => ?_
  rw [hstate.request]
  cases t.request with
  | none => exact agrees_throw (.same _)
  | some r => exact agrees_pure rfl

theorem agrees_order : ρ.Agrees StepM.order StepM.order ρ.SameOrder := by
  refine agrees_bind agrees_get fun s t hstate => ?_
  have horder := hstate.order
  generalize s.order = x at horder ⊢
  generalize t.order = y at horder ⊢
  cases horder with
  | none => exact agrees_throw (.same _)
  | some horder => exact agrees_pure horder

theorem agrees_transactionId :
    ρ.Agrees transactionId transactionId fun a b => ρ.record = some (a, b) := by
  refine agrees_bind agrees_order fun o o' ho => ?_
  have hlink := ho.link
  generalize o.transactionId = x at hlink ⊢
  generalize o'.transactionId = y at hlink ⊢
  cases hlink with
  | none => exact agrees_throw (.same _)
  | some hlink => exact agrees_pure hlink

section

variable {o o' : Order}

theorem agrees_keep (ho : ρ.SameOrder o o') : ρ.Agrees (keep o) (keep o') Eq :=
  agrees_modify fun _ _ hstate => { hstate with order := .some ho }

theorem agrees_store (ho : ρ.SameOrder o o') : ρ.Agrees (store o) (store o') Eq :=
  agrees_bind (agrees_ask (together_request (answered_replace ho))) fun _ _ ho => agrees_keep ho

theorem agrees_notify (kind : NotificationKind) (message message' : String) :
    ρ.Agrees (notify o kind message) (notify o' kind message') Eq :=
  agrees_perform (together_request (answered_submit _ _))

end

/-! ## Actions that make identifiers -/

/-- From the same state the two actions go on together, and leave the same state once more
identifiers of the call are known. -/
def Leads (ρ : Pairing) (x : FlowM α) (y : FlowM β) (R : Pairing → α → β → Prop) : Prop :=
  ∀ s t, ρ.SameState s t → ∀ n {v u}, ρ.InStep v u → ∃ ρ', ρ.Grows ρ' ∧
    ρ'.Ends (fun r r' => R ρ' r.1 r'.1 ∧ ρ'.SameState r.2 r'.2) (ρ.left.run (x.run s) (n, v))
      (ρ.right.run (y.run t) (n, u))

theorem leads_of_pairs {x : FlowM α} {y : FlowM β} {Q : Pairing → α → β → Prop}
    (h : ρ.Pairs x y R) (hvalues : ∀ a b, R a b → Q ρ a b) : ρ.Leads x y Q := by
  intro s t hstate n v u hstep
  have hends := h s t hstate n hstep
  exact ⟨ρ, .refl ρ, ⟨hvalues _ _ hends.value.1, hends.value.2⟩, hends.calls, hends.services⟩

theorem leads_pure {a : α} {b : β} {Q : Pairing → α → β → Prop} (h : Q ρ a b) :
    ρ.Leads (pure a) (pure b) Q :=
  fun _ _ hstate _ _ _ hstep => ⟨ρ, .refl ρ, ⟨h, hstate⟩, rfl, hstep⟩

theorem leads_bind {x : FlowM α} {y : FlowM β} {f : α → FlowM α'} {g : β → FlowM β'}
    {Q : Pairing → α → β → Prop} {Q' : Pairing → α' → β' → Prop} (h : ρ.Leads x y Q)
    (hnext : ∀ ρ' a b, ρ.Grows ρ' → Q ρ' a b → ρ'.Leads (f a) (g b) Q') :
    ρ.Leads (x >>= f) (y >>= g) Q' := by
  intro s t hstate n v u hstep
  obtain ⟨ρ', hgrows, hfirst⟩ := h s t hstate n hstep
  rw [StateT.run_bind, StateT.run_bind, Schedule.run_bind, Schedule.run_bind]
  generalize ρ.left.run (x.run s) (n, v) = l at hfirst ⊢
  generalize ρ.right.run (y.run t) (n, u) = r at hfirst ⊢
  obtain ⟨⟨a, s⟩, m, v⟩ := l
  obtain ⟨⟨b, t⟩, m', u⟩ := r
  obtain ⟨⟨hvalue, hstate⟩, hcalls, hstep⟩ := hfirst
  cases hcalls
  obtain ⟨ρ'', hgrows', hends⟩ := hnext ρ' a b hgrows hvalue s t hstate m hstep
  refine ⟨ρ'', hgrows.trans hgrows', ?_⟩
  rw [← hgrows.left, ← hgrows.right]
  exact hends

theorem leads_bind_pairs {x : FlowM α} {y : FlowM β} {f : α → FlowM α'} {g : β → FlowM β'}
    {Q : Pairing → α' → β' → Prop} (h : ρ.Pairs x y R)
    (hnext : ∀ a b, R a b → ρ.Leads (f a) (g b) Q) : ρ.Leads (x >>= f) (y >>= g) Q := by
  refine leads_bind (leads_of_pairs (Q := fun ρ' a b => ρ' = ρ ∧ R a b) h
    fun _ _ hvalues => ⟨rfl, hvalues⟩) ?_
  rintro _ a b - ⟨rfl, hvalues⟩
  exact hnext a b hvalues

/-- The two actions go on together and end with the same error, if with any, once identifiers of the
call are known of which `P` holds. -/
def LeadsTo (ρ : Pairing) (P : Pairing → Prop) (x y : FlowM (Except FlowError Unit)) : Prop :=
  ρ.Leads x y fun ρ' r r' => P ρ' ∧ Matched ρ'.SameFlowError Eq r r'

/-- The same for two parts. -/
def Reaches (ρ : Pairing) (x y : StepM Unit) (P : Pairing → Prop) : Prop :=
  ρ.Leads x.run y.run fun ρ' r r' => P ρ' ∧ Matched ρ'.SameFlowError Eq r r'

theorem reaches_of_agrees {x y : StepM Unit} {P : Pairing → Prop} (h : ρ.Agrees x y Eq)
    (hP : P ρ) : ρ.Reaches x y P :=
  leads_of_pairs h fun _ _ hr => ⟨hP, hr⟩

theorem reaches_bind {x : StepM α} {y : StepM β} {f : α → StepM Unit} {g : β → StepM Unit}
    {P : Pairing → Prop} (h : ρ.Agrees x y R) (hP : P ρ)
    (hnext : ∀ a b, R a b → ρ.Reaches (f a) (g b) P) : ρ.Reaches (x >>= f) (y >>= g) P := by
  refine leads_bind_pairs h fun r r' hr => ?_
  cases hr with
  | ok hvalue => exact hnext _ _ hvalue
  | error herror => exact leads_pure ⟨hP, .error herror⟩

/-- A call whose answers may become identifiers of the call. -/
theorem reaches_call {c c' : Call} {A : c.Answer → c'.Answer → Prop} {f : c.Answer → StepM Unit}
    {g : c'.Answer → StepM Unit} {P : Pairing → Prop} (h : ρ.Answered c c' A)
    (hnext : ∀ a b, A a b → ∀ {v u}, ρ.InStep v u →
      ∃ ρ', ρ.Grows ρ' ∧ ρ'.InStep v u ∧ ρ'.Reaches (f a) (g b) P) :
    ρ.Reaches (perform (.request c) >>= f) (perform (.request c') >>= g) P := by
  intro s t hstate n v u hstep
  obtain ⟨hanswer, hstep⟩ := h n hstep
  obtain ⟨ρ', hgrows, hstep, hrest⟩ := hnext _ _ hanswer hstep
  obtain ⟨ρ'', hgrows', hends⟩ := hrest s t (hstate.grow hgrows) (n + 1) hstep
  refine ⟨ρ'', hgrows.trans hgrows', ?_⟩
  rw [hgrows.left, hgrows.right] at hends
  exact hends

end Wallet.Pairing
