import Wallet.Proofs.Figures.Scenes
import Wallet.Proofs.Flow.Endures

/-!
# Terms

Terms say of a flow which calls it may make and what it holds of its order and of the services all the
while. They are made so that every write that ends a flow or undoes it complies with them: the order
that is written is the one the flow has or the one that is stored, and it has been closed or marked,
which the terms have to bear. `Keeps` says that a part complies with the terms, and of which kind its
value is; there is one rule for each way of building a part.
-/

namespace Wallet

/-- The call is neither to the bank, nor does it register anything, use a voucher or write an
order. -/
def Call.isRoutine : Call → Bool
  | .orders (.find _) | .orders (.findExpired _ _) => true
  | .orders _ | .ledger (.init _) | .promotion (.useVoucher _ _ _ _) | .bank _ => false
  | _ => true

/-- What a flow keeps to. -/
structure Terms where
  kind : FlowKind
  request : Option PaymentRequest
  /-- Under which identifier the order of the flow is stored, as far as that is known. -/
  known : OrderId → Prop
  /-- What is said of the order of the flow. -/
  order : Order → Prop
  /-- What is said of the services. -/
  services : Services → Prop
  permits : Call → Prop
  knows : ∀ {o}, order o → known o.id
  closes : ∀ {o o'}, order o → o.Closes o' → order o'
  marks : ∀ {o o'}, order o → o.Marks o' → order o'
  replaces : ∀ {o}, order o → permits (.orders (.replace o))
  routine : ∀ {c}, c.isRoutine = true → permits c
  kept : ∀ {v c} (t : Occasion), services v → permits c → services (v.undergo t c).2
  found : ∀ {v id o} (t : Occasion), services v → known id →
    (v.undergo t (.orders (.find id))).1 = .ok (some o) → order o

namespace Terms

/-- A call complies with the terms, and so do the services that it finds. -/
def guard (T : Terms) (c : Call) (v : Services) : Prop := T.services v ∧ T.permits c

/-- The state of a flow complies with the terms. -/
structure State (T : Terms) (s : FlowState) : Prop where
  kind : s.kind = T.kind
  request : s.request = T.request
  resume : ∀ id, s.resume = some id → T.known id
  order : ∀ o, s.order = some o → T.order o

/-- The part complies with the terms in each of its scenes and at its end, and if it does not fail it
has a value that satisfies `R`. -/
def Keeps (T : Terms) {α : Type} (x : StepM α) (R : α → Prop) : Prop :=
  ∀ s v, T.State s → T.services v → (x.run.run s).Guarded T.guard v fun r v =>
    (T.State r.2 ∧ T.services v) ∧ ∀ a, r.1 = .ok a → R a

/-- The part complies with the terms in each of its scenes and at its end. -/
def Maintains (T : Terms) {α : Type} (x : FlowM α) : Prop :=
  ∀ s v, T.State s → T.services v → (x.run s).Guarded T.guard v fun r v =>
    T.State r.2 ∧ T.services v

variable {T : Terms} {α β : Type} {s : FlowState} {v : Services} {o o' : Order}

theorem State.withOrder (h : T.State s) (ho : T.order o) : T.State { s with order := some o } where
  kind := h.kind
  request := h.request
  resume := h.resume
  order := by
    rintro _ ⟨⟩
    exact ho

/-! ## Rules -/

theorem Keeps.mono {x : StepM α} {P R : α → Prop} (h : T.Keeps x P) (hPR : ∀ a, P a → R a) :
    T.Keeps x R :=
  fun s v hs hv => (h s v hs hv).mono fun _ _ hend =>
    ⟨hend.1, fun a ha => hPR a (hend.2 a ha)⟩

theorem keeps_pure {a : α} {R : α → Prop} (h : R a) : T.Keeps (pure a) R := by
  intro s v hs hv
  refine ⟨⟨hs, hv⟩, ?_⟩
  rintro _ ⟨⟩
  exact h

theorem keeps_throw (e : FlowError) (R : α → Prop) : T.Keeps (throw e) R :=
  fun _ _ hs hv => ⟨⟨hs, hv⟩, nofun⟩

theorem keeps_bind {x : StepM α} {f : α → StepM β} {P : α → Prop} {R : β → Prop}
    (hx : T.Keeps x P) (hf : ∀ a, P a → T.Keeps (f a) R) : T.Keeps (x >>= f) R := by
  intro s v hs hv
  rw [ExceptT.run_bind, StateT.run_bind, Program.guarded_bind]
  refine (hx s v hs hv).mono ?_
  rintro ⟨r, s'⟩ w ⟨⟨hs, hv⟩, hvalue⟩
  cases r with
  | ok a => exact hf a (hvalue a rfl) s' w hs hv
  | error e => exact ⟨⟨hs, hv⟩, nofun⟩

theorem keeps_tryCatch {x : StepM α} {handle : FlowError → StepM α} {R : α → Prop}
    (hx : T.Keeps x R) (hhandle : ∀ e, T.Keeps (handle e) R) : T.Keeps (tryCatch x handle) R := by
  intro s v hs hv
  show ((ExceptT.tryCatch x handle).run.run s).Guarded T.guard v _
  unfold ExceptT.tryCatch
  show ((x.run >>= _).run s).Guarded T.guard v _
  rw [StateT.run_bind, Program.guarded_bind]
  refine (hx s v hs hv).mono ?_
  rintro ⟨r, s'⟩ w ⟨⟨hs, hv⟩, hvalue⟩
  cases r with
  | ok a => exact ⟨⟨hs, hv⟩, hvalue⟩
  | error e => exact hhandle e s' w hs hv

theorem keeps_get : T.Keeps get T.State := by
  intro s v hs hv
  refine ⟨⟨hs, hv⟩, ?_⟩
  rintro _ ⟨⟩
  exact hs

theorem keeps_modify {f : FlowState → FlowState} (h : ∀ s, T.State s → T.State (f s)) :
    T.Keeps (modify f) fun _ => True :=
  fun s _ hs hv => ⟨⟨h s hs, hv⟩, fun _ _ => trivial⟩

theorem keeps_keep (ho : T.order o) : T.Keeps (StepM.keep o) fun _ => True :=
  keeps_modify fun _ hs => hs.withOrder ho

theorem keeps_accept {change : Except OrderError Order} {R : Order → Prop}
    (h : ∀ o, change = .ok o → R o) : T.Keeps (StepM.accept change) R := by
  intro s v hs hv
  refine ⟨⟨hs, hv⟩, ?_⟩
  intro o ho
  cases change with
  | ok changed =>
      cases ho
      exact h o rfl
  | error e => cases ho

theorem keeps_request : T.Keeps StepM.request fun r => T.request = some r := by
  refine keeps_bind keeps_get fun s hs => ?_
  rw [hs.request]
  cases T.request with
  | none => exact keeps_throw _ _
  | some r => exact keeps_pure rfl

theorem keeps_order : T.Keeps StepM.order T.order := by
  refine keeps_bind keeps_get fun s hs => ?_
  cases horder : s.order with
  | none => exact keeps_throw _ _
  | some o => exact keeps_pure (hs.order o horder)

theorem keeps_transactionId : T.Keeps StepM.transactionId fun _ => True := by
  refine keeps_bind keeps_order fun o _ => ?_
  cases o.transactionId with
  | none => exact keeps_throw _ _
  | some id => exact keeps_pure trivial

/-! ## Calls -/

theorem keeps_perform {c : Call} {R : c.Answer → Prop} (hc : T.permits c)
    (hanswer : ∀ v t, T.services v → R (v.undergo t c).1) :
    T.Keeps (StepM.perform (Program.request c)) R := by
  intro s v hs hv
  refine ⟨⟨hv, hc⟩, fun t => ⟨⟨hs, T.kept t hv hc⟩, ?_⟩⟩
  rintro _ ⟨⟩
  exact hanswer v t hv

theorem keeps_permitted {c : Call} (hc : T.permits c) :
    T.Keeps (StepM.perform (Program.request c)) fun _ => True :=
  keeps_perform hc fun _ _ _ => trivial

theorem keeps_routine {c : Call} (hc : c.isRoutine = true) :
    T.Keeps (StepM.perform (Program.request c)) fun _ => True :=
  keeps_permitted (T.routine hc)

/-- A request whose refusal fails the part. -/
theorem keeps_ask {p : Program (Except ServiceError α)} {R : α → Prop}
    (h : T.Keeps (StepM.perform p) fun x => ∀ a, x = .ok a → R a) : T.Keeps (StepM.ask p) R := by
  intro s v hs hv
  -- both go through the scenes of `p`; only what they make of its value differs
  have hperform : (StepM.perform p).run.run s = p >>= fun x => pure (.ok x, s) := by
    simp [StepM.perform]
  have hask : (StepM.ask p).run.run s = p >>= fun x => pure (x.mapError .service, s) := by
    simp [StepM.ask]
  have h := h s v hs hv
  rw [hperform, Program.guarded_bind] at h
  rw [hask, Program.guarded_bind]
  refine h.mono ?_
  rintro x w ⟨hat, hvalue⟩
  refine ⟨hat, ?_⟩
  rintro a ha
  cases x with
  | ok b =>
      cases ha
      exact hvalue _ rfl a rfl
  | error e => cases ha

theorem keeps_askRoutine {p : Program (Except ServiceError α)}
    (h : T.Keeps (StepM.perform p) fun _ => True) : T.Keeps (StepM.ask p) fun _ => True :=
  keeps_ask (h.mono fun _ _ _ _ => trivial)

theorem keeps_now : T.Keeps (StepM.perform .now) fun _ => True := keeps_routine rfl

theorem keeps_notify (o : Order) (kind : NotificationKind) (message : String) :
    T.Keeps (StepM.notify o kind message) fun _ => True :=
  keeps_routine rfl

theorem keeps_find {id : OrderId} (hid : T.known id) :
    T.Keeps (StepM.ask (.orders (.find id)) : StepM (Option Order))
      fun found => ∀ o, found = some o → T.order o := by
  refine keeps_ask (keeps_perform (T.routine rfl) ?_)
  intro v t hv found hfound o ho
  rw [ho] at hfound
  exact T.found t hv hid hfound

theorem keeps_stored {id : OrderId} (hid : T.known id) : T.Keeps (Flow.stored id) T.order := by
  refine keeps_bind (keeps_find hid) fun found hfound => ?_
  cases found with
  | none => exact keeps_throw _ _
  | some o' => exact keeps_pure (hfound o' rfl)

theorem keeps_replace (ho : T.order o) :
    T.Keeps (StepM.perform (.orders (.replace o)) : StepM (Except ServiceError Order))
      fun x => ∀ o', x = .ok o' → T.order o' := by
  refine keeps_perform (T.replaces ho) ?_
  intro v t _ o' ho'
  obtain ⟨hreplaces, -⟩ := Services.undergo_orders ho'
  obtain rfl : o' = o := hreplaces.1
  exact ho

theorem keeps_store (ho : T.order o) : T.Keeps (StepM.store o) fun _ => True :=
  keeps_bind (keeps_ask (keeps_replace ho)) fun _ ho' => keeps_keep ho'

end Terms

end Wallet
