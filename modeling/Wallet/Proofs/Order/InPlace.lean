import Wallet.Proofs.Changes
import Wallet.Proofs.Store.Basic

/-!
# Orders that change in place

An order is changed by assigning its fields one after the other, and an error stops the change where
it is. Every check stands before the first assignment, so a change that is refused has assigned
nothing: changing in place is making the change and keeping the old order where there is no new one
(`InPlace.perform_run`). From there the life of an order is a walk along five kinds of steps
(`Order.Step`), and what holds of every order and of every pair of moments in its life is shown once
for each of them.
-/

namespace Wallet

/-! ## Changes as assignments -/

/-- What changes an order in place. What has been assigned before an error stays assigned. -/
abbrev InPlace : Type → Type := ExceptT OrderError (StateM Order)

namespace InPlace

def transition (next : OrderStatus) (now : Timestamp) : InPlace Unit := do
  let status := (← get).status
  if status.canTransitionTo next then
    modify fun o => { o with status := next }
    modify fun o => { o with awaitingOtp := false }
    modify fun o => { o with updatedAt := now }
  else throw (.invalidTransition status next)

def transitionFor (next : OrderStatus) (reason : String) (now : Timestamp) : InPlace Unit := do
  transition next now
  modify fun o => { o with failReason := some reason }

def settle (success : Bool) (reason : Option String) (now : Timestamp) : InPlace Unit := do
  let next : OrderStatus := if success then .success else .failed
  let status := (← get).status
  if status.isUnresolved then
    modify fun o => { o with status := next }
    modify fun o => { o with awaitingOtp := false }
    modify fun o => { o with updatedAt := now }
    if !success then modify fun o => { o with failReason := reason }
  else throw (.invalidTransition status next)

def expire (reason : String) (now : Timestamp) : InPlace Unit := do
  settle false (some reason) now
  modify fun o => { o with isExpired := true }

def markAwaitingOtp (now : Timestamp) : InPlace Unit := do
  let status := (← get).status
  if status = .processing then
    modify fun o => { o with awaitingOtp := true }
    modify fun o => { o with updatedAt := now }
  else throw (.invalidTransition status .processing)

def linkTransaction (id : TransactionId) (now : Timestamp) : InPlace Unit := do
  match (← get).transactionId with
  | some existing =>
      if existing ≠ id then throw (.alreadyLinked existing)
      else
        modify fun o => { o with transactionId := some id }
        modify fun o => { o with updatedAt := now }
  | none =>
      modify fun o => { o with transactionId := some id }
      modify fun o => { o with updatedAt := now }

/-- Makes a change in place. -/
def perform (now : Timestamp) : OrderChange → InPlace Unit
  | .startProcessing => transition .processing now
  | .succeed => transition .success now
  | .fail reason => transitionFor .failed reason now
  | .cancel reason => transitionFor .cancelled reason now
  | .markVerifying reason => transitionFor .verifying reason now
  | .settle success reason => settle success reason now
  | .expire reason => expire reason now
  | .markAwaitingOtp => markAwaitingOtp now
  | .markRetrieved => do
      modify fun o => { o with isRetrieved := true }
      modify fun o => { o with updatedAt := now }
  | .linkTransaction id => linkTransaction id now
  | .setBankTraceId traceId => do
      modify fun o => { o with bankTraceId := some traceId }
      modify fun o => { o with updatedAt := now }

/-- Fails the order in place unless it is verifying or resolved already, and tells whether it did.
-/
def failUnlessResolved (reason : String) (now : Timestamp) : StateM Order Bool := do
  let o ← get
  if o.isVerifying || o.isTerminal then return false
  return (← (perform now (.fail reason)).run).isOk

/-! ### In place and as values -/

variable {α β : Type} {o : Order} {now : Timestamp}

/-- What a change in place answers, and the order as it is then. -/
def on (x : InPlace α) (o : Order) : Except OrderError α × Order := x.run.run o

@[simp] theorem on_get : (get : InPlace Order).on o = (.ok o, o) := rfl

@[simp] theorem on_modify (f : Order → Order) : (modify f : InPlace Unit).on o = (.ok (), f o) := rfl

@[simp] theorem on_throw (e : OrderError) : (throw e : InPlace α).on o = (.error e, o) := rfl

@[simp] theorem on_pure (a : α) : (pure a : InPlace α).on o = (.ok a, o) := rfl

theorem on_bind (x : InPlace α) (f : α → InPlace β) (o : Order) :
    (x >>= f).on o = match x.on o with
      | (.ok a, o') => (f a).on o'
      | (.error e, o') => (.error e, o') := by
  simp only [on, ExceptT.run_bind, StateT.run_bind]
  rcases x.run.run o with ⟨_ | a, o'⟩ <;> rfl

/-- How a change ends in place when it gives an order or is refused: with the order it gives, or
with the one that was there. -/
def ending (o : Order) : Except OrderError Order → Except OrderError Unit × Order
  | .ok o' => (.ok (), o')
  | .error e => (.error e, o)

theorem transition_on (next : OrderStatus) :
    (transition next now).on o = ending o (o.transition next now) := by
  unfold transition Order.transition
  by_cases hcan : o.status.canTransitionTo next = true
  · simp [on_bind, hcan, ending]
  · simp [on_bind, hcan, ending]

theorem transitionFor_on (next : OrderStatus) (reason : String) :
    (transitionFor next reason now).on o = ending o (o.transitionFor next reason now) := by
  unfold transitionFor Order.transitionFor
  rw [on_bind, transition_on]
  cases o.transition next now <;> rfl

theorem settle_on (success : Bool) (reason : Option String) :
    (settle success reason now).on o = ending o (o.settle success reason now) := by
  unfold settle Order.settle
  by_cases hopen : o.status.isUnresolved = true
  · cases success <;> simp [on_bind, hopen, ending]
  · simp [on_bind, hopen, ending]

theorem expire_on (reason : String) :
    (expire reason now).on o = ending o (o.expire reason now) := by
  unfold expire Order.expire
  rw [on_bind, settle_on]
  cases o.settle false (some reason) now <;> rfl

theorem markAwaitingOtp_on :
    (markAwaitingOtp now).on o = ending o (o.markAwaitingOtp now) := by
  unfold markAwaitingOtp Order.markAwaitingOtp
  by_cases hprocessing : o.status = .processing
  · simp [on_bind, hprocessing, ending]
  · simp [on_bind, hprocessing, ending]

theorem linkTransaction_on (id : TransactionId) :
    (linkTransaction id now).on o = ending o (o.linkTransaction id now) := by
  unfold linkTransaction Order.linkTransaction
  rcases hlink : o.transactionId with _ | existing
  · simp [on_bind, hlink, ending]
  · by_cases hsame : existing = id
    · simp [on_bind, hlink, hsame, ending]
    · simp [on_bind, hlink, hsame, ending]

/-- A change in place gives the order that the change gives, and leaves an order alone that refuses
it. -/
theorem perform_on (c : OrderChange) :
    (perform now c).on o = ending o (o.apply now c) := by
  cases c with
  | startProcessing | succeed => exact transition_on _
  | fail reason | cancel reason | markVerifying reason => exact transitionFor_on _ reason
  | settle success reason => exact settle_on success reason
  | expire reason => exact expire_on reason
  | markAwaitingOtp => exact markAwaitingOtp_on
  | markRetrieved => rfl
  | linkTransaction id => exact linkTransaction_on id
  | setBankTraceId traceId => rfl

theorem failUnlessResolved_run (reason : String) :
    (failUnlessResolved reason now).run o = match o.failUnlessResolved? reason now with
      | some o' => (true, o')
      | none => (false, o) := by
  have hfailed : (perform now (.fail reason)).run.run o = ending o (o.fail reason now) :=
    perform_on (.fail reason)
  unfold failUnlessResolved Order.failUnlessResolved?
  by_cases hbarred : (o.isVerifying || o.isTerminal) = true
  · simp only [StateT.run_bind, StateT.run_get, pure_bind, if_pos hbarred]
    rfl
  · simp only [StateT.run_bind, StateT.run_get, pure_bind, if_neg hbarred, hfailed]
    cases o.fail reason now <;> rfl

end InPlace

/-! ## Steps -/

namespace OrderStatus

variable {status next : OrderStatus}

theorem forward_of_canTransitionTo (h : status.canTransitionTo next = true) :
    status.isTerminal = false ∧ status.rank < next.rank := by
  cases status <;> cases next <;> first | decide | cases h

theorem forward_of_isUnresolved (h : status.isUnresolved = true) (hnext : next.isTerminal = true) :
    status.isTerminal = false ∧ status.rank < next.rank := by
  cases next <;> cases hnext <;> cases status <;> first | decide | cases h

end OrderStatus

/-- What an order may be asked to change of itself: to make one of the changes, which may end in an
error, or to fail unless it is verifying or resolved. -/
inductive Mutator where
  | change (c : OrderChange)
  | failUnlessResolved (reason : String)

/-- A call of a mutator at an instant. -/
structure Mutation where
  now : Timestamp
  mutator : Mutator

namespace Order

/-- Whether an order takes a mutation, and the order as it is then. -/
def mutate (o : Order) (m : Mutation) : Bool × Order :=
  match m.mutator with
  | .change c => (((InPlace.perform m.now c).on o).1.isOk, ((InPlace.perform m.now c).on o).2)
  | .failUnlessResolved reason => (InPlace.failUnlessResolved reason m.now).run o

/-- The order after mutations, one after the other, those among them that it refuses included. -/
def after (o : Order) (mutations : List Mutation) : Order :=
  mutations.foldl (fun o m => (o.mutate m).2) o

/-- An order as it is made, with whatever provider, source of funds and sub type. -/
def Made (o : Order) : Prop :=
  ∃ id now userId type amount expiredAt provider sourceOfFund subType, o =
    { create id now userId type amount expiredAt with
      provider := provider, sourceOfFund := sourceOfFund, subType := subType }

/-- What a mutation that is taken may do. Only the first two change the status, and only of an order
that is not resolved. -/
inductive Step (o : Order) : Order → Prop
  | moved (next : OrderStatus) (reason : Option String) (now : Timestamp)
      (unresolved : o.isTerminal = false) (further : o.status.rank < next.rank) :
      Step o { o with status := next, awaitingOtp := false, updatedAt := now, failReason := reason }
  | expired (reason : Option String) (now : Timestamp)
      (unresolved : o.isTerminal = false) (further : o.status.rank < OrderStatus.failed.rank) :
      Step o { o with
        status := .failed, awaitingOtp := false, updatedAt := now, failReason := reason
        isExpired := true }
  | awaiting (now : Timestamp) (processing : o.status = .processing) :
      Step o { o with awaitingOtp := true, updatedAt := now }
  | linked (id : TransactionId) (now : Timestamp)
      (same : ∀ existing, o.transactionId = some existing → existing = id) :
      Step o { o with transactionId := some id, updatedAt := now }
  | noted (isRetrieved : Bool) (traceId : Option String) (now : Timestamp) :
      Step o { o with isRetrieved := isRetrieved, bankTraceId := traceId, updatedAt := now }

/-- What an order says of itself: it waits for a one-time password only while it is processing, and
if it has expired it has failed. -/
structure Sound (o : Order) : Prop where
  awaiting : o.awaitingOtp = true → o.status = .processing
  expired : o.isExpired = true → o.status = .failed

/-- An order and what has become of it. -/
structure Becomes (o o' : Order) : Prop where
  id : o'.id = o.id
  userId : o'.userId = o.userId
  amount : o'.amount = o.amount
  type : o'.type = o.type
  provider : o'.provider = o.provider
  expiredAt : o'.expiredAt = o.expiredAt
  linked : ∀ id, o.transactionId = some id → o'.transactionId = some id
  resolved : o.isTerminal = true →
    o'.status = o.status ∧ o'.failReason = o.failReason ∧ o'.isExpired = o.isExpired
  onward : o'.status = o.status ∨ o.isTerminal = false ∧ o.status.rank < o'.status.rank

variable {o o' o'' : Order} {now : Timestamp} {m : Mutation}

/-! ### One mutation -/

theorem step_of_apply {c : OrderChange} (h : o.apply now c = .ok o') : o.Step o' := by
  cases c with
  | startProcessing | succeed =>
      obtain ⟨hcan, rfl⟩ := transition_ok h
      obtain ⟨hopen, hfurther⟩ := OrderStatus.forward_of_canTransitionTo hcan
      exact .moved _ o.failReason now hopen hfurther
  | fail reason | cancel reason | markVerifying reason =>
      obtain ⟨hcan, rfl⟩ := transitionFor_ok h
      obtain ⟨hopen, hfurther⟩ := OrderStatus.forward_of_canTransitionTo hcan
      exact .moved _ (some reason) now hopen hfurther
  | settle success reason =>
      obtain ⟨hunresolved, rfl⟩ := settle_ok h
      have hended : (if success then OrderStatus.success else .failed).isTerminal = true := by
        cases success <;> rfl
      obtain ⟨hopen, hfurther⟩ := OrderStatus.forward_of_isUnresolved hunresolved hended
      exact .moved _ _ now hopen hfurther
  | expire reason =>
      obtain ⟨hunresolved, rfl⟩ := expire_ok h
      have hended : OrderStatus.failed.isTerminal = true := rfl
      obtain ⟨hopen, hfurther⟩ := OrderStatus.forward_of_isUnresolved hunresolved hended
      exact .expired (some reason) now hopen hfurther
  | markAwaitingOtp =>
      obtain ⟨hprocessing, rfl⟩ := markAwaitingOtp_ok h
      exact .awaiting now hprocessing
  | markRetrieved =>
      cases h
      exact .noted true o.bankTraceId now
  | linkTransaction id =>
      obtain ⟨hsame, rfl⟩ := linkTransaction_ok h
      exact .linked id now hsame
  | setBankTraceId traceId =>
      cases h
      exact .noted o.isRetrieved (some traceId) now

/-- A mutation is refused, and the order is as it was, or it takes a step. -/
theorem mutate_cases (o : Order) (m : Mutation) :
    o.mutate m = (false, o) ∨ ∃ o', o.mutate m = (true, o') ∧ o.Step o' := by
  obtain ⟨now, c | reason⟩ := m
  · simp only [mutate, InPlace.perform_on]
    cases hchanged : o.apply now c with
    | error e => exact .inl rfl
    | ok o' => exact .inr ⟨o', rfl, step_of_apply hchanged⟩
  · simp only [mutate, InPlace.failUnlessResolved_run]
    cases hfailed : o.failUnlessResolved? reason now with
    | none => exact .inl rfl
    | some o' =>
        obtain ⟨_, hopen, rfl⟩ := failUnlessResolved?_some hfailed
        have hunresolved := isUnresolved_of_not_isTerminal hopen
        have hended : OrderStatus.failed.isTerminal = true := rfl
        have hfurther := (OrderStatus.forward_of_isUnresolved hunresolved hended).2
        exact .inr ⟨_, rfl, .moved .failed (some reason) now hopen hfurther⟩

theorem Step.sound (h : o.Step o') (hsound : o.Sound) : o'.Sound := by
  have hexpired : o.isTerminal = false → o.isExpired = false := by
    intro hopen
    cases hflag : o.isExpired with
    | false => rfl
    | true =>
        rw [isTerminal, hsound.expired hflag] at hopen
        cases hopen
  cases h with
  | moved next reason now hopen _ =>
      refine ⟨nofun, fun hflag => ?_⟩
      rw [show o.isExpired = true from hflag] at hexpired
      cases hexpired hopen
  | expired _ _ _ _ => exact ⟨nofun, fun _ => rfl⟩
  | awaiting now hprocessing => exact ⟨fun _ => hprocessing, hsound.expired⟩
  | linked _ _ _ => exact ⟨hsound.awaiting, hsound.expired⟩
  | noted _ _ _ => exact ⟨hsound.awaiting, hsound.expired⟩

theorem Becomes.refl (o : Order) : o.Becomes o :=
  ⟨rfl, rfl, rfl, rfl, rfl, rfl, fun _ hid => hid, fun _ => ⟨rfl, rfl, rfl⟩, .inl rfl⟩

theorem Step.becomes (h : o.Step o') : o.Becomes o' := by
  cases h with
  | moved next reason now hopen hfurther =>
      refine { Becomes.refl o with resolved := fun hterminal => ?_, onward := .inr ⟨hopen, hfurther⟩ }
      rw [hopen] at hterminal
      cases hterminal
  | expired reason now hopen hfurther =>
      refine { Becomes.refl o with resolved := fun hterminal => ?_, onward := .inr ⟨hopen, hfurther⟩ }
      rw [hopen] at hterminal
      cases hterminal
  | awaiting _ _ => exact { Becomes.refl o with }
  | linked id now hsame =>
      exact { Becomes.refl o with
        linked := fun existing hlinked => congrArg some (hsame existing hlinked).symm }
  | noted _ _ _ => exact { Becomes.refl o with }

theorem Becomes.isTerminal (h : o.Becomes o') (hterminal : o.isTerminal = true) :
    o'.isTerminal = true := by
  unfold Order.isTerminal
  rw [(h.resolved hterminal).1]
  exact hterminal

theorem Becomes.trans (h : o.Becomes o') (h' : o'.Becomes o'') : o.Becomes o'' where
  id := h'.id.trans h.id
  userId := h'.userId.trans h.userId
  amount := h'.amount.trans h.amount
  type := h'.type.trans h.type
  provider := h'.provider.trans h.provider
  expiredAt := h'.expiredAt.trans h.expiredAt
  linked := fun id hid => h'.linked id (h.linked id hid)
  resolved := by
    intro hterminal
    obtain ⟨hstatus, hreason, hexpired⟩ := h.resolved hterminal
    obtain ⟨hstatus', hreason', hexpired'⟩ := h'.resolved (h.isTerminal hterminal)
    exact ⟨hstatus'.trans hstatus, hreason'.trans hreason, hexpired'.trans hexpired⟩
  onward := by
    rcases h.onward with hsame | ⟨hopen, hfurther⟩
    · rcases h'.onward with hsame' | ⟨hopen', hfurther'⟩
      · exact .inl (hsame'.trans hsame)
      · refine .inr ⟨?_, hsame ▸ hfurther'⟩
        unfold Order.isTerminal at hopen' ⊢
        rw [← hsame]
        exact hopen'
    · rcases h'.onward with hsame' | ⟨_, hfurther'⟩
      · exact .inr ⟨hopen, hsame' ▸ hfurther⟩
      · exact .inr ⟨hopen, Nat.lt_trans hfurther hfurther'⟩

/-- What has become of an order may be written in its place. -/
theorem Becomes.acceptsOverwrite (h : o.Becomes o') :
    o.status.acceptsOverwrite o'.status = true := by
  unfold OrderStatus.acceptsOverwrite
  rcases h.onward with hsame | ⟨hopen, hfurther⟩
  · rw [hsame, beq_self_eq_true, Bool.true_or]
  · unfold Order.isTerminal at hopen
    rw [hopen, decide_eq_true hfurther]
    exact Bool.or_true _

/-! ### Any number of mutations -/

theorem after_append (o : Order) (before later : List Mutation) :
    o.after (before ++ later) = (o.after before).after later :=
  List.foldl_append

theorem becomes_after (o : Order) (mutations : List Mutation) : o.Becomes (o.after mutations) := by
  induction mutations generalizing o with
  | nil => exact .refl o
  | cons m mutations ih =>
      show o.Becomes ((o.mutate m).2.after mutations)
      rcases o.mutate_cases m with hrefused | ⟨o', htaken, hstep⟩
      · rw [hrefused]
        exact ih o
      · rw [htaken]
        exact hstep.becomes.trans (ih o')

theorem sound_after (hsound : o.Sound) (mutations : List Mutation) :
    (o.after mutations).Sound := by
  induction mutations generalizing o with
  | nil => exact hsound
  | cons m mutations ih =>
      show ((o.mutate m).2.after mutations).Sound
      rcases o.mutate_cases m with hrefused | ⟨o', htaken, hstep⟩
      · rw [hrefused]
        exact ih hsound
      · rw [htaken]
        exact ih (hstep.sound hsound)

theorem Made.sound (h : o.Made) : o.Sound := by
  obtain ⟨_, _, _, _, _, _, _, _, _, rfl⟩ := h
  exact ⟨nofun, nofun⟩

/-- The life of an order from when it is made, whatever it is asked to change of itself and in
whatever sequence. At every moment it waits for a one-time password only while it is processing, and
if it has expired it has failed. From any moment to any later one it is the same request for the
same money with the same deadline, it keeps its link, and once resolved its status, its reason and
whether it expired. A mutation that is refused leaves it alone. And a store that holds the order of
some moment takes the order of any later one in its place. -/
theorem life_of_made (o : Order) (hmade : o.Made) (mutations : List Mutation) :
    (((o.after mutations).awaitingOtp = true → (o.after mutations).status = .processing) ∧
      ((o.after mutations).isExpired = true → (o.after mutations).status = .failed)) ∧
    (∀ before later, mutations = before ++ later →
      (o.after before).Becomes (o.after mutations) ∧
      ∀ store : OrderStore, store.unavailable = false →
        store.get? (o.after before).id = some (o.after before) →
          store.replace (o.after mutations) =
            .ok (o.after mutations, store.replacing (o.after mutations))) ∧
    ∀ before m later, mutations = before ++ m :: later → ((o.after before).mutate m).1 = false →
      ((o.after before).mutate m).2 = o.after before := by
  have hsound := sound_after hmade.sound mutations
  refine ⟨⟨hsound.awaiting, hsound.expired⟩, ?_, ?_⟩
  · rintro before later rfl
    have hbecomes := becomes_after (o.after before) later
    rw [← after_append] at hbecomes
    refine ⟨hbecomes, fun store hreached hstored => ?_⟩
    rw [← hbecomes.id] at hstored
    simp [OrderStore.replace, hreached, hstored, OrderStore.overwrite, hbecomes.acceptsOverwrite,
      OrderStore.replacing]
  · intro before m later _ hfalse
    rcases (o.after before).mutate_cases m with hrefused | ⟨o', htaken, _⟩
    · rw [hrefused]
    · rw [htaken] at hfalse
      cases hfalse

/-! ### An order that expires -/

/-- A cash-in with its provider, as it is made. -/
def requested : Order :=
  { create default default default .cashIn .zero default with provider := some (.of "BIDV") }

/-- The order is linked and waits for a one-time password. -/
def waited : List Mutation :=
  [⟨default, .change .startProcessing⟩, ⟨default, .change (.linkTransaction ⟨.ofNat 1⟩)⟩,
    ⟨default, .change .markAwaitingOtp⟩]

/-- Then another link is refused, and the order expires. -/
def lapsed : List Mutation :=
  [⟨default, .change (.linkTransaction ⟨.ofNat 2⟩)⟩, ⟨default, .change (.expire "too late")⟩]

/-- The expired order has failed and keeps its first link, and a store that holds the waiting order
takes it. -/
theorem life_of_made_lapsed :
    (requested.after (waited ++ lapsed)).status = .failed ∧
      (requested.after (waited ++ lapsed)).transactionId = some ⟨.ofNat 1⟩ ∧
      ((requested.after waited).mutate ⟨default, .change (.linkTransaction ⟨.ofNat 2⟩)⟩).2 =
        requested.after waited ∧
      ∃ store, (OrderStore.empty.insert (requested.after waited)).replace
        (requested.after (waited ++ lapsed)) = .ok (requested.after (waited ++ lapsed), store) := by
  have hmade : requested.Made := ⟨_, _, _, _, _, _, some (.of "BIDV"), .wallet, none, rfl⟩
  obtain ⟨⟨_, hfailed⟩, honward, hrefused⟩ := life_of_made requested hmade (waited ++ lapsed)
  obtain ⟨hbecomes, hreplaced⟩ := honward waited lapsed rfl
  exact ⟨hfailed rfl, hbecomes.linked _ rfl, hrefused waited _ _ rfl rfl,
    _, hreplaced _ rfl (OrderStore.get?_insert_self ..)⟩

end Order

end Wallet
