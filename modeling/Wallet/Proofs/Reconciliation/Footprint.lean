import Wallet.Proofs.Store.Basic
import Wallet.Proofs.Store.Records
import Wallet.Services

/-!
# Footprints

What reconciling an order reads and writes is the order itself and the ledger record to which it is
linked: its footprint. Services that are alike there answer the calls of that work alike, but for the
instants at which orders and records are written, and whatever is elsewhere stays as it is.
-/

namespace Wallet

/-! ## Timestamps aside -/

/-- An order without the instant of its last change. -/
def Order.timeless (o : Order) : Order := { o with updatedAt := default }

/-- A ledger record without the instant of its last change. -/
def Transaction.timeless (t : Transaction) : Transaction := { t with updatedAt := default }

theorem Order.of_timeless {o o' : Order} (h : o.timeless = o'.timeless) :
    ∃ now, o' = { o with updatedAt := now } := by
  refine ⟨o'.updatedAt, ?_⟩
  cases o
  cases o'
  simpa [timeless, eq_comm] using h

theorem Transaction.of_timeless {t t' : Transaction} (h : t.timeless = t'.timeless) :
    ∃ now, t' = { t with updatedAt := now } := by
  refine ⟨t'.updatedAt, ?_⟩
  cases t
  cases t'
  simpa [timeless, eq_comm] using h

/-- Both are values and related, or both are the same error. -/
inductive Agree {ε α β : Type} (R : α → β → Prop) : Except ε α → Except ε β → Prop
  | ok {a : α} {b : β} : R a b → Agree R (.ok a) (.ok b)
  | error (e : ε) : Agree R (.error e) (.error e)

/-- Two orders differ in the instant of their last change at most. -/
def SameOrder (o o' : Order) : Prop := o.timeless = o'.timeless

theorem SameOrder.id {o o' : Order} (h : SameOrder o o') : o'.id = o.id := by
  obtain ⟨_, rfl⟩ := Order.of_timeless h
  rfl

theorem SameOrder.status {o o' : Order} (h : SameOrder o o') : o'.status = o.status := by
  obtain ⟨_, rfl⟩ := Order.of_timeless h
  rfl

/-- What two changes have made of an order differs in the instant of the change at most. -/
def SameVersion (o a b : Order) : Prop := SameOrder a b ∧ a.id = o.id

/-- Two records differ in the instant of their last change at most. -/
def SameRecord (t t' : Transaction) : Prop := t.timeless = t'.timeless

theorem Agree.map {ε α β α' β' : Type} {R : α → β → Prop} {S : α' → β' → Prop} {f : α → α'}
    {g : β → β'} {x : Except ε α} {y : Except ε β} (h : Agree R x y)
    (hmap : ∀ a b, R a b → S (f a) (g b)) : Agree S (x.map f) (y.map g) := by
  cases h with
  | ok h => exact .ok (hmap _ _ h)
  | error e => exact .error e

section

variable {now now' : Timestamp}

theorem Order.settle_agree (o : Order) (success : Bool) (reason : Option String) :
    Agree (SameVersion o) (o.settle success reason now) (o.settle success reason now') := by
  unfold settle
  simp only
  split
  · exact .ok ⟨rfl, rfl⟩
  · exact .error _

theorem Order.expire_agree (o : Order) (reason : String) :
    Agree (SameVersion o) (o.expire reason now) (o.expire reason now') := by
  refine (o.settle_agree false (some reason)).map fun a b h => ?_
  obtain ⟨_, rfl⟩ := Order.of_timeless h.1
  exact ⟨rfl, h.2⟩

theorem Transaction.moveTo_agree {t t' : Transaction} (h : SameRecord t t')
    (next : TransactionStatus) : Agree SameRecord (t.moveTo next now) (t'.moveTo next now') := by
  obtain ⟨_, rfl⟩ := of_timeless h
  unfold moveTo
  simp only
  split
  · exact .ok rfl
  · exact .error _

theorem Transaction.fail_agree {t t' : Transaction} (h : SameRecord t t') (reason : String) :
    Agree SameRecord (t.fail reason now) (t'.fail reason now') := by
  refine (moveTo_agree h .failed).map fun a b h => ?_
  obtain ⟨_, rfl⟩ := of_timeless h
  rfl

theorem Transaction.cancel_agree {t t' : Transaction} (h : SameRecord t t') (reason : String) :
    Agree SameRecord (t.cancel reason now) (t'.cancel reason now') := by
  have hstate : t'.isCancellable = t.isCancellable ∧ t'.state = t.state := by
    obtain ⟨_, rfl⟩ := of_timeless h
    exact ⟨rfl, rfl⟩
  unfold cancel
  rw [hstate.1, hstate.2]
  split
  · exact fail_agree h reason
  · exact .error _

/-- What becomes of a record does not depend on the instants. -/
theorem Ledger.Request.transition_agree {t t' : Transaction} (r : Request) (h : SameRecord t t') :
    Agree SameRecord (r.transition now t) (r.transition now' t') := by
  cases r with
  | init _ => exact .ok h
  | find _ => exact .ok h
  | confirm id => exact Transaction.moveTo_agree h .finish
  | setPending id => exact Transaction.moveTo_agree h .pending
  | fail id reason => exact Transaction.fail_agree h reason
  | cancel id reason => exact Transaction.cancel_agree h reason

end

/-- Every record is filed under its own identifier. -/
def Ledger.Filed (l : Ledger) : Prop := ∀ {id t}, l.get? id = some t → t.id = id

/-! ## Services that are alike -/

/-- What work on an order reads and writes: the order, and the record that it is linked to. -/
structure Footprint where
  key : OrderId
  link : Option TransactionId

/-- The counters of the stores. -/
inductive Counter where
  | writes
  | confirms
  | cancels

namespace Services

def counted (v : Services) : Counter → Nat
  | .writes => v.orders.writes
  | .confirms => v.ledger.confirms
  | .cancels => v.ledger.cancels

/-- What the stores refuse. -/
def flags (v : Services) : Bool × Bool × Bool :=
  (v.orders.unavailable, v.ledger.unavailable, v.ledger.failOnCancel)

/-- Nothing in a footprint distinguishes the services, and its record is filed under its own
identifier. -/
structure Alike (fp : Footprint) (v u : Services) : Prop where
  order : (v.orders.get? fp.key).map Order.timeless = (u.orders.get? fp.key).map Order.timeless
  record : ∀ id, fp.link = some id →
    (v.ledger.get? id).map Transaction.timeless = (u.ledger.get? id).map Transaction.timeless
  filed : ∀ id t, fp.link = some id → v.ledger.get? id = some t → t.id = id
  flags : v.flags = u.flags

/-- The same orders and the same records, timestamps aside, and the same counts of writes,
confirmations and cancellations. -/
structure HoldSame (v v' : Services) : Prop where
  orders : ∀ key, (v.orders.get? key).map Order.timeless = (v'.orders.get? key).map Order.timeless
  records : ∀ id,
    (v.ledger.get? id).map Transaction.timeless = (v'.ledger.get? id).map Transaction.timeless
  counted : ∀ k, v.counted k = v'.counted k

/-- Nothing has changed outside a footprint. -/
structure Within (fp : Footprint) (v v' : Services) : Prop where
  orders : ∀ key, key ≠ fp.key → v'.orders.get? key = v.orders.get? key
  records : ∀ id, fp.link ≠ some id → v'.ledger.get? id = v.ledger.get? id
  flags : v'.flags = v.flags

end Services

/-- Footprints that have nothing in common. -/
def Footprint.Apart (fp fp' : Footprint) : Prop :=
  fp.key ≠ fp'.key ∧ ∀ id, fp.link = some id → fp'.link ≠ some id

theorem Footprint.Apart.symm {fp fp' : Footprint} (h : fp.Apart fp') : fp'.Apart fp :=
  ⟨h.1.symm, fun id hid hid' => h.2 id hid' hid⟩

namespace Services

variable {fp fp' : Footprint} {v v' u u' : Services}

/-- Services that keep what is in the footprint stay alike. -/
theorem Alike.kept (h : Alike fp v u) (horder : v'.orders.get? fp.key = v.orders.get? fp.key)
    (hrecord : ∀ id, fp.link = some id → v'.ledger.get? id = v.ledger.get? id)
    (hflags : v'.flags = v.flags) : Alike fp v' u where
  order := by
    rw [horder]
    exact h.order
  record id hid := by
    rw [hrecord id hid]
    exact h.record id hid
  filed id t hid ht := by
    rw [hrecord id hid] at ht
    exact h.filed id t hid ht
  flags := hflags.trans h.flags

/-- Changes elsewhere leave services alike. -/
theorem Alike.elsewhere (h : Alike fp v u) (hwithin : Within fp' v v') (hapart : fp'.Apart fp) :
    Alike fp v' u :=
  h.kept (hwithin.orders fp.key hapart.1.symm)
    (fun id hid => hwithin.records id fun hid' => hapart.2 id hid' hid) hwithin.flags

/-- Services that were alike have gone on in step: what has changed is in the footprint, it is alike
again, and the counters have risen by the same. -/
structure InStep (fp : Footprint) (v u v' u' : Services) : Prop where
  alike : Alike fp v' u'
  within : Within fp v v'
  counted : ∀ k, v'.counted k + u.counted k = v.counted k + u'.counted k

theorem InStep.of_eq (h : Alike fp v u) (horders : v'.orders = v.orders)
    (hledger : v'.ledger = v.ledger) (horders' : u'.orders = u.orders)
    (hledger' : u'.ledger = u.ledger) : InStep fp v u v' u' := by
  refine ⟨⟨?_, ?_, ?_, ?_⟩, ⟨?_, ?_, ?_⟩, ?_⟩
  · simpa only [horders, horders'] using h.order
  · simpa only [hledger, hledger'] using h.record
  · simpa only [hledger] using h.filed
  · simpa only [Services.flags, horders, hledger, horders', hledger'] using h.flags
  · simp [horders]
  · simp [hledger]
  · simp [Services.flags, horders, hledger]
  · intro k
    cases k <;> simp [Services.counted, horders, hledger, horders', hledger']

/-! ## Calls in step -/

/-- Answers a call; the bank tells of an order what it tells of it always. -/
def answerBy (bank : OrderId → Except ServiceError ProviderResponse) :
    (c : Call) → Services → c.Answer × Services
  | .bank (.retrieveStatus id _), v => (bank id, v)
  | c, v => v.answer c

end Services

/-- Two calls within a footprint that are the same but for instants, and how services that are alike
there answer them. -/
inductive Footprint.Matches (fp : Footprint) :
    (c c' : Call) → (c.Answer → c'.Answer → Prop) → Prop
  | now : fp.Matches .now .now fun _ _ => True
  | bank (trace : Option String) :
      fp.Matches (.bank (.retrieveStatus fp.key trace)) (.bank (.retrieveStatus fp.key trace)) Eq
  | find {id : TransactionId} (linked : fp.link = some id) :
      fp.Matches (.ledger (.find id)) (.ledger (.find id))
        (Agree fun t t' => SameRecord t t' ∧ t.id = id)
  | move {r : Ledger.Request} {id : TransactionId} (moves : r.moves? = some id)
      (linked : fp.link = some id) : fp.Matches (.ledger r) (.ledger r) (Agree SameRecord)
  | replace {o o' : Order} (same : SameOrder o o') (own : o.id = fp.key) :
      fp.Matches (.orders (.replace o)) (.orders (.replace o')) (Agree SameOrder)

section

variable {fp : Footprint} {v u : Services}

/-- Either nothing is stored in two places, or the same but for what is disregarded. -/
theorem stored_cases {α β : Type} {f : α → β} {x y : Option α} (h : x.map f = y.map f) :
    (x = none ∧ y = none) ∨ ∃ a b, x = some a ∧ y = some b ∧ f a = f b := by
  cases x <;> cases y <;> simp_all

theorem Ledger.find_agree {id : TransactionId} (h : Services.Alike fp v u) (hlink : fp.link = some id) :
    Agree (fun t t' => SameRecord t t' ∧ t.id = id) (v.ledger.find id) (u.ledger.find id) := by
  have hdown : v.ledger.unavailable = u.ledger.unavailable := congrArg (·.2.1) h.flags
  unfold find
  rw [hdown]
  split
  · exact .error _
  · rcases stored_cases (h.record id hlink) with ⟨hv, hu⟩ | ⟨t, t', hv, hu, hsame⟩
    · rw [hv, hu]
      exact .error _
    · have hfiled := h.filed id t hlink hv
      rw [hv, hu]
      exact .ok ⟨hsame, hfiled⟩

theorem Ledger.barred?_congr (h : v.flags = u.flags) (r : Request) :
    v.ledger.barred? r = u.ledger.barred? r := by
  have hdown : v.ledger.unavailable = u.ledger.unavailable := congrArg (·.2.1) h
  have hcancel : v.ledger.failOnCancel = u.ledger.failOnCancel := congrArg (·.2.2) h
  unfold barred?
  rw [hdown, hcancel]

theorem Ledger.Request.transition_id {r : Request} {t t' : Transaction} {now : Timestamp}
    (h : r.transition now t = .ok t') : t'.id = t.id := by
  cases r with
  | init _ => cases h; rfl
  | find _ => cases h; rfl
  | confirm id =>
      obtain ⟨_, rfl⟩ := Transaction.moveTo_ok h
      rfl
  | setPending id =>
      obtain ⟨_, rfl⟩ := Transaction.moveTo_ok h
      rfl
  | fail id reason =>
      obtain ⟨_, rfl⟩ := Transaction.fail_ok h
      rfl
  | cancel id reason =>
      obtain ⟨_, rfl⟩ := Transaction.fail_ok (Transaction.cancel_ok h).2
      rfl

theorem Services.InStep.moved {r : Ledger.Request} {id : TransactionId} {t t' : Transaction}
    {now now' : Timestamp} (h : Alike fp v u) (hlink : fp.link = some id) (hsame : SameRecord t t')
    (hid : t.id = id) :
    InStep fp v u { v with clock := now, ledger := v.ledger.moved r id t }
      { u with clock := now', ledger := u.ledger.moved r id t' } := by
  refine ⟨⟨h.order, ?_, ?_, ?_⟩, ⟨fun _ _ => rfl, ?_, ?_⟩, ?_⟩
  -- alike: the only record of the footprint is the one that was moved
  · intro other hother
    cases hlink.symm.trans hother
    show ((v.ledger.moved r id t).get? id).map _ = ((u.ledger.moved r id t').get? id).map _
    rw [Ledger.get?_moved_self, Ledger.get?_moved_self]
    exact congrArg some hsame
  · intro other t'' hother ht''
    cases hlink.symm.trans hother
    cases Ledger.get?_moved_self.symm.trans ht''
    exact hid
  · simpa only [flags, Ledger.moved_unavailable, Ledger.moved_failOnCancel] using h.flags
  -- within: all other records are where they were
  · intro other hother
    refine Ledger.get?_moved_of_ne fun heq => hother ?_
    rw [heq]
    exact hlink
  · simp only [flags, Ledger.moved_unavailable, Ledger.moved_failOnCancel]
  · intro k
    cases k <;> cases r <;> simp only [Services.counted, Ledger.moved] <;> omega

/-- A record is moved in both ledgers, or in neither. -/
theorem Ledger.move_inStep {r : Request} {id : TransactionId} (h : Services.Alike fp v u)
    (hmoves : r.moves? = some id) (hlink : fp.link = some id) :
    Agree SameRecord (v.answer (.ledger r)).1 (u.answer (.ledger r)).1 ∧
      Services.InStep fp v u (v.answer (.ledger r)).2 (u.answer (.ledger r)).2 := by
  show Agree SameRecord (v.ledger.serve v.clock.tick r).1 (u.ledger.serve u.clock.tick r).1 ∧
    Services.InStep fp v u
      { v with clock := v.clock.tick, ledger := (v.ledger.serve v.clock.tick r).2 }
      { u with clock := u.clock.tick, ledger := (u.ledger.serve u.clock.tick r).2 }
  rw [serve_moving v.ledger _ hmoves, serve_moving u.ledger _ hmoves,
    barred?_congr h.flags]
  have hstill (e : ServiceError) : Agree SameRecord (.error e) (.error e) ∧
      Services.InStep fp v u { v with clock := v.clock.tick } { u with clock := u.clock.tick } :=
    ⟨.error e, .of_eq h rfl rfl rfl rfl⟩
  cases u.ledger.barred? r with
  | some e => exact hstill e
  | none =>
      rcases stored_cases (h.record id hlink) with ⟨hv, hu⟩ | ⟨t, t', hv, hu, hsame⟩
      · rw [hv, hu]
        exact hstill _
      rw [hv, hu]
      simp only
      have hagree : Agree SameRecord (r.transition v.clock.tick t) (r.transition u.clock.tick t') :=
        r.transition_agree hsame
      have hfiled := h.filed id t hlink hv
      cases hmoved : r.transition v.clock.tick t with
      | error e =>
          rw [hmoved] at hagree
          generalize r.transition u.clock.tick t' = y at hagree ⊢
          cases hagree
          exact hstill _
      | ok moved =>
          rw [hmoved] at hagree
          generalize r.transition u.clock.tick t' = y at hagree ⊢
          cases hagree with
          | ok hsame =>
              have hid := (Request.transition_id hmoved).trans hfiled
              exact ⟨.ok hsame, .moved h hlink hsame hid⟩

theorem Services.InStep.replaced {o o' : Order} {now now' : Timestamp} (h : Alike fp v u)
    (hsame : SameOrder o o') (hown : o.id = fp.key) :
    InStep fp v u { v with clock := now, orders := v.orders.replacing o }
      { u with clock := now', orders := u.orders.replacing o' } := by
  refine ⟨⟨?_, h.record, h.filed, h.flags⟩, ⟨?_, fun _ _ => rfl, rfl⟩, ?_⟩
  · have hv : (v.orders.replacing o).get? fp.key = some o :=
      hown ▸ v.orders.get?_insert_self o
    have hu : (u.orders.replacing o').get? fp.key = some o' :=
      hown ▸ hsame.id ▸ u.orders.get?_insert_self o'
    show ((v.orders.replacing o).get? fp.key).map _ = ((u.orders.replacing o').get? fp.key).map _
    rw [hv, hu]
    exact congrArg some hsame
  · intro key hkey
    exact v.orders.get?_insert_of_ne (hown ▸ hkey)
  · intro k
    cases k with
    | writes =>
        simp only [Services.counted, OrderStore.replacing, OrderStore.insert]
        omega
    | confirms => rfl
    | cancels => rfl

/-- An order is replaced in both stores, or in neither. -/
theorem OrderStore.replace_inStep {o o' : Order} (h : Services.Alike fp v u)
    (hsame : SameOrder o o') (hown : o.id = fp.key) :
    Agree SameOrder (v.answer (.orders (.replace o))).1 (u.answer (.orders (.replace o'))).1 ∧
      Services.InStep fp v u (v.answer (.orders (.replace o))).2
        (u.answer (.orders (.replace o'))).2 := by
  show Agree SameOrder (settled v.orders (v.orders.replace o)).1
      (settled u.orders (u.orders.replace o')).1 ∧
    Services.InStep fp v u
      { v with clock := v.clock.tick, orders := (settled v.orders (v.orders.replace o)).2 }
      { u with clock := u.clock.tick, orders := (settled u.orders (u.orders.replace o')).2 }
  have hstill (e : ServiceError) : Agree SameOrder (.error e) (.error e) ∧
      Services.InStep fp v u { v with clock := v.clock.tick } { u with clock := u.clock.tick } :=
    ⟨.error e, .of_eq h rfl rfl rfl rfl⟩
  have hdown : v.orders.unavailable = u.orders.unavailable := congrArg (·.1) h.flags
  unfold replace
  rw [hdown, hsame.id, hown]
  split
  · exact hstill _
  rcases stored_cases h.order with ⟨hv, hu⟩ | ⟨stored, stored', hv, hu, hstored⟩
  · rw [hv, hu]
    exact hstill _
  rw [hv, hu]
  simp only [overwrite]
  -- whether an order gives way is a matter of the two statuses
  rw [hsame.id, hsame.status, SameOrder.status hstored]
  split
  · exact ⟨.ok hsame, .replaced h hsame hown⟩
  · exact hstill _

/-- Services that are alike in a footprint answer matching calls alike, and go on in step. -/
theorem Footprint.Matches.inStep (bank : OrderId → Except ServiceError ProviderResponse)
    {c c' : Call} {S : c.Answer → c'.Answer → Prop} (hmatches : fp.Matches c c' S)
    (h : Services.Alike fp v u) :
    S (Services.answerBy bank c v).1 (Services.answerBy bank c' u).1 ∧
      Services.InStep fp v u (Services.answerBy bank c v).2 (Services.answerBy bank c' u).2 := by
  cases hmatches with
  | now => exact ⟨trivial, .of_eq h rfl rfl rfl rfl⟩
  | bank trace => exact ⟨rfl, .of_eq h rfl rfl rfl rfl⟩
  | find hlink =>
      have hfound := Ledger.find_agree h hlink
      exact ⟨hfound, .of_eq h rfl rfl rfl rfl⟩
  | move hmoves hlink => exact Ledger.move_inStep h hmoves hlink
  | replace hsame hown => exact OrderStore.replace_inStep h hsame hown

end

end Wallet
