import Wallet.Proofs.World.Run

/-!
# The gist of a past

Most events leave no trace: a clock was read, a record was looked up, a call was refused. What counts
is that an order or a record was written, a voucher used or taken back, and the bank asked. The gist
of a past is its books with the events that count.

`Meets` says what a program ends with in terms of the gist alone, for all answers that agree with the
books, as long as nothing goes wrong but what may; `Meets.sound` carries it over to pasts.
-/

namespace Wallet

/-- Whether an event writes an order or a record, uses a voucher or takes it back, or asks the
bank. -/
def Event.counts : Event → Bool
  | ⟨.orders (.create _), .ok _⟩ | ⟨.orders (.replace _), .ok _⟩
  | ⟨.orders (.process _), .ok _⟩ => true
  | ⟨.ledger (.find _), _⟩ => false
  | ⟨.ledger _, .ok _⟩ | ⟨.promotion _, .ok _⟩ | ⟨.bank _, _⟩ => true
  | _ => false

theorem Event.quiet_of_not_counts {e : Event} (h : e.counts = false) : e.Quiet := by
  obtain ⟨c, x⟩ := e
  intro b
  cases c with
  | orders r => cases r <;> cases x <;> first | rfl | cases h
  | ledger r => cases r <;> cases x <;> first | rfl | cases h
  | _ => rfl

/-- Nothing is missed where only events that count are looked at, if no other shows anything. -/
theorem filterMap_counts {β : Type} {show? : Event → Option β}
    (h : ∀ e, e.counts = false → show? e = none) (events : List Event) :
    (events.filter Event.counts).filterMap show? = events.filterMap show? := by
  rw [List.filterMap_filter]
  congr 1
  funext e
  cases hcounts : e.counts with
  | true => exact if_pos rfl
  | false => exact (h e hcounts).symm

namespace Past

/-- The books of a past and those of its events that count. -/
def gist (p : Past) : Past := ⟨p.books, p.events.filter Event.counts⟩

/-- A gist once a call has been answered. -/
def add (g : Past) (c : Call) (x : c.Answer) : Past :=
  if (Event.mk c x).counts then g.note c x else g

theorem gist_note (p : Past) (c : Call) (x : c.Answer) : (p.note c x).gist = p.gist.add c x := by
  unfold gist add
  rw [note_events, List.filter_append]
  cases hcounts : (Event.mk c x).counts with
  | true =>
      rw [List.filter_cons_of_pos hcounts]
      rfl
  | false =>
      rw [List.filter_cons_of_neg (by simp [hcounts]), List.filter_nil, List.append_nil]
      exact congrArg (Past.mk · _) (Event.quiet_of_not_counts hcounts p.books)

end Past

/-- What may go wrong. -/
structure Faults where
  /-- Which calls may be refused, and with which errors. -/
  refuses : Call → ServiceError → Prop
  /-- Whether a context may be found ended. -/
  ends : Prop
  /-- Whether a deadline may be too far away to be represented. -/
  crashes : Prop

/-- Anything may go wrong. -/
def Faults.any : Faults := ⟨fun _ _ => True, True, True⟩

/-- An answer by which nothing goes wrong, or only what may. -/
def Call.Permits (may : Faults) : (c : Call) → c.Answer → Prop
  | .orders r, .error e => may.refuses (.orders r) e
  | .ledger r, .error e => may.refuses (.ledger r) e
  | .promotion r, .error e => may.refuses (.promotion r) e
  | .bank r, .error e => may.refuses (.bank r) e
  | .hasEnded _, true => may.ends
  | .budget _, .error _ => may.crashes
  | _, _ => True

/-- Nothing has gone wrong but what may. -/
def Permitted (may : Faults) (events : List Event) : Prop :=
  ∀ e ∈ events, e.call.Permits may e.answer

theorem Call.permits_any (c : Call) (x : c.Answer) : c.Permits .any x := by
  cases c <;> first | trivial | (cases x <;> trivial)

theorem permitted_any (events : List Event) : Permitted .any events :=
  fun e _ => e.call.permits_any e.answer

theorem Permitted.of_le {may : Faults} {events events' : List Event}
    (h : Permitted may events') (hle : events <+: events') : Permitted may events :=
  fun e he => h e (hle.subset he)

/-- A change that a record makes may be refused only as it may be. -/
theorem Books.forall_moves_permitted {b : Books} {id : TransactionId}
    {transition : Timestamp → Transaction → Except TransactionError Transaction}
    {P : Except ServiceError Transaction → Prop} {permitted : Except ServiceError Transaction → Prop}
    (hok : ∀ t, permitted (.ok t)) :
    (∀ x, b.Moves id transition x → permitted x → P x) ↔
      (∀ e, b.Moves id transition (.error e) → permitted (.error e) → P (.error e)) ∧
        ∀ t' t, b.records id = some t → ∀ now, transition now t = .ok t' → P (.ok t') :=
  Books.forall_moves.trans (and_congr Iff.rfl (forall_congr' fun _ => forall_congr' fun _ =>
    imp_congr_right fun _ => forall_congr' fun _ => imp_congr_right fun _ =>
      ⟨fun h => h (hok _), fun h _ => h⟩))

namespace Program

variable {α β : Type} {may : Faults}

/-- Whatever agrees with the books is answered, and as long as nothing goes wrong but what may, the
program ends with a value and a gist that satisfy `Q`. -/
def Meets (may : Faults) : Program α → Past → (α → Past → Prop) → Prop
  | .done a, g, Q => Q a g
  | .call c next, g, Q =>
      ∀ x, g.books.Allows c x → c.Permits may x → (next x).Meets may (g.add c x) Q

theorem meets_bind (x : Program α) (f : α → Program β) (g : Past) (Q : β → Past → Prop) :
    (x >>= f).Meets may g Q ↔ x.Meets may g fun a g => (f a).Meets may g Q := by
  induction x generalizing g with
  | done a => rfl
  | call c next ih =>
      exact forall_congr' fun x => imp_congr_right fun _ => imp_congr_right fun _ => ih x _

theorem Meets.mono {x : Program α} {g : Past} {Q R : α → Past → Prop} (h : x.Meets may g Q)
    (hQR : ∀ a g, Q a g → R a g) : x.Meets may g R := by
  induction x generalizing g with
  | done a => exact hQR a g h
  | call c next ih => exact fun x hx hmay => ih x (h x hx hmay)

theorem Meets.and {x : Program α} {g : Past} {Q R : α → Past → Prop} (hQ : x.Meets may g Q)
    (hR : x.Meets may g R) : x.Meets may g fun a g => Q a g ∧ R a g := by
  induction x generalizing g with
  | done a => exact ⟨hQ, hR⟩
  | call c next ih => exact fun x hx hmay => ih x (hQ x hx hmay) (hR x hx hmay)

/-- What counts is only added to. -/
theorem meets_grows (x : Program α) (g : Past) :
    x.Meets may g fun _ after => g.events <+: after.events := by
  induction x generalizing g with
  | done a => exact List.prefix_rfl
  | call c next ih =>
      intro x _ _
      have hadded : g.events <+: (g.add c x).events := by
        unfold Past.add
        split
        · exact List.prefix_append _ _
        · exact List.prefix_rfl
      exact (ih x _).mono fun _ _ h => hadded.trans h

/-- A program only adds to its past. -/
theorem always_grows (x : Program α) (p : Past) :
    x.Always p fun _ after => p.events <+: after.events := by
  induction x generalizing p with
  | done a => exact List.prefix_rfl
  | call c next ih =>
      intro x _
      exact (ih x _).mono fun _ _ h => (List.prefix_append _ _).trans h

theorem Always.and {x : Program α} {p : Past} {Q R : α → Past → Prop} (hQ : x.Always p Q)
    (hR : x.Always p R) : x.Always p fun a p => Q a p ∧ R a p := by
  induction x generalizing p with
  | done a => exact ⟨hQ, hR⟩
  | call c next ih => exact fun x hx => ih x (hQ x hx) (hR x hx)

/-- What a program meets it always ends with, unless something goes wrong meanwhile that may not. -/
theorem Meets.since {x : Program α} {p : Past} {Q : α → Past → Prop} (h : x.Meets may p.gist Q) :
    x.Always p fun a after =>
      (∀ later, after.events = p.events ++ later → Permitted may later) → Q a after.gist := by
  induction x generalizing p with
  | done a => exact fun _ => h
  | call c next ih =>
      intro x hx
      have hsplit {after : Past} {later : List Event}
          (hlater : after.events = (p.note c x).events ++ later) :
          after.events = p.events ++ ⟨c, x⟩ :: later := by
        rw [hlater, Past.note_events, List.append_assoc]
        rfl
      by_cases hmay : c.Permits may x
      · have hnext := h x hx hmay
        rw [← Past.gist_note] at hnext
        refine (ih x hnext).mono fun _ after hafter hpermitted => hafter fun later hlater => ?_
        exact fun e he => hpermitted _ (hsplit hlater) e (List.mem_cons_of_mem _ he)
      · refine (always_grows (next x) (p.note c x)).mono fun _ after hle hpermitted => ?_
        obtain ⟨later, hlater⟩ := hle
        exact absurd (hpermitted _ (hsplit hlater.symm) ⟨c, x⟩ List.mem_cons_self) hmay

/-- What a program meets it always ends with, unless something has gone wrong that may not. -/
theorem Meets.sound {x : Program α} {p : Past} {Q : α → Past → Prop} (h : x.Meets may p.gist Q) :
    x.Always p fun a p => Permitted may p.events → Q a p.gist := by
  refine h.since.mono fun _ after hafter hpermitted => hafter fun later hlater e he => ?_
  exact hpermitted e (hlater ▸ List.mem_append_right _ he)

end Program

/-! ## Refusals without a reason -/

/-- Only the bank may be out of reach. -/
def Faults.InReach (may : Faults) : Prop :=
  ∀ c what, may.refuses c (.unavailable what) → ∃ r, c = .bank r

/-- Anything may go wrong, but only the bank may be out of reach. -/
def Faults.ordinary : Faults :=
  ⟨fun c e => (∃ what, e = .unavailable what) → ∃ r, c = .bank r, True, True⟩

theorem Faults.ordinary_inReach : Faults.ordinary.InReach := fun _ what h => h ⟨what, rfl⟩

namespace Faults.InReach

variable {may : Faults} {b : Books} {o stored : Order} {id : TransactionId} {t : Transaction}
  {e : ServiceError}

theorem not_orders (h : may.InReach) {r : OrderStore.Request} {what : String} :
    ¬may.refuses (.orders r) (.unavailable what) := by
  intro hmay
  obtain ⟨_, heq⟩ := h _ _ hmay
  cases heq

theorem not_ledger (h : may.InReach) {r : Ledger.Request} {what : String} :
    ¬may.refuses (.ledger r) (.unavailable what) := by
  intro hmay
  obtain ⟨_, heq⟩ := h _ _ hmay
  cases heq

theorem not_replaces (h : may.InReach) (hstored : b.orders o.id = some stored)
    (haccepts : stored.status.acceptsOverwrite o.status = true) {r : OrderStore.Request}
    (hmay : may.refuses (.orders r) e) : ¬b.Replaces o (.error e) := by
  intro he
  cases e with
  | unavailable what => exact h.not_orders hmay
  | notFound entity id =>
      rw [show b.orders o.id = none from he] at hstored
      cases hstored
  | conflict reason =>
      obtain ⟨stored', hstored', hrefuses⟩ := he
      rw [hstored] at hstored'
      cases hstored'
      rw [haccepts] at hrefuses
      cases hrefuses
  | rejected reason => exact he
  | expired id => exact he

theorem not_finds (h : may.InReach) {key : OrderId} {r : OrderStore.Request}
    (hmay : may.refuses (.orders r) e) : ¬b.Finds key (.error e) := by
  rintro ⟨what, rfl⟩
  exact h.not_orders hmay

theorem not_findsRecord (h : may.InReach) (ht : b.records id = some t) {r : Ledger.Request}
    (hmay : may.refuses (.ledger r) e) : ¬b.FindsRecord id (.error e) := by
  intro he
  cases e with
  | unavailable what => exact h.not_ledger hmay
  | notFound entity key =>
      rw [show b.records id = none from he] at ht
      cases ht
  | _ => exact he

theorem not_moves (h : may.InReach) (ht : b.records id = some t)
    {transition : Timestamp → Transaction → Except TransactionError Transaction}
    (hmoved : ∀ now, ∃ t', transition now t = .ok t') {r : Ledger.Request}
    (hmay : may.refuses (.ledger r) e) : ¬b.Moves id transition (.error e) := by
  intro he
  cases e with
  | unavailable what => exact h.not_ledger hmay
  | notFound entity key =>
      rw [show b.records id = none from he] at ht
      cases ht
  | conflict reason =>
      obtain ⟨t', now, _, ht', hrefused⟩ := he
      rw [ht] at ht'
      cases ht'
      obtain ⟨moved, hok⟩ := hmoved now
      rw [hok] at hrefused
      cases hrefused
  | rejected reason => exact he
  | expired id => exact he

end Faults.InReach

end Wallet
