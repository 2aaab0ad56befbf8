import Mathlib.Logic.Function.Basic
import Wallet.Proofs.Changes
import Wallet.Proofs.Store.Basic

/-!
# Many actors at one order

Any number of actors read a stored order, change the copy that they got and write it back, each in
its own time. A write replaces the order as a whole and only its status is looked at, so it undoes
whatever else happened since its copy was read. `Desk.late` says which writes undo a link or the
status VERIFYING; where none is made, both last (`Desk.linked_verifying_last`).
-/

namespace Wallet

/-! ## Edits -/

/-- Whether a change settles an order, from whatever status. -/
def OrderChange.settles : OrderChange → Bool
  | .settle _ _ | .expire _ => true
  | _ => false

/-- Whether a change gives an order its last status. -/
def OrderChange.resolves : OrderChange → Bool
  | .succeed | .fail _ | .cancel _ | .settle _ _ | .expire _ => true
  | _ => false

/-- A change that an actor makes of its copy. -/
inductive Edit where
  | change (c : OrderChange) (plain : c.settles = false)
  | failUnlessResolved (reason : String)

namespace Edit

/-- The changed copy, unless the order refuses the change. -/
def make (e : Edit) (o : Order) (now : Timestamp) : Option Order :=
  match e with
  | .change c _ => (o.apply now c).toOption
  | .failUnlessResolved reason => o.failUnlessResolved? reason now

def resolves : Edit → Bool
  | .change c _ => c.resolves
  | .failUnlessResolved _ => true

/-- What an edit leaves of a copy: its identifier, its link if it has one, and, unless the edit
resolves the order, that it is not resolved. -/
structure Leaves (e : Edit) (o o' : Order) : Prop where
  id : o'.id = o.id
  link : ∀ id, o.transactionId = some id → o'.transactionId = some id
  unresolved : e.resolves = false → o'.isTerminal = true → o.isTerminal = true

variable {e : Edit} {o o' : Order} {now : Timestamp}

theorem leaves_change {c : OrderChange} {plain : c.settles = false}
    (h : o.apply now c = .ok o') : (Edit.change c plain).Leaves o o' := by
  cases c with
  | startProcessing =>
      obtain ⟨_, rfl⟩ := Order.transition_ok h
      exact ⟨rfl, fun _ hid => hid, nofun⟩
  | succeed =>
      obtain ⟨_, rfl⟩ := Order.transition_ok h
      exact ⟨rfl, fun _ hid => hid, nofun⟩
  | fail reason =>
      obtain ⟨_, rfl⟩ := Order.transitionFor_ok h
      exact ⟨rfl, fun _ hid => hid, nofun⟩
  | cancel reason =>
      obtain ⟨_, rfl⟩ := Order.transitionFor_ok h
      exact ⟨rfl, fun _ hid => hid, nofun⟩
  | markVerifying reason =>
      obtain ⟨_, rfl⟩ := Order.transitionFor_ok h
      exact ⟨rfl, fun _ hid => hid, nofun⟩
  | settle success reason => cases plain
  | expire reason => cases plain
  | markAwaitingOtp =>
      obtain ⟨_, rfl⟩ := Order.markAwaitingOtp_ok h
      exact ⟨rfl, fun _ hid => hid, fun _ hterminal => hterminal⟩
  | markRetrieved =>
      cases h
      exact ⟨rfl, fun _ hid => hid, fun _ hterminal => hterminal⟩
  | linkTransaction id =>
      obtain ⟨hsame, rfl⟩ := Order.linkTransaction_ok h
      exact ⟨rfl, fun existing hlink => congrArg some (hsame existing hlink).symm,
        fun _ hterminal => hterminal⟩
  | setBankTraceId traceId =>
      cases h
      exact ⟨rfl, fun _ hid => hid, fun _ hterminal => hterminal⟩

theorem make_leaves (h : e.make o now = some o') : e.Leaves o o' := by
  cases e with
  | change c plain =>
      simp only [make] at h
      cases hchanged : o.apply now c with
      | error refusal =>
          rw [hchanged] at h
          cases h
      | ok changed =>
          rw [hchanged] at h
          cases h
          exact leaves_change hchanged
  | failUnlessResolved reason =>
      have hfailed : o.failUnlessResolved? reason now = some o' := h
      obtain ⟨_, _, rfl⟩ := Order.failUnlessResolved?_some hfailed
      exact ⟨rfl, fun _ hid => hid, nofun⟩

end Edit

/-! ## Desks -/

/-- What an actor does. -/
inductive Deed (α : Type) where
  | read (actor : α)
  | write (actor : α) (edit : Edit) (now : Timestamp)

/-- An order store and the copies that actors have read and not yet written. -/
structure Desk (α : Type) where
  store : OrderStore
  copies : α → Option Order

namespace Desk

/-- A stored order, of which nobody has read a copy. -/
def start {α : Type} (s : OrderStore) (o : Order) : Desk α := ⟨s.insert o, fun _ => none⟩

variable {α : Type}

/-! ## Copies and what is stored -/

/-- A copy is an earlier version of what is stored: not further along, and linked as the stored order
is if it is linked. -/
structure Earlier (copy stored : Order) : Prop where
  id : copy.id = stored.id
  link : ∀ id, copy.transactionId = some id → stored.transactionId = some id
  rank : copy.status.rank ≤ stored.status.rank

variable {copy stored changed : Order} {edit : Edit}

theorem Earlier.refl (o : Order) : Earlier o o := ⟨rfl, fun _ h => h, Nat.le_refl _⟩

theorem Earlier.trans {o o' o'' : Order} (h : Earlier o o') (h' : Earlier o' o'') :
    Earlier o o'' :=
  ⟨h.id.trans h'.id, fun id hid => h'.link id (h.link id hid), Nat.le_trans h.rank h'.rank⟩

/-- What is put in the place of an order, if its copy was read since the order was linked. -/
theorem Earlier.replaced (hcopy : Earlier copy stored) (hleaves : edit.Leaves copy changed)
    (hgives : stored.status.acceptsOverwrite changed.status = true)
    (hlinked : stored.transactionId.isSome = true → copy.transactionId.isSome = true) :
    Earlier stored changed := by
  refine ⟨hcopy.id.symm.trans hleaves.id.symm, ?_, OrderStatus.rank_le_of_acceptsOverwrite hgives⟩
  intro id hid
  obtain ⟨id', hid'⟩ := Option.isSome_iff_exists.mp (hlinked (by simp [hid]))
  have hsame := hcopy.link id' hid'
  rw [hid] at hsame
  cases hsame
  exact hleaves.link id hid'

/-- A verifying order gives way only to an order that is resolved. -/
theorem verifying_gives (hverifying : stored.status = .verifying)
    (hgives : stored.status.acceptsOverwrite changed.status = true)
    (hleft : changed.status ≠ .verifying) : changed.isTerminal = true := by
  rw [hverifying] at hgives
  unfold Order.isTerminal
  generalize changed.status = status at hgives hleft ⊢
  cases status with
  | pending | processing => cases hgives
  | verifying => exact absurd rfl hleft
  | success | failed | cancelled => rfl

/-- A verifying order is not taken out of VERIFYING by an edit of an earlier copy that resolves
nothing. -/
theorem Earlier.resolves (hcopy : Earlier copy stored) (hleaves : edit.Leaves copy changed)
    (hverifying : stored.status = .verifying)
    (hgives : stored.status.acceptsOverwrite changed.status = true)
    (hleft : changed.status ≠ .verifying) : edit.resolves = true := by
  by_contra hplain
  have hterminal := hleaves.unresolved (by simpa using hplain)
    (verifying_gives hverifying hgives hleft)
  have hrank := hcopy.rank
  rw [hverifying] at hrank
  unfold Order.isTerminal at hterminal
  generalize copy.status = status at hterminal hrank
  cases status with
  | pending | processing | verifying => cases hterminal
  | success | failed | cancelled => exact absurd hrank (by decide)

/-- An order is stored under its identifier, and whoever has a copy has an earlier version of it. -/
structure Holds (d : Desk α) (id : OrderId) (stored : Order) : Prop where
  found : d.store.get? id = some stored
  named : stored.id = id
  copies : ∀ actor copy, d.copies actor = some copy → Earlier copy stored

theorem start_holds (s : OrderStore) (o : Order) : (start s o : Desk α).Holds o.id o :=
  ⟨s.get?_insert_self o, rfl, fun _ _ hcopy => by simp [start] at hcopy⟩

/-! ## Deeds -/

variable [DecidableEq α]

/-- The desk after a deed at the order `id`: a copy is read, or changed and written. -/
def perform (d : Desk α) (id : OrderId) : Deed α → Desk α
  | .read actor =>
      match d.store.find id with
      | .ok found => { d with copies := Function.update d.copies actor found }
      | .error _ => d
  | .write actor edit now =>
      match (d.copies actor).bind (edit.make · now) with
      | some changed =>
          { store := (d.store.serve now (.replace changed)).2
            copies := Function.update d.copies actor none }
      | none => d

/-- The desk after deeds, one after the other, of whatever actors. -/
def along (d : Desk α) (id : OrderId) (deeds : List (Deed α)) : Desk α :=
  deeds.foldl (fun d deed => d.perform id deed) d

/-- Whether a deed writes a copy that was read too early: before the order was linked, or, if the
edit resolves the order, before the order was verifying. -/
def late (d : Desk α) (id : OrderId) : Deed α → Bool
  | .read _ => false
  | .write actor edit now =>
      match d.copies actor, d.store.get? id with
      | some copy, some stored => (edit.make copy now).isSome &&
          (copy.transactionId.isNone && stored.transactionId.isSome ||
            edit.resolves && !copy.isVerifying && stored.isVerifying)
      | _, _ => false

/-- Whether none of the deeds is late. -/
def timely (d : Desk α) (id : OrderId) : List (Deed α) → Bool
  | [] => true
  | deed :: deeds => !d.late id deed && (d.perform id deed).timely id deeds

variable {d : Desk α} {id : OrderId} {actor : α} {now : Timestamp}

/-- An order stays stored when a copy is read or dropped. -/
theorem Holds.copied (h : d.Holds id stored) {found : Option Order}
    (hfound : ∀ copy, found = some copy → Earlier copy stored) :
    Holds ⟨d.store, Function.update d.copies actor found⟩ id stored := by
  refine ⟨h.found, h.named, fun other copy hcopy => ?_⟩
  simp only at hcopy
  by_cases hsame : other = actor
  · rw [hsame, Function.update_self] at hcopy
    exact hfound copy hcopy
  · rw [Function.update_of_ne hsame] at hcopy
    exact h.copies other copy hcopy

theorem Holds.read (h : d.Holds id stored) : (d.perform id (.read actor)).Holds id stored := by
  simp only [perform, OrderStore.find]
  split
  · next hfound =>
      split at hfound
      · cases hfound
      · cases hfound
        refine h.copied fun copy hcopy => ?_
        cases h.found.symm.trans hcopy
        exact .refl stored
  · exact h

/-- A write that is not late puts a later version in the place of the stored order, or none; and it
takes a verifying order only out of VERIFYING if it was read so. -/
theorem Holds.write (h : d.Holds id stored)
    (htimely : d.late id (.write actor edit now) = false) :
    ∃ stored', (d.perform id (.write actor edit now)).Holds id stored' ∧
      Earlier stored stored' ∧ (stored.status = .verifying → stored'.status ≠ .verifying →
        ∃ copy, d.copies actor = some copy ∧ copy.status = .verifying) := by
  have hidle : ∃ stored', d.Holds id stored' ∧ Earlier stored stored' ∧
      (stored.status = .verifying → stored'.status ≠ .verifying →
        ∃ copy, d.copies actor = some copy ∧ copy.status = .verifying) :=
    ⟨stored, h, .refl stored, fun hverifying hleft => absurd hverifying hleft⟩
  cases hcopy : d.copies actor with
  | none => simpa [perform, hcopy] using hidle
  | some copy =>
      cases hmake : edit.make copy now with
      | none => simpa [perform, hcopy, hmake] using hidle
      | some changed =>
          have hearlier := h.copies actor copy hcopy
          have hleaves := Edit.make_leaves hmake
          simp only [late, hcopy, h.found, hmake, Option.isSome_some, Bool.true_and,
            Bool.or_eq_false_iff] at htimely
          simp only [perform, hcopy, hmake, Option.bind_some]
          rcases d.store.serve_cases now (.replace changed) with
            ⟨_, _, ⟨other, hother, hgives⟩, hdone⟩ | ⟨_, _, hrefused⟩
          · have hnamed : changed.id = id := hleaves.id.trans (hearlier.id.trans h.named)
            rw [hnamed, h.found] at hother
            cases hother
            have hlater : Earlier stored changed := by
              refine hearlier.replaced hleaves hgives fun hlinked => ?_
              simpa [hlinked] using htimely.1
            refine ⟨changed, ?_, hlater, fun hverifying hleft => ⟨copy, rfl, ?_⟩⟩
            · have hwritten : Holds ⟨d.store.replacing changed, d.copies⟩ id changed :=
                ⟨hnamed ▸ d.store.get?_insert_self changed, hnamed,
                  fun other copy hcopy => (h.copies other copy hcopy).trans hlater⟩
              rw [hdone]
              exact hwritten.copied fun _ hnone => nomatch hnone
            · have hresolves := hearlier.resolves hleaves hverifying hgives hleft
              simpa [hresolves, Order.isVerifying, hverifying] using htimely.2
          · rw [hrefused]
            exact ⟨stored, h.copied (fun _ hnone => nomatch hnone), .refl stored,
              fun hverifying hleft => absurd hverifying hleft⟩

theorem Holds.perform {deed : Deed α} (h : d.Holds id stored)
    (htimely : d.late id deed = false) :
    ∃ stored', (d.perform id deed).Holds id stored' ∧ Earlier stored stored' := by
  cases deed with
  | read actor => exact ⟨stored, h.read, .refl stored⟩
  | write actor edit now =>
      obtain ⟨stored', hholds, hearlier, _⟩ := h.write htimely
      exact ⟨stored', hholds, hearlier⟩

/-! ## Any number of deeds -/

theorem along_append (d : Desk α) (id : OrderId) (before after : List (Deed α)) :
    d.along id (before ++ after) = (d.along id before).along id after :=
  List.foldl_append

theorem timely_append (d : Desk α) (id : OrderId) (before after : List (Deed α)) :
    d.timely id (before ++ after) =
      (d.timely id before && (d.along id before).timely id after) := by
  induction before generalizing d with
  | nil => rfl
  | cons deed before ih =>
      simp only [List.cons_append, timely, ih, Bool.and_assoc]
      rfl

theorem Holds.along {deeds : List (Deed α)} (h : d.Holds id stored)
    (htimely : d.timely id deeds = true) :
    ∃ stored', (d.along id deeds).Holds id stored' ∧ Earlier stored stored' := by
  induction deeds generalizing d stored with
  | nil => exact ⟨stored, h, .refl stored⟩
  | cons deed deeds ih =>
      simp only [timely, Bool.and_eq_true, Bool.not_eq_true'] at htimely
      obtain ⟨next, hnext, hearlier⟩ := h.perform htimely.1
      obtain ⟨last, hlast, hlater⟩ := ih hnext htimely.2
      exact ⟨last, hlast, hearlier.trans hlater⟩

/-- **No late write, no lost link.** Any number of actors read, edit and write one order. Unless a
write is late, a link that was stored stays as it is, and VERIFYING is left only by a write of a copy
that was itself read as VERIFYING. -/
theorem linked_verifying_last (s : OrderStore) (o : Order) (deeds : List (Deed α))
    (htimely : (start s o).timely o.id deeds = true) :
    (∀ before after, deeds = before ++ after →
      ∀ stored link, ((start s o).along o.id before).store.get? o.id = some stored →
        stored.transactionId = some link →
        ∃ stored', ((start s o).along o.id deeds).store.get? o.id = some stored' ∧
          stored'.transactionId = some link) ∧
    (∀ before deed after, deeds = before ++ deed :: after →
      ∀ stored stored', ((start s o).along o.id before).store.get? o.id = some stored →
        ((start s o).along o.id (before ++ [deed])).store.get? o.id = some stored' →
        stored.status = .verifying → stored'.status ≠ .verifying →
        ∃ actor edit now copy, deed = .write actor edit now ∧
          ((start s o).along o.id before).copies actor = some copy ∧
          copy.status = .verifying) := by
  constructor
  · rintro before after rfl stored link hstored hlink
    rw [timely_append, Bool.and_eq_true] at htimely
    obtain ⟨mid, hmid, _⟩ := (start_holds s o).along htimely.1
    cases hmid.found.symm.trans hstored
    obtain ⟨last, hlast, hlater⟩ := hmid.along htimely.2
    rw [along_append]
    exact ⟨last, hlast.found, hlater.link link hlink⟩
  · rintro before deed after rfl stored stored' hstored hstored' hverifying hleft
    rw [timely_append, Bool.and_eq_true] at htimely
    obtain ⟨mid, hmid, _⟩ := (start_holds s o).along htimely.1
    cases hmid.found.symm.trans hstored
    simp only [timely, Bool.and_eq_true, Bool.not_eq_true'] at htimely
    rw [along_append] at hstored'
    cases deed with
    | read actor =>
        cases hmid.read.found.symm.trans hstored'
        exact absurd hverifying hleft
    | write actor edit now =>
        obtain ⟨last, hlast, _, hread⟩ := hmid.write htimely.2.1
        cases hlast.found.symm.trans hstored'
        obtain ⟨copy, hcopy, hwas⟩ := hread hverifying hleft
        exact ⟨actor, edit, now, copy, rfl, hcopy, hwas⟩

/-! ### Two actors -/

/-- An order that is being processed and is linked to no ledger record. -/
def processed : Order :=
  { Order.create default default default .cashIn .zero default with status := .processing }

/-- The order and the copies of two actors after what they have done. -/
def after (deeds : List (Deed Bool)) : Desk Bool := (start .empty processed).along processed.id deeds

def after? (deeds : List (Deed Bool)) : Option Order := (after deeds).store.get? processed.id

/-- Each reads the order when the other has written it. It is linked, then it is verifying, and who
reads it so fails it. -/
def inTurn : List (Deed Bool) :=
  [.read true, .write true (.change (.linkTransaction default) rfl) default,
    .read false, .write false (.change (.markVerifying "timeout") rfl) default,
    .read true, .write true (.change (.fail "refused") rfl) default]

theorem linked_verifying_last_inTurn :
    (start .empty processed : Desk Bool).timely processed.id inTurn = true ∧
      (∃ o, after? inTurn = some o ∧ o.transactionId = some default) ∧
      ∃ copy, (after (inTurn.take 5)).copies true = some copy ∧ copy.status = .verifying := by
  have htimely : (start .empty processed : Desk Bool).timely processed.id inTurn = true := by decide
  have hlinked : (after? (inTurn.take 2)).map (·.transactionId) = some (some default) := by decide
  have hverifying : (after? (inTurn.take 5)).map (·.status) = some .verifying := by decide
  have hfailed : (after? inTurn).map (·.status) = some .failed := by decide
  obtain ⟨hlast, hleft⟩ := linked_verifying_last .empty processed inTurn htimely
  obtain ⟨first, hfirst, hlink⟩ := Option.map_eq_some_iff.mp hlinked
  obtain ⟨mid, hmid, hwas⟩ := Option.map_eq_some_iff.mp hverifying
  obtain ⟨last, hend, hstatus⟩ := Option.map_eq_some_iff.mp hfailed
  refine ⟨htimely, hlast (inTurn.take 2) (inTurn.drop 2) rfl first default hfirst hlink, ?_⟩
  obtain ⟨actor, edit, now, copy, hdeed, hcopy, hread⟩ := hleft (inTurn.take 5)
    (.write true (.change (.fail "refused") rfl) default) [] rfl mid last hmid hend hwas
    (by simp [hstatus])
  cases hdeed
  exact ⟨copy, hcopy, hread⟩

/-- Two actors read the order at the same time. What one of them links, the other unlinks with a
write about something else; and what one of them parks as VERIFYING, the other cancels. -/
theorem linked_verifying_lost :
    (∃ deeds deed, (after? deeds).map (·.transactionId) = some (some default) ∧
      (after? (deeds ++ [deed])).map (·.transactionId) = some none) ∧
    ∃ deeds edit now, (after? deeds).map (·.status) = some .verifying ∧
      ((after deeds).copies false).map (·.status) = some .processing ∧
      (after? (deeds ++ [.write false edit now])).map (·.status) = some .cancelled := by
  refine ⟨⟨[.read true, .read false, .write true (.change (.linkTransaction default) rfl) default],
    .write false (.change (.setBankTraceId "BANK-000001") rfl) default, by decide, by decide⟩,
    [.read true, .read false, .write true (.change (.markVerifying "timeout") rfl) default],
    .change (.cancel "withdrawn") rfl, default, by decide, by decide, by decide⟩

end Desk

end Wallet
