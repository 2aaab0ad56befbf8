import Wallet.Proofs.Changes
import Wallet.Proofs.Flow.Ensures

/-!
# What users are told

A notification goes out after an order was written, and what it says of the order is what was
written. While a flow runs nobody else writes orders, so there are few ways in which things can
stand between its orders and its notifications: nothing has been told yet and nothing was to be told
(`Untold`), or one notification went out and tells how the order stands (`Told`). All of them are
about what has happened since a past, that in which the flow began.
-/

namespace Wallet

open Wallet.Flow

/-- The notification that is handed to the worker pool, if the event is that. -/
def Event.notice? : Event → Option Notification
  | ⟨.submit n, _⟩ => some n
  | _ => none

/-- The notifications that were handed to the worker pool, the oldest first. -/
def notices (events : List Event) : List Notification := events.filterMap Event.notice?

/-- The status that an order has got according to a notification. -/
def NotificationKind.status? : NotificationKind → Option OrderStatus
  | .orderSucceeded => some .success
  | .orderFailed => some .failed
  | .orderVerifying => some .verifying
  | .otpRequired => none

theorem notices_note {p : Past} {c : Call} {x : c.Answer} (h : (Event.mk c x).notice? = none) :
    notices (p.note c x).events = notices p.events := by
  rw [notices, Past.note_events, List.filterMap_append, List.filterMap_cons_none h]
  exact List.append_nil _

theorem notices_submit (p : Past) (n : Notification) (x : Call.Answer (.submit n)) :
    notices (p.note (.submit n) x).events = notices p.events ++ [n] := by
  rw [notices, Past.note_events, List.filterMap_append]
  rfl

namespace Telling

/-- Since a past the flow has not begun with any order: none was written, and nothing was told. -/
structure Unbegun (before : Past) (s : FlowState) (p : Past) : Prop where
  order : s.order = none
  orders : p.books.orders = before.books.orders
  sent : notices p.events = notices before.events

/-- The flow has the stored order, and since a past it has written no other and sent these
notifications. The order was not stored then, or it was processing. -/
structure Keeping (before : Past) (ns : List Notification) (s : FlowState) (p : Past) (o : Order) :
    Prop where
  order : s.order = some o
  stored : p.books.orders o.id = some o
  others : ∀ key, key ≠ o.id → p.books.orders key = before.books.orders key
  sent : notices p.events = notices before.events ++ ns
  fresh : ∀ b, before.books.orders o.id = some b → b.status = .processing

/-- The flow has not come to an end with the order yet. -/
def Midway (o : Order) : Prop := o.status = .pending ∨ o.status = .processing

/-- Nothing was told, and the order, if there is one, is still on its way. -/
inductive Untold (before : Past) (s : FlowState) (p : Past) : Prop
  | unbegun : Unbegun before s p → Untold before s p
  | midway {o : Order} : Keeping before [] s p o → Midway o → Untold before s p

/-- The order has come to a status, and that was told. -/
def Told (before : Past) (status : OrderStatus) (s : FlowState) (p : Past) : Prop :=
  ∃ o n, Keeping before [n] s p o ∧ o.status = status ∧ n.orderId = o.id ∧
    n.kind.status? = some status

/-- What was told, if anything was, is how the order stands. -/
def Settled (before : Past) (s : FlowState) (p : Past) : Prop :=
  Untold before s p ∨ ∃ status, Told before status s p

section

variable {before p : Past} {ns : List Notification} {s s' : FlowState} {o o' : Order} {c : Call}
  {x : c.Answer}

/-! ## Calls that write no order -/

theorem Unbegun.call (h : Unbegun before s p) (hnotice : (Event.mk c x).notice? = none)
    (horders : (p.note c x).books.orders = p.books.orders) : Unbegun before s (p.note c x) :=
  ⟨h.order, horders.trans h.orders, (notices_note hnotice).trans h.sent⟩

theorem Keeping.call (h : Keeping before ns s p o) (hnotice : (Event.mk c x).notice? = none)
    (horders : (p.note c x).books.orders = p.books.orders) :
    Keeping before ns s (p.note c x) o where
  order := h.order
  stored := by
    rw [horders]
    exact h.stored
  others := by
    rw [horders]
    exact h.others
  sent := (notices_note hnotice).trans h.sent
  fresh := h.fresh

theorem Keeping.now (h : Keeping before ns s p o) (now : Timestamp) :
    Keeping before ns s (p.note .now now) o :=
  h.call rfl rfl

theorem Keeping.found (h : Keeping before ns s p o) (key : OrderId) (stored : Option Order) :
    Keeping before ns s (p.note (.orders (.find key)) (.ok stored)) o :=
  h.call rfl rfl

theorem Unbegun.of_same (h : Unbegun before s p) (hsame : s'.order = s.order) :
    Unbegun before s' p :=
  ⟨hsame.trans h.order, h.orders, h.sent⟩

theorem Keeping.of_same (h : Keeping before ns s p o) (hsame : s'.order = s.order) :
    Keeping before ns s' p o :=
  ⟨hsame.trans h.order, h.stored, h.others, h.sent, h.fresh⟩

/-- What a flow says of its order and the notifications does not depend on calls that write no order
and send none, nor on the other fields of its state. -/
structure Calm (A : FlowState → Past → Prop) : Prop where
  call : ∀ {s p c} {x : c.Answer}, A s p → (Event.mk c x).notice? = none →
    (p.note c x).books.orders = p.books.orders → A s (p.note c x)
  same : ∀ {s s' p}, A s p → s'.order = s.order → s'.parked = s.parked → A s' p

theorem calm_untold : Calm (Untold before) where
  call h hnotice horders := by
    cases h with
    | unbegun h => exact .unbegun (h.call hnotice horders)
    | midway h hopen => exact .midway (h.call hnotice horders) hopen
  same h horder _ := by
    cases h with
    | unbegun h => exact .unbegun (h.of_same horder)
    | midway h hopen => exact .midway (h.of_same horder) hopen

theorem calm_told {status : OrderStatus} : Calm (Told before status) where
  call h hnotice horders := by
    obtain ⟨o, n, h, htells⟩ := h
    exact ⟨o, n, h.call hnotice horders, htells⟩
  same h horder _ := by
    obtain ⟨o, n, h, htells⟩ := h
    exact ⟨o, n, h.of_same horder, htells⟩

theorem calm_settled : Calm (Settled before) where
  call h hnotice horders :=
    h.imp (calm_untold.call · hnotice horders) fun ⟨status, h⟩ =>
      ⟨status, calm_told.call h hnotice horders⟩
  same h horder hparked :=
    h.imp (calm_untold.same · horder hparked) fun ⟨status, h⟩ =>
      ⟨status, calm_told.same h horder hparked⟩

/-! ## Orders that are written -/

/-- The order is written, and the flow goes on with it. -/
theorem Keeping.write (h : Keeping before ns s p o) (hid : o'.id = o.id)
    (hnotice : (Event.mk c x).notice? = none) (hbooks : (p.note c x).books = p.books.file o') :
    Keeping before ns { s with order := some o' } (p.note c x) o' where
  order := rfl
  stored := by
    rw [hbooks]
    exact Books.file_self ..
  others key hkey := by
    rw [hbooks, Books.file_of_ne _ _ hkey]
    exact h.others key (hid ▸ hkey)
  sent := (notices_note hnotice).trans h.sent
  fresh := by
    rw [hid]
    exact h.fresh

/-- The first order that a flow writes. -/
theorem Unbegun.write (h : Unbegun before s p) (hnew : p.books.orders o.id = none)
    (hnotice : (Event.mk c x).notice? = none) (hbooks : (p.note c x).books = p.books.file o) :
    Keeping before [] { s with order := some o } (p.note c x) o where
  order := rfl
  stored := by
    rw [hbooks]
    exact Books.file_self ..
  others key hkey := by
    rw [hbooks, Books.file_of_ne _ _ hkey, h.orders]
  sent := by
    rw [notices_note hnotice, h.sent, List.append_nil]
  fresh b hb := by
    rw [← h.orders, hnew] at hb
    cases hb

/-- The user is told of the order. -/
theorem Keeping.notify (h : Keeping before ns s p o) (n : Notification)
    (x : Call.Answer (.submit n)) :
    Keeping before (ns ++ [n]) s (p.note (.submit n) x) o where
  order := h.order
  stored := h.stored
  others := h.others
  sent := by
    rw [notices_submit, h.sent, List.append_assoc]
  fresh := h.fresh

/-- The order is written with another status, and the user is told. -/
theorem Keeping.announce (h : Keeping before [] s p o) (hid : o'.id = o.id) {n : Notification}
    (hn : n.orderId = o'.id) (hkind : n.kind.status? = some o'.status) :
    Told before o'.status { s with order := some o' }
      ((p.note (.orders (.replace o')) (.ok o')).note (.submit n) ()) := by
  have hwritten : Keeping before [] { s with order := some o' }
      (p.note (.orders (.replace o')) (.ok o')) o' := h.write hid rfl (Past.note_replace ..)
  exact ⟨o', n, hwritten.notify n (), rfl, hn, hkind⟩

end

end Telling

end Wallet
