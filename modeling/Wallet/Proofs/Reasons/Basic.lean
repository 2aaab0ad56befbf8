import Wallet.Proofs.Flow.Steps

/-!
# Reasons

An order is failed, and a ledger record cancelled, for a reason. Undoing a flow takes it from the
error that is kept first, which is to be the error of the step that has failed. There is none if the
flow was cancelled, and then the first error of an undoing action is kept in its place.

What is said of the events since a past follows the undoing: nothing is failed or cancelled while a
flow goes on (`Spared`), the record is cancelled first (`Released`), and the order is failed last
(`Withdrawn`).
-/

namespace Wallet

open Wallet.Flow

namespace Event

/-- The record as it is cancelled, if the event is that. -/
def cancelled? : Event → Option Transaction
  | ⟨.ledger (.cancel _ _), .ok t⟩ => some t
  | _ => none

/-- The order as it is filed with the status of a failed one, if the event is that. -/
def failed? : Event → Option Order
  | ⟨.orders (.create _), .ok o⟩ | ⟨.orders (.replace _), .ok o⟩ | ⟨.orders (.process _), .ok o⟩ =>
      if o.status = .failed then some o else none
  | _ => none

/-- If a record is cancelled, that is for this reason. -/
def CancelsFor (reason : String) (e : Event) : Prop :=
  ∀ t, e.cancelled? = some t → t.failReason = some reason

/-- If an order is failed, that is for this reason. -/
def FailsFor (reason : String) (e : Event) : Prop :=
  ∀ o, e.failed? = some o → o.failReason = some reason

/-- Whether it was refused to take back something. -/
def hinders : Event → Bool
  | ⟨.ledger (.find _), .error _⟩ | ⟨.ledger (.cancel _ _), .error _⟩
  | ⟨.promotion (.reverse _), .error _⟩ => true
  | _ => false

variable {e : Event} {reason : String}

theorem cancelsFor_of_none (h : e.cancelled? = none) : e.CancelsFor reason :=
  fun _ ht => (nomatch h.symm.trans ht)

theorem failsFor_of_none (h : e.failed? = none) : e.FailsFor reason :=
  fun _ ho => (nomatch h.symm.trans ho)

theorem failed?_replace {o : Order} (h : o.status ≠ .failed) :
    failed? ⟨.orders (.replace o), .ok o⟩ = none :=
  if_neg h

theorem unblamed_of_conducts {c : Call} (x : c.Answer) (h : c.Conducts) :
    cancelled? ⟨c, x⟩ = none ∧ failed? ⟨c, x⟩ = none := by
  cases c <;> first | exact ⟨rfl, rfl⟩ | cases h

end Event

namespace Reasons

/-- The reason for undoing that the error of a step gives, if one has failed. -/
def reasonOf (why : Option FlowError) : String := (why.map FlowError.message).getD "rolled back"

/-- No error of an undoing action can be taken for the reason: only one action undoes the flow, a
step has failed, or nothing was refused to be taken back. -/
def Clear (alone : Prop) (why : Option FlowError) (events : List Event) : Prop :=
  alone ∨ why.isSome = true ∨ ∀ e ∈ events, e.hinders = false

/-- Something holds of the events since a past. -/
def Since (before : Past) (P : List Event → Prop) (p : Past) : Prop :=
  ∃ later, p.events = before.events ++ later ∧ P later

/-- No record was cancelled and no order failed, and the reason is kept. -/
structure Spared (before : Past) (why : Option FlowError) (s : FlowState) (p : Past) : Prop where
  since : Since before (fun later => ∀ e ∈ later, e.cancelled? = none ∧ e.failed? = none) p
  kept : s.failureReason = why.map FlowError.message

/-- What has happened once the record was cancelled, if it was: no order has failed. -/
structure Releases (alone : Prop) (why : Option FlowError) (s : FlowState) (later : List Event) :
    Prop where
  cancels : ∀ e ∈ later, e.CancelsFor (reasonOf why)
  spares : ∀ e ∈ later, e.failed? = none
  kept : Clear alone why later → s.failureReason = why.map FlowError.message

/-- What has happened once the order was failed too, if it was. -/
structure Withdraws (alone : Prop) (why : Option FlowError) (later : List Event) : Prop where
  cancels : ∀ e ∈ later, e.CancelsFor (reasonOf why)
  fails : Clear alone why later → ∀ e ∈ later, e.FailsFor (reasonOf why)

def Released (before : Past) (alone : Prop) (why : Option FlowError) (s : FlowState) (p : Past) :
    Prop :=
  Since before (Releases alone why s) p

def Withdrawn (before : Past) (alone : Prop) (why : Option FlowError) (p : Past) : Prop :=
  Since before (Withdraws alone why) p

section

variable {before p : Past} {alone alone' : Prop} {why : Option FlowError} {s s' : FlowState}
  {c : Call} {x : c.Answer} {P Q : List Event → Prop} {later : List Event} {event : Event}

theorem Since.refl (h : P []) : Since before P before :=
  ⟨[], (List.append_nil _).symm, h⟩

theorem Since.note (h : Since before P p) (hPQ : ∀ later, P later → Q (later ++ [⟨c, x⟩])) :
    Since before Q (p.note c x) := by
  obtain ⟨later, hlater, h⟩ := h
  refine ⟨later ++ [⟨c, x⟩], ?_, hPQ later h⟩
  rw [Past.note_events, hlater, List.append_assoc]

theorem Since.mono (h : Since before P p) (hPQ : ∀ later, P later → Q later) :
    Since before Q p := by
  obtain ⟨later, hlater, h⟩ := h
  exact ⟨later, hlater, hPQ later h⟩

theorem forall_concat {P : Event → Prop} (h : ∀ e ∈ later, P e) (hevent : P event) :
    ∀ e ∈ later ++ [event], P e :=
  List.forall_mem_append.mpr ⟨h, List.forall_mem_singleton.mpr hevent⟩

theorem Clear.of_concat (h : Clear alone why (later ++ [event])) : Clear alone why later :=
  h.imp_right fun h => h.imp_right fun h e he => h e (List.mem_append_left _ he)

/-- Once something was refused to be taken back, only the error of a step is clear. -/
theorem Clear.failed (h : Clear False why (later ++ [event])) (hhinders : event.hinders = true) :
    why.isSome = true := by
  rcases h with h | h | h
  · exact h.elim
  · exact h
  · have hfree := h event (List.mem_append_right _ (List.mem_singleton_self _))
    cases hhinders.symm.trans hfree

/-! ## What lasts -/

/-- Something said of a flow that lasts as long as no record is cancelled, no order failed and no
error kept. -/
structure Lasts (A : FlowState → Past → Prop) : Prop where
  call : ∀ {s p c} {x : Call.Answer c}, A s p → (Event.mk c x).cancelled? = none →
    (Event.mk c x).failed? = none → A s (p.note c x)
  same : ∀ {s s' p}, A s p → s'.failureReason = s.failureReason → A s' p

theorem Lasts.now {A : FlowState → Past → Prop} (hA : Lasts A) (h : A s p) (now : Timestamp) :
    A s (p.note .now now) :=
  hA.call h rfl rfl

theorem Lasts.found {A : FlowState → Past → Prop} (hA : Lasts A) (h : A s p) (key : OrderId)
    (stored : Option Order) : A s (p.note (.orders (.find key)) (.ok stored)) :=
  hA.call h rfl rfl

theorem lasts_spared : Lasts (Spared before why) where
  call h hcancelled hfailed :=
    ⟨h.since.note fun _ hlater => forall_concat hlater ⟨hcancelled, hfailed⟩, h.kept⟩
  same h hsame := ⟨h.since, hsame.trans h.kept⟩

theorem lasts_released : Lasts (Released before alone why) where
  call h hcancelled hfailed := h.note fun _ hlater =>
    ⟨forall_concat hlater.cancels (Event.cancelsFor_of_none hcancelled),
      forall_concat hlater.spares hfailed, fun hclear => hlater.kept hclear.of_concat⟩
  same h hsame := h.mono fun _ hlater =>
    ⟨hlater.cancels, hlater.spares, fun hclear => hsame.trans (hlater.kept hclear)⟩

theorem lasts_withdrawn : Lasts fun _ => Withdrawn before alone why where
  call h hcancelled hfailed := h.note fun _ hlater =>
    ⟨forall_concat hlater.cancels (Event.cancelsFor_of_none hcancelled), fun hclear =>
      forall_concat (hlater.fails hclear.of_concat) (Event.failsFor_of_none hfailed)⟩
  same h _ := h

/-! ## From one to the next -/

theorem Spared.released (h : Spared before why s p) : Released before alone why s p :=
  h.since.mono fun _ hlater =>
    ⟨fun e he => Event.cancelsFor_of_none (hlater e he).1, fun e he => (hlater e he).2,
      fun _ => h.kept⟩

theorem Released.withdrawn (h : Released before alone why s p) : Withdrawn before alone' why p :=
  h.mono fun _ hlater =>
    ⟨hlater.cancels, fun _ e he => Event.failsFor_of_none (hlater.spares e he)⟩

theorem Spared.withdrawn (h : Spared before why s p) : Withdrawn before alone why p := by
  have hreleased : Released before True why s p := h.released
  exact hreleased.withdrawn

/-- If one action undoes the flow, its errors do not matter. -/
theorem Released.of_alone (h : Released before True why s p) : Released before alone why s p :=
  Since.mono h fun _ hlater =>
    ⟨hlater.cancels, hlater.spares, fun _ => hlater.kept (.inl trivial)⟩

/-- The error of a step is kept as the reason. -/
theorem Spared.keep (h : Spared before none s p) (e : FlowError) :
    Spared before (some e) (keepReason (.error e) s) p := by
  refine ⟨h.since, ?_⟩
  simp only [keepReason, h.kept]
  rfl

/-- The record is cancelled with the reason that is kept. -/
theorem Spared.cancel {id : TransactionId} {given : String} {t : Transaction}
    (h : Spared before why s p)
    (ht : t.failReason = some s.rollbackReason) :
    Released before alone why s (p.note (.ledger (.cancel id given)) (.ok t)) := by
  have hreason : s.rollbackReason = reasonOf why := by
    rw [FlowState.rollbackReason, h.kept]
    rfl
  refine h.since.note fun _ hlater => ⟨forall_concat (fun e he => ?_) ?_, forall_concat ?_ ?_, ?_⟩
  · exact Event.cancelsFor_of_none (hlater e he).1
  · rintro _ ⟨⟩
    rw [ht, hreason]
  · exact fun e he => (hlater e he).2
  · rfl
  · exact fun _ => h.kept

/-- It is refused to take something back. Its error is kept as the reason if there is none yet. -/
theorem Released.hindered (h : Released before False why s p)
    (hhinders : (Event.mk c x).hinders = true) (r : Except FlowError Unit) :
    Released before False why (keepReason r s) (p.note c x) := by
  have hrefused : (Event.mk c x).cancelled? = none ∧ (Event.mk c x).failed? = none := by
    cases c with
    | ledger r => cases r <;> cases x <;> first | exact ⟨rfl, rfl⟩ | cases hhinders
    | promotion r => exact ⟨rfl, rfl⟩
    | _ => cases hhinders
  refine Since.note h fun later hlater => ⟨?_, ?_, fun hclear => ?_⟩
  · exact forall_concat hlater.cancels (Event.cancelsFor_of_none hrefused.1)
  · exact forall_concat hlater.spares hrefused.2
  have hkept := hlater.kept hclear.of_concat
  obtain ⟨e, rfl⟩ := Option.isSome_iff_exists.mp (hclear.failed hhinders)
  cases r with
  | ok u => exact hkept
  | error e =>
      simp only [keepReason, hkept]
      rfl

/-- The order is failed with the reason that is kept. -/
theorem Released.withdraw {o : Order} (h : Released before alone why s p)
    (ho : o.failReason = some s.rollbackReason) :
    Withdrawn before alone why (p.note (.orders (.replace o)) (.ok o)) := by
  refine Since.note h fun later hlater => ⟨?_, fun hclear => ?_⟩
  · exact forall_concat hlater.cancels (Event.cancelsFor_of_none rfl)
  have hreason : s.rollbackReason = reasonOf why := by
    rw [FlowState.rollbackReason, hlater.kept hclear.of_concat]
    rfl
  refine forall_concat (fun e he => Event.failsFor_of_none (hlater.spares e he)) fun o' ho' => ?_
  obtain ⟨_, ⟨⟩⟩ := Option.ite_none_right_eq_some.mp ho'
  rw [ho, hreason]

end

end Reasons

end Wallet
