import Wallet.Flow.Payment
import Wallet.Proofs.World.Basic
import Wallet.Reconciliation.Sweep

/-!
# Runs of programs

`Yields` says where a program may end in a world, with any moment around each of its calls. `Always`
says that a program ends well however its calls are answered, as long as the answers agree with the
books; its rules follow the program, and `Always.sound` carries what it shows over to worlds.
-/

namespace Wallet

namespace Program

variable {α β : Type}

/-- The program may end with a value and leave a world. -/
def Yields : Program α → World → α → World → Prop
  | .done a, w, b, w' => b = a ∧ w' = w
  | .call c next, w, b, w' => ∃ m, w.Fresh m c ∧ (next (w.answer m c).1).Yields (w.answer m c).2 b w'

/-- Runs a program with given moments around its calls. There is no end if the moments do not last
or one of them makes an identifier again. -/
def follow : Program α → List Moment → World → Option (α × World)
  | .done a, _, w => some (a, w)
  | .call _ _, [], _ => none
  | .call c next, m :: rest, w =>
      if w.Fresh m c then (next (w.answer m c).1).follow rest (w.answer m c).2 else none

theorem yields_of_follow {x : Program α} {moments : List Moment} {w w' : World} {a : α}
    (h : x.follow moments w = some (a, w')) : x.Yields w a w' := by
  induction x generalizing moments w with
  | done b =>
      cases h
      exact ⟨rfl, rfl⟩
  | call c next ih =>
      cases moments with
      | nil => cases h
      | cons m rest =>
          by_cases hfresh : w.Fresh m c
          · rw [follow, if_pos hfresh] at h
            exact ⟨m, hfresh, ih _ h⟩
          · rw [follow, if_neg hfresh] at h
            cases h

theorem yields_bind {x : Program α} {f : α → Program β} {w w' : World} {b : β} :
    (x >>= f).Yields w b w' ↔ ∃ a w₁, x.Yields w a w₁ ∧ (f a).Yields w₁ b w' := by
  induction x generalizing w with
  | done a =>
      constructor
      · intro h
        exact ⟨a, w, ⟨rfl, rfl⟩, h⟩
      · rintro ⟨_, _, ⟨rfl, rfl⟩, h⟩
        exact h
  | call c next ih =>
      constructor
      · rintro ⟨m, hfresh, hrest⟩
        obtain ⟨a, w₁, hnext, hlast⟩ := (ih _).mp hrest
        exact ⟨a, w₁, ⟨m, hfresh, hnext⟩, hlast⟩
      · rintro ⟨a, w₁, ⟨m, hfresh, hnext⟩, hlast⟩
        exact ⟨m, hfresh, (ih _).mpr ⟨a, w₁, hnext, hlast⟩⟩

/-! ## Whatever the answers are -/

/-- Whatever agrees with the books is answered, the program ends with a value and a past that
satisfy `Q`. -/
def Always : Program α → Past → (α → Past → Prop) → Prop
  | .done a, p, Q => Q a p
  | .call c next, p, Q => ∀ x, p.books.Allows c x → (next x).Always (p.note c x) Q

theorem always_bind (x : Program α) (f : α → Program β) (p : Past) (Q : β → Past → Prop) :
    (x >>= f).Always p Q ↔ x.Always p fun a p => (f a).Always p Q := by
  induction x generalizing p with
  | done a => rfl
  | call c next ih => exact forall_congr' fun x => imp_congr_right fun _ => ih x _

theorem Always.mono {x : Program α} {p : Past} {Q R : α → Past → Prop} (h : x.Always p Q)
    (hQR : ∀ a p, Q a p → R a p) : x.Always p R := by
  induction x generalizing p with
  | done a => exact hQR a p h
  | call c next ih => exact fun x hx => ih x (h x hx)

/-- What a program always ends with, it ends with in every world. -/
theorem Always.sound {x : Program α} {w w' : World} {a : α} {Q : α → Past → Prop}
    (h : x.Always w.past Q) (hrun : x.Yields w a w') : Q a w'.past := by
  induction x generalizing w with
  | done b =>
      obtain ⟨rfl, rfl⟩ := hrun
      exact h
  | call c next ih =>
      obtain ⟨m, hfresh, hrest⟩ := hrun
      obtain ⟨hallows, hpast⟩ := w.answer_agrees m hfresh
      exact ih _ (hpast ▸ h _ hallows) hrest

end Program

/-! ## Whole histories -/

/-- A call of a flow. -/
inductive FlowCall where
  | pay (kind : FlowKind) (request : PaymentRequest)
  /-- Hands in the one-time password of an order. -/
  | resume (id : OrderId) (otp : String)

def FlowCall.program (settings : FlowSettings) (operation : Context) :
    FlowCall → Program (Except Crash FlowOutcome)
  | .pay kind request => Flow.pay settings kind request operation
  | .resume id otp => Flow.resumeCashIn settings id otp operation

/-- What a process does at one go. -/
inductive Act where
  | flow (config : FlowConfig) (call : FlowCall) (operation : Context)
  | sweep (config : ReconciliationConfig)

/-- The program of an act, whose value is dropped. -/
def Act.program (registry : ClassifierRegistry) : Act → Program Unit
  | .flow config call operation => do
      let _ ← call.program ⟨registry, config⟩ operation
  | .sweep config => do
      let _ ← Reconciler.sweep ⟨registry, config⟩

/-- The worlds that flows and sweeps reach one after the other from empty services. -/
inductive Reachable (registry : ClassifierRegistry) : World → Prop where
  | start (pool : Pool) (sinks : List Sink) (clock : Timestamp) :
      Reachable registry (.start pool sinks clock)
  | act {w w' : World} (a : Act) : Reachable registry w → (a.program registry).Yields w () w' →
      Reachable registry w'

/-- The world after some acts, each with the moments around its calls. -/
def World.visit (registry : ClassifierRegistry) : List (Act × List Moment) → World → Option World
  | [], w => some w
  | (a, moments) :: rest, w =>
      match (a.program registry).follow moments w with
      | some (_, w) => visit registry rest w
      | none => none

namespace Reachable

variable {registry : ClassifierRegistry} {w w' : World}

theorem of_visit {acts : List (Act × List Moment)} (h : Reachable registry w)
    (hvisit : w.visit registry acts = some w') : Reachable registry w' := by
  induction acts generalizing w with
  | nil =>
      cases hvisit
      exact h
  | cons act rest ih =>
      obtain ⟨a, moments⟩ := act
      rw [World.visit] at hvisit
      cases hfollow : (a.program registry).follow moments w with
      | none =>
          rw [hfollow] at hvisit
          cases hvisit
      | some r =>
          rw [hfollow] at hvisit
          exact ih (h.act a (Program.yields_of_follow hfollow)) hvisit

/-- What empty books satisfy and every act keeps, all reachable worlds satisfy. -/
theorem invariant {I : Past → Prop} (hstart : I ⟨⟨fun _ => none, fun _ => none⟩, []⟩)
    (hact : ∀ (a : Act) (p : Past), I p → (a.program registry).Always p fun _ p => I p)
    (h : Reachable registry w) : I w.past := by
  induction h with
  | start pool sinks clock => exact hstart
  | act a _ hrun ih => exact (hact a _ ih).sound hrun

end Reachable

end Wallet
