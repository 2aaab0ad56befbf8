import Wallet.Saga.Play

/-!
# Plays up to where they are recorded
-/

namespace Wallet.Saga

variable {ε : Type} {m : Type → Type} [Monad m] [ToString ε]

/-- Plays a saga up to where it is recorded. -/
def enact (conductor : Conductor m) (saga : Saga ε m) (operation compensation : Context) :
    m (Execution ε) := do
  conductor.count (metric "saga_executions_total" saga.name)
  let (attempted, error) ← advance conductor operation saga.steps
  match error with
  | none => do
      conductor.count (metric "saga_completed" saga.name)
      pure ⟨saga.name, .completed, attempted, none⟩
  | some e => do
      let undone ← unwind conductor saga.name compensation (saga.steps.zip attempted)
      conductor.count (metric "saga_failed" saga.name)
      pure ⟨saga.name, unwoundState undone, undone, some e⟩

/-- A play is recorded once it has been enacted. -/
theorem play_eq_enact [LawfulMonad m] (conductor : Conductor m) (saga : Saga ε m)
    (operation compensation : Context) :
    saga.play conductor operation compensation =
      saga.enact conductor operation compensation >>= fun x => do
        conductor.record x.sagaName x.steps
        conductor.sample (metric "saga_duration_seconds" x.sagaName)
        return x := by
  unfold play enact
  simp only [bind_assoc]
  congr 1
  funext _
  congr 1
  funext x
  obtain ⟨attempted, error⟩ := x
  cases error <;> simp only [bind_assoc, pure_bind]

end Wallet.Saga
