import Wallet.Proofs.Telling.Basic
import Wallet.Proofs.World.Run

/-!
# Notifications and the worker pool

A notification is handed to the worker pool, which drops it if no slot is free. As long as there is
one for every notification, the pool accepts exactly those of the history.
-/

namespace Wallet

/-- The pool has a free slot when a notification is handed to it. -/
def Moment.HasSlot (m : Moment) : Call → Prop
  | .submit _ => m.pool.submit?.isSome = true
  | _ => True

theorem Moment.hasSlot_fair (code : String) (c : Call) : (Moment.fair code).HasSlot c := by
  cases c <;> trivial

namespace Program

variable {α : Type} {P : Moment → Call → Prop} {x : Program α} {w w' : World} {a : α}

/-- The program may end with a value and leave a world, with such moments around its calls. -/
def YieldsAmid (P : Moment → Call → Prop) : Program α → World → α → World → Prop
  | .done a, w, b, w' => b = a ∧ w' = w
  | .call c next, w, b, w' =>
      ∃ m, P m c ∧ w.Fresh m c ∧ (next (w.answer m c).1).YieldsAmid P (w.answer m c).2 b w'

theorem YieldsAmid.yields (h : x.YieldsAmid P w a w') : x.Yields w a w' := by
  induction x generalizing w with
  | done b => exact h
  | call c next ih =>
      obtain ⟨m, _, hfresh, hrest⟩ := h
      exact ⟨m, hfresh, ih _ hrest⟩

theorem yieldsAmid_of_follow {moments : List Moment} (hP : ∀ m ∈ moments, ∀ c, P m c)
    (h : x.follow moments w = some (a, w')) : x.YieldsAmid P w a w' := by
  induction x generalizing moments w with
  | done b =>
      cases h
      exact ⟨rfl, rfl⟩
  | call c next ih =>
      cases moments with
      | nil => cases h
      | cons m rest =>
          by_cases hfresh : w.Fresh m c
          · rw [follow, if_pos hfresh] at h
            exact ⟨m, hP m List.mem_cons_self c, hfresh,
              ih _ (fun m' hm' => hP m' (List.mem_cons_of_mem _ hm')) h⟩
          · rw [follow, if_neg hfresh] at h
            cases h

end Program

/-- Of all calls only handing in a notification adds to the jobs of the pool. -/
theorem World.jobs_answer (w : World) {m : Moment} {c : Call} (hslot : m.HasSlot c) :
    (w.answer m c).2.services.jobs =
      w.services.jobs ++ (Event.mk c (w.answer m c).1).notice?.toList := by
  simp only [World.answer, Services.serve]
  split
  · next refusal hrefusal =>
      have hsilent : (Event.mk c refusal).notice? = none := by
        obtain ⟨what, _, hwhat⟩ := Option.bind_eq_some_iff.mp hrefusal
        cases c <;> first | rfl | cases hwhat
      rw [hsilent]
      exact (List.append_nil _).symm
  · cases c with
    | submit n =>
        obtain ⟨pool, hpool⟩ := Option.isSome_iff_exists.mp hslot
        have htaken : (w.services.amid m).pool.submit? = some pool := hpool
        show ((w.services.amid m).submitJob n).jobs = _
        simp only [Services.submitJob, Services.takeSlot, htaken]
        rfl
    | _ => exact (List.append_nil _).symm

/-- The pool accepts all notifications that are handed to it if it has a free slot each time. -/
theorem Program.jobs_of_yieldsAmid {α : Type} {x : Program α} {w w' : World} {a : α}
    (h : x.YieldsAmid Moment.HasSlot w a w') : ∃ later, w'.history = w.history ++ later ∧
      w'.services.jobs = w.services.jobs ++ notices later := by
  induction x generalizing w with
  | done b =>
      obtain ⟨rfl, rfl⟩ := h
      exact ⟨[], (List.append_nil _).symm, (List.append_nil _).symm⟩
  | call c next ih =>
      obtain ⟨m, hslot, _, hrest⟩ := h
      obtain ⟨later, hhistory, hjobs⟩ := ih _ hrest
      refine ⟨⟨c, (w.answer m c).1⟩ :: later, ?_, ?_⟩
      · rw [hhistory]
        exact List.append_assoc _ _ _
      · rw [hjobs, w.jobs_answer hslot, List.append_assoc]
        congr 1
        unfold notices
        cases hnotice : (Event.mk c (w.answer m c).1).notice? with
        | none => rw [List.filterMap_cons_none hnotice]; rfl
        | some n => rw [List.filterMap_cons_some hnotice]; rfl

end Wallet
