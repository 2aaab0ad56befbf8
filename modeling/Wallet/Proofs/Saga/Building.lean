import Wallet.Proofs.Saga.Play

/-!
# Building a saga

Steps are offered to a saga one by one. A step that is refused leaves the saga as it is, so what
becomes of a step depends on which of the earlier ones were kept (`Saga.Judged`). Building with a
chain stops at the first refusal instead.

A saga that was built has steps with different names and with actions (`Saga.Proper`), and so has
what is played of it.
-/

namespace Wallet.Saga

variable {ε : Type} {m : Type → Type}

/-! ## Offering steps -/

/-- Appends a step, or leaves the saga as it is and says why. -/
def offer (s : Saga ε m) (step : Step ε m) : Option SagaError × Saga ε m :=
  match s.add step with
  | .ok s => (none, s)
  | .error e => (some e, s)

/-- Offers steps one by one. -/
def offerAll (s : Saga ε m) : List (Step ε m) → List (Option SagaError) × Saga ε m
  | [] => ([], s)
  | step :: rest =>
      let (answer, s) := s.offer step
      let (answers, s) := s.offerAll rest
      (answer :: answers, s)

/-- The steps that were not refused. -/
def kept (steps : List (Step ε m)) (answers : List (Option SagaError)) : List (Step ε m) :=
  ((steps.zip answers).filter fun x => x.2.isNone).map Prod.fst

/-- How a step is judged when steps with some names have been kept before. -/
inductive Judged (saga : String) (taken : List String) (step : Step ε m) :
    Option SagaError → Prop where
  | kept : (∃ c ∈ step.name.toList, Text.isBlank c = false) → step.forward ≠ none →
      step.name ∉ taken → Judged saga taken step none
  | unnamed : (∀ c ∈ step.name.toList, Text.isBlank c = true) →
      Judged saga taken step (some (.emptyStepName saga))
  | idle : (∃ c ∈ step.name.toList, Text.isBlank c = false) → step.forward = none →
      Judged saga taken step (some (.missingForward saga step.name))
  | repeated : (∃ c ∈ step.name.toList, Text.isBlank c = false) → step.forward ≠ none →
      step.name ∈ taken → Judged saga taken step (some (.duplicateStep saga step.name))

theorem offer_judged (s : Saga ε m) (step : Step ε m) :
    Judged s.name s.stepNames step (s.offer step).1 := by
  unfold offer add
  by_cases hblank : Text.allBlank step.name = true
  · rw [if_pos hblank]
    exact .unnamed (List.all_eq_true.mp hblank)
  · have hname : ∃ c ∈ step.name.toList, Text.isBlank c = false := by
      simpa [Text.allBlank] using hblank
    rw [if_neg hblank]
    cases hforward : step.forward with
    | none =>
        rw [if_pos (by simp [Step.hasForward, hforward])]
        exact .idle hname hforward
    | some action =>
        have hacts : step.forward ≠ none := by simp [hforward]
        rw [if_neg (by simp [Step.hasForward, hforward])]
        by_cases htaken : step.name ∈ s.stepNames
        · rw [if_pos htaken]
          exact .repeated hname hacts htaken
        · rw [if_neg htaken]
          exact .kept hname hacts htaken

theorem offer_cases (s : Saga ε m) (step : Step ε m) :
    (s.add step = .ok { s with steps := s.steps ++ [step] } ∧
      s.offer step = (none, { s with steps := s.steps ++ [step] })) ∨
    ∃ e, s.add step = .error e ∧ s.offer step = (some e, s) := by
  unfold offer
  cases hadd : s.add step with
  | error e => exact .inr ⟨e, rfl, rfl⟩
  | ok s' =>
      unfold add at hadd
      split at hadd
      · cases hadd
      · split at hadd
        · cases hadd
        · split at hadd <;> cases hadd
          exact .inl ⟨rfl, rfl⟩

theorem name_offer (s : Saga ε m) (step : Step ε m) : (s.offer step).2.name = s.name := by
  rcases s.offer_cases step with ⟨-, hoffer⟩ | ⟨e, -, hoffer⟩ <;> rw [hoffer]

theorem offerAll_cons (s : Saga ε m) (step : Step ε m) (rest : List (Step ε m)) :
    s.offerAll (step :: rest) = ((s.offer step).1 :: ((s.offer step).2.offerAll rest).1,
      ((s.offer step).2.offerAll rest).2) := rfl

/-- The steps of a saga when some more steps have been offered. -/
theorem steps_offer_append (s : Saga ε m) (step : Step ε m) (rest : List (Step ε m))
    (answers : List (Option SagaError)) : (s.offer step).2.steps ++ kept rest answers =
      s.steps ++ kept (step :: rest) ((s.offer step).1 :: answers) := by
  rcases s.offer_cases step with ⟨-, hoffer⟩ | ⟨e, -, hoffer⟩ <;> rw [hoffer] <;> simp [kept]

/-! ## Two ways of building -/

/-- What comes of offering steps to a saga, and of building with them in a chain. -/
structure Sifted (s : Saga ε m) (steps : List (Step ε m)) : Prop where
  name_eq : (s.offerAll steps).2.name = s.name
  length_eq : (s.offerAll steps).1.length = steps.length
  steps_eq : (s.offerAll steps).2.steps = s.steps ++ kept steps (s.offerAll steps).1
  /-- Each step is judged by the names of the steps that were kept before. -/
  judged : ∀ i step, steps[i]? = some step → ∃ answer, (s.offerAll steps).1[i]? = some answer ∧
    Judged s.name
      (s.stepNames ++ (kept (steps.take i) (s.offerAll steps).1).map Step.name) step answer
  /-- A step that is refused changes nothing. -/
  refused : ∀ i e, (s.offerAll steps).1[i]? = some (some e) →
    (s.offerAll (steps.take (i + 1))).2 = (s.offerAll (steps.take i)).2
  /-- A chain yields the same saga, or the first refusal. -/
  chained : s.addAll steps = match (s.offerAll steps).1.findSome? id with
    | none => .ok (s.offerAll steps).2
    | some e => .error e

theorem sifted (s : Saga ε m) (steps : List (Step ε m)) : s.Sifted steps := by
  induction steps generalizing s with
  | nil => exact ⟨rfl, rfl, by simp [offerAll, kept], by simp, by simp [offerAll], rfl⟩
  | cons step rest ih =>
      obtain ⟨hname, hlength, hsteps, hjudged, hrefused, hchained⟩ := ih (s.offer step).2
      rw [name_offer] at hname hjudged
      refine ⟨hname, congrArg (· + 1) hlength, ?_, fun i other hi => ?_, fun i e hi => ?_, ?_⟩
      · exact hsteps.trans (steps_offer_append ..)
      · cases i with
        | zero =>
            cases hi
            refine ⟨_, rfl, ?_⟩
            rw [List.take_zero, kept, List.zip_nil_left, List.filter_nil, List.map_nil,
              List.map_nil, List.append_nil]
            exact s.offer_judged step
        | succ i =>
            obtain ⟨answer, hanswer, hother⟩ := hjudged i other hi
            refine ⟨answer, hanswer, ?_⟩
            rw [stepNames, ← List.map_append, steps_offer_append, List.map_append] at hother
            exact hother
      · cases i with
        | zero =>
            rcases s.offer_cases step with ⟨-, hoffer⟩ | ⟨e, -, hoffer⟩
            · rw [offerAll_cons, hoffer] at hi
              cases hi
            · show (s.offer step).2 = s
              rw [hoffer]
        | succ i => exact hrefused i e hi
      · rw [offerAll_cons, addAll, List.findSome?_cons]
        rcases s.offer_cases step with ⟨hadd, hoffer⟩ | ⟨e, hadd, hoffer⟩ <;>
          rw [hoffer] at hchained ⊢ <;> rw [hadd]
        · exact hchained
        · rfl

/-! ## Sagas that were built -/

/-- The steps have actions and different names. -/
structure Proper (s : Saga ε m) : Prop where
  acts : ∀ step ∈ s.steps, step.forward ≠ none
  distinct : s.stepNames.Nodup

theorem proper_named (name : String) : (named name : Saga ε m).Proper where
  acts _ h := by cases h
  distinct := List.nodup_nil

theorem Proper.offer {s : Saga ε m} (h : s.Proper) (step : Step ε m) : (s.offer step).2.Proper := by
  have hjudged := s.offer_judged step
  rcases s.offer_cases step with ⟨-, hoffer⟩ | ⟨e, -, hoffer⟩ <;> rw [hoffer] at hjudged ⊢
  · cases hjudged with
    | kept _ hacts hfresh =>
        refine ⟨fun other hother => ?_, ?_⟩
        · rcases List.mem_append.mp hother with hold | hnew
          · exact h.acts other hold
          · rw [List.mem_singleton.mp hnew]
            exact hacts
        · rw [stepNames, List.map_append]
          exact List.nodup_append.mpr ⟨h.distinct, by simp, by
            rintro name hname other hother rfl
            rw [List.map_singleton, List.mem_singleton] at hother
            exact hfresh (hother ▸ hname)⟩
  · exact h

theorem Proper.offerAll {s : Saga ε m} (h : s.Proper) (steps : List (Step ε m)) :
    (s.offerAll steps).2.Proper := by
  induction steps generalizing s with
  | nil => exact h
  | cons step rest ih => exact ih (h.offer step)

/-! ## Plays of sagas that were built -/

variable {σ : Type}

/-- What a play of a saga that was built calls and records. -/
structure WellPlayed (saga : Saga ε (StateM σ)) (operation : Context) (x : Execution ε)
    (invoked : List Invocation) : Prop where
  distinct : (x.steps.map StepOutcome.step).Nodup
  /-- Every step that is attempted has an action, and the action is called. -/
  acted : ∀ i o, x.steps[i]? = some o → ∃ step, saga.steps[i]? = some step ∧
    step.name = o.step ∧ step.forward ≠ none ∧ .forward i operation ∈ invoked

variable [Clocked σ] [ToString ε]

theorem Faithful.attempted {saga : Saga ε (StateM σ)} {operation compensation : Context} {s : σ}
    {x : Execution ε} {invoked : List Invocation}
    (h : Faithful saga operation compensation s x invoked) {i : Nat} {o : StepOutcome}
    (ho : x.steps[i]? = some o) : ∃ step, saga.steps[i]? = some step ∧ step.name = o.step := by
  obtain ⟨step, result, hstep, -, hname, -⟩ := h.recorded i o ho
  exact ⟨step, hstep, hname.symm⟩

/-- The names in a record are those of the first steps. -/
theorem Faithful.names_prefix {saga : Saga ε (StateM σ)} {operation compensation : Context} {s : σ}
    {x : Execution ε} {invoked : List Invocation}
    (h : Faithful saga operation compensation s x invoked) :
    x.steps.map StepOutcome.step = saga.stepNames.take x.steps.length := by
  refine List.ext_getElem? fun i => ?_
  rw [List.getElem?_map]
  cases ho : x.steps[i]? with
  | none =>
      rw [List.getElem?_take, if_neg (Nat.not_lt.mpr (List.getElem?_eq_none_iff.mp ho))]
      rfl
  | some o =>
      obtain ⟨step, hstep, hname⟩ := h.attempted ho
      rw [List.getElem?_take_of_lt (List.getElem?_eq_some_iff.mp ho).1, stepNames,
        List.getElem?_map, hstep]
      exact congrArg some hname.symm

theorem Faithful.wellPlayed {saga : Saga ε (StateM σ)} {operation compensation : Context} {s : σ}
    {x : Execution ε} {invoked : List Invocation}
    (h : Faithful saga operation compensation s x invoked) (hproper : saga.Proper) :
    WellPlayed saga operation x invoked where
  distinct := by
    rw [h.names_prefix]
    exact hproper.distinct.sublist (List.take_sublist _ _)
  acted i o ho := by
    obtain ⟨step, hstep, hname⟩ := h.attempted ho
    have hacts := hproper.acts step (List.mem_of_getElem? hstep)
    refine ⟨step, hstep, hname, hacts, ?_⟩
    have hattempted : (saga.steps.take x.steps.length)[i]? = some step := by
      rw [List.getElem?_take_of_lt (List.getElem?_eq_some_iff.mp ho).1, hstep]
    rw [h.invoked_eq]
    refine List.mem_append_left _ (List.mem_map_of_mem (List.mem_filter.mpr ⟨?_, ?_⟩))
    · exact List.mem_range.mpr (List.getElem?_eq_some_iff.mp hattempted).1
    · rw [hattempted]
      exact Option.isSome_iff_ne_none.mpr hacts

/-- **A saga is what was put into it, less what was refused**, in whatever way it is built; and no
play of it attempts a step that has no action, or two steps of one name. The saga to which the steps
are offered is any one that can be built. -/
theorem building_sifts (name : String) (earlier steps : List (Step ε (StateM σ))) :
    let built := ((named name).offerAll earlier).2
    let saga := (built.offerAll steps).2
    built.Sifted steps ∧ saga.Proper ∧ ∀ operation compensation s,
      let played := (saga.play clockwork operation compensation).run s
      ∃ invoked, ((watched saga).play watcher operation compensation).run ⟨s, []⟩ =
          (played.1, ⟨played.2, invoked⟩) ∧
        WellPlayed saga operation played.1 invoked := by
  intro built saga
  have hproper : saga.Proper := ((proper_named name).offerAll earlier).offerAll steps
  refine ⟨built.sifted steps, hproper, fun operation compensation s => ?_⟩
  obtain ⟨invoked, hwatched⟩ := watched_play saga operation compensation s []
  obtain ⟨x, w, hrun, hfaithful⟩ := run_play saga operation compensation s
  cases hwatched.symm.trans hrun
  exact ⟨_, hwatched, hfaithful.wellPlayed hproper⟩

end Wallet.Saga
