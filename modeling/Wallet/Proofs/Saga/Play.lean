import Wallet.Proofs.Saga.Watch

/-!
# What a play calls, records and answers

* `Stops` says where the forward half ends, in terms of the worlds that the steps find (`found`).
* `Undone` says what becomes of an attempted step, in terms of the world its turn finds (`unwound`).
* `play_faithful` puts both together: the calls in their order, the record of every attempted step,
  the state, and the error.
-/

namespace Wallet.Saga

variable {ε σ : Type} [Clocked σ]

/-! ## The forward half -/

/-- The world that the step of an index finds when those before it have run. -/
def found (operation : Context) (s : σ) : List (Step ε (StateM σ)) → Nat → σ
  | _, 0 => s
  | [], _ => s
  | step :: rest, i + 1 => found operation ((step.runForward operation).run s).2 rest i

/-- What the forward action of the step of an index comes to. -/
def resultAt (operation : Context) (s : σ) (steps : List (Step ε (StateM σ))) (i : Nat) :
    Option (Except ε Unit) :=
  steps[i]?.map fun step => ((step.runForward operation).run (found operation s steps i)).1

/-- The step finds the operation context open, and its action succeeds. -/
def Proceeds (operation : Context) (s : σ) (steps : List (Step ε (StateM σ))) (i : Nat) : Prop :=
  ended operation (found operation s steps i) = false ∧
    resultAt operation s steps i = some (.ok ())

/-- Where the forward half ends: how many steps are attempted, and with which error. -/
inductive Stops (operation : Context) (s : σ) (steps : List (Step ε (StateM σ))) :
    Nat → Option (ExecutionError ε) → Prop where
  | finished : (∀ i < steps.length, Proceeds operation s steps i) →
      Stops operation s steps steps.length none
  | failed {i : Nat} {step : Step ε (StateM σ)} {e : ε} :
      (∀ j < i, Proceeds operation s steps j) → steps[i]? = some step →
      ended operation (found operation s steps i) = false →
      resultAt operation s steps i = some (.error e) →
      Stops operation s steps (i + 1) (some (.failed step.name e))
  | cancelled {i : Nat} {step : Step ε (StateM σ)} :
      (∀ j < i, Proceeds operation s steps j) → steps[i]? = some step →
      ended operation (found operation s steps i) = true →
      Stops operation s steps i (some (.cancelled step.name))

theorem Stops.cons {operation : Context} {s : σ} {step : Step ε (StateM σ)}
    {rest : List (Step ε (StateM σ))} {k : Nat} {error : Option (ExecutionError ε)}
    (hopen : ended operation s = false) (hok : ((step.runForward operation).run s).1 = .ok ())
    (h : Stops operation ((step.runForward operation).run s).2 rest k error) :
    Stops operation s (step :: rest) (k + 1) error := by
  have hshift : ∀ {n}, (∀ i < n, Proceeds operation ((step.runForward operation).run s).2 rest i) →
      ∀ i < n + 1, Proceeds operation s (step :: rest) i := by
    intro n hn i hi
    cases i with
    | zero => exact ⟨hopen, by simp [resultAt, found, hok]⟩
    | succ i => exact hn i (by omega)
  cases h with
  | finished hall => exact .finished (hshift hall)
  | failed hall hstep hlive herr => exact .failed (hshift hall) hstep hlive herr
  | cancelled hall hstep hdone => exact .cancelled (hshift hall) hstep hdone

theorem Stops.le_length {operation : Context} {s : σ} {steps : List (Step ε (StateM σ))} {k : Nat}
    {error : Option (ExecutionError ε)} (h : Stops operation s steps k error) :
    k ≤ steps.length := by
  cases h with
  | finished => exact Nat.le_refl _
  | failed _ hstep => exact (List.getElem?_eq_some_iff.mp hstep).1
  | cancelled _ hstep => exact Nat.le_of_lt (List.getElem?_eq_some_iff.mp hstep).1

theorem Stops.eq_none_iff {operation : Context} {s : σ} {steps : List (Step ε (StateM σ))} {k : Nat}
    {error : Option (ExecutionError ε)} (h : Stops operation s steps k error) :
    error = none ↔ ∀ i < steps.length, Proceeds operation s steps i := by
  cases h with
  | finished hall => exact ⟨fun _ => hall, fun _ => rfl⟩
  | failed _ hstep _ herr =>
      refine ⟨by simp, ?_⟩
      intro hall
      have hok := (hall _ (List.getElem?_eq_some_iff.mp hstep).1).2
      rw [herr] at hok
      simp at hok
  | cancelled _ hstep hdone =>
      refine ⟨by simp, ?_⟩
      intro hall
      have hopen := (hall k (List.getElem?_eq_some_iff.mp hstep).1).1
      rw [hdone] at hopen
      simp at hopen

/-- The steps that have a forward action, in order. -/
def forwardIndices (steps : List (Step ε (StateM σ))) : List Nat :=
  (List.range steps.length).filter fun i => steps[i]?.any Step.hasForward

omit [Clocked σ] in
theorem forwardIndices_cons (step : Step ε (StateM σ)) (rest : List (Step ε (StateM σ))) :
    forwardIndices (step :: rest) =
      (if step.hasForward then [0] else []) ++ (forwardIndices rest).map (· + 1) := by
  unfold forwardIndices
  rw [List.length_cons, List.range_succ_eq_map, List.filter_cons, List.filter_map]
  cases hforward : step.hasForward <;> simp [hforward, Function.comp_def]

variable [ToString ε]

/-- The record of the step of an index before anything is undone. -/
def Recorded (operation : Context) (s : σ) (steps : List (Step ε (StateM σ))) (i : Nat)
    (o : StepOutcome) : Prop :=
  ∃ step result, steps[i]? = some step ∧ resultAt operation s steps i = some result ∧
    o.step = step.name ∧ o.options = step.options ∧ o.forward = forwardStatus result ∧
    o.compensation = none

omit [Clocked σ] in
theorem Recorded.cons {operation : Context} {s : σ} {step : Step ε (StateM σ)}
    {rest : List (Step ε (StateM σ))} {i : Nat} {o : StepOutcome}
    (h : Recorded operation ((step.runForward operation).run s).2 rest i o) :
    Recorded operation s (step :: rest) (i + 1) o := h

theorem run_attempt (operation : Context) (n : Nat) (step : Step ε (StateM σ)) (s : σ)
    (calls : List Invocation) :
    ∃ o, (attempt watcher operation (watchedStep n step)).run ⟨s, calls⟩ =
        ((o, ((step.runForward operation).run s).1), ⟨((step.runForward operation).run s).2,
          calls ++ if step.hasForward then [.forward n operation] else []⟩) ∧
      ∀ rest, Recorded operation s (step :: rest) 0 o := by
  obtain ⟨name, forward, compensate, options⟩ := step
  cases forward with
  | none =>
      refine ⟨_, by simp only [Step.hasForward, Option.isSome, Bool.false_eq_true, if_false,
        List.append_nil]; rfl, fun rest => ?_⟩
      exact ⟨_, _, rfl, rfl, rfl, rfl, rfl, rfl⟩
  | some action => exact ⟨_, rfl, fun rest => ⟨_, _, rfl, rfl, rfl, rfl, rfl, rfl⟩⟩

section

variable {operation : Context} {n : Nat} {step : Step ε (StateM σ)}
  {rest : List (Step ε (StateM (Watched σ)))} {s : σ} {calls : List Invocation} {o : StepOutcome}
  {w : Watched σ}

theorem run_advance_cancelled (hended : ended operation s = true) :
    (advance watcher operation (watchedStep n step :: rest)).run ⟨s, calls⟩ =
      (([], some (.cancelled step.name)), ⟨s, calls⟩) := by
  rw [advance, StateT.run_bind]
  show StateT.run (if ended operation s = true then _ else _) _ = _
  rw [if_pos hended]
  rfl

theorem run_advance_failed {e : ε} (hopen : ended operation s = false)
    (hrun : (attempt watcher operation (watchedStep n step)).run ⟨s, calls⟩ = ((o, .error e), w)) :
    (advance watcher operation (watchedStep n step :: rest)).run ⟨s, calls⟩ =
      (([o], some (.failed step.name e)), w) := by
  rw [advance, StateT.run_bind]
  show StateT.run (if ended operation s = true then _ else _) (⟨s, calls⟩ : Watched σ) = _
  rw [if_neg (by simp [hopen]), StateT.run_bind, hrun]
  rfl

theorem run_advance_proceeds (hopen : ended operation s = false)
    (hrun : (attempt watcher operation (watchedStep n step)).run ⟨s, calls⟩ = ((o, .ok ()), w)) :
    (advance watcher operation (watchedStep n step :: rest)).run ⟨s, calls⟩ =
      let ((outcomes, error), w) := (advance watcher operation rest).run w
      ((o :: outcomes, error), w) := by
  rw [advance, StateT.run_bind]
  show StateT.run (if ended operation s = true then _ else _) (⟨s, calls⟩ : Watched σ) = _
  rw [if_neg (by simp [hopen]), StateT.run_bind, hrun]
  rfl

end

/-- What the forward half calls, leaves, records and answers. -/
theorem run_advance (operation : Context) (steps : List (Step ε (StateM σ))) (n : Nat) (s : σ)
    (calls : List Invocation) :
    ∃ outcomes error,
      (advance watcher operation (steps.mapIdx fun i => watchedStep (i + n))).run ⟨s, calls⟩ =
        ((outcomes, error), ⟨found operation s steps outcomes.length,
          calls ++ (forwardIndices (steps.take outcomes.length)).map
            fun i => .forward (i + n) operation⟩) ∧
      Stops operation s steps outcomes.length error ∧
      ∀ i o, outcomes[i]? = some o → Recorded operation s steps i o := by
  induction steps generalizing n s calls with
  | nil =>
      refine ⟨[], none, ?_, .finished (by simp), by simp⟩
      rw [List.take_nil]
      simp only [forwardIndices, List.length_nil, List.range_zero, List.filter_nil, List.map_nil,
        List.append_nil]
      rfl
  | cons step rest ih =>
      rw [mapIdx_watchedStep_cons]
      cases hended : ended operation s with
      | true =>
          refine ⟨[], some (.cancelled step.name), ?_,
            .cancelled (i := 0) (by omega) rfl hended, by simp⟩
          rw [run_advance_cancelled hended]
          simp [forwardIndices, found]
      | false =>
          obtain ⟨o, hrun, hrecorded⟩ := run_attempt operation n step s calls
          cases hresult : ((step.runForward operation).run s).1 with
          | error e =>
              rw [hresult] at hrun
              refine ⟨[o], some (.failed step.name e), ?_,
                .failed (i := 0) (by omega) rfl hended (by simp [resultAt, found, hresult]), ?_⟩
              · rw [run_advance_failed hended hrun]
                cases hforward : step.hasForward <;> simp [forwardIndices, found, hforward]
              · intro i o' ho'
                cases i with
                | zero =>
                    cases ho'
                    exact hrecorded rest
                | succ i => simp at ho'
          | ok u =>
              rw [hresult] at hrun
              obtain ⟨outcomes, error, hrest, hstops, hrecords⟩ :=
                ih (n + 1) ((step.runForward operation).run s).2
                  (calls ++ if step.hasForward then [.forward n operation] else [])
              refine ⟨o :: outcomes, error, ?_, hstops.cons hended hresult, ?_⟩
              · rw [run_advance_proceeds hended hrun, hrest, List.length_cons,
                  List.take_succ_cons, forwardIndices_cons]
                cases step.hasForward <;>
                  simp [found, Nat.add_comm, Nat.add_left_comm, Function.comp_def]
              · intro i o' ho'
                cases i with
                | zero =>
                    cases ho'
                    exact hrecorded rest
                | succ i => exact (hrecords i o' ho').cons

/-! ## The backward half -/

/-- The world after the turn of a step, which is undone if it can be and there is still time. -/
def afterTurn (compensation : Context) (t : σ) (step : Step ε (StateM σ)) : σ :=
  match step.compensate with
  | none => t
  | some action => if ended compensation t then t else ((action compensation).run t).2

/-- The world after the turns of some steps, the last one first. -/
def unwound (compensation : Context) (t : σ) : List (Step ε (StateM σ)) → σ
  | [] => t
  | step :: rest => afterTurn compensation (unwound compensation t rest) step

/-- The world that the step of an index finds at its turn. -/
def atTurn (compensation : Context) (t : σ) (steps : List (Step ε (StateM σ))) (i : Nat) : σ :=
  unwound compensation t (steps.drop (i + 1))

/-- What becomes of a step whose turn finds a world. -/
inductive Undone (compensation : Context) (step : Step ε (StateM σ)) (t : σ) :
    CompensationStatus → Prop where
  | notRequired : step.compensate = none → Undone compensation step t .notRequired
  | tooLate : step.compensate ≠ none → ended compensation t = true →
      Undone compensation step t (.failed budgetExhausted)
  | compensated {action : Action ε (StateM σ)} : step.compensate = some action →
      ended compensation t = false → ((action compensation).run t).1 = .ok () →
      Undone compensation step t .compensated
  | failed {action : Action ε (StateM σ)} {e : ε} : step.compensate = some action →
      ended compensation t = false → ((action compensation).run t).1 = .error e →
      Undone compensation step t (.failed (toString e))

/-- The steps whose undoing action is called, the last one first. -/
def undoneIndices (compensation : Context) (t : σ) (steps : List (Step ε (StateM σ))) : List Nat :=
  ((List.range steps.length).filter fun i => steps[i]?.any Step.hasCompensation &&
    !ended compensation (atTurn compensation t steps i)).reverse

omit [ToString ε] in
theorem undoneIndices_cons (compensation : Context) (t : σ) (step : Step ε (StateM σ))
    (rest : List (Step ε (StateM σ))) :
    undoneIndices compensation t (step :: rest) =
      (undoneIndices compensation t rest).map (· + 1) ++
        if step.hasCompensation && !ended compensation (unwound compensation t rest)
          then [0] else [] := by
  unfold undoneIndices
  rw [List.length_cons, List.range_succ_eq_map, List.filter_cons, List.filter_map]
  cases hcalled : step.hasCompensation && !ended compensation (unwound compensation t rest) <;>
    simp [hcalled, atTurn, Function.comp_def, List.map_reverse]

omit [ToString ε] in
/-- The undoing actions are called in strictly decreasing order, each at most once. -/
theorem undoneIndices_descend (compensation : Context) (t : σ)
    (steps : List (Step ε (StateM σ))) :
    (undoneIndices compensation t steps).Pairwise (· > ·) := by
  unfold undoneIndices
  rw [List.pairwise_reverse]
  exact List.Pairwise.filter _ List.pairwise_lt_range

theorem run_undo (name : String) (compensation : Context) (n : Nat) (step : Step ε (StateM σ))
    (t : σ) (calls : List Invocation) :
    ∃ status, (undo watcher name compensation (watchedStep n step)).run ⟨t, calls⟩ =
        (status, ⟨afterTurn compensation t step, calls ++
          if step.hasCompensation && !ended compensation t then [.compensate n compensation]
            else []⟩) ∧
      Undone compensation step t status := by
  obtain ⟨stepName, forward, compensate, options⟩ := step
  cases compensate with
  | none =>
      refine ⟨.notRequired, ?_, .notRequired rfl⟩
      simp only [Step.hasCompensation, Option.isSome, Bool.false_and, Bool.false_eq_true, if_false,
        List.append_nil]
      rfl
  | some action =>
      simp only [undo, watchedStep, Option.map_some, StateT.run_bind, Step.hasCompensation,
        Option.isSome_some, Bool.true_and, afterTurn]
      cases hended : ended compensation t with
      | true =>
          refine ⟨.failed budgetExhausted, ?_, .tooLate (by simp) hended⟩
          show StateT.run (if ended compensation t = true then _ else _) (⟨t, calls⟩ : Watched σ) = _
          simp only [hended, if_true, Bool.not_true, Bool.false_eq_true, if_false, List.append_nil]
          rfl
      | false =>
          show ∃ status, StateT.run (if ended compensation t = true then _ else _)
            (⟨t, calls⟩ : Watched σ) = _ ∧ _
          simp only [hended, Bool.false_eq_true, if_false, Bool.not_false, if_true]
          cases hresult : ((action compensation).run t).1 with
          | ok u =>
              refine ⟨.compensated, ?_, .compensated rfl hended hresult⟩
              rw [watcher_count, StateT.run_bind, run_noted, hresult]
              rfl
          | error e =>
              refine ⟨.failed (toString e), ?_, .failed rfl hended hresult⟩
              rw [watcher_count, StateT.run_bind, run_noted, hresult]
              rfl

omit [Clocked σ] in
theorem run_unwind_cons {conductor : Conductor (StateM σ)} {name : String} {compensation : Context}
    {step : Step ε (StateM σ)} {outcome : StepOutcome} {rest : List (Step ε (StateM σ) × StepOutcome)}
    {undone : List StepOutcome} {status : CompensationStatus} {t t' t'' : σ}
    (hrest : (unwind conductor name compensation rest).run t = (undone, t'))
    (hundo : (undo conductor name compensation step).run t' = (status, t'')) :
    (unwind conductor name compensation ((step, outcome) :: rest)).run t =
      ({ outcome with compensation := some status } :: undone, t'') := by
  rw [unwind, StateT.run_bind, hrest]
  show StateT.run (undo conductor name compensation step >>= _) t' = _
  rw [StateT.run_bind, hundo]
  rfl

/-- What the backward half calls, leaves and records. -/
theorem run_unwind (name : String) (compensation : Context) (steps : List (Step ε (StateM σ)))
    (outcomes : List StepOutcome) (n : Nat) (t : σ) (calls : List Invocation)
    (hlength : steps.length = outcomes.length) :
    ∃ undone,
      (unwind watcher name compensation
          ((steps.mapIdx fun i => watchedStep (i + n)).zip outcomes)).run ⟨t, calls⟩ =
        (undone, ⟨unwound compensation t steps, calls ++ (undoneIndices compensation t steps).map
          fun i => .compensate (i + n) compensation⟩) ∧
      undone.length = steps.length ∧
      ∀ i o, undone[i]? = some o → ∃ o' step status, outcomes[i]? = some o' ∧
        steps[i]? = some step ∧ o = { o' with compensation := some status } ∧
        Undone compensation step (atTurn compensation t steps i) status := by
  induction steps generalizing outcomes n with
  | nil =>
      refine ⟨[], ?_, rfl, by simp⟩
      simp only [undoneIndices, List.length_nil, List.range_zero, List.filter_nil,
        List.reverse_nil, List.map_nil, List.append_nil]
      rfl
  | cons step rest ih =>
      cases outcomes with
      | nil => simp at hlength
      | cons outcome outcomes =>
          obtain ⟨undone, hrest, hundone, hrecords⟩ := ih outcomes (n + 1) (by simpa using hlength)
          obtain ⟨status, hundo, hstatus⟩ := run_undo name compensation n step
            (unwound compensation t rest) (calls ++ (undoneIndices compensation t rest).map
              fun i => .compensate (i + (n + 1)) compensation)
          refine ⟨{ outcome with compensation := some status } :: undone, ?_, ?_, ?_⟩
          · rw [mapIdx_watchedStep_cons, List.zip_cons_cons,
              run_unwind_cons hrest hundo, undoneIndices_cons]
            cases step.hasCompensation && !ended compensation (unwound compensation t rest) <;>
              simp [unwound, Nat.add_comm, Nat.add_left_comm, Function.comp_def]
          · simp [hundone]
          · intro i o ho
            cases i with
            | zero =>
                cases ho
                exact ⟨outcome, step, status, rfl, rfl, rfl, hstatus⟩
            | succ i => exact hrecords i o ho

omit [ToString ε] in
theorem afterTurn_of_ended {compensation : Context} {t : σ} (hended : ended compensation t = true)
    (step : Step ε (StateM σ)) : afterTurn compensation t step = t := by
  unfold afterTurn
  cases step.compensate with
  | none => rfl
  | some action => exact if_pos hended

omit [ToString ε] in
theorem atTurn_of_ended_succ {compensation : Context} {t : σ} {steps : List (Step ε (StateM σ))}
    {i : Nat} (hended : ended compensation (atTurn compensation t steps (i + 1)) = true) :
    atTurn compensation t steps i = atTurn compensation t steps (i + 1) := by
  unfold atTurn at hended ⊢
  by_cases hlt : i + 1 < steps.length
  · rw [List.drop_eq_getElem_cons hlt, unwound, afterTurn_of_ended hended]
  · rw [List.drop_of_length_le (by omega), List.drop_of_length_le (by omega)]

omit [ToString ε] in
/-- A turn that finds the compensation context ended is the last that changes anything: all later
turns find the same world. -/
theorem atTurn_of_ended {compensation : Context} {t : σ} {steps : List (Step ε (StateM σ))} {i : Nat}
    (hended : ended compensation (atTurn compensation t steps i) = true) {j : Nat} (hle : j ≤ i) :
    atTurn compensation t steps j = atTurn compensation t steps i := by
  induction i with
  | zero =>
      obtain rfl : j = 0 := by omega
      rfl
  | succ i ih =>
      have hsame := atTurn_of_ended_succ hended
      rcases Nat.eq_or_lt_of_le hle with rfl | hlt
      · rfl
      · rw [ih (by rw [hsame]; exact hended) (by omega), hsame]

theorem Undone.tooLate_of_ended {compensation : Context} {step : Step ε (StateM σ)} {t : σ}
    {status : CompensationStatus} (h : Undone compensation step t status)
    (hended : ended compensation t = true) (hcan : step.compensate ≠ none) :
    status = .failed budgetExhausted := by
  cases h with
  | notRequired hnone => exact absurd hnone hcan
  | tooLate => rfl
  | compensated _ hopen => simp [hended] at hopen
  | failed _ hopen => simp [hended] at hopen

/-! ## The whole play -/

section

variable (saga : Saga ε (StateM σ)) (operation compensation : Context) (s : σ)

/-- The steps whose forward action is called when `k` steps are attempted. -/
def forwardOf (k : Nat) : List Nat := forwardIndices (saga.steps.take k)

/-- The steps whose undoing action is called when `k` steps were attempted, in the order of calls. -/
def undoneOf (k : Nat) : List Nat :=
  undoneIndices compensation (found operation s saga.steps k) (saga.steps.take k)

/-- The world that the turn of an attempted step finds when `k` steps were attempted. -/
def turnOf (k i : Nat) : σ :=
  atTurn compensation (found operation s saga.steps k) (saga.steps.take k) i

/-- What a play of a saga from a world answers, and the actions it calls. -/
structure Faithful (x : Execution ε) (invoked : List Invocation) : Prop where
  named : x.sagaName = saga.name
  /-- Steps are attempted until one fails or finds the operation context ended. -/
  stops : Stops operation s saga.steps x.steps.length x.error
  error_none_iff : x.error = none ↔ ∀ i < saga.steps.length, Proceeds operation s saga.steps i
  completed_iff : x.state = .completed ↔ x.error = none
  unwound_state : x.error ≠ none → x.state =
    if x.steps.any StepOutcome.compensationFailed then .partiallyCompensated else .compensated
  invoked_eq : invoked =
    (forwardOf saga x.steps.length).map (fun i => .forward i operation) ++
      if x.error = none then []
      else (undoneOf saga operation compensation s x.steps.length).map
        fun i => .compensate i compensation
  descending : (undoneOf saga operation compensation s x.steps.length).Pairwise (· > ·)
  recorded : ∀ i o, x.steps[i]? = some o →
    Recorded operation s saga.steps i { o with compensation := none }
  kept : x.error = none → ∀ o ∈ x.steps, o.compensation = none
  undone : x.error ≠ none → ∀ i o, x.steps[i]? = some o → ∃ step status,
    saga.steps[i]? = some step ∧ o.compensation = some status ∧
      Undone compensation step (turnOf saga operation compensation s x.steps.length i) status
  /-- A turn that comes too late makes every turn after it too late. -/
  too_late : x.error ≠ none → ∀ i,
    ended compensation (turnOf saga operation compensation s x.steps.length i) = true →
      ∀ j ≤ i, ∀ o step, x.steps[j]? = some o → saga.steps[j]? = some step →
        step.compensate ≠ none → o.compensation = some (.failed budgetExhausted) ∧
          j ∉ undoneOf saga operation compensation s x.steps.length

end

theorem zip_mapIdx_take {α β γ : Type} (f : Nat → α → β) (xs : List α) (ys : List γ) :
    (xs.mapIdx f).zip ys = ((xs.take ys.length).mapIdx f).zip ys := by
  induction xs generalizing f ys with
  | nil => simp
  | cons x xs ih =>
      cases ys with
      | nil => simp
      | cons y ys =>
          rw [List.mapIdx_cons, List.zip_cons_cons, ih, List.length_cons, List.take_succ_cons,
            List.mapIdx_cons, List.zip_cons_cons]

section

variable {saga : Saga ε (StateM σ)} {operation compensation : Context} {w w' w'' : Watched σ}
  {outcomes undone : List StepOutcome}

theorem run_play_finished
    (hadvance : (advance watcher operation (watched saga).steps).run w = ((outcomes, none), w')) :
    ((watched saga).play watcher operation compensation).run w =
      (⟨saga.name, .completed, outcomes, none⟩, w') := by
  rw [play, StateT.run_bind]
  show StateT.run (advance watcher operation (watched saga).steps >>= _) w = _
  rw [StateT.run_bind, hadvance]
  rfl

theorem run_play_stopped {error : ExecutionError ε}
    (hadvance : (advance watcher operation (watched saga).steps).run w =
      ((outcomes, some error), w'))
    (hunwind : (unwind watcher saga.name compensation ((watched saga).steps.zip outcomes)).run w' =
      (undone, w'')) :
    ((watched saga).play watcher operation compensation).run w =
      (⟨saga.name, unwoundState undone, undone, some error⟩, w'') := by
  rw [play, StateT.run_bind]
  show StateT.run (advance watcher operation (watched saga).steps >>= _) w = _
  rw [StateT.run_bind, hadvance]
  show StateT.run (unwind watcher saga.name compensation ((watched saga).steps.zip outcomes) >>= _)
    w' = _
  rw [StateT.run_bind, hunwind]
  rfl

end

theorem unwoundState_ne_completed (outcomes : List StepOutcome) :
    unwoundState outcomes ≠ .completed := by
  unfold unwoundState
  split <;> simp

section

variable {saga : Saga ε (StateM σ)} {operation compensation : Context} {s : σ}
  {outcomes undone : List StepOutcome}

/-- A play that finishes undoes nothing. -/
theorem faithful_of_finished (hstops : Stops operation s saga.steps outcomes.length none)
    (hrecorded : ∀ i o, outcomes[i]? = some o → Recorded operation s saga.steps i o) :
    Faithful saga operation compensation s ⟨saga.name, .completed, outcomes, none⟩
      ((forwardOf saga outcomes.length).map fun i => .forward i operation) where
  named := rfl
  stops := hstops
  error_none_iff := hstops.eq_none_iff
  completed_iff := by simp
  unwound_state := by simp
  invoked_eq := by simp
  descending := undoneIndices_descend _ _ _
  recorded i o ho := by
    obtain ⟨step, result, hstep, hresult, hname, hoptions, hforward, _⟩ := hrecorded i o ho
    exact ⟨step, result, hstep, hresult, hname, hoptions, hforward, rfl⟩
  kept _ o ho := by
    obtain ⟨i, hi⟩ := List.mem_iff_getElem?.mp ho
    obtain ⟨step, result, _, _, _, _, _, hnone⟩ := hrecorded i o hi
    exact hnone
  undone := by simp
  too_late := by simp

omit [ToString ε] in
/-- Turns are taken from the last step down, so the context has ended at all turns before. -/
theorem not_undone_of_ended {k i j : Nat}
    (hended : ended compensation (turnOf saga operation compensation s k i) = true) (hle : j ≤ i) :
    ended compensation (turnOf saga operation compensation s k j) = true ∧
      j ∉ undoneOf saga operation compensation s k := by
  have hendedj : ended compensation (turnOf saga operation compensation s k j) = true := by
    rw [turnOf, atTurn_of_ended hended hle]
    exact hended
  refine ⟨hendedj, ?_⟩
  simp only [undoneOf, undoneIndices, List.mem_reverse, List.mem_filter, Bool.and_eq_true,
    Bool.not_eq_true', not_and]
  intro _ _ hopen
  rw [turnOf, hopen] at hendedj
  cases hendedj

/-- A play that stops undoes what it has attempted. -/
theorem faithful_of_stopped {error : ExecutionError ε}
    (hstops : Stops operation s saga.steps undone.length (some error))
    (hrecorded : ∀ i o, undone[i]? = some o →
      Recorded operation s saga.steps i { o with compensation := none })
    (hundone : ∀ i o, undone[i]? = some o → ∃ step status, saga.steps[i]? = some step ∧
      o.compensation = some status ∧ Undone compensation step
        (turnOf saga operation compensation s undone.length i) status) :
    Faithful saga operation compensation s ⟨saga.name, unwoundState undone, undone, some error⟩
      ((forwardOf saga undone.length).map (fun i => .forward i operation) ++
        (undoneOf saga operation compensation s undone.length).map
          fun i => .compensate i compensation) where
  named := rfl
  stops := hstops
  error_none_iff := hstops.eq_none_iff
  completed_iff := by simp [unwoundState_ne_completed]
  unwound_state _ := rfl
  invoked_eq := by simp
  descending := undoneIndices_descend _ _ _
  recorded := hrecorded
  kept := by simp
  undone _ := hundone
  too_late _ i hended j hle o step ho hstep hcan := by
    obtain ⟨step', status, hstep', hstatus, hundone⟩ := hundone j o ho
    rw [hstep] at hstep'
    cases hstep'
    obtain ⟨hendedj, hnot⟩ := not_undone_of_ended hended hle
    exact ⟨by rw [hstatus, hundone.tooLate_of_ended hendedj hcan], hnot⟩

end

/-- What a watched play calls, records and answers. -/
theorem run_play (saga : Saga ε (StateM σ)) (operation compensation : Context) (s : σ) :
    ∃ x w, ((watched saga).play watcher operation compensation).run ⟨s, []⟩ = (x, w) ∧
      Faithful saga operation compensation s x w.invoked := by
  obtain ⟨outcomes, error, hadvance, hstops, hrecorded⟩ :=
    run_advance operation saga.steps 0 s []
  cases error with
  | none => exact ⟨_, _, run_play_finished hadvance, faithful_of_finished hstops hrecorded⟩
  | some error =>
      obtain ⟨undone, hunwind, hlength, hundone⟩ := run_unwind saga.name compensation
        (saga.steps.take outcomes.length) outcomes 0 (found operation s saga.steps outcomes.length)
        ((forwardIndices (saga.steps.take outcomes.length)).map fun i => .forward (i + 0) operation)
        (by simp [hstops.le_length])
      have hsame : undone.length = outcomes.length := by simp [hlength, hstops.le_length]
      have hrun := run_play_stopped hadvance (by
        show StateT.run (unwind watcher saga.name compensation
          ((saga.steps.mapIdx watchedStep).zip outcomes)) _ = _
        rw [zip_mapIdx_take]
        exact hunwind)
      refine ⟨_, _, hrun, ?_⟩
      simp only [Nat.add_zero]
      rw [← hsame] at hstops ⊢
      apply faithful_of_stopped hstops
      · intro i o ho
        obtain ⟨o', step, status, ho', _, rfl, _⟩ := hundone i o ho
        obtain ⟨step, result, hstep, hresult, hname, hoptions, hforward, _⟩ := hrecorded i o' ho'
        exact ⟨step, result, hstep, hresult, hname, hoptions, hforward, rfl⟩
      · intro i o ho
        obtain ⟨o', step, status, _, hstep, rfl, hstatus⟩ := hundone i o ho
        have hlt : i < outcomes.length := hsame ▸ (List.getElem?_eq_some_iff.mp ho).1
        rw [List.getElem?_take_of_lt hlt] at hstep
        rw [turnOf, hsame]
        exact ⟨step, status, hstep, rfl, hstatus⟩

/-- **A play calls and answers what it should.** This holds of every saga, every pair of contexts
and every behaviour of the actions, which may move the clocks and end either context. The actions
that were called are known from watching the play, which changes neither its result nor the world in
which it ends. -/
theorem play_faithful (saga : Saga ε (StateM σ)) (operation compensation : Context) (s : σ) :
    let played := (saga.play clockwork operation compensation).run s
    ∃ invoked, ((watched saga).play watcher operation compensation).run ⟨s, []⟩ =
        (played.1, ⟨played.2, invoked⟩) ∧
      Faithful saga operation compensation s played.1 invoked := by
  obtain ⟨invoked, hwatched⟩ := watched_play saga operation compensation s []
  obtain ⟨x, w, hrun, hfaithful⟩ := run_play saga operation compensation s
  rw [List.nil_append] at hwatched
  rw [hwatched] at hrun
  cases hrun
  exact ⟨invoked, hwatched, hfaithful⟩

end Wallet.Saga
