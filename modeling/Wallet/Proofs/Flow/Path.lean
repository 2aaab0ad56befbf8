import Wallet.Proofs.Flow.Ensures

/-!
# Paths of plays

How what the steps of a saga ensure adds up over a whole play. Between two steps a stage holds. Beside
it stands, for every error with which the play may stop, another stage: that which holds again once
the steps so far have been undone. A `Path` lists both for all steps, and `Path.play` says what a play
ensures that follows it.
-/

namespace Wallet

/-- The calls by which a play is conducted. They leave all collaborators alone. -/
def Call.Conducts : Call → Prop
  | .clocks | .budget _ | .hasEnded _ | .count _ | .sample _ | .record _ _ => True
  | _ => False

theorem Past.note_books_of_conducts {p : Past} {c : Call} (x : c.Answer) (h : c.Conducts) :
    (p.note c x).books = p.books := by
  cases c <;> first | rfl | cases h

namespace Flow

/-- Something said of the state of a flow and the past that conducting a play does not disturb. -/
structure Stage where
  Holds : FlowState → Past → Prop
  conduct : ∀ {s : FlowState} {p : Past} {c : Call} (x : c.Answer), c.Conducts → Holds s p →
    Holds s (p.note c x)

instance : CoeFun Stage fun _ => FlowState → Past → Prop := ⟨Stage.Holds⟩

/-- For every error with which a play may stop, what holds then. -/
abbrev Stops : Type := ExecutionError FlowError → Stage

/-- What holds at the end of the action of a step, which may have failed. -/
def Onward (B : Stage) (S : Stops) (name : String) (r : Except FlowError Unit) (s : FlowState)
    (p : Past) : Prop :=
  match r with
  | .ok () => B s p
  | .error e => S (.failed name e) s p

/-- What the past is once an undoing action was found to be too late. -/
def tooLate (p : Past) (c : Context) (saga : String) : Past :=
  (p.note (.hasEnded c) true).note (.count (Saga.metric "saga_compensation_failures" saga)) ()

/-- Undoing a step leads from `S` back to `R`, and so does finding that it cannot be undone, or that
it is too late. -/
structure Undoes (step : Step FlowError FlowM) (S R : Stage) : Prop where
  spared : step.compensate = none → ∀ {s p}, S s p → R s p
  undone : ∀ {action}, step.compensate = some action → ∀ {c s p}, S s p →
    Ends (action c) s p fun _ s p => R s p
  late : ∀ {action}, step.compensate = some action → ∀ {c saga s p}, S s p →
    R s (tooLate p c saga)

/-- A path leads through the steps of a saga from `A` to `B`. A play that stops on the way leads back
to `R`; one that stopped after the last step would have to be undone from `T`. -/
inductive Path : Stage → Stops → List (Step FlowError FlowM) → Stage → Stops → Prop where
  | nil (A : Stage) (R : Stops) : Path A R [] A R
  | cons {A B C : Stage} {R S T : Stops} {step : Step FlowError FlowM}
      {rest : List (Step FlowError FlowM)} :
      (∀ {c s p}, A s p → R (.cancelled step.name) s (p.note (.hasEnded c) true)) →
      (∀ {c s p}, A s p → Ends (step.runForward c) s p (Onward B S step.name)) →
      (∀ e, Undoes step (S e) (R e)) → Path B S rest C T → Path A R (step :: rest) C T

section

variable {s : FlowState} {p : Past} {A B R S : Stage}

theorem ends_conduct {c : Call} {Q : c.Answer → FlowState → Past → Prop} (hc : c.Conducts)
    (hA : A s p) (h : ∀ x p, A s p → Q x s p) :
    Ends (StateT.lift (Program.request c)) s p Q :=
  fun x _ => h x (p.note c x) (A.conduct x hc hA)

theorem ends_hasEnded (c : Context) (Q : Bool → FlowState → Past → Prop) :
    Ends (conductor.hasEnded c) s p Q ↔ ∀ ended, Q ended s (p.note (.hasEnded c) ended) :=
  ⟨fun h ended => h ended trivial, fun h ended _ => h ended⟩

theorem ends_count (m : Metric) (Q : Unit → FlowState → Past → Prop) :
    Ends (conductor.count m) s p Q ↔ Q () s (p.note (.count m) ()) :=
  ⟨fun h => h () trivial, fun h _ _ => h⟩

/-- An action is its part, and the first error is kept as a reason. -/
theorem ends_action (part : StepM Unit) (c : Context)
    (Q : Except FlowError Unit → FlowState → Past → Prop) :
    Ends (action part c) s p Q ↔ Ensures part s p fun r s p => Q r (keepReason r s) p := by
  unfold action
  simp only [ends_bind, ends_modify, ends_pure]
  rfl

/-! ## The forward half -/

/-- What holds once a step has been attempted. -/
def Attempted (B : Stage) (S : Stops) (name : String)
    (r : StepOutcome × Except FlowError Unit) (s : FlowState) (p : Past) : Prop :=
  r.1.compensation = none ∧ Onward B S name r.2 s p

theorem ends_attempt {step : Step FlowError FlowM} {operation : Context} {S : Stops} (hA : A s p)
    (h : ∀ {s p}, A s p → Ends (step.runForward operation) s p (Onward B S step.name)) :
    Ends (Saga.attempt conductor operation step) s p (Attempted B S step.name) := by
  unfold Saga.attempt
  rw [ends_bind]
  refine ends_conduct (c := .clocks) trivial hA fun _ p hA => ?_
  rw [ends_bind]
  apply Ends.mono (h hA)
  intro r s p hr
  rw [ends_bind]
  cases r with
  | ok u => exact ends_conduct (A := B) (c := .clocks) trivial hr fun _ p hB => ⟨rfl, hB⟩
  | error e =>
      exact ends_conduct (A := S (.failed step.name e)) (c := .clocks) trivial hr fun _ p hS =>
        ⟨rfl, hS⟩

/-- Undoing attempted steps, the last one first, leads from `S` back to `R`. -/
inductive Unwinds : Stage → List (Step FlowError FlowM × StepOutcome) → Stage → Prop where
  | nil (R : Stage) : Unwinds R [] R
  | cons {R S T : Stage} {step : Step FlowError FlowM} {outcome : StepOutcome}
      {rest : List (Step FlowError FlowM × StepOutcome)} : Undoes step S R → Unwinds S rest T →
      Unwinds R ((step, outcome) :: rest) T

/-- What holds when the steps of a path have been attempted up to an error, if there is one. -/
def Advanced (B : Stage) (R : Stops) (steps : List (Step FlowError FlowM))
    (r : List StepOutcome × Option (ExecutionError FlowError)) (s : FlowState) (p : Past) : Prop :=
  match r.2 with
  | none => B s p ∧ ∀ o ∈ r.1, o.compensation = none
  | some e => ∃ S, Unwinds (R e) (steps.zip r.1) S ∧ S s p

theorem Path.advance {R T : Stops} {steps : List (Step FlowError FlowM)} {operation : Context}
    (path : Path A R steps B T) (hA : A s p) :
    Ends (Saga.advance conductor operation steps) s p (Advanced B R steps) := by
  induction path generalizing s p with
  | nil A R => exact ⟨hA, by simp⟩
  | @cons A B C R S T step rest hstop hforward hundo hrest ih =>
      unfold Saga.advance
      rw [ends_bind, ends_hasEnded]
      intro ended
      cases ended with
      -- the step that finds the context ended is not attempted, and need not be undone
      | true => exact ⟨R (.cancelled step.name), .nil _, hstop hA⟩
      | false =>
          have hA := A.conduct (c := .hasEnded operation) false trivial hA
          simp only [Bool.false_eq_true, if_false]
          rw [ends_bind]
          apply Ends.mono (ends_attempt hA hforward)
          rintro ⟨outcome, result⟩ s p ⟨hoff, hr⟩
          cases result with
          | error e =>
              -- the step that failed is among those to be undone
              refine ⟨S (.failed step.name e), ?_, hr⟩
              rw [List.zip_cons_cons, List.zip_nil_right]
              exact .cons (hundo _) (.nil _)
          | ok u =>
              simp only [ends_bind]
              apply Ends.mono (ih hr)
              rintro ⟨outcomes, error⟩ s p hr
              cases error with
              | none =>
                  obtain ⟨hB, hrest⟩ := hr
                  refine ⟨hB, ?_⟩
                  rintro o (_ | ⟨_, ho⟩)
                  · exact hoff
                  · exact hrest o ho
              | some e =>
                  obtain ⟨T, hunwinds, hT⟩ := hr
                  exact ⟨T, .cons (hundo e) hunwinds, hT⟩

/-! ## The backward half -/

theorem ends_undo {step : Step FlowError FlowM} {name : String} {compensation : Context}
    (hundo : Undoes step S R) (hS : S s p) :
    Ends (Saga.undo conductor name compensation step) s p fun _ s p => R s p := by
  unfold Saga.undo
  cases hcompensate : step.compensate with
  | none => exact hundo.spared hcompensate hS
  | some action =>
      rw [ends_bind, ends_hasEnded]
      intro ended
      cases ended with
      | true =>
          simp only [if_true, ends_bind, ends_count, ends_pure]
          exact hundo.late hcompensate hS
      | false =>
          have hS := S.conduct (c := .hasEnded compensation) false trivial hS
          simp only [Bool.false_eq_true, if_false, ends_bind]
          refine ends_conduct (c := .count _) trivial hS fun _ p hS => ?_
          apply Ends.mono (hundo.undone hcompensate hS)
          intro r s p hR
          cases r with
          | ok u => exact hR
          | error e => exact ends_conduct (c := .count _) trivial hR fun _ p hR => hR

theorem Unwinds.unwind {name : String} {compensation : Context}
    {attempted : List (Step FlowError FlowM × StepOutcome)} (h : Unwinds R attempted S)
    (hS : S s p) :
    Ends (Saga.unwind conductor name compensation attempted) s p fun _ s p => R s p := by
  induction h generalizing s p with
  | nil R => exact hS
  | cons hundo _ ih =>
      unfold Saga.unwind
      rw [ends_bind]
      apply Ends.mono (ih hS)
      intro undone s p hS
      rw [ends_bind]
      exact Ends.mono (ends_undo hundo hS) fun status s p hR => hR

/-! ## The whole play -/

/-- How a play ends that has followed a path: completed, and nothing undone, or stopped. -/
def Concluded (B : Stage) (R : Stops) (x : Execution FlowError) (s : FlowState) (p : Past) : Prop :=
  match x.error with
  | none => B s p ∧ x.state = .completed ∧ ∀ o ∈ x.steps, o.compensation = none
  | some e => R e s p

theorem Concluded.completed {x : Execution FlowError} {R : Stops} (h : Concluded B R x s p)
    (herror : x.error = none) :
    B s p ∧ x.state = .completed ∧ ∀ o ∈ x.steps, o.compensation = none := by
  unfold Concluded at h
  rw [herror] at h
  exact h

theorem Concluded.stopped {x : Execution FlowError} {R : Stops} {e : ExecutionError FlowError}
    (h : Concluded B R x s p) (herror : x.error = some e) : R e s p := by
  unfold Concluded at h
  rw [herror] at h
  exact h

theorem Path.play {R T : Stops} {name : String} {steps : List (Step FlowError FlowM)}
    {operation compensation : Context} (path : Path A R steps B T) (hA : A s p) :
    Ends (Saga.play conductor ⟨name, steps⟩ operation compensation) s p (Concluded B R) := by
  unfold Saga.play
  rw [ends_bind]
  refine ends_conduct (c := .count _) trivial hA fun _ p hA => ?_
  rw [ends_bind]
  apply Ends.mono (path.advance hA)
  rintro ⟨attempted, error⟩ s p hr
  cases error with
  | none =>
      obtain ⟨hB, hkept⟩ := hr
      simp only [ends_bind, ends_pure]
      refine ends_conduct (A := B) (c := .count _) trivial hB fun _ p hB => ?_
      refine ends_conduct (c := .record _ _) trivial hB fun _ p hB => ?_
      exact ends_conduct (c := .sample _) trivial hB fun _ p hB => ⟨hB, rfl, hkept⟩
  | some e =>
      obtain ⟨S, hunwinds, hS⟩ := hr
      simp only [ends_bind, ends_pure]
      apply Ends.mono (hunwinds.unwind hS)
      intro undone s p hR
      refine ends_conduct (A := R e) (c := .count _) trivial hR fun _ p hR => ?_
      refine ends_conduct (c := .record _ _) trivial hR fun _ p hR => ?_
      exact ends_conduct (c := .sample _) trivial hR fun _ p hR => hR

/-- How a flow ends that has followed a path. It does nothing when no compensation context can be
made. -/
def Returned (A B : Stage) (R : Stops) (r : Except Crash FlowOutcome) (s : FlowState) (p : Past) :
    Prop :=
  match r with
  | .error _ => A s p
  | .ok o => ∃ s', o = outcome s' o.execution ∧ Concluded B R o.execution s' p

theorem Path.flow {R T : Stops} {settings : FlowSettings} {name : String}
    {steps : List (Step FlowError FlowM)} {operation : Context} (path : Path A R steps B T)
    (hA : A s p) :
    (Flow.play settings ⟨name, steps⟩ s operation).Always p fun r p => Returned A B R r s p := by
  unfold Flow.play
  rw [Program.always_bind]
  intro budget _
  have hA := A.conduct (c := .budget settings.config.compensationTimeout) budget trivial hA
  cases budget with
  | error crash => exact hA
  | ok compensation =>
      refine (Program.always_bind _ _ _ _).mpr (Program.Always.mono (path.play hA) ?_)
      exact fun r p hr => ⟨r.2, rfl, hr⟩

end

end Flow

end Wallet
