import Mathlib.Data.List.Basic
import Wallet.Saga.Context

/-!
# Contexts in the course of time

A context is begun, gets any number of timeouts at any readings of the clock, and lives on while the
clock moves and handles are fired or dropped. Its deadline is the earliest end of a timeout
(`Context.make_eq`, and `Context.timeouts_eq` for timeouts that are put on all at once), and once it has
ended it has ended for good (`Context.isDone_after`).
-/

namespace Wallet

/-! ## Timelines that go on -/

/-- The least that can happen to a timeline. A clock that moves on passes every nanosecond. -/
inductive Beat where
  | tick
  | openHandle
  | fire (handle : Nat)
  | drop (handle : Nat)
deriving DecidableEq

namespace Timeline

def beat (t : Timeline) : Beat → Timeline
  | .tick => t.advance 1
  | .openHandle => t.openHandle.2
  | .fire handle => t.fire handle
  | .drop handle => t.drop handle

def after (t : Timeline) (beats : List Beat) : Timeline := beats.foldl beat t

@[simp] theorem after_nil (t : Timeline) : t.after [] = t := rfl

@[simp] theorem after_cons (t : Timeline) (b : Beat) (beats : List Beat) :
    t.after (b :: beats) = (t.beat b).after beats := rfl

theorem after_append (t : Timeline) (beats later : List Beat) :
    t.after (beats ++ later) = (t.after beats).after later :=
  List.foldl_append

theorem now_le_beat (t : Timeline) (b : Beat) : t.now ≤ (t.beat b).now := by
  cases b with
  | tick => exact Nat.le_succ _
  | openHandle => exact Nat.le_refl _
  | fire handle => exact Nat.le_refl _
  | drop handle => exact Nat.le_refl _

/-- What a beat makes of a handle that has been given out. -/
def handleAfter (handle : Nat) (s : HandleState) : Beat → HandleState
  | .fire fired => if fired = handle ∧ s ≠ .dropped then .fired else s
  | .drop dropped => if dropped = handle ∧ s ≠ .fired then .dropped else s
  | _ => s

theorem handles_beat {t : Timeline} {handle : Nat} {s : HandleState}
    (h : t.handles[handle]? = some s) (b : Beat) :
    (t.beat b).handles[handle]? = some (handleAfter handle s b) := by
  cases b with
  | tick => exact h
  | openHandle =>
      show (t.handles ++ [.live])[handle]? = some s
      rw [List.getElem?_append_left (List.getElem?_eq_some_iff.mp h).1]
      exact h
  | fire fired =>
      show (t.handles.modify fired _)[handle]? = _
      rw [List.getElem?_modify, h]
      by_cases hsame : fired = handle <;> by_cases hdropped : s = .dropped <;>
        simp [handleAfter, hsame, hdropped]
  | drop dropped =>
      show (t.handles.modify dropped _)[handle]? = _
      rw [List.getElem?_modify, h]
      by_cases hsame : dropped = handle <;> by_cases hfired : s = .fired <;>
        simp [handleAfter, hsame, hfired]

theorem hasFired_iff (t : Timeline) (handle : Nat) :
    t.hasFired handle = true ↔ t.handles[handle]? = some .fired := by
  simp [hasFired]

/-- A handle that has fired stays so. -/
theorem fired_after {t : Timeline} {handle : Nat} (h : t.handles[handle]? = some .fired)
    (beats : List Beat) : (t.after beats).handles[handle]? = some .fired := by
  induction beats generalizing t with
  | nil => exact h
  | cons b beats ih =>
      refine ih ((handles_beat h b).trans ?_)
      cases b <;> simp [handleAfter]

/-- A handle that has been dropped unfired stays so. -/
theorem dropped_after {t : Timeline} {handle : Nat} (h : t.handles[handle]? = some .dropped)
    (beats : List Beat) : (t.after beats).handles[handle]? = some .dropped := by
  induction beats generalizing t with
  | nil => exact h
  | cons b beats ih =>
      refine ih ((handles_beat h b).trans ?_)
      cases b <;> simp [handleAfter]

/-- Only firing it makes a handle one that has fired. -/
theorem hasFired_of_beat {t : Timeline} {handle : Nat} {b : Beat}
    (h : (t.beat b).hasFired handle = true) : t.hasFired handle = true ∨
      b = .fire handle ∧ t.handles[handle]? = some .live := by
  rw [hasFired_iff] at h ⊢
  cases hstate : t.handles[handle]? with
  | none =>
      -- a handle that was not given out before is live when it is
      exfalso
      have hout : t.handles.length ≤ handle := List.getElem?_eq_none_iff.mp hstate
      cases b with
      | tick => exact absurd (hstate.symm.trans h) (by simp)
      | openHandle =>
          change (t.handles ++ [.live])[handle]? = _ at h
          rw [List.getElem?_append_right hout, List.getElem?_singleton] at h
          split at h <;> cases h
      | fire fired =>
          change (t.handles.modify fired _)[handle]? = _ at h
          rw [List.getElem?_modify, hstate] at h
          cases h
      | drop dropped =>
          change (t.handles.modify dropped _)[handle]? = _ at h
          rw [List.getElem?_modify, hstate] at h
          cases h
  | some s =>
      rw [handles_beat hstate] at h
      have hbecomes := Option.some.inj h
      cases s with
      | fired => exact .inl rfl
      | dropped => cases b <;> simp [handleAfter] at hbecomes
      | live =>
          cases b with
          | tick => cases hbecomes
          | openHandle => cases hbecomes
          | drop dropped =>
              simp only [handleAfter] at hbecomes
              split at hbecomes <;> cases hbecomes
          | fire fired =>
              simp only [handleAfter] at hbecomes
              split at hbecomes
              · next hsame => exact .inr ⟨by rw [hsame.1], rfl⟩
              · cases hbecomes

/-- Firing a handle that exists counts from then on. -/
theorem fired_of_fire {t : Timeline} {handle : Nat} {before : List Beat} (later : List Beat)
    (hlive : t.handles[handle]? = some .live) (hkept : .drop handle ∉ before) :
    (t.after (before ++ .fire handle :: later)).handles[handle]? = some .fired := by
  rw [after_append, after_cons]
  refine fired_after ?_ later
  have hthen : (t.after before).handles[handle]? = some .live ∨
      (t.after before).handles[handle]? = some .fired := by
    induction before generalizing t with
    | nil => exact .inl hlive
    | cons b before ih =>
        have hbeat := handles_beat hlive b
        rw [List.mem_cons, not_or] at hkept
        cases b with
        | fire fired =>
            by_cases hsame : fired = handle
            · refine .inr (fired_after (hbeat.trans ?_) before)
              simp [handleAfter, hsame]
            · exact ih (hbeat.trans (by simp [handleAfter, hsame])) hkept.2
        | drop dropped =>
            have hother : dropped ≠ handle := fun hsame => hkept.1 (by rw [hsame])
            exact ih (hbeat.trans (by simp [handleAfter, hother])) hkept.2
        | tick => exact ih hbeat hkept.2
        | openHandle => exact ih hbeat hkept.2
  rcases hthen with hthen | hthen <;> rw [handles_beat hthen] <;> simp [handleAfter]

end Timeline

/-! ## Making contexts -/

/-- A timeout that is put on a context: the timeline it finds, and its length. -/
structure Timeout where
  reading : Timeline
  length : Duration

namespace Timeout

/-- The instant at which the timeout ends a context. -/
def instant (x : Timeout) : Nat := x.reading.now + x.length.toNanos

/-- The clock can show the end of the timeout. -/
def Fits (x : Timeout) : Prop := x.instant / 1000000000 ≤ Timeline.lastSecond

end Timeout

/-- The ways in which a context begins. -/
inductive Origin where
  | background
  | withTimeout (x : Timeout)
  | cancellable (handle : Nat)

namespace Origin

def handle : Origin → Option Nat
  | cancellable handle => some handle
  | _ => none

/-- The timeout that the context begins with. -/
def timeouts : Origin → List Timeout
  | withTimeout x => [x]
  | _ => []

end Origin

namespace Context

/-- Begins a context. -/
def begin : Origin → Except Crash Context
  | .background => .ok background
  | .withTimeout x => background.timeout x.reading x.length
  | .cancellable handle => .ok (cancellable handle)

/-- Puts timeouts on a context, each at its own reading of the clock. -/
def tightened (c : Context) (xs : List Timeout) : Except Crash Context :=
  xs.foldlM (fun c x => c.timeout x.reading x.length) c

/-- Begins a context and puts timeouts on it. -/
def make (o : Origin) (later : List Timeout) : Except Crash Context := do
  (← begin o).tightened later

theorem timeout_eq (c : Context) {x : Timeout} (h : x.Fits) :
    c.timeout x.reading x.length =
      .ok { c with deadline := some (earlier c.deadline x.instant) } :=
  if_pos h

theorem tightened_eq (c : Context) {xs : List Timeout} (h : ∀ x ∈ xs, x.Fits) :
    c.tightened xs = .ok ⟨c.handle, (c.deadline.toList ++ xs.map Timeout.instant).min?⟩ := by
  unfold tightened
  induction xs generalizing c with
  | nil =>
      obtain ⟨handle, deadline⟩ := c
      cases deadline <;> rfl
  | cons x xs ih =>
      rw [List.foldlM_cons, c.timeout_eq (h x List.mem_cons_self)]
      refine (ih _ fun y hy => h y (List.mem_cons_of_mem _ hy)).trans ?_
      obtain ⟨handle, deadline⟩ := c
      cases deadline with
      | none => rfl
      | some d =>
          show Except.ok (⟨handle, (min d x.instant :: xs.map Timeout.instant).min?⟩ : Context) =
            .ok ⟨handle, (d :: x.instant :: xs.map Timeout.instant).min?⟩
          rw [List.min?_cons', List.min?_cons', List.foldl_cons]

/-- Timeouts that are put on at one reading of the clock end the context at the earliest of their ends,
or as early as it ended before. -/
theorem timeouts_eq (c : Context) {t : Timeline} {ds : List Duration}
    (h : ∀ d ∈ ds, (⟨t, d⟩ : Timeout).Fits) :
    c.timeouts t ds = .ok ⟨c.handle, (c.deadline.toList ++ ds.map fun d => t.now + d.toNanos).min?⟩ := by
  have htightened : c.timeouts t ds = c.tightened (ds.map (Timeout.mk t)) := by
    rw [tightened, List.foldlM_map]
    rfl
  rw [htightened, c.tightened_eq (by simpa using h), List.map_map]
  rfl

/-- The deadline of a context is the earliest end of all timeouts that were put on it. -/
theorem make_eq (o : Origin) {later : List Timeout} (h : ∀ x ∈ o.timeouts ++ later, x.Fits) :
    make o later = .ok ⟨o.handle, ((o.timeouts ++ later).map Timeout.instant).min?⟩ := by
  have hlater : ∀ x ∈ later, x.Fits := fun x hx => h x (List.mem_append_right _ hx)
  cases o with
  | background => exact tightened_eq background hlater
  | cancellable handle => exact tightened_eq (cancellable handle) hlater
  | withTimeout x =>
      have hfirst : x.Fits := h x (List.mem_append_left _ List.mem_cons_self)
      show (background.timeout x.reading x.length >>= fun c => c.tightened later) = _
      rw [background.timeout_eq hfirst]
      exact tightened_eq _ hlater

/-! ## Contexts that have ended -/

theorem remaining_eq (c : Context) (t : Timeline) :
    (c.remaining t).map Int.ofNat =
      c.deadline.map fun d : Nat => max 0 ((d : Int) - (t.now : Int)) := by
  unfold remaining
  cases c.deadline with
  | none => rfl
  | some d =>
      refine congrArg some ?_
      show ((d - t.now : Nat) : Int) = max 0 ((d : Int) - (t.now : Int))
      omega

theorem isCancelled_iff (c : Context) (t : Timeline) :
    c.isCancelled t = true ↔ ∃ handle, c.handle = some handle ∧
      t.handles[handle]? = some .fired := by
  unfold isCancelled
  cases c.handle <;> simp [Timeline.hasFired_iff]

theorem isDone_iff (c : Context) (t : Timeline) :
    c.isDone t = true ↔ (∃ handle, c.handle = some handle ∧ t.handles[handle]? = some .fired) ∨
      ∃ d, c.deadline = some d ∧ d ≤ t.now := by
  unfold isDone
  rw [Bool.or_eq_true, isCancelled_iff]
  cases c.deadline <;> simp

theorem now_le_after (t : Timeline) (beats : List Beat) : t.now ≤ (t.after beats).now := by
  induction beats generalizing t with
  | nil => exact Nat.le_refl _
  | cons b beats ih => exact Nat.le_trans (t.now_le_beat b) (ih _)

/-- A context that has ended has ended for good. -/
theorem isDone_after {c : Context} {t : Timeline} (h : c.isDone t = true) (beats : List Beat) :
    c.isDone (t.after beats) = true := by
  rw [isDone_iff] at h ⊢
  rcases h with ⟨handle, hhandle, hfired⟩ | ⟨d, hd, hpassed⟩
  · exact .inl ⟨handle, hhandle, Timeline.fired_after hfired beats⟩
  · exact .inr ⟨d, hd, Nat.le_trans hpassed (now_le_after t beats)⟩

theorem min?_toList_append (ends more : List Nat) :
    (ends.min?.toList ++ more).min? = (ends ++ more).min? := by
  cases ends with
  | nil => rfl
  | cons e ends =>
      rw [List.min?_cons', Option.toList_some, List.singleton_append, List.cons_append,
        List.min?_cons', List.min?_cons', List.foldl_append]

/-- The least of some instants is no later when there are more of them. -/
theorem min?_append_le {ends : List Nat} {d : Nat} (h : ends.min? = some d) (more : List Nat) :
    ∃ d' ≤ d, (ends ++ more).min? = some d' := by
  have hmem : d ∈ ends ++ more := List.mem_append_left _ (List.min?_mem h)
  cases hmin : (ends ++ more).min? with
  | none =>
      rw [List.min?_eq_none_iff.mp hmin] at hmem
      cases hmem
  | some d' => exact ⟨d', (List.min?_eq_some_iff.mp hmin).2 d hmem, rfl⟩

end Context

end Wallet
