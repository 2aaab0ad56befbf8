import Wallet.Proofs.Context.Basic
import Wallet.Task.Services

/-!
# Waiting for a context to end

Whoever waits for a context to end listens to its handle and sleeps until its deadline. It does not
look at every moment, only when the handle is fired or dropped and when the deadline has come; and
when the handle is gone unfired it stops listening, and goes on sleeping (`Context.look`,
`Context.isWoken`). It wakes up in time nevertheless: the wait is over at the first moment at which
the context has ended, and not before (`Context.done_eq`). The tasks of the program ask at every moment
whether the context has ended, which comes to the same (`Context.awaitEnd_eq`).
-/

namespace Wallet

/-- All moments of a timeline that goes on, with the present one. -/
def Timeline.moments (t : Timeline) (beats : List Beat) : List Timeline := beats.scanl beat t

theorem Timeline.moments_cons (t : Timeline) (b : Beat) (beats : List Beat) :
    t.moments (b :: beats) = t :: (t.beat b).moments beats :=
  List.scanl_cons

namespace Context

/-! ## Whoever waits -/

/-- What has become of the handle of a context, if it has one. -/
def heard (c : Context) (t : Timeline) : Option HandleState :=
  c.handle.bind fun handle => t.handles[handle]?

/-- The deadline of a context has come. -/
def isDue (c : Context) (t : Timeline) : Bool := c.deadline.any fun d => decide (d ≤ t.now)

/-- Looks whether the wait is over; if not, whether it makes sense to listen any longer. -/
def look (c : Context) (listens : Bool) (t : Timeline) : Option Bool :=
  if (listens && c.heard t == some .fired) || c.isDue t then none
  else some (listens && c.heard t != some .dropped)

/-- Whether the beat that led to a moment wakes whoever waits. -/
def isWoken (c : Context) (listens : Bool) (t : Timeline) : Beat → Bool
  | .tick => c.isDue t
  | .openHandle => false
  | .fire handle | .drop handle => listens && c.handle == some handle

/-- After how many beats a wait that has begun is over. -/
def resolves (c : Context) (listens : Bool) (t : Timeline) : List Beat → Option Nat
  | [] => none
  | b :: rest =>
      match if c.isWoken listens (t.beat b) b then c.look listens (t.beat b) else some listens with
      | none => some 1
      | some listens => (c.resolves listens (t.beat b) rest).map (· + 1)

/-- After how many beats a wait is over that begins now. -/
def done (c : Context) (t : Timeline) (beats : List Beat) : Option Nat :=
  match c.look true t with
  | none => some 0
  | some listens => c.resolves listens t beats

/-! ## Nobody oversleeps -/

theorem isDone_eq (c : Context) (t : Timeline) :
    c.isDone t = (c.heard t == some .fired || c.isDue t) := by
  unfold isDone isCancelled heard
  cases c.handle <;> rfl

/-- A handle that is gone unfired is not heard of again. -/
theorem heard_dropped_beat {c : Context} {t : Timeline} (h : c.heard t = some .dropped) (b : Beat) :
    c.heard (t.beat b) = some .dropped := by
  obtain ⟨handle, hhandle, hdropped⟩ := Option.bind_eq_some_iff.mp h
  exact Option.bind_eq_some_iff.mpr ⟨handle, hhandle, Timeline.dropped_after hdropped [b]⟩

/-- Looking tells whether the context has ended, also when nobody listens to a handle that is gone. -/
theorem look_eq_none_iff {c : Context} {listens : Bool} {t : Timeline}
    (hdeaf : listens = false → c.heard t = some .dropped) :
    c.look listens t = none ↔ c.isDone t = true := by
  rw [isDone_eq]
  unfold look
  cases listens with
  | true =>
      rw [Bool.true_and]
      split <;> simp_all
  | false => simp [hdeaf rfl]

/-- Whoever does not listen any longer has heard that the handle is gone. -/
theorem heard_of_look {c : Context} {listens still : Bool} {t : Timeline}
    (hdeaf : listens = false → c.heard t = some .dropped) (hlook : c.look listens t = some still) :
    still = false → c.heard t = some .dropped := by
  unfold look at hlook
  split at hlook <;> cases hlook
  cases listens with
  | true => simp
  | false => exact fun _ => hdeaf rfl

/-- A beat that wakes nobody ends no context. -/
theorem isDone_beat_of_asleep {c : Context} {listens : Bool} {t : Timeline} {b : Beat}
    (hopen : c.isDone t = false) (hdeaf : listens = false → c.heard t = some .dropped)
    (hasleep : c.isWoken listens (t.beat b) b = false) : c.isDone (t.beat b) = false := by
  rw [← Bool.not_eq_true, isDone_iff] at hopen ⊢
  rintro (⟨handle, hhandle, hfired⟩ | ⟨d, hd, hpassed⟩)
  · rw [← Timeline.hasFired_iff] at hfired
    rcases Timeline.hasFired_of_beat hfired with hbefore | ⟨rfl, hlive⟩
    · exact hopen (.inl ⟨handle, hhandle, (Timeline.hasFired_iff t handle).mp hbefore⟩)
    · -- only whoever has heard that the handle is gone sleeps when it is fired
      have hlistens : listens = false := by simpa [isWoken, hhandle] using hasleep
      have hgone := hdeaf hlistens
      simp [heard, hhandle, hlive] at hgone
  · cases b with
    | tick => simp [isWoken, isDue, hd, hpassed] at hasleep
    | openHandle => exact hopen (.inr ⟨d, hd, hpassed⟩)
    | fire handle => exact hopen (.inr ⟨d, hd, hpassed⟩)
    | drop handle => exact hopen (.inr ⟨d, hd, hpassed⟩)

theorem findIdx?_moments_of_isDone {c : Context} {t : Timeline} (h : c.isDone t = true)
    (beats : List Beat) : (t.moments beats).findIdx? c.isDone = some 0 := by
  cases beats <;> simp [Timeline.moments, List.findIdx?_cons, h]

theorem findIdx?_moments_cons {c : Context} {t : Timeline} (h : c.isDone t = false) (b : Beat)
    (beats : List Beat) : (t.moments (b :: beats)).findIdx? c.isDone =
      (((t.beat b).moments beats).findIdx? c.isDone).map (· + 1) := by
  simp [Timeline.moments_cons, List.findIdx?_cons, h]

/-- A wait that has begun is over at the first moment at which the context has ended. -/
theorem resolves_eq {c : Context} {listens : Bool} {t : Timeline} (beats : List Beat)
    (hopen : c.isDone t = false) (hdeaf : listens = false → c.heard t = some .dropped) :
    c.resolves listens t beats = (t.moments beats).findIdx? c.isDone := by
  induction beats generalizing listens t with
  | nil => simp [resolves, Timeline.moments, hopen]
  | cons b rest ih =>
      have hdeaf' : listens = false → c.heard (t.beat b) = some .dropped :=
        fun hl => heard_dropped_beat (hdeaf hl) b
      rw [findIdx?_moments_cons hopen, resolves]
      by_cases hwoken : c.isWoken listens (t.beat b) b = true
      · rw [if_pos hwoken]
        cases hlook : c.look listens (t.beat b) with
        | none =>
            rw [findIdx?_moments_of_isDone ((look_eq_none_iff hdeaf').mp hlook)]
            rfl
        | some still =>
            have hopen' : c.isDone (t.beat b) = false := by
              rw [← Bool.not_eq_true, ← look_eq_none_iff hdeaf', hlook]
              simp
            exact congrArg (Option.map (· + 1)) (ih hopen' (heard_of_look hdeaf' hlook))
      · rw [if_neg hwoken]
        have hopen' := isDone_beat_of_asleep hopen hdeaf (Bool.eq_false_iff.mpr hwoken)
        exact congrArg (Option.map (· + 1)) (ih hopen' hdeaf')

/-- A wait is over at the first moment at which the context has ended. -/
theorem done_eq (c : Context) (t : Timeline) (beats : List Beat) :
    c.done t beats = (t.moments beats).findIdx? c.isDone := by
  have hdeaf : true = false → c.heard t = some .dropped := by simp
  unfold done
  cases hlook : c.look true t with
  | none => exact (findIdx?_moments_of_isDone ((look_eq_none_iff hdeaf).mp hlook) beats).symm
  | some listens =>
      have hopen : c.isDone t = false := by
        rw [← Bool.not_eq_true, ← look_eq_none_iff hdeaf, hlook]
        simp
      exact resolves_eq beats hopen (heard_of_look hdeaf hlook)

/-- How tasks wait: one that waits for the end of a context, or for an instant, goes on as soon as
whoever looked at the context anew would find the wait over. -/
theorem awaitEnd_eq {σ : Type} [HasServices σ] (c : Context) (instant : Nat) :
    Turn.awaitEnd (σ := σ) c instant =
      Turn.await (fun s => (c.look true (HasServices.services s).timeline).isNone ||
        decide (instant ≤ Turn.clock s)) (some (earlier c.deadline instant)) := by
  have hlook (t : Timeline) : (c.look true t).isNone = c.isDone t := by
    rw [Bool.eq_iff_iff, Option.isNone_iff_eq_none, look_eq_none_iff (by simp)]
  simp only [Turn.awaitEnd, hlook]

/-! ## What can be relied on -/

/-- What can be relied on of a context that a handle may cancel and some timeouts may end. -/
structure Reliable (c : Context) (handle : Option Nat) (ends : List Nat) : Prop where
  deadline_eq : c.deadline = ends.min?
  remaining_eq : ∀ t, (c.remaining t).map Int.ofNat =
    c.deadline.map fun d : Nat => max 0 ((d : Int) - (t.now : Int))
  isDone_iff : ∀ t : Timeline, c.isDone t = true ↔
    (∃ h, handle = some h ∧ t.handles[h]? = some .fired) ∨ ∃ e ∈ ends, e ≤ t.now
  /-- To fire the handle ends the context, if the handle was not dropped before. -/
  fired : ∀ (t : Timeline) h before later, handle = some h → t.handles[h]? = some .live →
    .drop h ∉ before → c.isDone (t.after (before ++ .fire h :: later)) = true
  /-- Without its handle the context has only its deadline. -/
  dropped : ∀ (t : Timeline) h beats, handle = some h → t.handles[h]? = some .dropped →
    c.isDone (t.after beats) = c.isDue (t.after beats)
  stays_done : ∀ t beats, c.isDone t = true → c.isDone (t.after beats) = true
  done_eq : ∀ t beats, c.done t beats = (t.moments beats).findIdx? c.isDone

theorem exists_end_le_iff {ends : List Nat} {now : Nat} :
    (∃ d, ends.min? = some d ∧ d ≤ now) ↔ ∃ e ∈ ends, e ≤ now := by
  constructor
  · rintro ⟨d, hd, hle⟩
    exact ⟨d, List.min?_mem hd, hle⟩
  · rintro ⟨e, he, hle⟩
    cases hmin : ends.min? with
    | none =>
        rw [List.min?_eq_none_iff.mp hmin] at he
        cases he
    | some d => exact ⟨d, rfl, Nat.le_trans ((List.min?_eq_some_iff.mp hmin).2 e he) hle⟩

theorem reliable (handle : Option Nat) (ends : List Nat) :
    (⟨handle, ends.min?⟩ : Context).Reliable handle ends where
  deadline_eq := rfl
  remaining_eq := Context.remaining_eq _
  isDone_iff t := (Context.isDone_iff _ t).trans (or_congr_right exists_end_le_iff)
  fired t h before later hhandle hlive hkept :=
    (Context.isDone_iff _ _).mpr (.inl ⟨h, hhandle, Timeline.fired_of_fire later hlive hkept⟩)
  dropped t h beats hhandle hdropped := by
    rw [isDone_eq, heard, hhandle, Option.bind_some, Timeline.dropped_after hdropped]
    rfl
  stays_done t beats h := isDone_after h beats
  done_eq := Context.done_eq _

/-- **A context ends when it should, and whoever waits for that notices at once.** This holds of a
context that was begun in any way and got any timeouts, and of all clones of it, which may get more
timeouts: their deadlines are no later, and they have ended when it has. No end of a timeout may lie
beyond the last reading of the clock. -/
theorem make_reliable (o : Origin) (later : List Timeout) (h : ∀ x ∈ o.timeouts ++ later, x.Fits) :
    ∃ c, make o later = .ok c ∧ c.Reliable o.handle ((o.timeouts ++ later).map Timeout.instant) ∧
      ∀ more, (∀ x ∈ more, x.Fits) → ∃ clone, c.tightened more = .ok clone ∧
        clone.Reliable o.handle ((o.timeouts ++ later ++ more).map Timeout.instant) ∧
        (∀ d, c.deadline = some d → ∃ d' ≤ d, clone.deadline = some d') ∧
        ∀ t beats, c.isDone t = true → clone.isDone (t.after beats) = true := by
  let ends := (o.timeouts ++ later).map Timeout.instant
  refine ⟨⟨o.handle, ends.min?⟩, make_eq o h, reliable o.handle ends, fun more hmore => ?_⟩
  have hclone : (⟨o.handle, ends.min?⟩ : Context).tightened more =
      .ok ⟨o.handle, ((o.timeouts ++ later ++ more).map Timeout.instant).min?⟩ := by
    rw [tightened_eq _ hmore, List.map_append, min?_toList_append]
  refine ⟨_, hclone, reliable o.handle _, fun d hd => ?_, fun t beats hdone => ?_⟩
  · rw [List.map_append]
    exact min?_append_le hd _
  · -- what has ended the context ends its clones as well
    refine isDone_after (((reliable o.handle _).isDone_iff t).mpr ?_) beats
    refine (((reliable o.handle ends).isDone_iff t).mp hdone).imp_right ?_
    rintro ⟨e, he, hle⟩
    rw [List.map_append]
    exact ⟨e, List.mem_append_left _ he, hle⟩

/-- A context that handle 0 cancels gets three seconds, and a second later one more second, which
ends it at instant 2000000000, unless the handle is fired before. A clone gets a quarter of a
second and ends earlier. -/
theorem make_reliable_two_timeouts :
    let first : Timeout := ⟨⟨0, [.live]⟩, ⟨3, 0, by decide, by decide⟩⟩
    let second : Timeout := ⟨⟨1000000000, [.live]⟩, ⟨1, 0, by decide, by decide⟩⟩
    let third : Timeout := ⟨⟨1500000000, [.live]⟩, ⟨0, 250000000, by decide, by decide⟩⟩
    (∀ x ∈ (Origin.cancellable 0).timeouts ++ [first, second], x.Fits) ∧ third.Fits ∧
      ∃ c, make (.cancellable 0) [first, second] = .ok c ∧ c.deadline = some 2000000000 ∧
        c.isDone ⟨1999999999, [.live]⟩ = false ∧
        c.isDone ((⟨1999999999, [.live]⟩ : Timeline).after [.fire 0, .drop 0]) = true ∧
        c.done ⟨1999999999, [.live]⟩ [.drop 0, .fire 0, .tick] = some 3 ∧
        ∃ clone, c.tightened [third] = .ok clone ∧ clone.deadline = some 1750000000 := by
  intro first second third
  have hfits : ∀ x ∈ (Origin.cancellable 0).timeouts ++ [first, second], x.Fits := by
    simp [Origin.timeouts, Timeout.Fits, Timeout.instant, Duration.toNanos, Timeline.lastSecond,
      first, second]
  have hthird : third.Fits := by
    simp [Timeout.Fits, Timeout.instant, Duration.toNanos, Timeline.lastSecond, third]
  obtain ⟨c, hmade, hc, hclones⟩ := make_reliable (.cancellable 0) [first, second] hfits
  obtain ⟨clone, hcloned, hclone, -⟩ := hclones [third] (by simpa using hthird)
  have hopen : ∀ s, s ≠ .fired → c.isDone ⟨1999999999, [s]⟩ = false := by
    intro s hs
    rw [← Bool.not_eq_true, hc.isDone_iff]
    simp [Origin.timeouts, Origin.handle, Timeout.instant, Duration.toNanos, first, second, hs]
  have hdone : c.isDone ⟨2000000000, [.dropped]⟩ = true := by
    rw [hc.isDone_iff]
    simp [Origin.timeouts, Origin.handle, Timeout.instant, Duration.toNanos, first, second]
  refine ⟨hfits, hthird, c, hmade, hc.deadline_eq.trans ?_, hopen .live (by simp),
    hc.fired _ 0 [] [.drop 0] rfl rfl List.not_mem_nil, ?_, clone, hcloned,
    hclone.deadline_eq.trans ?_⟩
  · simp [Origin.timeouts, Timeout.instant, Duration.toNanos, first, second]
  · rw [hc.done_eq]
    show List.findIdx? c.isDone [⟨1999999999, [.live]⟩, ⟨1999999999, [.dropped]⟩,
      ⟨1999999999, [.dropped]⟩, ⟨2000000000, [.dropped]⟩] = some 3
    simp [List.findIdx?_cons, hopen, hdone]
  · simp [Origin.timeouts, Timeout.instant, Duration.toNanos, first, second, third]

end Context

end Wallet
