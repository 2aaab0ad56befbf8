import Wallet.Proofs.Reconciliation.Accounts
import Wallet.Proofs.Undoing.Play
import Wallet.Proofs.World.Schedule
import Wallet.Worker.Process

/-!
# When a worker crashes

A worker is started with the settings of some lookup and then given one job after the other, along any
schedule. It cannot be started if its pool has more slots than can be counted, and it stops in a flow
whose time for undoing would end after the last instant of the monotonic clock. It does not stop
anywhere else: a sweep counts no more orders than its batch holds, and that fits.

A schedule has an answer of the bank to every call, so it is a condition of all that follows that the
bank can number the calls it gets: it is called no more than 4294967295 times.
-/

namespace Wallet

/-! ## Settings that are looked up -/

namespace Text

/-- A number that is read is below its bound. -/
theorem unsigned?_lt {bound n : Nat} {s : String} (h : unsigned? bound s = some n) : n < bound := by
  have hbounded (body : List Char) (h : (if body.isEmpty then none
      else (digits? 0 body).bind fun n => if n < bound then some n else none) = some n) :
      n < bound := by
    split at h
    · cases h
    · obtain ⟨m, _, hm⟩ := Option.bind_eq_some_iff.mp h
      split at hm
      · next hlt =>
          cases hm
          exact hlt
      · cases hm
  exact hbounded _ h

end Text

theorem Settings.reconcileBatchLimit_lt (lookup : String → Option String) :
    (ofLookup lookup).reconcileBatchLimit < Json.bound64 := by
  show (((lookup "RECONCILE_BATCH_LIMIT").bind number?).getD _) < _
  cases hlimit : (lookup "RECONCILE_BATCH_LIMIT").bind number? with
  | none => decide
  | some n =>
      obtain ⟨s, _, hs⟩ := Option.bind_eq_some_iff.mp hlimit
      exact Text.unsigned?_lt hs

/-! ## Sweeps -/

namespace SweepReport

theorem counted_note (r : SweepReport) (result : Except ServiceError Resolution) :
    (r.note result).counted = r.counted + 1 := by
  unfold counted note
  split <;> simp only <;> omega

theorem resolved_ok {r : SweepReport} (h : r.counted < Json.bound64) : r.resolved.isOk = true := by
  unfold counted at h
  unfold resolved
  rw [if_pos (by omega)]
  rfl

end SweepReport

namespace Reconciler

variable {schedule : Schedule} {r : Reconciler} {p : Nat × Services}

/-- Reconciling counts every order once. -/
theorem counted_reconcileAll (candidates : List Order) (report : SweepReport) :
    (schedule.run (r.reconcileAll candidates report) p).1.counted =
      report.counted + candidates.length := by
  induction candidates generalizing report p with
  | nil => rfl
  | cons o rest ih =>
      unfold reconcileAll
      rw [Schedule.run_bind, Schedule.run_bind, ih, SweepReport.counted_note, List.length_cons]
      omega

/-- The store lists no more orders than it is asked for. -/
theorem length_findExpired {now : Timestamp} {limit : Nat} {candidates : List Order}
    (h : (schedule.run (Program.orders (.findExpired now limit)) p).1 = .ok candidates) :
    candidates.length ≤ limit := by
  have hserved (s : OrderStore) (h : s.findExpired now limit = .ok candidates) :
      candidates.length ≤ limit := by
    unfold OrderStore.findExpired at h
    split at h
    · cases h
    · cases h
      exact List.length_take_le _ _
  change (p.2.undergo (schedule p.1) (.orders (.findExpired now limit))).1 = .ok candidates at h
  unfold Services.undergo at h
  cases hfault : (schedule p.1).fault with
  | none =>
      rw [hfault] at h
      exact hserved _ h
  | some fault =>
      rw [hfault] at h
      cases h

/-- What a sweep has resolved fits. -/
theorem resolved_sweep {report : SweepReport} (hlimit : r.config.batchLimit < Json.bound64)
    (h : (schedule.run r.sweep p).1 = .ok report) : report.resolved.isOk = true := by
  unfold sweep at h
  rw [Schedule.run_bind, Schedule.run_bind, Schedule.run_bind] at h
  split at h
  · cases h
  · next candidates hfound =>
      rw [Schedule.run_bind] at h
      have hlength := length_findExpired hfound
      refine SweepReport.resolved_ok ?_
      rw [← Except.ok.inj h, counted_reconcileAll]
      have hstart : ({ SweepReport.empty with examined := candidates.length } :
          SweepReport).counted = 0 := rfl
      omega

end Reconciler

/-! ## Jobs -/

/-- The monotonic clock can show the instant at which a duration from now is over. -/
def Occasion.CanShow (t : Occasion) (d : Duration) : Prop :=
  (t.timeline.now + d.toNanos) / 1000000000 ≤ Timeline.lastSecond

instance (t : Occasion) (d : Duration) : Decidable (t.CanShow d) :=
  inferInstanceAs (Decidable (_ ≤ _))

/-- What a worker is given to do. -/
inductive Job where
  | flow (call : FlowCall) (operation : Context)
  | sweep

theorem Context.timeout_cases (c : Context) (t : Timeline) (d : Duration) :
    ((t.now + d.toNanos) / 1000000000 ≤ Timeline.lastSecond ∧ ∃ c', c.timeout t d = .ok c') ∨
      (¬(t.now + d.toNanos) / 1000000000 ≤ Timeline.lastSecond ∧
        c.timeout t d = .error .deadlineTooFar) := by
  unfold timeout
  split
  · next hshown => exact .inl ⟨hshown, _, rfl⟩
  · next hhidden => exact .inr ⟨hhidden, rfl⟩

namespace Worker

/-- Does a job along a schedule and leaves the number of calls so far and the services. A sweep ends
with the number of orders it has resolved. -/
def perform (w : Worker) (schedule : Schedule) (p : Nat × Services) :
    Job → Except Crash (Nat × Services)
  | .flow call operation =>
      let (x, p) := schedule.run (call.program w.flows operation) p
      x.map fun _ => p
  | .sweep =>
      let (x, p) := schedule.run w.reconciler.sweep p
      match x with
      | .error _ => .ok p
      | .ok report => report.resolved.map fun _ => p

/-- Does one job after the other, up to the first that crashes. -/
def work (w : Worker) (schedule : Schedule) (p : Nat × Services) :
    List Job → Except Crash (Nat × Services)
  | [] => .ok p
  | job :: jobs => (w.perform schedule p job).bind fun p => w.work schedule p jobs

variable {w : Worker} {schedule : Schedule} {p : Nat × Services}

/-- A flow crashes when its time for undoing begins, or not at all. -/
theorem perform_flow_cases (w : Worker) (schedule : Schedule) (p : Nat × Services)
    (call : FlowCall) (operation : Context) :
    ((schedule p.1).CanShow w.flows.config.compensationTimeout ∧
        ∃ q, w.perform schedule p (.flow call operation) = .ok q) ∨
      (¬(schedule p.1).CanShow w.flows.config.compensationTimeout ∧
        w.perform schedule p (.flow call operation) = .error .deadlineTooFar) := by
  obtain ⟨name, hprogram⟩ := call.program_eq w.flows operation
  have hbudget : (schedule.run (.request (.budget w.flows.config.compensationTimeout)) p).1 =
      Context.background.timeout (schedule p.1).timeline w.flows.config.compensationTimeout := by
    show (p.2.undergo (schedule p.1) _).1 = _
    unfold Services.undergo
    cases (schedule p.1).fault <;> rfl
  unfold perform
  simp only [hprogram]
  unfold Flow.play
  rw [Schedule.run_bind, hbudget]
  rcases Context.background.timeout_cases (schedule p.1).timeline
    w.flows.config.compensationTimeout with ⟨hshown, compensation, hopened⟩ | ⟨hhidden, hcrashed⟩
  · rw [hopened]
    simp only
    rw [Schedule.run_bind]
    exact .inl ⟨hshown, _, rfl⟩
  · rw [hcrashed]
    exact .inr ⟨hhidden, rfl⟩

theorem perform_sweep (hlimit : w.reconciler.config.batchLimit < Json.bound64)
    (schedule : Schedule) (p : Nat × Services) :
    ∃ q, w.perform schedule p .sweep = .ok q := by
  unfold perform
  cases hswept : (schedule.run w.reconciler.sweep p).1 with
  | error e =>
      simp only [hswept]
      exact ⟨_, rfl⟩
  | ok report =>
      have hresolved := Reconciler.resolved_sweep hlimit hswept
      simp only [hswept]
      cases hcount : report.resolved with
      | ok n => exact ⟨_, rfl⟩
      | error crash =>
          rw [hcount] at hresolved
          cases hresolved

/-- Only a flow can crash, and only when its time for undoing begins. -/
theorem perform_cases (hlimit : w.reconciler.config.batchLimit < Json.bound64)
    (schedule : Schedule) (p : Nat × Services) (job : Job) :
    ((∀ call operation, job = .flow call operation →
        (schedule p.1).CanShow w.flows.config.compensationTimeout) ∧
        ∃ q, w.perform schedule p job = .ok q) ∨
      ((∃ call operation, job = .flow call operation ∧
        ¬(schedule p.1).CanShow w.flows.config.compensationTimeout) ∧
        w.perform schedule p job = .error .deadlineTooFar) := by
  cases job with
  | sweep => exact .inl ⟨fun _ _ hjob => (by cases hjob), perform_sweep hlimit schedule p⟩
  | flow call operation =>
      rcases w.perform_flow_cases schedule p call operation with
        ⟨hshown, hperformed⟩ | ⟨hhidden, hcrashed⟩
      · exact .inl ⟨fun _ _ _ => hshown, hperformed⟩
      · exact .inr ⟨⟨call, operation, rfl, hhidden⟩, hcrashed⟩

/-- There is one crash that can happen at work. -/
theorem work_error (hlimit : w.reconciler.config.batchLimit < Json.bound64) {jobs : List Job}
    {crash : Crash} (h : w.work schedule p jobs = .error crash) : crash = .deadlineTooFar := by
  induction jobs generalizing p with
  | nil => cases h
  | cons job jobs ih =>
      unfold work at h
      rcases perform_cases hlimit schedule p job with ⟨_, q, hperformed⟩ | ⟨_, hcrashed⟩
      · rw [hperformed] at h
        exact ih h
      · rw [hcrashed] at h
        cases h
        rfl

/-- The jobs go through exactly if every flow among them, where it begins, has time for undoing that
the clock can show. -/
theorem work_ok_iff (hlimit : w.reconciler.config.batchLimit < Json.bound64)
    (schedule : Schedule) (p : Nat × Services) (jobs : List Job) :
    (∃ q, w.work schedule p jobs = .ok q) ↔
      ∀ before call operation after q, jobs = before ++ .flow call operation :: after →
        w.work schedule p before = .ok q →
          (schedule q.1).CanShow w.flows.config.compensationTimeout := by
  induction jobs generalizing p with
  | nil =>
      refine ⟨fun _ before call operation after q hjobs => ?_, fun _ => ⟨p, rfl⟩⟩
      simp at hjobs
  | cons job jobs ih =>
      have hwork (later : List Job) : w.work schedule p (job :: later) =
          (w.perform schedule p job).bind fun p => w.work schedule p later := rfl
      rcases perform_cases hlimit schedule p job with ⟨hshown, first, hperformed⟩ |
        ⟨⟨call, operation, rfl, hhidden⟩, hcrashed⟩
      · rw [hperformed] at hwork
        rw [hwork, show (Except.ok first).bind _ = w.work schedule first jobs from rfl, ih]
        constructor
        · intro hrest before call operation after q hjobs hbefore
          cases before with
          | nil =>
              cases hjobs
              cases hbefore
              exact hshown call operation rfl
          | cons b before =>
              cases hjobs
              rw [hwork] at hbefore
              exact hrest before call operation after q rfl hbefore
        · intro hall before call operation after q hjobs hbefore
          refine hall (job :: before) call operation after q (by rw [hjobs]; rfl) ?_
          rw [hwork]
          exact hbefore
      -- the first job crashes, and it is a flow that no job comes before
      · rw [hwork, hcrashed]
        constructor
        · rintro ⟨q, hq⟩
          cases hq
        · intro hall
          exact absurd (hall [] call operation jobs p rfl rfl) hhidden

/-! ## Workers from settings -/

theorem start_cases (settings : Settings) (clock : Timestamp) :
    (settings.workerPoolSize ≤ maxPermits ∧ ∃ w, start settings clock = .ok w ∧
        w.flows.config = settings.flowConfig ∧
        w.reconciler.config = settings.reconciliationConfig) ∨
      (maxPermits < settings.workerPoolSize ∧ start settings clock = .error .poolTooLarge) := by
  have hslots : max settings.workerPoolSize 1 ≤ maxPermits ↔
      settings.workerPoolSize ≤ maxPermits := by
    rw [Nat.max_le]
    exact and_iff_left (by decide)
  unfold start Pool.create Settings.poolConfig
  by_cases hfits : settings.workerPoolSize ≤ maxPermits
  · simp only [if_pos (hslots.mpr hfits)]
    exact .inl ⟨hfits, _, rfl, rfl, rfl⟩
  · simp only [if_neg (mt hslots.mp hfits)]
    exact .inr ⟨Nat.lt_of_not_le hfits, rfl⟩

/-- Whatever a lookup gives, a worker cannot be started exactly if its pool has more slots than can be
counted, and once started it does whatever jobs it is given, along any schedule of answers, exactly if
the clock can show the end of the time for undoing at the beginning of every flow that it gets to. -/
theorem crash_free_iff (lookup : String → Option String) (clock : Timestamp) :
    ((∃ w, start (.ofLookup lookup) clock = .ok w) ↔
      (Settings.ofLookup lookup).workerPoolSize ≤ maxPermits) ∧
    (∀ crash, start (.ofLookup lookup) clock = .error crash → crash = .poolTooLarge) ∧
    ∀ w, start (.ofLookup lookup) clock = .ok w → ∀ schedule jobs,
      ((∃ q, w.work schedule (0, w.services) jobs = .ok q) ↔
        ∀ before call operation after q, jobs = before ++ .flow call operation :: after →
          w.work schedule (0, w.services) before = .ok q →
            (schedule q.1).CanShow (Settings.ofLookup lookup).compensationTimeout) ∧
      ∀ crash, w.work schedule (0, w.services) jobs = .error crash → crash = .deadlineTooFar := by
  rcases start_cases (.ofLookup lookup) clock with
    ⟨hfits, started, hstarted, hflows, hsweeps⟩ | ⟨hlarge, hcrashed⟩
  · refine ⟨⟨fun _ => hfits, fun _ => ⟨started, hstarted⟩⟩, ?_, ?_⟩
    · intro crash hcrash
      rw [hstarted] at hcrash
      cases hcrash
    · intro w hw schedule jobs
      rw [hstarted] at hw
      cases hw
      have hlimit : started.reconciler.config.batchLimit < Json.bound64 := by
        rw [hsweeps]
        exact Settings.reconcileBatchLimit_lt lookup
      have hok := work_ok_iff hlimit schedule (0, started.services) jobs
      rw [hflows] at hok
      exact ⟨hok, fun crash => work_error hlimit⟩
  · refine ⟨⟨?_, fun hfits => absurd hlarge (Nat.not_lt.mpr hfits)⟩, ?_, ?_⟩
    · rintro ⟨w, hw⟩
      rw [hcrashed] at hw
      cases hw
    · intro crash hcrash
      rw [hcrashed] at hcrash
      cases hcrash
      rfl
    · intro w hw
      rw [hcrashed] at hw
      cases hw

/-! ### A payment and a sweep -/

/-- A cash-out. -/
def payOut : Job :=
  .flow (.pay .cashOut ⟨default, (Money.ofInt? 200000).getD .zero, .of "BIDV", none, .wallet, none⟩)
    .background

/-- Nothing goes wrong. -/
def fairly : Schedule := fun _ => .fair default "200"

/-- Without any settings given, a payment and a sweep go through. -/
theorem crash_free_iff_standard : ∃ w q, start (.ofLookup fun _ => none) default = .ok w ∧
    w.work fairly (0, w.services) [payOut, .sweep] = .ok q := by
  obtain ⟨hstart, _, hwork⟩ := crash_free_iff (fun _ => none) default
  obtain ⟨w, hw⟩ := hstart.mpr (by decide)
  obtain ⟨q, hq⟩ := (hwork w hw fairly [payOut, .sweep]).1.mpr fun _ _ _ _ _ _ _ => by
    show Occasion.CanShow (.fair default "200") _
    decide
  exact ⟨w, q, hw, hq⟩

/-- A lookup with one key. -/
def only (key value : String) : String → Option String :=
  fun asked => if asked = key then some value else none

/-- A pool of one slot too many stops the worker before it has started, and the longest time for
undoing stops it in its first payment. -/
theorem crashes :
    start (.ofLookup (only "WORKER_POOL_SIZE" "2305843009213693952")) default =
      .error .poolTooLarge ∧
    ∃ w, start (.ofLookup (only "COMPENSATION_TIMEOUT_SECS" "18446744073709551615")) default = .ok w ∧
      w.work fairly (0, w.services) [payOut] = .error .deadlineTooFar := by
  refine ⟨rfl, _, rfl, ?_⟩
  rfl

end Worker

end Wallet
