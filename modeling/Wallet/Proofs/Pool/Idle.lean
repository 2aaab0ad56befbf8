import Mathlib.Algebra.BigOperators.Group.List.Basic
import Mathlib.Algebra.GroupWithZero.Nat
import Wallet.Pool.Jobs

/-!
# Waiting for a pool to be idle

Slots are never lost: each is free, taken by a job, or collected by someone who waits
(`Pool.Orderly`). Whoever waits is done when it holds as many slots as it needs, which are all slots
of the pool as long as these can be counted with 32 bits. So in a pool of that size nobody is done
waiting before every job is finished (`Pool.Orderly.drains`), and in a larger one somebody is
(`Pool.not_drains`).
-/

namespace Wallet

namespace Pool

/-! ## Where the slots are -/

/-- The slots that those who wait have collected. -/
def collected (needed : Nat) (ws : List Waiter) : Nat := (ws.map fun w => needed - w.missing).sum

@[simp] theorem collected_nil (needed : Nat) : collected needed [] = 0 := rfl

@[simp] theorem collected_cons (needed : Nat) (w : Waiter) (ws : List Waiter) :
    collected needed (w :: ws) = (needed - w.missing) + collected needed ws := by
  simp [collected]

@[simp] theorem collected_append (needed : Nat) (ws vs : List Waiter) :
    collected needed (ws ++ vs) = collected needed ws + collected needed vs := by
  simp [collected]

/-- A waiter holds no more than all those who wait. -/
theorem le_collected {needed : Nat} {w : Waiter} {ws : List Waiter} (h : w ∈ ws) :
    needed - w.missing ≤ collected needed ws := by
  induction ws with
  | nil => cases h
  | cons v ws ih =>
      rw [collected_cons]
      rcases List.mem_cons.mp h with rfl | hmem
      · omega
      · have := ih hmem
        omega

/-- A pool of a size in which jobs have taken `out` slots. Slots are handed to those who wait in
their order, and none is free as long as one of them lacks any. -/
structure Orderly (size out : Nat) (p : Pool) : Prop where
  sized : p.capacity = size
  slots : p.free + out + collected p.needed p.waiters = size
  within : ∀ w ∈ p.waiters, w.missing ≤ p.needed
  in_turn : p.waiters.Pairwise fun w v => w.missing = 0 ∨ v.missing = p.needed
  none_free : ∀ w ∈ p.waiters, w.missing = 0 ∨ p.free = 0
  numbered : (p.waiters.map Waiter.ticket).Pairwise (· < ·)
  issued : ∀ w ∈ p.waiters, w.ticket < p.tickets

theorem orderly_create {c : PoolConfig} {p : Pool} (h : create c = .ok p) :
    p.Orderly p.capacity 0 := by
  simp only [create] at h
  split at h
  · cases h
    exact ⟨rfl, by simp, by simp, by simp, by simp, by simp, by simp⟩
  · cases h

variable {p : Pool} {size out : Nat}

theorem Orderly.submit {p' : Pool} (h : p.Orderly size out) (hsubmit : p.submit? = some p') :
    p'.Orderly size (out + 1) := by
  unfold submit? at hsubmit
  split at hsubmit
  · next hfree =>
    cases hsubmit
    have hslots := h.slots
    refine { h with slots := ?_, none_free := ?_ }
    · show p.free - 1 + (out + 1) + collected p.needed p.waiters = size
      omega
    · intro w hw
      rcases h.none_free w hw with hzero | hnone
      · exact .inl hzero
      · omega
  · cases hsubmit

/-! ## Slots that are given back -/

theorem handOut_zero (ws : List Waiter) : handOut 0 ws = (ws, 0) := by
  induction ws with
  | nil => rfl
  | cons w ws ih => simp [handOut, ih]

theorem tickets_handOut (n : Nat) (ws : List Waiter) :
    (handOut n ws).1.map Waiter.ticket = ws.map Waiter.ticket := by
  induction ws generalizing n with
  | nil => rfl
  | cons w ws ih => simp [handOut, ih]

theorem missing_handOut {bound n : Nat} {ws : List Waiter} (h : ∀ w ∈ ws, w.missing ≤ bound) :
    ∀ w ∈ (handOut n ws).1, w.missing ≤ bound := by
  induction ws generalizing n with
  | nil => simp [handOut]
  | cons w ws ih =>
      intro v hv
      simp only [handOut, List.mem_cons] at hv
      rcases hv with rfl | hv
      · exact Nat.le_trans (Nat.sub_le _ _) (h w List.mem_cons_self)
      · exact ih (fun u hu => h u (List.mem_cons_of_mem _ hu)) v hv

/-- What is handed out is collected or left over. -/
theorem collected_handOut {needed n : Nat} {ws : List Waiter} (h : ∀ w ∈ ws, w.missing ≤ needed) :
    (handOut n ws).2 + collected needed (handOut n ws).1 = n + collected needed ws := by
  induction ws generalizing n with
  | nil => rfl
  | cons w ws ih =>
      have hrest := ih (n := n - w.missing) fun v hv => h v (List.mem_cons_of_mem _ hv)
      have hw := h w List.mem_cons_self
      simp only [handOut, collected_cons]
      omega

/-- Something is left over only when nobody lacks anything. -/
theorem missing_of_left {n : Nat} {ws : List Waiter} (h : (handOut n ws).2 ≠ 0) :
    ∀ w ∈ (handOut n ws).1, w.missing = 0 := by
  induction ws generalizing n with
  | nil => simp [handOut]
  | cons w ws ih =>
      intro v hv
      simp only [handOut, List.mem_cons] at h hv
      rcases hv with rfl | hv
      · show w.missing - n = 0
        by_cases hlacks : w.missing ≤ n
        · omega
        · rw [Nat.sub_eq_zero_of_le (by omega), handOut_zero] at h
          exact absurd rfl h
      · exact ih h v hv

theorem in_turn_handOut {needed n : Nat} {ws : List Waiter}
    (h : ws.Pairwise fun w v => w.missing = 0 ∨ v.missing = needed) :
    (handOut n ws).1.Pairwise fun w v => w.missing = 0 ∨ v.missing = needed := by
  induction ws generalizing n with
  | nil => simp [handOut]
  | cons w ws ih =>
      obtain ⟨hfirst, hrest⟩ := List.pairwise_cons.mp h
      simp only [handOut, List.pairwise_cons]
      refine ⟨?_, ih hrest⟩
      intro v hv
      by_cases hlacks : w.missing ≤ n
      · exact .inl (Nat.sub_eq_zero_of_le hlacks)
      · -- the first one takes everything, and the others stay as they were
        rw [Nat.sub_eq_zero_of_le (by omega), handOut_zero] at hv
        rcases hfirst v hv with hzero | hfull
        · omega
        · exact .inr hfull

theorem Orderly.release {n : Nat} (h : p.Orderly size (out + n)) :
    (p.release n).Orderly size out where
  sized := h.sized
  slots := by
    have hslots := h.slots
    have hhanded := collected_handOut (n := n) h.within
    show p.free + (handOut n p.waiters).2 + out + collected p.needed (handOut n p.waiters).1 = size
    omega
  within := missing_handOut h.within
  in_turn := in_turn_handOut h.in_turn
  none_free := by
    intro w hw
    by_cases hleft : (handOut n p.waiters).2 = 0
    · -- with nothing left over a slot is free only if one was before, and then nobody lacked any
      by_cases hfree : p.free = 0
      · exact .inr (by show p.free + _ = 0; omega)
      · refine .inl (Nat.le_zero.mp (missing_handOut (fun v hv => ?_) w hw))
        exact Nat.le_of_eq ((h.none_free v hv).resolve_right hfree)
    · exact .inl (missing_of_left hleft w hw)
  numbered := by
    show ((handOut n p.waiters).1.map Waiter.ticket).Pairwise (· < ·)
    rw [tickets_handOut]
    exact h.numbered
  issued := by
    intro w hw
    have hmem : w.ticket ∈ p.waiters.map Waiter.ticket := by
      rw [← tickets_handOut n]
      exact List.mem_map_of_mem hw
    obtain ⟨v, hv, hticket⟩ := List.mem_map.mp hmem
    rw [← hticket]
    exact h.issued v hv

/-! ## Those who wait -/

theorem Orderly.startWait (h : p.Orderly size out) : p.startWait.2.Orderly size out := by
  refine ⟨h.sized, ?_, ?_, ?_, ?_, ?_, ?_⟩
  · have hslots := h.slots
    show p.free - p.needed + out +
      collected p.needed (p.waiters ++ [⟨p.tickets, p.needed - p.free⟩]) = size
    simp only [collected_append, collected_cons, collected_nil]
    omega
  · intro w hw
    rcases List.mem_append.mp hw with hw | hw
    · exact h.within w hw
    · rw [List.mem_singleton.mp hw]
      exact Nat.sub_le _ _
  · refine List.pairwise_append.mpr ⟨h.in_turn, List.pairwise_singleton _ _, ?_⟩
    intro w hw v hv
    rw [List.mem_singleton.mp hv]
    -- a slot is free for the new one only if nobody before it lacks any
    rcases h.none_free w hw with hzero | hnone
    · exact .inl hzero
    · exact .inr (by show p.needed - p.free = p.needed; omega)
  · intro w hw
    rcases List.mem_append.mp hw with hw | hw
    · rcases h.none_free w hw with hzero | hnone
      · exact .inl hzero
      · exact .inr (by show p.free - p.needed = 0; omega)
    · rw [List.mem_singleton.mp hw]
      show p.needed - p.free = 0 ∨ p.free - p.needed = 0
      omega
  · show ((p.waiters ++ [_]).map Waiter.ticket).Pairwise (· < ·)
    rw [List.map_append]
    refine List.pairwise_append.mpr ⟨h.numbered, List.pairwise_singleton _ _, ?_⟩
    intro ticket hticket last hlast
    obtain ⟨w, hw, rfl⟩ := List.mem_map.mp hticket
    rw [List.mem_singleton.mp hlast]
    exact h.issued w hw
  · intro w hw
    rcases List.mem_append.mp hw with hw | hw
    · exact Nat.lt_succ_of_lt (h.issued w hw)
    · rw [List.mem_singleton.mp hw]
      exact Nat.lt_succ_self _

/-- Of those who wait only the one with the ticket leaves. -/
theorem collected_filter {needed ticket : Nat} {ws : List Waiter} {w : Waiter}
    (hnumbered : (ws.map Waiter.ticket).Pairwise (· < ·))
    (hfind : (ws.find? fun v => v.ticket == ticket) = some w) :
    (needed - w.missing) + collected needed (ws.filter fun v => v.ticket != ticket) =
      collected needed ws := by
  induction ws with
  | nil => cases hfind
  | cons v ws ih =>
      obtain ⟨hfirst, hrest⟩ := List.pairwise_cons.mp hnumbered
      by_cases hv : v.ticket = ticket
      · have hothers : (ws.filter fun u => u.ticket != ticket) = ws := by
          refine List.filter_eq_self.mpr ?_
          intro u hu
          have := hfirst u.ticket (List.mem_map_of_mem hu)
          simp only [bne_iff_ne]
          omega
        rw [List.find?_cons_of_pos (by simpa using hv)] at hfind
        cases hfind
        rw [List.filter_cons_of_neg (by simpa using hv), hothers, collected_cons]
      · rw [List.find?_cons_of_neg (by simpa using hv)] at hfind
        rw [List.filter_cons_of_pos (by simpa using hv), collected_cons, collected_cons,
          ← ih hrest hfind]
        omega

theorem Orderly.stopWait (h : p.Orderly size out) (ticket : Nat) :
    (p.stopWait ticket).Orderly size out := by
  unfold Pool.stopWait
  split
  · exact h
  · next w hfind =>
    refine Orderly.release (p := { p with waiters := p.waiters.filter fun v => v.ticket != ticket })
      (n := p.needed - w.missing) ?_
    have hslots := h.slots
    have hleaves : p.needed - w.missing +
        collected p.needed (p.waiters.filter fun v => v.ticket != ticket) =
          collected p.needed p.waiters := collected_filter h.numbered hfind
    refine ⟨h.sized, ?_, ?_, h.in_turn.filter _, ?_, ?_, ?_⟩
    · show p.free + (out + (p.needed - w.missing)) +
        collected p.needed (p.waiters.filter fun v => v.ticket != ticket) = size
      omega
    · exact fun v hv => h.within v (List.mem_filter.mp hv).1
    · exact fun v hv => h.none_free v (List.mem_filter.mp hv).1
    · exact h.numbered.sublist (List.filter_sublist.map _)
    · exact fun v hv => h.issued v (List.mem_filter.mp hv).1

/-- Whoever holds all slots of a pool finds no job in it. -/
theorem Orderly.out_eq_zero {ticket : Nat} (h : p.Orderly size out) (hsize : size ≤ 4294967295)
    (hidle : p.isIdleFor ticket = true) : out = 0 := by
  obtain ⟨w, hw, hdone⟩ := List.any_eq_true.mp hidle
  simp only [Bool.and_eq_true, beq_iff_eq] at hdone
  have hall : p.needed = size := by
    rw [← h.sized]
    exact Nat.min_eq_left (h.sized ▸ hsize)
  have hholds : p.needed - w.missing ≤ collected p.needed p.waiters := le_collected hw
  have hslots := h.slots
  omega

/-- Without jobs whoever is first in the line of those who wait is done. -/
theorem Orderly.first_is_idle {w : Waiter} {ws : List Waiter} (h : p.Orderly size 0)
    (hwaiters : p.waiters = w :: ws) : p.isIdleFor w.ticket = true := by
  have hmem : w ∈ p.waiters := by simp [hwaiters]
  have hneeded : p.needed ≤ size := h.sized ▸ Nat.min_le_left _ _
  have hwithin := h.within w hmem
  have hzero : w.missing = 0 := by
    by_contra hlacks
    -- the others hold nothing as long as the first one lacks something
    have hothers : collected p.needed ws = 0 := by
      have hturn := h.in_turn
      rw [hwaiters, List.pairwise_cons] at hturn
      refine List.sum_eq_zero ?_
      intro held hheld
      obtain ⟨v, hv, rfl⟩ := List.mem_map.mp hheld
      have := (hturn.1 v hv).resolve_left hlacks
      omega
    have hslots := h.slots
    rw [(h.none_free w hmem).resolve_left hlacks, hwaiters, collected_cons, hothers] at hslots
    omega
  simp [isIdleFor, hwaiters, hzero]

end Pool

/-! ## A pool at work -/

/-- What can happen to a pool. -/
inductive PoolEvent where
  /-- A job is submitted. It is accepted if a slot is free. -/
  | submit
  /-- The job of a number is finished, or has broken down. -/
  | finish (job : Nat)
  /-- Someone begins to wait for the pool to be idle, and gets the next ticket. -/
  | wait
  /-- Whoever has the ticket is done waiting, or gives up. -/
  | leave (ticket : Nat)
deriving DecidableEq

/-- A pool with its jobs. These have numbers in the order in which they were accepted. -/
structure Shift where
  pool : Pool
  accepted : Nat
  /-- The jobs that are not finished. -/
  running : List Nat
deriving DecidableEq

namespace Shift

def start (pool : Pool) : Shift := ⟨pool, 0, []⟩

def submit (s : Shift) : Shift :=
  match s.pool.submit? with
  | some pool => ⟨pool, s.accepted + 1, s.running ++ [s.accepted]⟩
  | none => s

/-- Ends a job; one that is not running has nothing to end. -/
def finish (s : Shift) (job : Nat) : Shift :=
  if job ∈ s.running then { s with pool := s.pool.finish, running := s.running.erase job } else s

def step (s : Shift) : PoolEvent → Shift
  | .submit => s.submit
  | .finish job => s.finish job
  | .wait => { s with pool := s.pool.startWait.2 }
  | .leave ticket => { s with pool := s.pool.stopWait ticket }

def run (s : Shift) (events : List PoolEvent) : Shift := events.foldl step s

/-- Jobs have taken all slots that are neither free nor collected. -/
def Orderly (size : Nat) (s : Shift) : Prop := s.pool.Orderly size s.running.length

variable {s : Shift} {size : Nat}

theorem Orderly.submit (h : s.Orderly size) : s.submit.Orderly size := by
  unfold Shift.submit
  split
  · next pool hsubmit =>
    show pool.Orderly size (s.running ++ [s.accepted]).length
    rw [List.length_append]
    exact Pool.Orderly.submit h hsubmit
  · exact h

theorem Orderly.finish (h : s.Orderly size) (job : Nat) : (s.finish job).Orderly size := by
  unfold Shift.finish
  split
  · next hmem =>
    refine Pool.Orderly.release (n := 1) ?_
    rw [List.length_erase_of_mem hmem, Nat.sub_add_cancel (List.length_pos_of_mem hmem)]
    exact h
  · exact h

theorem Orderly.step (h : s.Orderly size) (e : PoolEvent) : (s.step e).Orderly size := by
  cases e with
  | submit => exact h.submit
  | finish job => exact h.finish job
  | wait => exact Pool.Orderly.startWait h
  | leave ticket => exact Pool.Orderly.stopWait h ticket

theorem Orderly.run (h : s.Orderly size) (events : List PoolEvent) : (s.run events).Orderly size := by
  induction events generalizing s with
  | nil => exact h
  | cons e events ih => exact ih (h.step e)

theorem orderly_start {p : Pool} (h : p.Orderly size 0) : (start p).Orderly size := h

end Shift

namespace Pool

/-- Nobody is done waiting before every job is finished that had been accepted when the wait began. -/
def Drains (p : Pool) : Prop :=
  ∀ before after, let called := (Shift.start p).run before
    let now := called.run (.wait :: after)
    now.pool.isIdleFor called.pool.tickets = true → ∀ job < called.accepted, job ∉ now.running

theorem Orderly.drains {p : Pool} {size : Nat} (h : p.Orderly size 0) (hsize : size ≤ 4294967295) :
    p.Drains := by
  intro before after called now hidle job _ hrunning
  have hnow : now.Orderly size := ((Shift.orderly_start h).run before).run _
  have hnone : now.running = [] := List.eq_nil_of_length_eq_zero (hnow.out_eq_zero hsize hidle)
  rw [hnone] at hrunning
  cases hrunning

/-- In a pool with more slots than 32 bits count, those that one job leaves free are enough to be done
waiting. -/
theorem not_drains {p : Pool} (hfree : p.free = p.capacity) (hsize : 4294967295 < p.capacity) :
    ¬p.Drains := by
  intro hdrains
  have hsubmit : p.submit? = some { p with free := p.free - 1 } := if_pos (by omega)
  have hcalled : (Shift.start p).run [.submit] = ⟨{ p with free := p.free - 1 }, 1, [0]⟩ := by
    show (Shift.start p).submit = _
    unfold Shift.submit
    rw [show (Shift.start p).pool.submit? = _ from hsubmit]
    rfl
  have hneeded : p.needed = 4294967295 := Nat.min_eq_right (Nat.le_of_lt hsize)
  have hmissing : p.needed - (p.free - 1) = 0 := by omega
  refine hdrains [.submit] [] ?_ 0 ?_ ?_
  · rw [hcalled]
    refine List.any_eq_true.mpr ⟨⟨p.tickets, p.needed - (p.free - 1)⟩, ?_, by simp [hmissing]⟩
    exact List.mem_append_right _ (List.mem_singleton_self _)
  · rw [hcalled]
    exact Nat.one_pos
  · rw [hcalled]
    exact List.mem_singleton_self 0

/-- **Waiting for a pool ends when its jobs are finished, exactly if 32 bits count its slots.** Those
who wait are not forgotten in a pool of any size: when no job is left the first of them is done. -/
theorem drains_iff_countable (c : PoolConfig) (p : Pool) (h : create c = .ok p) :
    (p.Drains ↔ p.capacity ≤ 4294967295) ∧
      ∀ events w ws, ((Shift.start p).run events).running = [] →
        ((Shift.start p).run events).pool.waiters = w :: ws →
        ((Shift.start p).run events).pool.isIdleFor w.ticket = true := by
  have horderly := orderly_create h
  refine ⟨⟨?_, horderly.drains⟩, ?_⟩
  · intro hdrains
    by_contra hsize
    have hslots := horderly.slots
    refine not_drains ?_ (by omega) hdrains
    simp only [create] at h
    split at h <;> cases h
    rfl
  · intro events w ws hnone hwaiters
    have hnow := (Shift.orderly_start horderly).run events
    unfold Shift.Orderly at hnow
    rw [hnone] at hnow
    exact hnow.first_is_idle hwaiters

/-- The largest pool in which waiting ends as it should, here with two jobs of which one is finished
before the wait begins and one during it. -/
theorem drains_iff_countable_largest :
    create ⟨4294967295⟩ = .ok ⟨4294967295, 4294967295, [], 0⟩ ∧
      Drains ⟨4294967295, 4294967295, [], 0⟩ ∧
      (let s := (Shift.start ⟨4294967295, 4294967295, [], 0⟩).run
        [.submit, .submit, .finish 0, .wait]
      s.pool.isIdleFor 0 = false ∧ (s.step (.finish 1)).pool.isIdleFor 0 = true) := by
  have hcreate : create ⟨4294967295⟩ = .ok ⟨4294967295, 4294967295, [], 0⟩ := by decide +kernel
  obtain ⟨hdrains, hfirst⟩ := drains_iff_countable ⟨4294967295⟩ _ hcreate
  refine ⟨hcreate, hdrains.mpr (Nat.le_refl _), by decide +kernel, ?_⟩
  exact hfirst [.submit, .submit, .finish 0, .wait, .finish 1] ⟨0, 0⟩ [] (by decide +kernel)
    (by decide +kernel)

/-- One slot more, and the wait is over at once while the job runs. -/
theorem drains_not_oversized :
    create ⟨4294967296⟩ = .ok ⟨4294967296, 4294967296, [], 0⟩ ∧
      ¬Drains ⟨4294967296, 4294967296, [], 0⟩ ∧
      (let called := (Shift.start ⟨4294967296, 4294967296, [], 0⟩).run [.submit]
      called.accepted = 1 ∧ (called.step .wait).pool.isIdleFor called.pool.tickets = true ∧
        (called.step .wait).running = [0]) :=
  ⟨by decide +kernel, not_drains rfl (by decide), by decide +kernel⟩

end Pool

/-! ## Jobs that start while somebody waits -/

namespace Jobs

/-- Every job that has been accepted and not been finished has one slot. -/
def Orderly (size : Nat) (s : Jobs) : Prop :=
  s.pool.Orderly size (s.ready.length + s.held.length)

variable {s : Jobs} {size : Nat}

theorem Orderly.submit (h : s.Orderly size) (job : PoolJob) : (s.submit job).2.Orderly size := by
  unfold Jobs.submit
  split
  · next pool hsubmit =>
    show pool.Orderly size ((s.ready ++ [job]).length + s.held.length)
    rw [List.length_append, Nat.add_right_comm]
    exact Pool.Orderly.submit h hsubmit
  · exact h

theorem Orderly.release (h : s.Orderly size) (name : String) : (s.release name).Orderly size := by
  have hparts : (s.held.filter fun job => job.name = name).length +
      (s.held.filter fun job => job.name ≠ name).length = s.held.length := by
    simpa using (List.length_eq_length_filter_add (l := s.held) fun job => job.name = name).symm
  unfold Orderly Jobs.release
  simp only [List.length_append, List.length_map]
  rw [Nat.add_assoc, hparts]
  exact h

/-- The jobs that have started are finished or held. -/
theorem orderly_runAll (jobs : List PoolJob)
    (h : s.pool.Orderly size (s.ready.length + s.held.length + jobs.length)) :
    (jobs.foldl runJob s).Orderly size := by
  induction jobs generalizing s with
  | nil => exact h
  | cons job jobs ih =>
      refine ih ?_
      unfold runJob
      split
      · show s.pool.Orderly size (s.ready.length + (s.held ++ [job]).length + jobs.length)
        have hlength : s.ready.length + (s.held ++ [job]).length + jobs.length =
            s.ready.length + s.held.length + (job :: jobs).length := by
          simp only [List.length_append, List.length_cons, List.length_nil]
          omega
        rw [hlength]
        exact h
      · exact Pool.Orderly.release (n := 1) h

/-- What a wait leaves. When it has ended the pool is idle, so that no job is left. -/
theorem Orderly.waitIdle (h : s.Orderly size) : s.waitIdle.2.Orderly size ∧
    (size ≤ 4294967295 → s.waitIdle.1 = true → s.waitIdle.2.ready = [] ∧ s.waitIdle.2.held = []) := by
  have hlooked (t : Jobs) (ht : t.Orderly size) (ticket : Nat) :
      Jobs.Orderly size { t with pool := t.pool.stopWait ticket } ∧
        (size ≤ 4294967295 → t.pool.isIdleFor ticket = true → t.ready = [] ∧ t.held = []) := by
    refine ⟨Pool.Orderly.stopWait ht ticket, ?_⟩
    intro hsize hidle
    have hnone := Pool.Orderly.out_eq_zero ht hsize hidle
    exact ⟨List.eq_nil_of_length_eq_zero (by omega), List.eq_nil_of_length_eq_zero (by omega)⟩
  have hwaiting : s.pool.startWait.2.Orderly size (s.ready.length + s.held.length) :=
    Pool.Orderly.startWait h
  unfold Jobs.waitIdle
  simp only
  split
  · exact hlooked { s with pool := s.pool.startWait.2 } hwaiting _
  · refine hlooked _ (orderly_runAll s.ready ?_) _
    show s.pool.startWait.2.Orderly size (0 + s.held.length + s.ready.length)
    rw [Nat.zero_add, Nat.add_comm]
    exact hwaiting

end Jobs

end Wallet
