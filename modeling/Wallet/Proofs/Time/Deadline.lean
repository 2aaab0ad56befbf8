import Mathlib.Order.Lattice
import Wallet.Flow.Config

/-!
# Deadlines

An order has a deadline: the instant at which its time to live is over, but no later than the last
instant there is. Two limits keep that instant from being computed. A time to live may be longer than
any signed length of time, and the sum may be later than the last instant. Whatever the first limit
turns away would have failed at the second one as well, from any instant (`last_lt_of_unsigned`), so
the deadline is the exact minimum of the two (`deadline_exact`).
-/

namespace Wallet

namespace Timestamp

/-- The nanoseconds since the start of the epoch. -/
def toNanos (t : Timestamp) : Int := t.secs * 1000000000 + t.nanos

variable {t t' : Timestamp} {d : Duration}

theorem nanos_lt_of_not_leap (h : t.isLeap = false) : t.nanos < 1000000000 := by
  simpa [isLeap] using h

/-- Outside leap seconds an instant is known by its nanoseconds since the start of the epoch. -/
theorem eq_of_toNanos (h : t.isLeap = false) (h' : t'.isLeap = false)
    (heq : t.toNanos = t'.toNanos) : t = t' := by
  have hlt := nanos_lt_of_not_leap h
  have hlt' := nanos_lt_of_not_leap h'
  unfold toNanos at heq
  have hsecs : t.secs = t'.secs := by omega
  have hnanos : t.nanos = t'.nanos := by omega
  cases t
  cases t'
  simp_all

theorem before_iff (h : t.isLeap = false) (h' : t'.isLeap = false) :
    t.before t' = true ↔ t.toNanos < t'.toNanos := by
  have hlt := nanos_lt_of_not_leap h
  have hlt' := nanos_lt_of_not_leap h'
  simp only [before, Bool.or_eq_true, Bool.and_eq_true, decide_eq_true_eq, toNanos]
  omega

theorem not_before_iff (h : t.isLeap = false) (h' : t'.isLeap = false) :
    t.before t' = false ↔ t'.toNanos ≤ t.toNanos := by
  rw [← Bool.not_eq_true, before_iff h h', Int.not_lt]

theorem toNanos_last : last.toNanos = 8210266876799999999999 := rfl

/-- Outside leap seconds no instant is later than the last. -/
theorem toNanos_le_last (h : t.isLeap = false) : t.toNanos ≤ last.toNanos := by
  have hlt := nanos_lt_of_not_leap h
  have hle := t.le_max
  rw [toNanos_last]
  unfold toNanos
  omega

/-- The sum of an instant and a duration is exact, and it is refused just when it is later than the
last instant. -/
theorem add?_cases (h : t.isLeap = false) (d : Duration) :
    (t.toNanos + d.toNanos ≤ last.toNanos ∧
      ∃ sum, t.add? d = some sum ∧ sum.isLeap = false ∧ sum.toNanos = t.toNanos + d.toNanos) ∨
    (last.toNanos < t.toNanos + d.toNanos ∧ t.add? d = none) := by
  have hlt := nanos_lt_of_not_leap h
  have hmin := t.min_le
  have hadd : t.add? d = ofParts? (t.secs + d.secs + ((t.nanos + d.nanos) / 1000000000 : Nat))
      ((t.nanos + d.nanos) % 1000000000) := by
    unfold add?
    rw [if_neg (by omega)]
    rfl
  rw [hadd, toNanos_last]
  unfold ofParts? toNanos Duration.toNanos
  split
  · refine .inl ⟨by omega, _, rfl, ?_, ?_⟩
    · simp only [isLeap, decide_eq_false_iff_not]
      omega
    · dsimp only
      omega
  · exact .inr ⟨by omega, rfl⟩

/-- A duration that is longer than any signed one leads beyond the last instant, from wherever it
starts. -/
theorem last_lt_of_unsigned (h : d.signed? = none) (t : Timestamp) :
    last.toNanos < t.toNanos + d.toNanos := by
  have hmin := t.min_le
  have hlong : Duration.signedLimit < d.toNanos := by
    unfold Duration.signed? at h
    split at h
    · cases h
    · omega
  rw [toNanos_last]
  unfold toNanos
  unfold Duration.signedLimit at hlong
  omega

end Timestamp

namespace FlowConfig

variable {now : Timestamp}

open Timestamp

/-- The deadline is outside leap seconds, and it is the exact minimum. -/
theorem toNanos_deadlineFrom (c : FlowConfig) (hnow : now.isLeap = false) :
    (c.deadlineFrom now).isLeap = false ∧
      (c.deadlineFrom now).toNanos = min (now.toNanos + c.orderTtl.toNanos) last.toNanos := by
  unfold deadlineFrom
  cases hsigned : c.orderTtl.signed? with
  | none => exact ⟨rfl, (min_eq_right (last_lt_of_unsigned hsigned now).le).symm⟩
  | some ttl =>
      obtain rfl : c.orderTtl = ttl := by
        unfold Duration.signed? at hsigned
        split at hsigned
        · exact Option.some.inj hsigned
        · cases hsigned
      rw [Option.bind_some]
      rcases add?_cases hnow c.orderTtl with ⟨hle, sum, hsum, hleap, hnanos⟩ | ⟨hlt, hnone⟩
      · rw [hsum]
        exact ⟨hleap, hnanos.trans (min_eq_left hle).symm⟩
      · rw [hnone]
        exact ⟨rfl, (min_eq_right hlt.le).symm⟩

/-- **The deadline is exact.** Whatever the time to live, the deadline of an order that is made outside
a leap second is the instant at which that time is over, or the last instant if that comes first. So
it is never before the order is made, and it is not earlier for a longer time to live or an order that
is made later. -/
theorem deadline_exact (c : FlowConfig) (hnow : now.isLeap = false) :
    ((c.deadlineFrom now).isLeap = false ∧
      (c.deadlineFrom now).toNanos = min (now.toNanos + c.orderTtl.toNanos) last.toNanos) ∧
    (c.deadlineFrom now).before now = false ∧
    ∀ (longer : FlowConfig) (later : Timestamp), later.isLeap = false →
      c.orderTtl.toNanos ≤ longer.orderTtl.toNanos → later.before now = false →
        (longer.deadlineFrom later).before (c.deadlineFrom now) = false := by
  obtain ⟨hleap, hnanos⟩ := c.toNanos_deadlineFrom hnow
  refine ⟨⟨hleap, hnanos⟩, ?_, ?_⟩
  · have hlast := toNanos_le_last hnow
    rw [not_before_iff hleap hnow, hnanos]
    omega
  · intro longer later hlater httl hafter
    obtain ⟨hleap', hnanos'⟩ := longer.toNanos_deadlineFrom hlater
    rw [not_before_iff hlater hnow] at hafter
    rw [not_before_iff hleap' hleap, hnanos, hnanos']
    omega

/-- A time to live that is longer than any signed length of time. -/
def endless : FlowConfig := ⟨⟨18446744073709551615, 999999999, by decide, by decide⟩, .zero⟩

/-- A time to live that is over one nanosecond after the last instant, if it starts with the epoch. -/
def tooLong : FlowConfig := ⟨.ofSecs 8210266876800 (by decide), .zero⟩

theorem deadline_exact_saturated :
    endless.orderTtl.signed? = none ∧ endless.deadlineFrom .epoch = .last ∧
      (tooLong.orderTtl.signed?.isSome ∧ tooLong.deadlineFrom .epoch = .last) ∧
      (endless.deadlineFrom .last).before (standard.deadlineFrom .epoch) = false := by
  have hepoch : Timestamp.epoch.isLeap = false := rfl
  obtain ⟨⟨hendless, hendless'⟩, -⟩ := endless.deadline_exact hepoch
  obtain ⟨⟨hlong, hlong'⟩, -⟩ := tooLong.deadline_exact hepoch
  obtain ⟨-, -, hmono⟩ := standard.deadline_exact hepoch
  exact ⟨by decide +kernel, eq_of_toNanos hendless rfl hendless',
    ⟨by decide +kernel, eq_of_toNanos hlong rfl hlong'⟩, hmono endless .last rfl (by decide) rfl⟩

end FlowConfig

end Wallet
