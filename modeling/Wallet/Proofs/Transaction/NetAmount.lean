import Mathlib.Order.Lattice
import Wallet.Transaction.Basic

/-!
# Net amounts

The net amount of a record is what remains of amount and fee after the discount. It is computed in two
steps. The sum of amount and fee has to be an amount again, or there is no net amount at all; the
difference from it is cut off at both ends. So the first step alone decides. A discount can bring a
sum that is too large back into the range, and a negative one a sum that is too small, but by then the
computation has crashed (`net_amount_exact_iff`).
-/

namespace Wallet

namespace Money

/-- The number is that of an amount. -/
def Fits (n : Int) : Prop := -9223372036854775808 ≤ n ∧ n ≤ 9223372036854775807

instance : DecidablePred Fits := fun _ => inferInstanceAs (Decidable (_ ∧ _))

variable {a b : Money} {n : Int}

theorem fits (a : Money) : Fits a.minor := ⟨a.min_le, a.le_max⟩

theorem ofInt?_of_fits (h : Fits n) : ofInt? n = some ⟨n, h.1, h.2⟩ := dif_pos h

theorem ofInt?_of_not_fits (h : ¬ Fits n) : ofInt? n = none := dif_neg h

theorem add_of_fits (h : Fits (a.minor + b.minor)) :
    a.add b = .ok ⟨a.minor + b.minor, h.1, h.2⟩ := by
  unfold add checkedAdd
  rw [ofInt?_of_fits h]

theorem add_of_not_fits (h : ¬ Fits (a.minor + b.minor)) : a.add b = .error .addOverflow := by
  unfold add checkedAdd
  rw [ofInt?_of_not_fits h]

/-- A difference is cut off at zero and at the largest amount. -/
theorem subFloor_minor (a b : Money) :
    (a.subFloor b).minor = min (max 0 (a.minor - b.minor)) 9223372036854775807 := by
  show max 0 (min 9223372036854775807 (a.minor - b.minor)) = _
  omega

end Money

namespace Transaction

open Money

/-- The sum of amount and fee, be it an amount or not. -/
def gross (t : Transaction) : Int := t.amount.minor + t.fee.minor

/-- What remains of amount and fee after the discount, at least nothing, be it an amount or not. -/
def exactNet (t : Transaction) : Int := max 0 (t.gross - t.discount.minor)

variable {t : Transaction}

/-- If the sum of amount and fee is an amount, there is a net amount, and nothing but the largest amount
limits it. -/
theorem netAmount_of_fits (h : Fits t.gross) :
    ∃ net, t.netAmount = .ok net ∧ net.minor = min t.exactNet 9223372036854775807 := by
  refine ⟨_, ?_, subFloor_minor ⟨t.gross, h.1, h.2⟩ t.discount⟩
  unfold netAmount
  rw [add_of_fits h]
  rfl

theorem netAmount_of_not_fits (h : ¬ Fits t.gross) : t.netAmount = .error .addOverflow := by
  unfold netAmount
  rw [add_of_not_fits h]
  rfl

/-- There is a net amount, and it is the exact one whenever that is an amount. -/
def NetExact (t : Transaction) : Prop :=
  ∃ net, t.netAmount = .ok net ∧ (Fits t.exactNet → net.minor = t.exactNet)

/-- **The net amount is exact just when the gross amount fits.** A record has a net amount that is
exact, or cut off at the largest amount if the exact one is larger, if the sum of its amount and its
fee is an amount. Otherwise computing it crashes, whatever the discount. -/
theorem net_amount_exact_iff (t : Transaction) :
    (t.NetExact ↔ Fits t.gross) ∧
    (Fits t.gross →
      ∃ net, t.netAmount = .ok net ∧ net.minor = min t.exactNet 9223372036854775807) ∧
    (¬ Fits t.gross → t.netAmount = .error .addOverflow) := by
  refine ⟨⟨?_, ?_⟩, netAmount_of_fits, netAmount_of_not_fits⟩
  · rintro ⟨net, hnet, -⟩
    by_contra hover
    rw [netAmount_of_not_fits hover] at hnet
    cases hnet
  · intro hfits
    obtain ⟨net, hnet, hminor⟩ := netAmount_of_fits hfits
    exact ⟨net, hnet, fun hexact => hminor.trans (min_eq_left hexact.2)⟩

/-- A record with the given figures. -/
def ofFigures (amount fee discount : Money) : Transaction :=
  { create ⟨.ofNat 0⟩ .epoch ⟨.ofNat 1⟩ amount with fee := fee, discount := discount }

/-- The largest amount, with a fee of one and a discount of one. -/
def feeTakenOff : Transaction :=
  ofFigures ⟨9223372036854775807, by decide, by decide⟩ ⟨1, by decide, by decide⟩
    ⟨1, by decide, by decide⟩

/-- The least amount, with a fee that is negative. -/
def leastLessFee : Transaction :=
  ofFigures ⟨-9223372036854775808, by decide, by decide⟩ ⟨-1, by decide, by decide⟩ .zero

/-- The largest amount, with a discount that is the least. -/
def largestAndMore : Transaction :=
  ofFigures ⟨9223372036854775807, by decide, by decide⟩ .zero
    ⟨-9223372036854775808, by decide, by decide⟩

theorem net_amount_exact_iff_bounds :
    (Fits largestAndMore.gross ∧ largestAndMore.NetExact ∧
      ∃ net, largestAndMore.netAmount = .ok net ∧
        net.minor = min largestAndMore.exactNet 9223372036854775807) ∧
    ¬ Fits leastLessFee.gross ∧ leastLessFee.netAmount = .error .addOverflow := by
  obtain ⟨hiff, hnet, -⟩ := largestAndMore.net_amount_exact_iff
  obtain ⟨-, -, hcrash⟩ := leastLessFee.net_amount_exact_iff
  have habove : Fits largestAndMore.gross := by decide
  have hbelow : ¬ Fits leastLessFee.gross := by decide
  exact ⟨⟨habove, hiff.mpr habove, hnet habove⟩, hbelow, hcrash hbelow⟩

/-- A fee that the discount takes off again, and an exact net amount that is the amount itself: yet
there is none. The other way round as well, where the exact net amount is zero. -/
theorem net_amount_lost :
    (Fits feeTakenOff.exactNet ∧ feeTakenOff.exactNet = feeTakenOff.amount.minor ∧
      feeTakenOff.netAmount = .error .addOverflow ∧ ¬ feeTakenOff.NetExact) ∧
    (Fits leastLessFee.exactNet ∧ leastLessFee.exactNet = 0 ∧
      leastLessFee.netAmount = .error .addOverflow ∧ ¬ leastLessFee.NetExact) := by
  have hfee : feeTakenOff.netAmount = .error .addOverflow := netAmount_of_not_fits (by decide)
  have hbelow : leastLessFee.netAmount = .error .addOverflow := netAmount_of_not_fits (by decide)
  refine ⟨⟨by decide, by decide, hfee, ?_⟩, by decide, by decide, hbelow, ?_⟩
  · rintro ⟨net, hnet, -⟩
    exact nomatch hfee.symm.trans hnet
  · rintro ⟨net, hnet, -⟩
    exact nomatch hbelow.symm.trans hnet

end Transaction

end Wallet
