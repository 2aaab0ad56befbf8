import Mathlib.Algebra.GroupWithZero.Nat
import Mathlib.Data.List.Basic
import Wallet.Text.Numeral

/-!
# Numerals and the numbers they stand for

A run of digits stands for the number that it is read as. The digits of a number stand for it, with and
without leading zeros.
-/

namespace Wallet.Text

/-- A run of ASCII digits that is read as a number. -/
structure StandsFor (ds : List Char) (n : Nat) : Prop where
  ne_nil : ds ≠ []
  isDigit : ∀ c ∈ ds, c.isDigit = true
  value : digits? 0 ds = some n

theorem digit?_of_isDigit {c : Char} (h : c.isDigit = true) :
    digit? c = some (c.toNat - '0'.toNat) := by
  have hrange : '0' ≤ c ∧ c ≤ '9' := by
    simpa [Char.isDigit, Char.le_def] using h
  exact if_pos hrange

theorem digits?_of_isDigit {ds : List Char} (h : ∀ c ∈ ds, c.isDigit = true) (n : Nat) :
    digits? n ds = some (Nat.ofDigitChars 10 ds n) := by
  induction ds generalizing n with
  | nil => rfl
  | cons c ds ih =>
      rw [digits?, digit?_of_isDigit (h c (.head _)), Option.bind_some, Nat.ofDigitChars_cons,
        Nat.mul_comm n 10]
      exact ih (fun c hc => h c (.tail _ hc)) _

theorem standsFor_toDigits (n : Nat) : StandsFor (Nat.toDigits 10 n) n := by
  have hdigits : ∀ c ∈ Nat.toDigits 10 n, c.isDigit = true :=
    fun c hc => Nat.isDigit_of_mem_toDigits (by decide) (by decide) hc
  refine ⟨Nat.toDigits_ne_nil, hdigits, ?_⟩
  rw [digits?_of_isDigit hdigits, Nat.ofDigitChars_toDigits (by decide) (by decide)]

theorem toList_padded (width n : Nat) : (padded width n).toList =
    List.replicate (width - (Nat.toDigits 10 n).length) '0' ++ Nat.toDigits 10 n := by
  unfold padded
  rw [String.toList_ofList]

theorem standsFor_padded (width n : Nat) : StandsFor (padded width n).toList n := by
  have hdigits : ∀ c ∈ (padded width n).toList, c.isDigit = true := by
    intro c hc
    rw [toList_padded] at hc
    rcases List.mem_append.mp hc with hzero | hdigit
    · rw [List.eq_of_mem_replicate hzero]
      rfl
    · exact (standsFor_toDigits n).isDigit c hdigit
  refine ⟨?_, hdigits, ?_⟩
  · rw [toList_padded]
    exact List.append_ne_nil_of_right_ne_nil _ Nat.toDigits_ne_nil
  · rw [digits?_of_isDigit hdigits, toList_padded, Nat.ofDigitChars_append,
      Nat.ofDigitChars_replicate_zero, Nat.mul_zero,
      Nat.ofDigitChars_toDigits (by decide) (by decide)]

theorem padded_injective {width m n : Nat} (h : padded width m = padded width n) : m = n := by
  have hm := (standsFor_padded width m).value
  rw [h, (standsFor_padded width n).value] at hm
  exact (Option.some.inj hm).symm

/-- A number that has no more digits than the width is written with as many as the width. -/
theorem length_padded {width n : Nat} (hwidth : 0 < width) (hn : n < 10 ^ width) :
    (padded width n).toList.length = width := by
  have hdigits : (Nat.toDigits 10 n).length ≤ width :=
    (Nat.length_toDigits_le_iff (by decide) hwidth).mpr hn
  rw [toList_padded, List.length_append, List.length_replicate]
  omega

end Wallet.Text
