/-!
# Numerals

Decimal numerals: the digits of a number with leading zeros up to a width, and the reading of
unsigned numbers as settings give them.
-/

namespace Wallet.Text

/-- The decimal digits of `n`, with leading zeros up to `width` digits. -/
def padded (width n : Nat) : String :=
  let digits := Nat.toDigits 10 n
  String.ofList (List.replicate (width - digits.length) '0' ++ digits)

def digit? (c : Char) : Option Nat :=
  if '0' ≤ c ∧ c ≤ '9' then some (c.toNat - '0'.toNat) else none

/-- The number that a run of ASCII digits stands for. -/
def digits? : Nat → List Char → Option Nat
  | n, [] => some n
  | n, c :: cs => (digit? c).bind fun d => digits? (n * 10 + d) cs

/-- One or more ASCII digits after at most one plus sign, below `bound`. -/
def unsigned? (bound : Nat) (s : String) : Option Nat :=
  let body := match s.toList with
    | '+' :: rest => rest
    | cs => cs
  if body.isEmpty then none
  else (digits? 0 body).bind fun n => if n < bound then some n else none

example : padded 7 42 = "0000042" := by cbv

example : unsigned? 65536 "+007" = some 7 ∧ unsigned? 65536 "65536" = none := by cbv

end Wallet.Text
