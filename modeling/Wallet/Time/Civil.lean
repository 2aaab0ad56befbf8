/-!
# Civil dates

Days counted from 1970-01-01 and the dates of the proleptic Gregorian calendar they stand for. Years
start in March here, so that the leap day is the last day of a year, and repeat after four hundred
years.
-/

namespace Wallet.Civil

/-- A date of the proleptic Gregorian calendar. -/
structure Date where
  year : Int
  month : Nat
  day : Nat
deriving DecidableEq, Repr

def isLeap (year : Int) : Bool := year % 4 == 0 && (year % 100 != 0 || year % 400 == 0)

def daysInMonth (year : Int) : Nat → Nat
  | 2 => if isLeap year then 29 else 28
  | 4 | 6 | 9 | 11 => 30
  | _ => 31

def Date.valid (d : Date) : Bool :=
  1 ≤ d.month && d.month ≤ 12 && 1 ≤ d.day && d.day ≤ daysInMonth d.year d.month

/-- The days of four hundred years. -/
def eraDays : Int := 146097

/-- The days from 0000-03-01 to 1970-01-01. -/
def epochShift : Int := 719468

/-- The number of a date, counted in days from 1970-01-01. -/
def Date.toDays (d : Date) : Int :=
  let year : Int := if d.month ≤ 2 then d.year - 1 else d.year
  let yearOfEra := year % 400
  let month : Int := (d.month + 9) % 12
  let dayOfYear := (153 * month + 2) / 5 + d.day - 1
  year / 400 * eraDays + (yearOfEra * 365 + yearOfEra / 4 - yearOfEra / 100 + dayOfYear) -
    epochShift

/-- The date of a number of days from 1970-01-01. -/
def Date.ofDays (n : Int) : Date :=
  let shifted := n + epochShift
  let era := shifted / eraDays
  let dayOfEra := shifted % eraDays
  let yearOfEra := (dayOfEra - dayOfEra / 1460 + dayOfEra / 36524 - dayOfEra / 146096) / 365
  let dayOfYear := dayOfEra - (365 * yearOfEra + yearOfEra / 4 - yearOfEra / 100)
  let month := (5 * dayOfYear + 2) / 153
  let day := dayOfYear - (153 * month + 2) / 5 + 1
  let shownMonth := if month < 10 then month + 3 else month - 9
  let year := yearOfEra + era * 400
  ⟨if shownMonth ≤ 2 then year + 1 else year, shownMonth.toNat, day.toNat⟩

example : (⟨2024, 2, 29⟩ : Date).toDays = 19782 ∧ Date.ofDays 19782 = ⟨2024, 2, 29⟩ := by decide

end Wallet.Civil
