import Mathlib.Tactic.IntervalCases
import Wallet.Time.Civil

/-!
# Days and dates

Each day has a date of the calendar, and the date leads back to the day. The date is found by division,
with years that begin in March: first the era of four hundred years, then the year of the era, then the
month. `Places` says what these divisions come to, and every fact about the date of a day is read off
it: the date is one of the calendar (`valid_ofDays`), its day is the one that it was made of
(`toDays_ofDays`), and its year lies within bounds if the day does (`year_ofDays`).
-/

namespace Wallet.Civil

/-- The days from the March of the year 0 to the March of another year. -/
def daysToMarch (year : Int) : Int := 365 * year + year / 4 - year / 100 + year / 400

/-- The days from the first of March to the first of the month that comes so many months later. -/
def daysToMonth (month : Int) : Int := (153 * month + 2) / 5

theorem daysToMarch_era (era year : Int) :
    daysToMarch (year + era * 400) = daysToMarch year + era * eraDays := by
  unfold daysToMarch eraDays
  omega

/-- The year that begins in March has a leap day if the year that begins in the next January does. -/
theorem daysToMarch_succ (year : Int) :
    daysToMarch (year + 1) = daysToMarch year + (if isLeap (year + 1) then 366 else 365) := by
  unfold daysToMarch isLeap
  simp only [Bool.and_eq_true, Bool.or_eq_true, beq_iff_eq, bne_iff_ne]
  split <;> omega

/-! ## The year of a day of an era -/

/-- Within a century every fourth year is a leap year; the century ends before the leap day that would
be due next. -/
theorem daysToMarch_century {century year : Int} (hc : 0 ≤ century) (hc' : century < 4)
    (hy : 0 ≤ year) (hy' : year < 100) :
    daysToMarch (100 * century + year) = 36524 * century + (365 * year + year / 4) := by
  unfold daysToMarch
  omega

theorem year_of_century {century day : Int} (hc : 0 ≤ century) (hc' : century < 4) (hd : 0 ≤ day)
    (hd' : day < 36524) :
    ∃ year, (36524 * century + day - (36524 * century + day) / 1460 + century) / 365 =
        100 * century + year ∧ 0 ≤ year ∧ year < 100 ∧
      365 * year + year / 4 ≤ day ∧ day < 365 * (year + 1) + (year + 1) / 4 := by
  refine ⟨(36524 * century + day - (36524 * century + day) / 1460 + century) / 365 - 100 * century,
    by omega, ?_⟩
  have hcases : century = 0 ∨ century = 1 ∨ century = 2 ∨ century = 3 := by omega
  rcases hcases with rfl | rfl | rfl | rfl <;> omega

theorem year_of_era {day : Int} (hd : 0 ≤ day) (hd' : day < eraDays) :
    ∃ year, (day - day / 1460 + day / 36524 - day / 146096) / 365 = year ∧ 0 ≤ year ∧ year < 400 ∧
      daysToMarch year ≤ day ∧ day < daysToMarch (year + 1) := by
  unfold eraDays at hd'
  by_cases hlast : day = 146096
  · subst hlast
    exact ⟨399, by decide⟩
  · have hc : day / 36524 < 4 := by omega
    have hr : 0 ≤ day % 36524 := by omega
    have hr' : day % 36524 < 36524 := by omega
    have hc₀ : 0 ≤ day / 36524 := by omega
    obtain ⟨year, hyear, hy, hy', hlow, hhigh⟩ := year_of_century hc₀ hc hr hr'
    rw [Int.mul_ediv_add_emod] at hyear
    refine ⟨_, rfl, ?_⟩
    rw [show day / 146096 = 0 by omega, Int.sub_zero, hyear]
    refine ⟨by omega, by omega, ?_, ?_⟩
    · rw [daysToMarch_century (by omega) hc hy hy']
      omega
    · rcases Int.lt_or_eq_of_le (show year + 1 ≤ 100 by omega) with hlt | heq
      · rw [Int.add_assoc, daysToMarch_century (by omega) hc (by omega) hlt]
        omega
      · unfold daysToMarch
        omega

/-! ## The place of a day in the calendar -/

/-- A day is the `day`th, counted from zero, of the `month`th month after a March. -/
structure Places (n year month day : Int) : Prop where
  days : n + epochShift = daysToMarch year + daysToMonth month + day
  month_nonneg : 0 ≤ month
  month_lt : month < 12
  day_nonneg : 0 ≤ day
  in_month : daysToMonth month + day < daysToMonth (month + 1)
  in_year : n + epochShift < daysToMarch (year + 1)

/-- The date of a day is the one of its place: January and February belong to the next year. -/
theorem ofDays_places (n : Int) : ∃ year month day, Places n year month day ∧
    Date.ofDays n = ⟨if month < 10 then year else year + 1,
      (if month < 10 then month + 3 else month - 9).toNat, (day + 1).toNat⟩ := by
  have hpos : (0 : Int) < eraDays := by decide
  obtain ⟨year, hyear, hy, hy', hlow, hhigh⟩ := year_of_era
    (Int.emod_nonneg (n + epochShift) hpos.ne') (Int.emod_lt_of_pos (n + epochShift) hpos)
  have hsplit : (n + epochShift) / eraDays * eraDays + (n + epochShift) % eraDays = n + epochShift :=
    Int.ediv_mul_add_emod _ _
  have hera := daysToMarch_era ((n + epochShift) / eraDays) year
  have hnext := daysToMarch_era ((n + epochShift) / eraDays) (year + 1)
  have hmarch : 365 * year + year / 4 - year / 100 = daysToMarch year := by
    unfold daysToMarch
    omega
  have hlength : daysToMarch (year + 1) ≤ daysToMarch year + 366 := by
    rw [daysToMarch_succ]
    split <;> omega
  -- from here on the day counts from the first of March before it
  generalize hdayOfYear : (n + epochShift) % eraDays - daysToMarch year = dayOfYear at *
  have hmonth : ∃ month, (5 * dayOfYear + 2) / 153 = month ∧ 0 ≤ month ∧ month < 12 ∧
      daysToMonth month ≤ dayOfYear ∧ dayOfYear < daysToMonth (month + 1) := by
    refine ⟨_, rfl, ?_⟩
    unfold daysToMonth
    omega
  obtain ⟨month, hmonth, hm, hm', hfirst, hlast⟩ := hmonth
  refine ⟨year + (n + epochShift) / eraDays * 400, month, dayOfYear - daysToMonth month, ?_, ?_⟩
  · constructor
    · omega
    · exact hm
    · exact hm'
    · omega
    · omega
    · rw [show year + (n + epochShift) / eraDays * 400 + 1 =
        year + 1 + (n + epochShift) / eraDays * 400 by omega, hnext]
      omega
  · unfold Date.ofDays
    simp only [hyear, hmarch, hdayOfYear, hmonth]
    unfold daysToMonth
    congr 1
    split <;> split <;> omega

/-- The date of a day is a date of the calendar. -/
theorem valid_ofDays (n : Int) : (Date.ofDays n).valid = true := by
  obtain ⟨year, month, day, hplaces, hdate⟩ := ofDays_places n
  obtain ⟨hdays, hm, hm', hd, hin, hyear⟩ := hplaces
  have hdayPos : 1 ≤ (day + 1).toNat := by omega
  -- only the month that ends the year is as long as the year lets it be
  rw [hdays, daysToMarch_succ] at hyear
  unfold daysToMonth at hin hyear
  rw [hdate]
  simp only [Date.valid, Bool.and_eq_true, decide_eq_true_eq]
  cases hleap : isLeap (year + 1) with
  | true =>
      rw [hleap, if_pos rfl] at hyear
      interval_cases month <;> simp [daysInMonth, hleap, hdayPos] <;> omega
  | false =>
      rw [hleap, if_neg Bool.false_ne_true] at hyear
      interval_cases month <;> simp [daysInMonth, hleap, hdayPos] <;> omega

theorem Date.lt_of_valid {date : Date} (h : date.valid = true) : date.month < 100 ∧ date.day < 100 := by
  have hlength : daysInMonth date.year date.month ≤ 31 := by
    unfold daysInMonth
    split <;> (try split) <;> decide
  simp only [valid, Bool.and_eq_true, decide_eq_true_eq] at h
  omega

theorem toDays_ofDays (n : Int) : (Date.ofDays n).toDays = n := by
  obtain ⟨year, month, day, hplaces, hdate⟩ := ofDays_places n
  obtain ⟨hdays, hm, hm', hd, -, -⟩ := hplaces
  have hera : year / 400 * eraDays + (year % 400 * 365 + year % 400 / 4 - year % 400 / 100) =
      daysToMarch year := by
    unfold daysToMarch eraDays
    omega
  rw [hdate]
  unfold Date.toDays
  by_cases hspring : month < 10
  · have hyear : ¬(month + 3).toNat ≤ 2 := by omega
    have hmonth : (((month + 3).toNat : Int) + 9) % 12 = month := by omega
    simp only [if_pos hspring, if_neg hyear, hmonth]
    unfold daysToMonth at hdays
    omega
  · have hyear : (month - 9).toNat ≤ 2 := by omega
    have hmonth : (((month - 9).toNat : Int) + 9) % 12 = month := by omega
    simp only [if_neg hspring, if_pos hyear, hmonth, Int.add_sub_cancel]
    unfold daysToMonth at hdays
    omega

/-- From the first day of the year -262143 to the last day of the year 262142. -/
theorem year_ofDays {n : Int} (hmin : -96465292 ≤ n) (hmax : n ≤ 95026236) :
    -262143 ≤ (Date.ofDays n).year ∧ (Date.ofDays n).year ≤ 262142 := by
  obtain ⟨year, month, day, hplaces, hdate⟩ := ofDays_places n
  obtain ⟨hdays, hm, hm', hd, hin, hyear⟩ := hplaces
  rw [hdate]
  unfold daysToMarch daysToMonth epochShift at *
  have hfrom : -262144 ≤ year := by omega
  have hto : year ≤ 262142 := by omega
  by_cases hspring : month < 10
  · simp only [if_pos hspring]
    refine ⟨?_, hto⟩
    rcases Int.lt_or_eq_of_le hfrom with hlt | rfl
    · omega
    · omega
  · simp only [if_neg hspring]
    refine ⟨by omega, ?_⟩
    rcases Int.lt_or_eq_of_le hto with hlt | rfl
    · omega
    · omega

end Wallet.Civil
