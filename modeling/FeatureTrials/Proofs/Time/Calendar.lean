import FeatureTrials.Time.Calendar

/-!
# Days and dates

The date of a day has the number of that day (`toDays_ofDays`), so it is one that exists.

* `Cycle` — a day of a 400-year cycle by its century, its four years and its year.
-/

namespace FeatureTrials.Date

/-- A day of a 400-year cycle by its century, its four years in the century, its year in these and
its day in the year. Only the last of four years can have a day more than the others. -/
structure Cycle (inCycle century fours year day : Int) : Prop where
  sum : inCycle = 36524 * century + 1461 * fours + 365 * year + day
  centuryRange : 0 ≤ century ∧ century < 4
  foursRange : 0 ≤ fours ∧ fours < 25
  yearRange : 0 ≤ year ∧ year < 4
  dayRange : 0 ≤ day ∧ day < 365 ∨ day = 365 ∧ year = 3
  /-- only the last century ends with a leap day -/
  last : 1461 * fours + 365 * year + day < 36524 ∨ century = 3

theorem exists_cycle {inCycle : Int} (low : 0 ≤ inCycle) (high : inCycle < 146097) :
    ∃ century fours year day, Cycle inCycle century fours year day := by
  have hcentury : ∃ century rest, inCycle = 36524 * century + rest ∧
      (0 ≤ century ∧ century < 4) ∧ 0 ≤ rest ∧ rest ≤ 36524 ∧ (rest < 36524 ∨ century = 3) :=
    ⟨min (inCycle / 36524) 3, inCycle - 36524 * min (inCycle / 36524) 3, by omega⟩
  obtain ⟨century, rest, hsum, hcentury, hrest⟩ := hcentury
  have hyear : ∃ year day, rest % 1461 = 365 * year + day ∧ (0 ≤ year ∧ year < 4) ∧
      (0 ≤ day ∧ day < 365 ∨ day = 365 ∧ year = 3) :=
    ⟨min (rest % 1461 / 365) 3, rest % 1461 - 365 * min (rest % 1461 / 365) 3, by omega⟩
  obtain ⟨year, day, hyearSum, hyear, hday⟩ := hyear
  exact ⟨century, rest / 1461, year, day, by omega, hcentury, by omega, hyear, hday, by omega⟩

namespace Cycle

variable {inCycle century fours year day : Int}

/-- The leap days are taken out by divisions with one remainder less than the years have days. -/
theorem year_eq (cycle : Cycle inCycle century fours year day) :
    (inCycle - inCycle / 1460 + inCycle / 36524 - inCycle / 146096) / 365 =
      100 * century + 4 * fours + year := by
  obtain ⟨hsum, hcentury, hfours, hyear, hday, hlast⟩ := cycle
  have hcenturies : inCycle / 36524 - inCycle / 146096 = century := by
    by_cases hend : 1461 * fours + 365 * year + day < 36524
    · have hhundreds : inCycle / 36524 = century := by omega
      have hall : inCycle / 146096 = 0 := by omega
      omega
    · -- the last day of the cycle
      have hfours : fours = 24 := by omega
      have hcycle : inCycle = 146096 := by omega
      have hcentury : century = 3 := by omega
      rw [hcycle, hcentury]
      rfl
  have hleap : inCycle / 1460 = 25 * century + fours ∧ day < 365 ∨
      inCycle / 1460 = 25 * century + fours + 1 ∧ 0 < day := by
    omega
  omega

theorem daysBeforeYear_eq (cycle : Cycle inCycle century fours year day) :
    daysBeforeYear (100 * century + 4 * fours + year) = inCycle - day := by
  obtain ⟨hsum, hcentury, hfours, hyear, hday, -⟩ := cycle
  have hfour : (100 * century + 4 * fours + year) / 4 = 25 * century + fours := by omega
  have hhundred : (100 * century + 4 * fours + year) / 100 = century := by omega
  rw [daysBeforeYear, hfour, hhundred]
  omega

end Cycle

theorem fdiv_eq_ediv (n : Int) {d : Int} (positive : 0 < d) : Int.fdiv n d = n / d :=
  Int.fdiv_eq_ediv_of_nonneg n (Int.le_of_lt positive)

/-- The number of a date that is given by its cycle, its year from March on and its month in that
year. -/
theorem toDays_of_month {cycle year month : Int} (day : Int) (hyear : 0 ≤ year ∧ year < 400)
    (hmonth : 0 ≤ month ∧ month < 12) :
    toDays
        { year := year + cycle * 400 + if month < 10 then 0 else 1
          month := if month < 10 then month + 3 else month - 9
          day } =
      cycle * 146097 + daysBeforeYear year + daysBeforeMonth month + (day - 1) - 719468 := by
  have hcycle : (year + cycle * 400) / 400 = cycle := by omega
  have hrest : year + cycle * 400 - cycle * 400 = year := by omega
  rw [toDays]
  by_cases hspring : month < 10
  · have hlate : ¬ month + 3 ≤ 2 := by omega
    have hmarch : (month + 3 + 9) % 12 = month := by omega
    simp only [hspring, hlate, hmarch, if_true, if_false, Int.add_zero,
      fdiv_eq_ediv _ (by decide : (0 : Int) < 400), hcycle, hrest]
  · have hearly : month - 9 ≤ 2 := by omega
    have hmarch : (month - 9 + 9) % 12 = month := by omega
    simp only [hspring, hearly, hmarch, if_true, if_false, Int.add_sub_cancel,
      fdiv_eq_ediv _ (by decide : (0 : Int) < 400), hcycle, hrest]

/-- The date of a day, by its place in a cycle. -/
theorem ofDays_eq (days : Int) :
    ∃ cycle year inYear, (0 ≤ year ∧ year < 400) ∧ (0 ≤ inYear ∧ inYear < 366) ∧
      days = cycle * 146097 + daysBeforeYear year + inYear - 719468 ∧
      ofDays days =
        { year := year + cycle * 400 + if (5 * inYear + 2) / 153 < 10 then 0 else 1
          month :=
            if (5 * inYear + 2) / 153 < 10 then (5 * inYear + 2) / 153 + 3
            else (5 * inYear + 2) / 153 - 9
          day := inYear - daysBeforeMonth ((5 * inYear + 2) / 153) + 1 } := by
  have hlow : 0 ≤ days + 719468 - (days + 719468) / 146097 * 146097 := by omega
  obtain ⟨century, fours, year, day, place⟩ := exists_cycle hlow (by omega)
  have hyear := place.year_eq
  have hbefore := place.daysBeforeYear_eq
  obtain ⟨-, hcentury, hfours, hrange, hday, -⟩ := place
  refine ⟨(days + 719468) / 146097, 100 * century + 4 * fours + year, day, by omega, by omega,
    by omega, ?_⟩
  have hinYear : ∀ inCycle : Int, inCycle - (inCycle - day) = day := by omega
  rw [ofDays]
  simp only [fdiv_eq_ediv _ (by decide : (0 : Int) < 146097), hyear, hbefore, hinYear]

/-- The date of a day has the number of that day. -/
@[simp] theorem toDays_ofDays (days : Int) : (ofDays days).toDays = days := by
  obtain ⟨cycle, year, inYear, hyear, hinYear, hdays, heq⟩ := ofDays_eq days
  rw [heq, toDays_of_month _ hyear (by omega), hdays]
  omega

/-- The date of a day exists. -/
theorem exists?_ofDays (days : Int) : (ofDays days).exists? = true := by
  rw [exists?, toDays_ofDays, decide_eq_true_iff]

theorem month_ofDays (days : Int) : 1 ≤ (ofDays days).month ∧ (ofDays days).month ≤ 12 := by
  obtain ⟨cycle, year, inYear, hyear, hinYear, -, heq⟩ := ofDays_eq days
  rw [heq]
  dsimp only
  split <;> omega

theorem day_ofDays (days : Int) : 1 ≤ (ofDays days).day ∧ (ofDays days).day ≤ 31 := by
  obtain ⟨cycle, year, inYear, hyear, hinYear, -, heq⟩ := ofDays_eq days
  rw [heq]
  simp only [daysBeforeMonth]
  omega

end FeatureTrials.Date
