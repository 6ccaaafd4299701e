import ControlPlane.Time.Calendar

/-!
# Dates and counts of days

`Date.toDays` and `Date.ofDays` are inverse to each other: each date of the calendar
is found again from its count of days, and every count of days is that of a date
that the calendar has.

Both functions work in cycles of 400 years that begin with March.  A year of such a
cycle is split into a century, a group of four years and a year of the group, and
the count of days is linear in these parts.  The only parts that do not determine
the count at once are the last days of centuries and of groups, which exist exactly
where the calendar has a leap day.
-/

namespace ControlPlane.Date

/-! ## Parts of a cycle of 400 years -/

/-- The parts of a day of a cycle: the day of the year reaches 365 only in the last
year of a group of four, and in the last group of a century only at the end of the
cycle. -/
structure CycleParts where
  century : Nat
  fourYears : Nat
  yearOfFour : Nat
  dayOfYear : Nat

namespace CycleParts

/-- Whether a day of a cycle has these parts. -/
def Valid (parts : CycleParts) : Prop :=
  parts.century < 4 ∧ parts.fourYears < 25 ∧ parts.yearOfFour < 4 ∧ parts.dayOfYear ≤ 365 ∧
    (parts.dayOfYear = 365 →
      parts.yearOfFour = 3 ∧ (parts.fourYears = 24 → parts.century = 3))

/-- The day of the cycle. -/
def day (parts : CycleParts) : Nat :=
  36524 * parts.century + 1461 * parts.fourYears + 365 * parts.yearOfFour + parts.dayOfYear

/-- The year of the cycle. -/
def year (parts : CycleParts) : Nat :=
  100 * parts.century + 4 * parts.fourYears + parts.yearOfFour

/-- The parts of a day of a cycle, by division with remainder. -/
def ofDay (day : Nat) : CycleParts :=
  let century := min (day / 36524) 3
  let dayOfCentury := day - century * 36524
  let yearOfFour := min (dayOfCentury % 1461 / 365) 3
  { century
    fourYears := dayOfCentury / 1461
    yearOfFour
    dayOfYear := dayOfCentury % 1461 - yearOfFour * 365 }

theorem day_lt {parts : CycleParts} (valid : parts.Valid) : parts.day < 146097 := by
  obtain ⟨century, fourYears, yearOfFour, dayOfYear, last⟩ := valid
  unfold day
  omega

theorem ofDay_valid {day : Nat} (small : day < 146097) : (ofDay day).Valid := by
  unfold ofDay Valid
  dsimp only
  omega

@[simp]
theorem day_ofDay (day : Nat) : (ofDay day).day = day := by
  unfold ofDay CycleParts.day
  dsimp only
  omega

theorem ofDay_day {parts : CycleParts} (valid : parts.Valid) : ofDay parts.day = parts := by
  obtain ⟨century, fourYears, yearOfFour, dayOfYear⟩ := parts
  obtain ⟨centuryLt, fourYearsLt, yearOfFourLt, dayOfYearLe, last⟩ := valid
  dsimp only at centuryLt fourYearsLt yearOfFourLt dayOfYearLe last
  have centuryEq : min ((36524 * century + 1461 * fourYears + 365 * yearOfFour + dayOfYear) /
      36524) 3 = century := by omega
  unfold ofDay day
  dsimp only
  rw [centuryEq]
  have rest : 36524 * century + 1461 * fourYears + 365 * yearOfFour + dayOfYear -
      century * 36524 = 1461 * fourYears + (365 * yearOfFour + dayOfYear) := by omega
  have small : 365 * yearOfFour + dayOfYear < 1461 := by omega
  rw [rest, Nat.mul_add_div (by decide), Nat.mul_add_mod, Nat.div_eq_of_lt small,
    Nat.mod_eq_of_lt small, Nat.add_zero]
  have yearEq : min ((365 * yearOfFour + dayOfYear) / 365) 3 = yearOfFour := by omega
  rw [yearEq]
  congr 1
  omega

end CycleParts

/-! ## Months of a year that begins with March -/

/-- The month that a day of the year lies in is found by division. -/
theorem fromMarch_of_day {fromMarch day : Nat} (first : 1 ≤ day)
    (last : daysBeforeMonth fromMarch + day ≤ daysBeforeMonth (fromMarch + 1)) :
    (5 * (daysBeforeMonth fromMarch + day - 1) + 2) / 153 = fromMarch := by
  unfold daysBeforeMonth at last ⊢
  omega

theorem daysBeforeMonth_le_day (dayOfYear : Nat) :
    daysBeforeMonth ((5 * dayOfYear + 2) / 153) ≤ dayOfYear ∧
      dayOfYear < daysBeforeMonth ((5 * dayOfYear + 2) / 153 + 1) := by
  unfold daysBeforeMonth
  omega

theorem daysInMonth_le (year : Int) (month : Nat) :
    daysInMonth year month ≤
      if month = 2 then 29
      else if month = 4 ∨ month = 6 ∨ month = 9 ∨ month = 11 then 30 else 31 := by
  unfold daysInMonth
  split
  · split <;> omega
  · exact Nat.le_refl _

/-- A month is at most as long as the next month starts later. -/
theorem Exists.day_le {date : Date} (found : date.Exists) :
    daysBeforeMonth ((date.month + 9) % 12) + date.day ≤
      daysBeforeMonth ((date.month + 9) % 12 + 1) := by
  obtain ⟨firstMonth, lastMonth, -, lastDay⟩ := found
  have all : ∀ month : Fin 13, 1 ≤ month.val →
      daysBeforeMonth ((month.val + 9) % 12) +
        (if month.val = 2 then 29
          else if month.val = 4 ∨ month.val = 6 ∨ month.val = 9 ∨ month.val = 11 then 30
          else 31) ≤
        daysBeforeMonth ((month.val + 9) % 12 + 1) := by decide
  have longest := Nat.le_trans lastDay (daysInMonth_le date.year date.month)
  have fits := all ⟨date.month, Nat.lt_succ_of_le lastMonth⟩ firstMonth
  exact Nat.le_trans (Nat.add_le_add_left longest _) fits

/-! ## Dates by cycle -/

/-- The month, counted from January, of a month counted from March. -/
def fromJanuary (fromMarch : Nat) : Nat :=
  if fromMarch < 10 then fromMarch + 3 else fromMarch - 9

/-- The year, counted from March, of a date. -/
def marchYear (date : Date) : Int :=
  if date.month ≤ 2 then date.year - 1 else date.year

/-- The parts of a date within its cycle. -/
def cycleParts (date : Date) : CycleParts :=
  let yearOfCycle := (date.marchYear % 400).toNat
  { century := yearOfCycle / 100
    fourYears := yearOfCycle % 100 / 4
    yearOfFour := yearOfCycle % 4
    dayOfYear := daysBeforeMonth ((date.month + 9) % 12) + date.day - 1 }

/-- The date of some parts of a cycle. -/
def ofCycle (cycle : Int) (parts : CycleParts) : Date :=
  let fromMarch := (5 * parts.dayOfYear + 2) / 153
  let year := cycle * 400 + (parts.year : Int)
  { year := if fromJanuary fromMarch ≤ 2 then year + 1 else year
    month := fromJanuary fromMarch
    day := parts.dayOfYear - daysBeforeMonth fromMarch + 1 }

theorem ofDays_eq_ofCycle (days : Int) :
    ofDays days = ofCycle ((days + epochShift) / 146097)
      (.ofDay ((days + epochShift) % 146097).toNat) := rfl

/-- Only a leap year has a last day of February behind the 365 others. -/
theorem Exists.leap_of_last_day {date : Date} (found : date.Exists)
    (last : date.cycleParts.dayOfYear = 365) :
    date.month = 2 ∧ isLeap date.year = true := by
  obtain ⟨firstMonth, lastMonth, firstDay, lastDay⟩ := found
  simp only [cycleParts, daysBeforeMonth] at last
  unfold daysInMonth at lastDay
  split at lastDay
  · rename_i february
    split at lastDay
    · rename_i leap
      exact ⟨february, leap⟩
    · omega
  · split at lastDay <;> omega

theorem isLeap_iff (year : Int) :
    isLeap year = true ↔ year % 4 = 0 ∧ (year % 100 ≠ 0 ∨ year % 400 = 0) := by
  simp [isLeap]

theorem Exists.cycleParts_valid {date : Date} (found : date.Exists) :
    date.cycleParts.Valid := by
  have bound := found.day_le
  refine ⟨?_, ?_, ?_, ?_, ?_⟩
  · simp only [cycleParts]
    omega
  · simp only [cycleParts]
    omega
  · simp only [cycleParts]
    omega
  · simp only [cycleParts, daysBeforeMonth] at bound ⊢
    by_cases last : date.cycleParts.dayOfYear ≤ 365
    · simpa only [cycleParts, daysBeforeMonth] using last
    · obtain ⟨firstMonth, lastMonth, firstDay, lastDay⟩ := found
      unfold daysInMonth at lastDay
      split at lastDay
      · split at lastDay <;> omega
      · split at lastDay <;> omega
  · intro last
    obtain ⟨february, leap⟩ := found.leap_of_last_day last
    rw [isLeap_iff] at leap
    have march : date.marchYear = date.year - 1 := by
      rw [marchYear, if_pos (by omega)]
    simp only [cycleParts, march]
    omega

theorem toDays_eq_cycle {date : Date} (found : date.Exists) :
    date.toDays + epochShift = date.marchYear / 400 * 146097 + (date.cycleParts.day : Int) := by
  have firstDay := found.2.2.1
  simp only [toDays, cycleParts, CycleParts.day, marchYear]
  omega

/-- A date is found again from its count of days. -/
theorem ofDays_toDays {date : Date} (found : date.Exists) : ofDays date.toDays = date := by
  have small := CycleParts.day_lt found.cycleParts_valid
  rw [ofDays_eq_ofCycle, toDays_eq_cycle found]
  have cycleEq : (date.marchYear / 400 * 146097 + (date.cycleParts.day : Int)) / 146097 =
      date.marchYear / 400 := by omega
  have dayEq : ((date.marchYear / 400 * 146097 + (date.cycleParts.day : Int)) %
      146097).toNat = date.cycleParts.day := by omega
  rw [cycleEq, dayEq, CycleParts.ofDay_day found.cycleParts_valid]
  have month : (5 * date.cycleParts.dayOfYear + 2) / 153 = (date.month + 9) % 12 :=
    fromMarch_of_day found.2.2.1 found.day_le
  have firstMonth := found.1
  have lastMonth := found.2.1
  have firstDay := found.2.2.1
  have year : date.marchYear / 400 * 400 + (date.cycleParts.year : Int) = date.marchYear := by
    simp only [cycleParts, CycleParts.year]
    omega
  unfold ofCycle fromJanuary
  dsimp only
  rw [month, year]
  obtain ⟨y, m, d⟩ := date
  simp only [cycleParts, marchYear] at firstMonth lastMonth firstDay ⊢
  congr 1
  · split <;> split <;> omega
  · split <;> omega
  · omega

theorem le_daysInMonth (year : Int) {fromMarch : Nat} (small : fromMarch < 11) :
    daysBeforeMonth (fromMarch + 1) ≤
      daysBeforeMonth fromMarch + daysInMonth year (fromJanuary fromMarch) := by
  have all : ∀ month : Fin 11,
      fromJanuary month ≠ 2 ∧ daysBeforeMonth (month.val + 1) ≤ daysBeforeMonth month.val +
        (if fromJanuary month = 4 ∨ fromJanuary month = 6 ∨ fromJanuary month = 9 ∨
          fromJanuary month = 11 then 30 else 31) := by decide
  obtain ⟨notFebruary, fits⟩ := all ⟨fromMarch, small⟩
  rw [daysInMonth, if_neg notFebruary]
  exact fits

theorem exists_ofCycle (cycle : Int) {parts : CycleParts} (valid : parts.Valid) :
    (ofCycle cycle parts).Exists := by
  obtain ⟨century, fourYears, yearOfFour, dayOfYear, last⟩ := valid
  obtain ⟨lower, upper⟩ := daysBeforeMonth_le_day parts.dayOfYear
  have small : (5 * parts.dayOfYear + 2) / 153 < 12 := by omega
  unfold ofCycle
  dsimp only
  generalize (5 * parts.dayOfYear + 2) / 153 = fromMarch at lower upper small
  change 1 ≤ fromJanuary fromMarch ∧ fromJanuary fromMarch ≤ 12 ∧
    1 ≤ parts.dayOfYear - daysBeforeMonth fromMarch + 1 ∧
    parts.dayOfYear - daysBeforeMonth fromMarch + 1 ≤
      daysInMonth (if fromJanuary fromMarch ≤ 2 then cycle * 400 + (parts.year : Int) + 1
        else cycle * 400 + (parts.year : Int)) (fromJanuary fromMarch)
  refine ⟨?_, ?_, Nat.le_add_left _ _, ?_⟩
  · unfold fromJanuary
    split <;> omega
  · unfold fromJanuary
    split <;> omega
  · rcases Nat.lt_or_ge fromMarch 11 with early | february
    · have fits := le_daysInMonth (if fromJanuary fromMarch ≤ 2 then
        cycle * 400 + (parts.year : Int) + 1 else cycle * 400 + (parts.year : Int)) early
      omega
    · -- February is as long as the day of the year goes, which is 365 in leap years only.
      obtain rfl : fromMarch = 11 := by omega
      have month : fromJanuary 11 = 2 := rfl
      have before : daysBeforeMonth 11 = 337 := rfl
      rw [month, before, daysInMonth, if_pos rfl, if_pos (Nat.le_refl 2)]
      by_cases lastDay : parts.dayOfYear = 365
      · obtain ⟨yearEq, centuryEq⟩ := last lastDay
        have leap : isLeap (cycle * 400 + (parts.year : Int) + 1) = true := by
          rw [isLeap_iff, CycleParts.year]
          omega
        rw [if_pos leap]
        omega
      · split <;> omega

/-- Every count of days is that of a date of the calendar. -/
theorem exists_ofDays (days : Int) : (ofDays days).Exists := by
  rw [ofDays_eq_ofCycle]
  exact exists_ofCycle _ (CycleParts.ofDay_valid (by omega))

theorem cycleParts_ofCycle (cycle : Int) {parts : CycleParts} (valid : parts.Valid) :
    (ofCycle cycle parts).marchYear / 400 = cycle ∧ (ofCycle cycle parts).cycleParts = parts := by
  obtain ⟨century, fourYears, yearOfFour, dayOfYear, last⟩ := valid
  obtain ⟨lower, upper⟩ := daysBeforeMonth_le_day parts.dayOfYear
  have small : (5 * parts.dayOfYear + 2) / 153 < 12 := by omega
  have march : (ofCycle cycle parts).marchYear = cycle * 400 + (parts.year : Int) := by
    unfold ofCycle marchYear
    dsimp only
    split <;> omega
  have month : ((ofCycle cycle parts).month + 9) % 12 = (5 * parts.dayOfYear + 2) / 153 := by
    unfold ofCycle fromJanuary
    dsimp only
    split <;> omega
  refine ⟨?_, ?_⟩
  · rw [march, CycleParts.year]
    omega
  · have day : (ofCycle cycle parts).day =
        parts.dayOfYear - daysBeforeMonth ((5 * parts.dayOfYear + 2) / 153) + 1 := rfl
    rw [cycleParts, march, month, day, CycleParts.year]
    obtain ⟨c, f, r, d⟩ := parts
    dsimp only at *
    congr 1 <;> omega

/-- A count of days is found again from its date. -/
theorem toDays_ofDays (days : Int) : (ofDays days).toDays = days := by
  have small : ((days + epochShift) % 146097).toNat < 146097 := by omega
  have valid := CycleParts.ofDay_valid small
  obtain ⟨cycleEq, partsEq⟩ := cycleParts_ofCycle ((days + epochShift) / 146097) valid
  have total := toDays_eq_cycle (exists_ofDays days)
  rw [ofDays_eq_ofCycle] at total ⊢
  rw [cycleEq, partsEq, CycleParts.day_ofDay] at total
  omega

end ControlPlane.Date
