import Guiying.Foundation.CivilCalendar
import Guiying.Foundation.Outcome
import Guiying.Time.Parse

/-!
# The calendar conversions as an order isomorphism

Both day conversions compute the Gregorian day count, shifted to the epoch. On
the wall times without a fraction of a second, the count of seconds and its
inverse are then an order isomorphism with an interval of the integers.
-/

namespace Guiying.Time

open Guiying.Foundation CivilCalendar

namespace Calendar

/-- The day count of the epoch, 1970-01-01. -/
def epochDays : Int := 719162

/-! ## Division with a correction for negative values -/

theorem corrected_tdiv {width slack : Int} (positive : 0 < width) (last : slack = width - 1)
    (value : Int) :
    (if value ≥ 0 then value else value - slack).tdiv width = value / width := by
  subst last
  split
  · rename_i nonneg
    exact Int.tdiv_eq_ediv_of_nonneg nonneg
  · rename_i negative
    have size : 0 ≤ width - 1 - value := by omega
    have whole := Int.mul_ediv_add_emod (width - 1 - value) width
    have low := Int.emod_nonneg (width - 1 - value) positive.ne'
    have high := Int.emod_lt_of_pos (width - 1 - value) positive
    have opposite : value - (width - 1) = -(width - 1 - value) := by ring
    rw [opposite, Int.neg_tdiv, Int.tdiv_eq_ediv_of_nonneg size]
    refine le_antisymm ?_ ?_
    · rw [Int.le_ediv_iff_mul_le positive]
      linarith [mul_comm width ((width - 1 - value) / width)]
    · rw [← Int.lt_add_one_iff, Int.ediv_lt_iff_lt_mul positive]
      linarith [mul_comm width ((width - 1 - value) / width)]

/-! ## The days of a date -/

theorem isLeapYear_eq (year : Nat) : isLeapYear year = decide (Leap year) := by
  rw [Bool.eq_iff_iff, decide_eq_true_eq]
  unfold isLeapYear Leap
  rw [Bool.and_eq_true, Bool.or_eq_true, bne_iff_ne, beq_iff_eq, beq_iff_eq]
  omega

theorem daysInMonth_eq (year month : Nat) :
    daysInMonth year month = monthLength (decide (Leap year)) month := by
  unfold daysInMonth
  rw [isLeapYear_eq]
  split
  all_goals first | rfl | skip
  unfold monthLength
  split <;> simp_all

/-- The days of the years before one that starts in March. -/
def marchDays (year : Int) : Int :=
  year / 400 * 146097 +
    ((year - year / 400 * 400) * 365 + (year - year / 400 * 400) / 4 -
      (year - year / 400 * 400) / 100)

theorem marchDays_eq (year : Int) : marchDays year = yearDays year := by
  unfold marchDays yearDays
  omega

/-- The days from March to a later month, both in one year. -/
theorem marchStart_late (long : Bool) {month : Nat} (low : 2 < month) (high : month ≤ 12) :
    monthStart long 13 + (153 * (month - 3) + 2) / 5 = monthStart long month + 306 := by
  cases long <;> interval_cases month <;> rfl

/-- The days from March to January or February of the next year. -/
theorem marchStart_early (long : Bool) {month : Nat} (low : 1 ≤ month) (high : month ≤ 2) :
    (153 * (month + 9) + 2) / 5 = monthStart long month + 306 := by
  cases long <;> interval_cases month <;> rfl

theorem daysFromCivil_eq_march (year month day : Int) (monthLow : 1 ≤ month) :
    daysFromCivil year month day =
      if month ≤ 2 then marchDays (year - 1) + (153 * (month + 9) + 2) / 5 + day - 719469
      else marchDays year + (153 * (month - 3) + 2) / 5 + day - 719469 := by
  have era (value : Int) :=
    corrected_tdiv (show (0 : Int) < 400 by decide) (show (399 : Int) = 400 - 1 by decide) value
  have inEra (value : Int) : 0 ≤ value - value / 400 * 400 := by omega
  unfold daysFromCivil marchDays
  by_cases early : month ≤ 2
  · have late : ¬ month > 2 := by omega
    dsimp only
    rw [if_pos early, if_neg late, if_pos early, era, Int.tdiv_eq_ediv_of_nonneg (inEra _),
      Int.tdiv_eq_ediv_of_nonneg (inEra _), Int.tdiv_eq_ediv_of_nonneg (by omega)]
    ring
  · have late : month > 2 := by omega
    dsimp only
    rw [if_neg early, if_pos late, if_neg early, era, Int.tdiv_eq_ediv_of_nonneg (inEra _),
      Int.tdiv_eq_ediv_of_nonneg (inEra _), Int.tdiv_eq_ediv_of_nonneg (by omega), sub_zero]
    ring_nf

/-- The count from March of the source is the count from January. -/
theorem daysFromCivil_eq {date : Date} (valid : date.Valid) :
    daysFromCivil date.year date.month date.day = date.count - epochDays := by
  obtain ⟨monthLow, monthHigh, -, -⟩ := valid
  rw [daysFromCivil_eq_march _ _ _ (by omega), marchDays_eq, marchDays_eq]
  unfold Date.count epochDays
  split
  · have start := marchStart_early (decide (Leap date.year)) monthLow (by omega)
    omega
  · have start := marchStart_late (decide (Leap date.year)) (by omega : 2 < date.month) monthHigh
    have year := yearDays_succ date.year
    omega

/-! ## The date of a day -/

section DayOfEra

variable {dayOfEra yearOfEra : Int}

/-- The year of an era that the source computes for a day of the era. -/
def yearOf (dayOfEra : Int) : Int :=
  (dayOfEra - dayOfEra / 1460 + dayOfEra / 36524 - dayOfEra / 146096) / 365

theorem yearOf_bounds (low : 0 ≤ dayOfEra) (high : dayOfEra ≤ 146096) :
    0 ≤ yearOf dayOfEra ∧ yearOf dayOfEra ≤ 399 := by
  unfold yearOf
  omega

/-- The year has begun by the day. -/
theorem yearOf_begun (low : 0 ≤ dayOfEra) (high : dayOfEra ≤ 146096) :
    365 * yearOf dayOfEra + yearOf dayOfEra / 4 - yearOf dayOfEra / 100 ≤ dayOfEra := by
  obtain ⟨yearLow, yearHigh⟩ := yearOf_bounds low high
  have whole : yearOf dayOfEra = (dayOfEra - dayOfEra / 1460 + dayOfEra / 36524 -
      dayOfEra / 146096) / 365 := rfl
  generalize yearOf dayOfEra = yearOfEra at *
  -- omega decides each century on its own
  have centuryLow : 0 ≤ dayOfEra / 36524 := by omega
  have centuryHigh : dayOfEra / 36524 ≤ 4 := by omega
  have yearCenturyLow : 0 ≤ yearOfEra / 100 := by omega
  have yearCenturyHigh : yearOfEra / 100 ≤ 3 := by omega
  generalize century : dayOfEra / 36524 = dayCentury at *
  generalize yearCentury : yearOfEra / 100 = centuries at *
  interval_cases dayCentury <;> interval_cases centuries <;> omega

/-- The next year has not begun by the day. -/
theorem lt_yearOf_succ (low : 0 ≤ dayOfEra) (high : dayOfEra ≤ 146096) :
    dayOfEra < 365 * (yearOf dayOfEra + 1) + (yearOf dayOfEra + 1) / 4 -
      (yearOf dayOfEra + 1) / 100 + (yearOf dayOfEra + 1) / 400 := by
  obtain ⟨yearLow, yearHigh⟩ := yearOf_bounds low high
  have whole : yearOf dayOfEra = (dayOfEra - dayOfEra / 1460 + dayOfEra / 36524 -
      dayOfEra / 146096) / 365 := rfl
  generalize yearOf dayOfEra = yearOfEra at *
  have centuryLow : 0 ≤ dayOfEra / 36524 := by omega
  have centuryHigh : dayOfEra / 36524 ≤ 4 := by omega
  have nextLow : 0 ≤ (yearOfEra + 1) / 100 := by omega
  have nextHigh : (yearOfEra + 1) / 100 ≤ 4 := by omega
  have quotient : dayOfEra - dayOfEra / 1460 + dayOfEra / 36524 - dayOfEra / 146096 <
      365 * (yearOfEra + 1) := by omega
  generalize century : dayOfEra / 36524 = dayCentury at *
  generalize nextCentury : (yearOfEra + 1) / 100 = centuries at *
  by_cases leapDays : dayOfEra / 1460 ≤ (yearOfEra + 1) / 4
  · clear whole
    interval_cases dayCentury <;> interval_cases centuries <;> omega
  · -- a day whose leap day count is ahead of the year's lies in the next four years
    have ahead : (yearOfEra + 1) / 4 + 1 ≤ dayOfEra / 1460 := by omega
    have begun : 1460 * (dayOfEra / 1460) ≤ dayOfEra := by omega
    have inFour : yearOfEra + 1 ≤ 4 * ((yearOfEra + 1) / 4) + 3 := by omega
    clear whole
    interval_cases dayCentury <;> interval_cases centuries <;> omega

/-- The day of the year, counted from March, that the source computes for a day of the era. -/
def dayOf (dayOfEra : Int) : Int :=
  dayOfEra - (365 * yearOf dayOfEra + yearOf dayOfEra / 4 - yearOf dayOfEra / 100)

theorem leap_add_era (year era : Int) : Leap (year + era * 400) ↔ Leap year := by
  unfold Leap
  omega

theorem dayOf_bounds (low : 0 ≤ dayOfEra) (high : dayOfEra ≤ 146096) (era : Int) :
    0 ≤ dayOf dayOfEra ∧
      dayOf dayOfEra ≤ 364 + if Leap (yearOf dayOfEra + era * 400 + 1) then 1 else 0 := by
  obtain ⟨yearLow, yearHigh⟩ := yearOf_bounds low high
  have begun := yearOf_begun low high
  have unfinished : dayOfEra < yearDays (yearOf dayOfEra + 1) := by
    have next := lt_yearOf_succ low high
    unfold yearDays
    omega
  have start : yearDays (yearOf dayOfEra) =
      365 * yearOf dayOfEra + yearOf dayOfEra / 4 - yearOf dayOfEra / 100 := by
    unfold yearDays
    omega
  have length := yearDays_succ (yearOf dayOfEra + 1)
  have shift : yearOf dayOfEra + era * 400 + 1 = yearOf dayOfEra + 1 + era * 400 := by ring
  rw [add_sub_cancel_right, start] at length
  rw [length] at unfinished
  rw [shift, if_congr (leap_add_era _ _) rfl rfl]
  unfold dayOf
  refine ⟨by omega, ?_⟩
  by_cases leap : Leap (yearOf dayOfEra + 1)
  · rw [decide_eq_true leap, show monthStart true 13 = 366 from rfl] at unfinished
    rw [if_pos leap]
    omega
  · rw [decide_eq_false leap, show monthStart false 13 = 365 from rfl] at unfinished
    rw [if_neg leap]
    omega

end DayOfEra

/-- The date of a day of a year that starts in March. -/
def marchDate (year dayOfYear : Int) : Date :=
  let monthPrime := (5 * dayOfYear + 2) / 153
  let month := monthPrime + if monthPrime < 10 then 3 else -9
  ⟨year + (if month ≤ 2 then 1 else 0), month.toNat,
    (dayOfYear - (153 * monthPrime + 2) / 5 + 1).toNat⟩

section MarchDate

variable {year dayOfYear : Int}

theorem marchDate_valid (low : 0 ≤ dayOfYear)
    (high : dayOfYear ≤ 364 + if Leap (year + 1) then 1 else 0) :
    (marchDate year dayOfYear).Valid := by
  have monthLow : 0 ≤ (5 * dayOfYear + 2) / 153 := by omega
  have short : dayOfYear ≤ 365 := by
    split at high <;> omega
  have monthHigh : (5 * dayOfYear + 2) / 153 ≤ 11 := by omega
  unfold marchDate Date.Valid
  generalize prime : (5 * dayOfYear + 2) / 153 = monthPrime at *
  by_cases leap : Leap (year + 1)
  · rw [if_pos leap] at high
    interval_cases monthPrime <;> simp [monthLength, leap] <;> omega
  · rw [if_neg leap] at high
    interval_cases monthPrime <;> simp [monthLength, leap] <;> omega

theorem marchDate_count (low : 0 ≤ dayOfYear)
    (high : dayOfYear ≤ 364 + if Leap (year + 1) then 1 else 0) :
    (marchDate year dayOfYear).count = marchDays year + dayOfYear - 719468 + epochDays := by
  have valid := marchDate_valid low high
  have back := daysFromCivil_eq valid
  have first := valid.1
  have short : dayOfYear ≤ 365 := by
    split at high <;> omega
  rw [daysFromCivil_eq_march _ _ _ (by omega)] at back
  have day : ((marchDate year dayOfYear).day : Int) =
      dayOfYear - (153 * ((5 * dayOfYear + 2) / 153) + 2) / 5 + 1 :=
    Int.toNat_of_nonneg (by omega)
  rw [day] at back
  by_cases late : (5 * dayOfYear + 2) / 153 < 10
  · have month : ((marchDate year dayOfYear).month : Int) = (5 * dayOfYear + 2) / 153 + 3 := by
      unfold marchDate
      dsimp only
      rw [if_pos late]
      omega
    have whole : (marchDate year dayOfYear).year = year := by
      unfold marchDate
      dsimp only
      rw [if_pos late, if_neg (by omega), add_zero]
    rw [month, whole, if_neg (by omega), add_sub_cancel_right] at back
    omega
  · have month : ((marchDate year dayOfYear).month : Int) = (5 * dayOfYear + 2) / 153 - 9 := by
      unfold marchDate
      dsimp only
      rw [if_neg late]
      omega
    have whole : (marchDate year dayOfYear).year = year + 1 := by
      unfold marchDate
      dsimp only
      rw [if_neg late, if_pos (by omega)]
    rw [month, whole, if_pos (by omega), add_sub_cancel_right, sub_add_cancel] at back
    omega

end MarchDate

/-- The date of a day that the shift leaves in range. -/
theorem civilFromDays_eq_march {days : Int} (first : MachineInt.i64Min ≤ days)
    (last : days + 719468 ≤ MachineInt.i64Max) :
    let date := marchDate
      (yearOf ((days + 719468) % 146097) + (days + 719468) / 146097 * 400)
      (dayOf ((days + 719468) % 146097))
    civilFromDays days = (date.year, (date.month : Int), (date.day : Int)) := by
  have era := corrected_tdiv (show (0 : Int) < 146097 by decide)
    (show (146096 : Int) = 146097 - 1 by decide) (days + 719468)
  have low : 0 ≤ (days + 719468) % 146097 := Int.emod_nonneg _ (by decide)
  have high : (days + 719468) % 146097 ≤ 146096 := by omega
  have inEra : days + 719468 - (days + 719468) / 146097 * 146097 =
      (days + 719468) % 146097 := by omega
  obtain ⟨yearLow, yearHigh⟩ := yearOf_bounds low high
  have dayLow := (dayOf_bounds low high 0).1
  have whole : ((days + 719468) % 146097 - ((days + 719468) % 146097).tdiv 1460 +
      ((days + 719468) % 146097).tdiv 36524 - ((days + 719468) % 146097).tdiv 146096).tdiv 365 =
      yearOf ((days + 719468) % 146097) := by
    rw [Int.tdiv_eq_ediv_of_nonneg low, Int.tdiv_eq_ediv_of_nonneg low,
      Int.tdiv_eq_ediv_of_nonneg low, Int.tdiv_eq_ediv_of_nonneg (by omega)]
    rfl
  have day : (days + 719468) % 146097 - (365 * yearOf ((days + 719468) % 146097) +
      (yearOf ((days + 719468) % 146097)).tdiv 4 -
      (yearOf ((days + 719468) % 146097)).tdiv 100) = dayOf ((days + 719468) % 146097) := by
    rw [Int.tdiv_eq_ediv_of_nonneg yearLow, Int.tdiv_eq_ediv_of_nonneg yearLow]
    rfl
  have shifted : MachineInt.wrapI64 (days + 719468) = days + 719468 :=
    MachineInt.wrapI64_of_fits (by omega) last
  have corrected : MachineInt.wrapI64 (days + 719468 - 146096) = days + 719468 - 146096 :=
    MachineInt.wrapI64_of_fits (by omega) (by omega)
  have eraDay : MachineInt.wrapI64 ((days + 719468) % 146097) = (days + 719468) % 146097 :=
    MachineInt.wrapI64_of_fits (le_trans (by decide) low) (high.trans (by decide))
  unfold civilFromDays
  dsimp only
  rw [shifted, corrected, era, inEra, eraDay, whole, day]
  have short : dayOf ((days + 719468) % 146097) ≤ 365 := by
    have bound := (dayOf_bounds low high 0).2
    split at bound <;> omega
  generalize dayOf ((days + 719468) % 146097) = dayOfYear at *
  rw [Int.tdiv_eq_ediv_of_nonneg (show 0 ≤ 5 * dayOfYear + 2 by omega)]
  have primeLow : 0 ≤ (5 * dayOfYear + 2) / 153 := by omega
  rw [Int.tdiv_eq_ediv_of_nonneg (show 0 ≤ 153 * ((5 * dayOfYear + 2) / 153) + 2 by omega)]
  unfold marchDate
  dsimp only
  have month : 0 ≤ (5 * dayOfYear + 2) / 153 +
      if (5 * dayOfYear + 2) / 153 < 10 then 3 else -9 := by
    split <;> omega
  have dayPositive : 0 ≤ dayOfYear - (153 * ((5 * dayOfYear + 2) / 153) + 2) / 5 + 1 := by omega
  rw [Int.toNat_of_nonneg month, Int.toNat_of_nonneg dayPositive]

/-- The date of a day is valid, and the day is its count from the epoch. -/
theorem civilFromDays_eq {days : Int} (first : MachineInt.i64Min ≤ days)
    (last : days + 719468 ≤ MachineInt.i64Max) : ∃ date : Date, date.Valid ∧
    date.count = days + epochDays ∧
    civilFromDays days = (date.year, (date.month : Int), (date.day : Int)) := by
  have low : 0 ≤ (days + 719468) % 146097 := Int.emod_nonneg _ (by decide)
  have high : (days + 719468) % 146097 ≤ 146096 := by omega
  obtain ⟨dayLow, dayHigh⟩ := dayOf_bounds low high ((days + 719468) / 146097)
  have valid := marchDate_valid dayLow dayHigh
  refine ⟨_, valid, ?_, civilFromDays_eq_march first last⟩
  have yearBounds := yearOf_bounds low high
  rw [marchDate_count dayLow dayHigh]
  have eraOf : (yearOf ((days + 719468) % 146097) + (days + 719468) / 146097 * 400) / 400 =
      (days + 719468) / 146097 := by omega
  unfold marchDays dayOf
  rw [eraOf, add_sub_cancel_right]
  omega

/-- The years of a count of days that is short on the scale of eras. -/
theorem yearsOf_bounds {days : Int} (low : 0 ≤ days) (high : days ≤ 292192) :
    0 ≤ (days - days.tdiv 1460 + days.tdiv 36524 - days.tdiv 146096).tdiv 365 ∧
      (days - days.tdiv 1460 + days.tdiv 36524 - days.tdiv 146096).tdiv 365 ≤ 801 := by
  rw [Int.tdiv_eq_ediv_of_nonneg low, Int.tdiv_eq_ediv_of_nonneg low,
    Int.tdiv_eq_ediv_of_nonneg low]
  rw [Int.tdiv_eq_ediv_of_nonneg (by omega)]
  omega

/-- Where the shift passes the end of the type, the year is none of the calendar's: the days come
out at the other end, or the correction of their era takes them back. -/
theorem civilFromDays_past {days : Int} (last : days ≤ MachineInt.i64Max)
    (past : MachineInt.i64Max < days + 719468) :
    (civilFromDays days).1 < 0 ∨ (MachineInt.u16Bound : Int) ≤ (civilFromDays days).1 := by
  unfold MachineInt.i64Max at last past
  unfold MachineInt.u16Bound
  obtain ⟨low, isLow⟩ : ∃ low : Int, low = days + 719468 - 2 ^ 64 := ⟨_, rfl⟩
  have shifted : MachineInt.wrapI64 (days + 719468) = low :=
    MachineInt.wrapI64_of_turns 1 (by omega) (by unfold MachineInt.i64Min; omega)
      (by unfold MachineInt.i64Max; omega)
  have negative : ¬ low ≥ 0 := by omega
  by_cases under : low - 146096 < MachineInt.i64Min
  · unfold MachineInt.i64Min at under
    have corrected : MachineInt.wrapI64 (low - 146096) = low - 146096 + 2 ^ 64 :=
      MachineInt.wrapI64_of_turns (-1) (by omega) (by unfold MachineInt.i64Min; omega)
        (by unfold MachineInt.i64Max; omega)
    obtain ⟨era, isEra⟩ : ∃ era, era = (low - 146096 + 2 ^ 64) / 146097 := ⟨_, rfl⟩
    have positive : (low - 146096 + 2 ^ 64).tdiv 146097 = era := by
      rw [isEra]
      exact Int.tdiv_eq_ediv_of_nonneg (by omega)
    have eraDay : MachineInt.wrapI64 (low - era * 146097) = low - era * 146097 + 2 ^ 64 :=
      MachineInt.wrapI64_of_turns (-1) (by omega) (by unfold MachineInt.i64Min; omega)
        (by unfold MachineInt.i64Max; omega)
    have years := yearsOf_bounds (show 0 ≤ low - era * 146097 + 2 ^ 64 by omega) (by omega)
    unfold civilFromDays
    dsimp only
    rw [shifted, if_neg negative, corrected, positive, eraDay]
    right
    split <;> omega
  · have corrected : MachineInt.wrapI64 (low - 146096) = low - 146096 :=
      MachineInt.wrapI64_of_fits (by omega) (by unfold MachineInt.i64Max; omega)
    have era := corrected_tdiv (show (0 : Int) < 146097 by decide)
      (show (146096 : Int) = 146097 - 1 by decide) low
    rw [if_neg negative] at era
    have eraDay : MachineInt.wrapI64 (low - low / 146097 * 146097) = low - low / 146097 * 146097 :=
      MachineInt.wrapI64_of_fits (by unfold MachineInt.i64Min; omega)
        (by unfold MachineInt.i64Max; omega)
    have years := yearsOf_bounds (show 0 ≤ low - low / 146097 * 146097 by omega) (by omega)
    unfold civilFromDays
    dsimp only
    rw [shifted, if_neg negative, corrected, era, eraDay]
    left
    split <;> omega

end Calendar

/-! ## Wall times -/

namespace WallTime

def date (wall : WallTime) : Date := ⟨wall.year, wall.month, wall.day⟩

def secondOfDay (wall : WallTime) : Int := wall.hour * 3600 + wall.minute * 60 + wall.second

/-- The fields down to the second, in the order wall times are compared in. -/
def civilKey (wall : WallTime) : List Nat :=
  [wall.year, wall.month, wall.day, wall.hour, wall.minute, wall.second]

variable {first second wall : WallTime}

theorem parts_valid (wall : WallTime) :
    (1 ≤ wall.year ∧ wall.year ≤ 9999) ∧ (1 ≤ wall.month ∧ wall.month ≤ 12) ∧
      (0 < wall.day ∧ wall.day ≤ Calendar.daysInMonth wall.year wall.month) ∧ wall.hour ≤ 23 ∧
      wall.minute ≤ 59 ∧ wall.second ≤ 59 ∧ wall.nanosecond < nanosPerSecond :=
  Calendar.validateComponents_eq_ok.mp wall.valid

theorem date_valid (wall : WallTime) : wall.date.Valid := by
  obtain ⟨-, ⟨monthLow, monthHigh⟩, ⟨dayLow, dayHigh⟩, -⟩ := wall.parts_valid
  rw [Calendar.daysInMonth_eq] at dayHigh
  exact ⟨monthLow, monthHigh, dayLow, dayHigh⟩

theorem secondOfDay_bounds (wall : WallTime) : 0 ≤ wall.secondOfDay ∧ wall.secondOfDay < 86400 := by
  obtain ⟨-, -, -, hour, minute, second, -⟩ := wall.parts_valid
  unfold secondOfDay
  omega

theorem naiveUnixSeconds_eq (wall : WallTime) : wall.naiveUnixSeconds =
    (wall.date.count - Calendar.epochDays) * 86400 + wall.secondOfDay := by
  have days := Calendar.daysFromCivil_eq wall.date_valid
  dsimp only [date] at days ⊢
  unfold naiveUnixSeconds secondOfDay Calendar.secondsPerDay
  rw [days]
  ring

theorem civilKey_lt_iff : first.civilKey < second.civilKey ↔
    first.date.Before second.date ∨
      first.date = second.date ∧ first.secondOfDay < second.secondOfDay := by
  obtain ⟨-, -, -, _, _, _, -⟩ := first.parts_valid
  obtain ⟨-, -, -, _, _, _, -⟩ := second.parts_valid
  unfold civilKey date Date.Before secondOfDay
  simp only [List.cons_lt_cons_iff, List.lt_irrefl, and_false, or_false, Date.mk.injEq,
    Int.natCast_inj]
  omega

/-- The count of seconds has the order of the fields. -/
theorem civilKey_lt_iff_naiveUnixSeconds_lt :
    first.civilKey < second.civilKey ↔ first.naiveUnixSeconds < second.naiveUnixSeconds := by
  have firstSeconds := first.secondOfDay_bounds
  have secondSeconds := second.secondOfDay_bounds
  rw [civilKey_lt_iff, first.naiveUnixSeconds_eq, second.naiveUnixSeconds_eq,
    Date.before_iff first.date_valid second.date_valid]
  constructor
  · rintro (days | ⟨sameDate, seconds⟩)
    · omega
    · rw [sameDate]
      omega
  · intro lower
    by_cases days : first.date.count < second.date.count
    · exact .inl days
    · have sameCount : first.date.count = second.date.count := by omega
      exact .inr ⟨Date.count_injective first.date_valid second.date_valid sameCount, by omega⟩

theorem new_of_valid {year month day hour minute second nanosecond : Nat}
    (valid : Calendar.validateComponents year month day hour minute second nanosecond = .ok ()) :
    new year month day hour minute second nanosecond =
      .ok ⟨year, month, day, hour, minute, second, nanosecond, valid⟩ := by
  unfold new
  split
  · rfl
  · rename_i error refused
    rw [valid] at refused
    cases refused

/-- The wall time without its fraction of a second. -/
def wholeSecond (wall : WallTime) : WallTime where
  year := wall.year
  month := wall.month
  day := wall.day
  hour := wall.hour
  minute := wall.minute
  second := wall.second
  nanosecond := 0
  valid := by
    obtain ⟨year, month, day, hour, minute, second, -⟩ := wall.parts_valid
    exact Calendar.validateComponents_eq_ok.mpr
      ⟨year, month, day, hour, minute, second, nanosPerSecond_pos⟩

theorem withNanosecond_zero (wall : WallTime) : wall.withNanosecond 0 = .ok wall.wholeSecond :=
  new_of_valid wall.wholeSecond.valid

end WallTime

namespace Parse

section Conversion

variable {seconds day second : Int} {date : Date} {wall : WallTime}

/-- The time of day from its second. -/
theorem clock_of_second (low : 0 ≤ second) (high : second < 86400) :
    ((second / 3600).toNat : Int) * 3600 + ((second % 3600 / 60).toNat : Int) * 60 +
      ((second % 60).toNat : Int) = second := by
  omega

theorem found_naiveUnixSeconds (day second : Int) (yearLow : 1 ≤ date.year) (count : date.count =
    day + Calendar.epochDays) (low : 0 ≤ second) (high : second < 86400)
    (found : WallTime.new date.year.toNat date.month date.day (second / 3600).toNat
      (second % 3600 / 60).toNat (second % 60).toNat 0 = .ok wall) :
    wall.naiveUnixSeconds = 86400 * day + second ∧ wall.nanosecond = 0 := by
  obtain ⟨year, month, dayOf, hour, minute, secondOf, fraction⟩ := WallTime.new_eq_ok found
  have same : wall.date = date := by
    unfold WallTime.date
    rw [year, month, dayOf, Int.toNat_of_nonneg (by omega)]
  have clock : wall.secondOfDay = second := by
    unfold WallTime.secondOfDay
    rw [hour, minute, secondOf]
    exact clock_of_second low high
  rw [wall.naiveUnixSeconds_eq, same, clock, count]
  exact ⟨by ring, fraction⟩

/-- The fields of a wall time that the conversion recomputes. -/
theorem new_of_naiveUnixSeconds (whole : wall.nanosecond = 0) :
    WallTime.new (wall.date.year).toNat wall.date.month wall.date.day
      (wall.secondOfDay / 3600).toNat (wall.secondOfDay % 3600 / 60).toNat
      (wall.secondOfDay % 60).toNat 0 = .ok wall := by
  obtain ⟨-, -, -, hourHigh, minuteHigh, secondHigh, -⟩ := wall.parts_valid
  have year : (wall.date.year).toNat = wall.year := Int.toNat_natCast wall.year
  have hour : (wall.secondOfDay / 3600).toNat = wall.hour := by
    unfold WallTime.secondOfDay
    omega
  have minute : (wall.secondOfDay % 3600 / 60).toNat = wall.minute := by
    unfold WallTime.secondOfDay
    omega
  have second : (wall.secondOfDay % 60).toNat = wall.second := by
    unfold WallTime.secondOfDay
    omega
  rw [year, hour, minute, second, ← whole]
  exact WallTime.new_of_valid wall.valid

/-- The conversion finds nothing where the shift passes the end of the type. -/
theorem unixSecondsToWallTime_past
    (past : MachineInt.i64Max < seconds / Calendar.secondsPerDay + 719468) :
    unixSecondsToWallTime seconds = .error .yearOutOfRange := by
  unfold unixSecondsToWallTime
  dsimp only
  split
  · rfl
  · rename_i fits
    have last : seconds / Calendar.secondsPerDay ≤ MachineInt.i64Max := by
      unfold MachineInt.i64Max
      omega
    have outside := Calendar.civilFromDays_past last past
    rw [if_pos (by omega)]

/-- The conversion finds exactly the wall time without a fraction that has this count. -/
theorem unixSecondsToWallTime_eq_ok :
    unixSecondsToWallTime seconds = .ok wall ↔
      wall.naiveUnixSeconds = seconds ∧ wall.nanosecond = 0 := by
  have parts : 86400 * (seconds / Calendar.secondsPerDay) + seconds % Calendar.secondsPerDay =
      seconds := Int.mul_ediv_add_emod seconds Calendar.secondsPerDay
  have low : 0 ≤ seconds % Calendar.secondsPerDay := Int.emod_nonneg _ (by decide)
  have high : seconds % Calendar.secondsPerDay < 86400 := Int.emod_lt_of_pos _ (by decide)
  have bounds := wall.naiveUnixSeconds_bounds
  by_cases past : MachineInt.i64Max < seconds / Calendar.secondsPerDay + 719468
  · rw [unixSecondsToWallTime_past past]
    unfold MachineInt.i64Max at past
    constructor
    · nofun
    · rintro ⟨naive, -⟩
      omega
  by_cases first : MachineInt.i64Min ≤ seconds / Calendar.secondsPerDay
  · obtain ⟨date, valid, count, civil⟩ := Calendar.civilFromDays_eq first (not_lt.mp past)
    unfold MachineInt.i64Max at past
    unfold MachineInt.i64Min at first
    unfold unixSecondsToWallTime
    dsimp only
    rw [civil]
    generalize seconds / Calendar.secondsPerDay = day at *
    generalize seconds % Calendar.secondsPerDay = second at *
    dsimp only
    rw [Int.toNat_natCast, Int.toNat_natCast]
    constructor
    · intro found
      split_ifs at found with fits narrow fourDigits
      rw [← parts]
      exact found_naiveUnixSeconds day second fourDigits.1 count low high found
    · rintro ⟨naive, whole⟩
      have clock := wall.secondOfDay_bounds
      obtain ⟨⟨yearLow, yearHigh⟩, -⟩ := wall.parts_valid
      rw [wall.naiveUnixSeconds_eq] at naive bounds
      have sameCount : date.count = wall.date.count := by omega
      have same : date = wall.date := Date.count_injective valid wall.date_valid sameCount
      have sameSecond : second = wall.secondOfDay := by omega
      have year : wall.date.year = (wall.year : Int) := rfl
      subst same sameSecond
      rw [if_neg (by omega), if_neg, if_neg (by omega)]
      · exact new_of_naiveUnixSeconds whole
      · rw [not_not, year]
        unfold Foundation.MachineInt.u16Bound
        omega
  · unfold MachineInt.i64Min at first
    unfold unixSecondsToWallTime
    dsimp only
    rw [if_pos (by omega)]
    constructor
    · nofun
    · rintro ⟨naive, -⟩
      omega

end Conversion

/-! ## The interval of counts -/

def firstSecond : WallTime := ⟨1, 1, 1, 0, 0, 0, 0, by decide⟩

def lastSecond : WallTime := ⟨9999, 12, 31, 23, 59, 59, 0, by decide⟩

/-- 1904-01-01T00:00:00, where the seconds of an `mvhd` box start. -/
def quicktimeEpoch : WallTime := ⟨1904, 1, 1, 0, 0, 0, 0, by decide⟩

theorem naiveUnixSeconds_firstSecond : firstSecond.naiveUnixSeconds = -62135596800 := by decide

theorem naiveUnixSeconds_lastSecond : lastSecond.naiveUnixSeconds = 253402300799 := by decide

theorem naiveUnixSeconds_quicktimeEpoch :
    quicktimeEpoch.naiveUnixSeconds = -quicktimeToUnixSeconds := by decide

/-- The counts of the four-digit years are all the seconds from the first to the last one. -/
theorem exists_naiveUnixSeconds_iff (seconds : Int) :
    (∃ wall : WallTime, wall.naiveUnixSeconds = seconds) ↔
      firstSecond.naiveUnixSeconds ≤ seconds ∧ seconds ≤ lastSecond.naiveUnixSeconds := by
  rw [naiveUnixSeconds_firstSecond, naiveUnixSeconds_lastSecond]
  constructor
  · rintro ⟨wall, rfl⟩
    obtain ⟨⟨yearLow, yearHigh⟩, -⟩ := wall.parts_valid
    obtain ⟨countLow, countHigh⟩ := wall.date_valid.count_bounds
    have clock := wall.secondOfDay_bounds
    have first : yearDays 0 ≤ yearDays (wall.date.year - 1) :=
      yearDays_mono (show 0 ≤ (wall.year : Int) - 1 by omega)
    have last : yearDays wall.date.year ≤ yearDays 9999 :=
      yearDays_mono (show (wall.year : Int) ≤ 9999 by omega)
    rw [show yearDays 0 = 0 from rfl] at first
    rw [show yearDays 9999 = 3652059 from rfl] at last
    rw [wall.naiveUnixSeconds_eq]
    unfold Calendar.epochDays
    omega
  · rintro ⟨low, high⟩
    have first : MachineInt.i64Min ≤ seconds / 86400 := by
      unfold MachineInt.i64Min
      omega
    have past : seconds / 86400 + 719468 ≤ MachineInt.i64Max := by
      unfold MachineInt.i64Max
      omega
    obtain ⟨date, valid, count, -⟩ := Calendar.civilFromDays_eq first past
    obtain ⟨countLow, countHigh⟩ := valid.count_bounds
    unfold Calendar.epochDays at count
    have yearLow : 1 ≤ date.year := by
      by_contra early
      have before := yearDays_mono (show date.year ≤ 0 by omega)
      rw [show yearDays 0 = 0 from rfl] at before
      omega
    have yearHigh : date.year ≤ 9999 := by
      by_contra late
      have after := yearDays_mono (show 9999 ≤ date.year - 1 by omega)
      rw [show yearDays 9999 = 3652059 from rfl] at after
      omega
    have year : (date.year.toNat : Int) = date.year := Int.toNat_of_nonneg (by omega)
    obtain ⟨monthLow, monthHigh, dayLow, dayHigh⟩ := valid
    have checked : Calendar.validateComponents date.year.toNat date.month date.day
        (seconds % 86400 / 3600).toNat (seconds % 86400 % 3600 / 60).toNat
        (seconds % 86400 % 60).toNat 0 = .ok () := by
      rw [Calendar.validateComponents_eq_ok, Calendar.daysInMonth_eq, year]
      exact ⟨by omega, ⟨monthLow, monthHigh⟩, ⟨dayLow, dayHigh⟩, by omega, by omega, by omega,
        nanosPerSecond_pos⟩
    have found := found_naiveUnixSeconds (seconds / 86400) (seconds % 86400) yearLow count
      (Int.emod_nonneg seconds (by decide)) (Int.emod_lt_of_pos seconds (by decide))
      (WallTime.new_of_valid checked)
    exact ⟨_, found.1.trans (Int.mul_ediv_add_emod seconds 86400)⟩

/-! ## Movie header seconds -/

theorem parseQuicktimeMvhd_eq {raw : List UInt8} (length : raw.length = 4 ∨ raw.length = 8) :
    parseQuicktimeMvhd raw = (do
      let wall ← unixSecondsToWallTime
        (ByteString.readBigEndian raw + quicktimeEpoch.naiveUnixSeconds)
      .ok (NormalizedTimestamp.quicktimeEpoch wall
        ⟨ByteString.readBigEndian raw + quicktimeEpoch.naiveUnixSeconds, 0,
          nanosPerSecond_pos⟩)) := by
  have bound := ByteString.readBigEndian_lt raw
  have small : (256 : Nat) ^ raw.length ≤ 256 ^ 8 :=
    Nat.pow_le_pow_right (by decide) (by omega)
  have fits : Foundation.MachineInt.checkedI128
      (ByteString.readBigEndian raw - quicktimeToUnixSeconds) =
      some (ByteString.readBigEndian raw + quicktimeEpoch.naiveUnixSeconds) := by
    rw [Foundation.MachineInt.checkedI128_eq_some, naiveUnixSeconds_quicktimeEpoch]
    unfold Foundation.MachineInt.i128Min Foundation.MachineInt.i128Max quicktimeToUnixSeconds
    omega
  unfold parseQuicktimeMvhd
  rw [if_neg (not_not.mpr length)]
  dsimp only
  rw [fits]
  dsimp only [UtcInstant.new]
  rw [dif_pos nanosPerSecond_pos, Outcome.ok_bind]

/-- An `mvhd` value of four or eight bytes is the wall time that many seconds after 1904. -/
theorem parseQuicktimeMvhd_wallTime {raw : List UInt8} {timestamp : NormalizedTimestamp}
    (parsed : parseQuicktimeMvhd raw = .ok timestamp) :
    timestamp.wallTime.naiveUnixSeconds =
        quicktimeEpoch.naiveUnixSeconds + ByteString.readBigEndian raw ∧
      timestamp.wallTime.nanosecond = 0 := by
  have length : raw.length = 4 ∨ raw.length = 8 := by
    by_contra other
    unfold parseQuicktimeMvhd at parsed
    rw [if_pos other] at parsed
    cases parsed
  rw [parseQuicktimeMvhd_eq length, Outcome.bind_eq_ok] at parsed
  obtain ⟨wall, converted, same⟩ := parsed
  cases same
  obtain ⟨naive, whole⟩ := unixSecondsToWallTime_eq_ok.mp converted
  exact ⟨naive.trans (add_comm _ _), whole⟩

theorem parseQuicktimeMvhd_isOk_iff {raw : List UInt8}
    (length : raw.length = 4 ∨ raw.length = 8) :
    (∃ timestamp, parseQuicktimeMvhd raw = .ok timestamp) ↔
      quicktimeEpoch.naiveUnixSeconds + ByteString.readBigEndian raw ≤
        lastSecond.naiveUnixSeconds := by
  have inside := exists_naiveUnixSeconds_iff
    (ByteString.readBigEndian raw + quicktimeEpoch.naiveUnixSeconds)
  rw [parseQuicktimeMvhd_eq length]
  constructor
  · rintro ⟨timestamp, parsed⟩
    obtain ⟨wall, converted, -⟩ := Outcome.bind_eq_ok.mp parsed
    have naive := (unixSecondsToWallTime_eq_ok.mp converted).1
    have last := (inside.mp ⟨wall, naive⟩).2
    omega
  · intro fits
    have first : firstSecond.naiveUnixSeconds ≤
        ByteString.readBigEndian raw + quicktimeEpoch.naiveUnixSeconds := by
      rw [naiveUnixSeconds_firstSecond, naiveUnixSeconds_quicktimeEpoch]
      unfold quicktimeToUnixSeconds
      omega
    obtain ⟨wall, naive⟩ := inside.mpr ⟨first, by omega⟩
    have converted : unixSecondsToWallTime
        (ByteString.readBigEndian raw + quicktimeEpoch.naiveUnixSeconds) =
        .ok wall.wholeSecond := unixSecondsToWallTime_eq_ok.mpr ⟨naive, rfl⟩
    rw [converted]
    exact ⟨_, rfl⟩

/-! ## The calendar as an order isomorphism -/

/-- A wall time on the day after `first`, when that comes before `second`. -/
theorem exists_between {first second : WallTime} (before : first.date.next.Before second.date) :
    ∃ wall : WallTime, wall.date = first.date.next := by
  obtain ⟨⟨-, yearHigh⟩, -⟩ := second.parts_valid
  obtain ⟨⟨yearLow, -⟩, -⟩ := first.parts_valid
  have valid := first.date_valid.next
  have firstYear : first.date.year = (first.year : Int) := rfl
  have secondYear : second.date.year = (second.year : Int) := rfl
  have later : first.date.year ≤ first.date.next.year := by
    unfold Date.next
    split_ifs <;> simp
  have earlier : first.date.next.year ≤ second.date.year := by
    rcases before with lower | ⟨same, -⟩
    · exact lower.le
    · exact same.le
  have year : (first.date.next.year.toNat : Int) = first.date.next.year :=
    Int.toNat_of_nonneg (by omega)
  obtain ⟨monthLow, monthHigh, dayLow, dayHigh⟩ := valid
  refine ⟨⟨first.date.next.year.toNat, first.date.next.month, first.date.next.day, 0, 0, 0, 0, ?_⟩,
    Date.ext year rfl rfl⟩
  rw [Calendar.validateComponents_eq_ok, Calendar.daysInMonth_eq, year]
  exact ⟨by omega, ⟨monthLow, monthHigh⟩, ⟨dayLow, dayHigh⟩, by decide, by decide, by decide,
    nanosPerSecond_pos⟩

/-- What the two conversions promise together. -/
structure CivilOrder : Prop where
  /-- From a wall time and back only the fraction of a second is lost. -/
  backFromWall : ∀ wall : WallTime, ∃ whole, wall.withNanosecond 0 = .ok whole ∧
    unixSecondsToWallTime wall.naiveUnixSeconds = .ok whole
  /-- Every other integer is refused. -/
  accepted : ∀ seconds : Int, (∃ wall, unixSecondsToWallTime seconds = .ok wall) ↔
    ∃ wall : WallTime, wall.naiveUnixSeconds = seconds
  backFromSeconds : ∀ (seconds : Int) (wall : WallTime),
    unixSecondsToWallTime seconds = .ok wall → wall.naiveUnixSeconds = seconds
  increasing : ∀ first second : WallTime,
    first.civilKey < second.civilKey ↔ first.naiveUnixSeconds < second.naiveUnixSeconds
  /-- With no valid date between two dates, the same time of day is one day later. -/
  nextDate : ∀ first second : WallTime, first.secondOfDay = second.secondOfDay →
    first.date.Before second.date →
    (∀ between : WallTime, ¬ (first.date.Before between.date ∧ between.date.Before second.date)) →
    second.naiveUnixSeconds = first.naiveUnixSeconds + 86400
  movieEpoch : ∀ raw timestamp, parseQuicktimeMvhd raw = .ok timestamp →
    ByteString.readBigEndian raw = 0 → timestamp.wallTime = quicktimeEpoch
  movieSeconds : ∀ raw timestamp, parseQuicktimeMvhd raw = .ok timestamp →
    timestamp.wallTime.naiveUnixSeconds =
        quicktimeEpoch.naiveUnixSeconds + ByteString.readBigEndian raw ∧
      timestamp.wallTime.nanosecond = 0
  movieAccepted : ∀ raw : List UInt8, raw.length = 4 ∨ raw.length = 8 →
    ((∃ timestamp, parseQuicktimeMvhd raw = .ok timestamp) ↔
      quicktimeEpoch.naiveUnixSeconds + ByteString.readBigEndian raw ≤
        lastSecond.naiveUnixSeconds)

theorem civilOrder : CivilOrder where
  backFromWall wall := ⟨wall.wholeSecond, wall.withNanosecond_zero,
    unixSecondsToWallTime_eq_ok.mpr ⟨rfl, rfl⟩⟩
  accepted seconds := by
    constructor
    · rintro ⟨wall, converted⟩
      exact ⟨wall, (unixSecondsToWallTime_eq_ok.mp converted).1⟩
    · rintro ⟨wall, naive⟩
      exact ⟨wall.wholeSecond, unixSecondsToWallTime_eq_ok.mpr ⟨naive, rfl⟩⟩
  backFromSeconds _ _ converted := (unixSecondsToWallTime_eq_ok.mp converted).1
  increasing _ _ := WallTime.civilKey_lt_iff_naiveUnixSeconds_lt
  nextDate first second sameClock before adjacent := by
    have next : ¬ (first.date.Before first.date.next ∧ first.date.next.Before second.date) := by
      intro inside
      obtain ⟨wall, same⟩ := exists_between inside.2
      rw [← same] at inside
      exact adjacent wall inside
    have count := first.date_valid.count_of_adjacent second.date_valid before next
    rw [first.naiveUnixSeconds_eq, second.naiveUnixSeconds_eq, count, sameClock]
    ring
  movieEpoch raw timestamp parsed zero := by
    obtain ⟨naive, whole⟩ := parseQuicktimeMvhd_wallTime parsed
    rw [zero, Nat.cast_zero, add_zero] at naive
    have found := unixSecondsToWallTime_eq_ok.mpr ⟨naive, whole⟩
    have epoch := unixSecondsToWallTime_eq_ok.mpr ⟨rfl, (rfl : quicktimeEpoch.nanosecond = 0)⟩
    exact Except.ok.inj (found.symm.trans epoch)
  movieSeconds _ _ parsed := parseQuicktimeMvhd_wallTime parsed
  movieAccepted _ length := parseQuicktimeMvhd_isOk_iff length

end Parse

end Guiying.Time
