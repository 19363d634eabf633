import Mathlib.Data.Int.Order.Basic
import Guiying.Foundation.MachineInt

/-!
# The proleptic Gregorian calendar

Component validation and the two day-count conversions. Division truncates
toward zero, as in the source; `era` corrects it for negative operands. The day
counts are of type `i64`, whose ends the shift by the days before the epoch can
pass; a build with overflow checks stops there.
-/

namespace Guiying.Time

open Guiying.Foundation.MachineInt

def nanosPerSecond : Nat := 1000000000

theorem nanosPerSecond_pos : 0 < nanosPerSecond := by decide

/-- Strict timestamp parsing failure. -/
inductive TimestampParseError where
  | empty
  | invalidEncoding
  | invalidSyntax
  | yearOutOfRange
  | monthOutOfRange
  | dayOutOfRange
  | hourOutOfRange
  | minuteOutOfRange
  | secondOutOfRange
  | nanosecondOutOfRange
  | subsecondOutOfRange
  | offsetOutOfRange
  | unknownNegativeZeroOffset
  | precisionOutOfRange
  | unsupportedBinaryLength
  | arithmeticOverflow
  deriving DecidableEq, Repr

namespace Calendar

def secondsPerDay : Int := 86400

def isLeapYear (year : Nat) : Bool :=
  year % 4 == 0 && (year % 100 != 0 || year % 400 == 0)

def daysInMonth (year month : Nat) : Nat :=
  match month with
  | 1 | 3 | 5 | 7 | 8 | 10 | 12 => 31
  | 4 | 6 | 9 | 11 => 30
  | 2 => if isLeapYear year then 29 else 28
  | _ => 0

def validateComponents (year month day hour minute second nanosecond : Nat) :
    Except TimestampParseError Unit :=
  if ¬ (1 ≤ year ∧ year ≤ 9999) then .error .yearOutOfRange
  else if ¬ (1 ≤ month ∧ month ≤ 12) then .error .monthOutOfRange
  else if day = 0 ∨ day > daysInMonth year month then .error .dayOutOfRange
  else if hour > 23 then .error .hourOutOfRange
  else if minute > 59 then .error .minuteOutOfRange
  else if second > 59 then .error .secondOutOfRange
  else if nanosecond ≥ nanosPerSecond then .error .nanosecondOutOfRange
  else .ok ()

theorem daysInMonth_le (year month : Nat) : daysInMonth year month ≤ 31 := by
  unfold daysInMonth
  split <;> (try split) <;> omega

theorem validateComponents_eq_ok {year month day hour minute second nanosecond : Nat} :
    validateComponents year month day hour minute second nanosecond = .ok () ↔
      (1 ≤ year ∧ year ≤ 9999) ∧ (1 ≤ month ∧ month ≤ 12) ∧
      (0 < day ∧ day ≤ daysInMonth year month) ∧ hour ≤ 23 ∧ minute ≤ 59 ∧ second ≤ 59 ∧
      nanosecond < nanosPerSecond := by
  unfold validateComponents
  split_ifs <;> simp <;> omega

def daysFromCivil (year month day : Int) : Int :=
  let adjustedYear := year - (if month ≤ 2 then 1 else 0)
  let era := (if adjustedYear ≥ 0 then adjustedYear else adjustedYear - 399).tdiv 400
  let yearOfEra := adjustedYear - era * 400
  let adjustedMonth := month + (if month > 2 then -3 else 9)
  let dayOfYear := (153 * adjustedMonth + 2).tdiv 5 + day - 1
  let dayOfEra := yearOfEra * 365 + yearOfEra.tdiv 4 - yearOfEra.tdiv 100 + dayOfYear
  era * 146097 + dayOfEra - 719468

def civilFromDays (days : Int) : Int × Int × Int :=
  let shifted := wrapI64 (days + 719468)
  let era := (if shifted ≥ 0 then shifted else wrapI64 (shifted - 146096)).tdiv 146097
  let dayOfEra := wrapI64 (shifted - era * 146097)
  let yearOfEra :=
    (dayOfEra - dayOfEra.tdiv 1460 + dayOfEra.tdiv 36524 - dayOfEra.tdiv 146096).tdiv 365
  let year := yearOfEra + era * 400
  let dayOfYear := dayOfEra - (365 * yearOfEra + yearOfEra.tdiv 4 - yearOfEra.tdiv 100)
  let monthPrime := (5 * dayOfYear + 2).tdiv 153
  let day := dayOfYear - (153 * monthPrime + 2).tdiv 5 + 1
  let month := monthPrime + (if monthPrime < 10 then 3 else -9)
  (year + (if month ≤ 2 then 1 else 0), month, day)

/-- Four-digit years stay within three million days of the epoch. -/
theorem daysFromCivil_bounds {year month day : Int} (yearLow : 1 ≤ year) (yearHigh : year ≤ 9999)
    (monthLow : 1 ≤ month) (monthHigh : month ≤ 12) (dayLow : 1 ≤ day) (dayHigh : day ≤ 31) :
    -800000 ≤ daysFromCivil year month day ∧ daysFromCivil year month day ≤ 3000000 := by
  unfold daysFromCivil
  have shape : ∀ adjustedYear adjustedMonth : Int, 0 ≤ adjustedYear → adjustedYear ≤ 9999 →
      0 ≤ adjustedMonth → adjustedMonth ≤ 11 →
      -800000 ≤ adjustedYear.tdiv 400 * 146097 +
        ((adjustedYear - adjustedYear.tdiv 400 * 400) * 365 +
          (adjustedYear - adjustedYear.tdiv 400 * 400).tdiv 4 -
          (adjustedYear - adjustedYear.tdiv 400 * 400).tdiv 100 +
          ((153 * adjustedMonth + 2).tdiv 5 + day - 1)) - 719468 ∧
      adjustedYear.tdiv 400 * 146097 +
        ((adjustedYear - adjustedYear.tdiv 400 * 400) * 365 +
          (adjustedYear - adjustedYear.tdiv 400 * 400).tdiv 4 -
          (adjustedYear - adjustedYear.tdiv 400 * 400).tdiv 100 +
          ((153 * adjustedMonth + 2).tdiv 5 + day - 1)) - 719468 ≤ 3000000 := by
    intro adjustedYear adjustedMonth yearNonneg yearBound monthNonneg monthBound
    have era : adjustedYear.tdiv 400 = adjustedYear / 400 := Int.tdiv_eq_ediv_of_nonneg yearNonneg
    have inEra : 0 ≤ adjustedYear - adjustedYear / 400 * 400 := by omega
    rw [era, Int.tdiv_eq_ediv_of_nonneg inEra, Int.tdiv_eq_ediv_of_nonneg inEra,
      Int.tdiv_eq_ediv_of_nonneg (by omega : 0 ≤ 153 * adjustedMonth + 2)]
    omega
  by_cases early : month ≤ 2
  · have late : ¬ month > 2 := by omega
    simp only [early, late, if_true, if_false, show year - 1 ≥ 0 by omega]
    exact shape (year - 1) (month + 9) (by omega) (by omega) (by omega) (by omega)
  · have late : month > 2 := by omega
    simp only [early, late, if_true, if_false, Int.sub_zero, show year ≥ 0 by omega]
    exact shape year (month + -3) (by omega) (by omega) (by omega) (by omega)

end Calendar

end Guiying.Time
