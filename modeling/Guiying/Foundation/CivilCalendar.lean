import Mathlib.Algebra.Order.Ring.Int
import Mathlib.Order.Basic
import Mathlib.Tactic.IntervalCases
import Mathlib.Tactic.Ring

/-!
# The Gregorian day count

Years are integers, months and days natural numbers. The days before a year and
before a month are sums of lengths; the count of a date is strictly increasing in
the order of dates and grows by one from each date to the next.
-/

namespace Guiying.Foundation.CivilCalendar

def Leap (year : Int) : Prop := year % 4 = 0 ∧ (year % 100 ≠ 0 ∨ year % 400 = 0)

instance (year : Int) : Decidable (Leap year) :=
  inferInstanceAs (Decidable (_ ∧ _))

def monthLength (long : Bool) : Nat → Nat
  | 1 | 3 | 5 | 7 | 8 | 10 | 12 => 31
  | 4 | 6 | 9 | 11 => 30
  | 2 => if long then 29 else 28
  | _ => 0

/-- The days of a year before a month. -/
def monthStart (long : Bool) : Nat → Nat
  | 0 => 0
  | month + 1 => monthStart long month + monthLength long month

/-- The days of the years up to a year, counted from the end of the year zero. -/
def yearDays (year : Int) : Int := 365 * year + year / 4 - year / 100 + year / 400

@[ext] structure Date where
  year : Int
  month : Nat
  day : Nat
  deriving DecidableEq

namespace Date

def Valid (date : Date) : Prop :=
  1 ≤ date.month ∧ date.month ≤ 12 ∧ 1 ≤ date.day ∧
    date.day ≤ monthLength (decide (Leap date.year)) date.month

/-- The order of dates: by year, then month, then day. -/
def Before (first second : Date) : Prop :=
  first.year < second.year ∨ first.year = second.year ∧
    (first.month < second.month ∨ first.month = second.month ∧ first.day < second.day)

/-- The days from the first day of the year one. -/
def count (date : Date) : Int :=
  yearDays (date.year - 1) + monthStart (decide (Leap date.year)) date.month + date.day - 1

end Date

variable {first second date : Date}

/-! ## Lengths -/

theorem yearDays_succ (year : Int) :
    yearDays year = yearDays (year - 1) + monthStart (decide (Leap year)) 13 := by
  by_cases leap : Leap year
  · have length : monthStart (decide (Leap year)) 13 = 366 := by
      rw [decide_eq_true leap]
      rfl
    rw [length]
    obtain ⟨four, other⟩ := leap
    unfold yearDays
    omega
  · have length : monthStart (decide (Leap year)) 13 = 365 := by
      rw [decide_eq_false leap]
      rfl
    rw [length]
    unfold Leap at leap
    unfold yearDays
    omega

theorem yearDays_mono {early late : Int} (le : early ≤ late) : yearDays early ≤ yearDays late := by
  unfold yearDays
  omega

theorem monthStart_mono (long : Bool) {early late : Nat} (le : early ≤ late) :
    monthStart long early ≤ monthStart long late := by
  induction le with
  | refl => exact Nat.le_refl _
  | step _ ih => exact ih.trans (Nat.le_add_right _ _)

/-- A month ends before every later one starts. -/
theorem monthStart_add_length_le (long : Bool) {early late : Nat} (lt : early < late) :
    monthStart long early + monthLength long early ≤ monthStart long late :=
  monthStart_mono long lt

/-! ## The order of the counts -/

theorem Date.Valid.count_bounds (valid : date.Valid) :
    yearDays (date.year - 1) ≤ date.count ∧ date.count < yearDays date.year := by
  obtain ⟨_, monthHigh, dayLow, dayHigh⟩ := valid
  have ends := monthStart_add_length_le (decide (Leap date.year)) (show date.month < 13 by omega)
  rw [yearDays_succ date.year]
  unfold count
  constructor <;> omega

theorem Date.Before.count_lt (before : first.Before second) (firstValid : first.Valid)
    (secondValid : second.Valid) : first.count < second.count := by
  rcases before with year | ⟨sameYear, month | ⟨sameMonth, day⟩⟩
  · have between := yearDays_mono (show first.year ≤ second.year - 1 by omega)
    exact firstValid.count_bounds.2.trans_le (between.trans secondValid.count_bounds.1)
  · obtain ⟨_, _, _, dayHigh⟩ := firstValid
    obtain ⟨_, _, dayLow, _⟩ := secondValid
    have ends := monthStart_add_length_le (decide (Leap second.year)) month
    unfold count
    rw [sameYear] at dayHigh ⊢
    omega
  · unfold count
    rw [sameYear, sameMonth]
    omega

theorem Date.before_trichotomy (first second : Date) :
    first.Before second ∨ first = second ∨ second.Before first := by
  unfold Before
  by_cases same : first = second
  · exact .inr (.inl same)
  · have parts : ¬ (first.year = second.year ∧ first.month = second.month ∧
        first.day = second.day) := fun equal => same (Date.ext equal.1 equal.2.1 equal.2.2)
    omega

theorem Date.before_iff (firstValid : first.Valid) (secondValid : second.Valid) :
    first.Before second ↔ first.count < second.count := by
  refine ⟨fun before => before.count_lt firstValid secondValid, fun lower => ?_⟩
  rcases before_trichotomy first second with before | rfl | after
  · exact before
  · exact absurd lower (lt_irrefl _)
  · exact absurd (after.count_lt secondValid firstValid) lower.asymm

theorem Date.count_injective (firstValid : first.Valid) (secondValid : second.Valid)
    (same : first.count = second.count) : first = second := by
  rcases before_trichotomy first second with before | equal | after
  · exact absurd same (before.count_lt firstValid secondValid).ne
  · exact equal
  · exact absurd same (after.count_lt secondValid firstValid).ne'

/-! ## The next date -/

/-- The day after a date: the next day of the month, or the first of the next month or year. -/
def Date.next (date : Date) : Date :=
  if date.day < monthLength (decide (Leap date.year)) date.month then
    { date with day := date.day + 1 }
  else if date.month < 12 then ⟨date.year, date.month + 1, 1⟩
  else ⟨date.year + 1, 1, 1⟩

theorem one_le_monthLength (long : Bool) {month : Nat} (low : 1 ≤ month) (high : month ≤ 12) :
    1 ≤ monthLength long month := by
  cases long <;> interval_cases month <;> decide

theorem Date.Valid.next (valid : date.Valid) : date.next.Valid := by
  obtain ⟨monthLow, monthHigh, dayLow, dayHigh⟩ := valid
  unfold Date.next
  split
  · rename_i inside
    exact ⟨monthLow, monthHigh, Nat.le_add_left _ _, inside⟩
  · split
    · rename_i early
      exact ⟨Nat.le_add_left _ _, early, le_refl _,
        one_le_monthLength _ (Nat.le_add_left _ _) early⟩
    · have december : 1 ≤ 12 := by decide
      exact ⟨le_refl _, december, le_refl _, one_le_monthLength _ (le_refl _) december⟩

theorem Date.Valid.count_next (valid : date.Valid) : date.next.count = date.count + 1 := by
  obtain ⟨monthLow, monthHigh, dayLow, dayHigh⟩ := valid
  unfold Date.next
  split
  · unfold count
    push_cast
    ring
  · rename_i last
    have full : date.day = monthLength (decide (Leap date.year)) date.month := by omega
    split
    · unfold count
      dsimp only [monthStart]
      rw [full]
      push_cast
      ring
    · rename_i december
      have month : date.month = 12 := by omega
      have year := yearDays_succ date.year
      have first (long : Bool) : monthStart long 1 = 0 := rfl
      have whole (long : Bool) : monthStart long 13 = monthStart long 12 + monthLength long 12 := rfl
      rw [whole] at year
      rw [month] at full
      unfold count
      dsimp only
      rw [first, full, month, add_sub_cancel_right, year]
      push_cast
      ring

/-- Between a date and the next one there is no other. -/
theorem Date.Valid.count_of_adjacent (firstValid : first.Valid) (secondValid : second.Valid)
    (before : first.Before second)
    (adjacent : ¬ (first.Before first.next ∧ first.next.Before second)) :
    second.count = first.count + 1 := by
  have lower := before.count_lt firstValid secondValid
  have next := firstValid.count_next
  have step : first.Before first.next :=
    (before_iff firstValid firstValid.next).mpr (by omega)
  have none_ : ¬ first.next.count < second.count := fun further =>
    adjacent ⟨step, (before_iff firstValid.next secondValid).mpr further⟩
  omega

end Guiying.Foundation.CivilCalendar
