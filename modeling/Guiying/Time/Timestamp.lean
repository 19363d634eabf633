import Guiying.Foundation.MachineInt
import Guiying.Time.Calendar
import Mathlib.Data.List.Lex

/-!
# Normalized timestamps

Wall times, UTC instants, offsets and precisions carry the check their
constructor makes. A normalized timestamp carries the agreement of its parts: a
floating value has neither offset nor instant, an explicit value has the instant
its wall time and offset denote, and an `mvhd` value is assumed to be UTC.
-/

namespace Guiying.Time

open Guiying.Foundation.MachineInt

/-- A calendar date and wall-clock time with no implicit timezone. -/
structure WallTime where
  year : Nat
  month : Nat
  day : Nat
  hour : Nat
  minute : Nat
  second : Nat
  nanosecond : Nat
  valid : Calendar.validateComponents year month day hour minute second nanosecond = .ok ()

namespace WallTime

def new (year month day hour minute second nanosecond : Nat) :
    Except TimestampParseError WallTime :=
  match valid : Calendar.validateComponents year month day hour minute second nanosecond with
  | .ok () => .ok ⟨year, month, day, hour, minute, second, nanosecond, valid⟩
  | .error error => .error error

def withNanosecond (wall : WallTime) (nanosecond : Nat) : Except TimestampParseError WallTime :=
  new wall.year wall.month wall.day wall.hour wall.minute wall.second nanosecond

/-- `calendar::wall_time_to_unix_seconds`. -/
def naiveUnixSeconds (wall : WallTime) : Int :=
  Calendar.daysFromCivil wall.year wall.month wall.day * Calendar.secondsPerDay +
    wall.hour * 3600 + wall.minute * 60 + wall.second

/-- The fields in declaration order, which is the order wall times are compared in. -/
def orderKey (wall : WallTime) : List Int :=
  [wall.year, wall.month, wall.day, wall.hour, wall.minute, wall.second, wall.nanosecond]

theorem orderKey_injective : Function.Injective orderKey := by
  rintro ⟨y, mo, d, h, mi, s, n, _⟩ ⟨y', mo', d', h', mi', s', n', _⟩ same
  simp only [orderKey, List.cons.injEq, Int.natCast_inj] at same
  obtain ⟨rfl, rfl, rfl, rfl, rfl, rfl, rfl, _⟩ := same
  rfl

instance : LinearOrder WallTime := LinearOrder.lift' orderKey orderKey_injective

theorem naiveUnixSeconds_bounds (wall : WallTime) :
    -10 ^ 11 ≤ wall.naiveUnixSeconds ∧ wall.naiveUnixSeconds ≤ 10 ^ 12 := by
  obtain ⟨year, month, day, hour, minute, second, nanosecond, valid⟩ := wall
  obtain ⟨⟨y0, y1⟩, ⟨m0, m1⟩, ⟨d0, d1⟩, h1, mi1, s1, _⟩ :=
    Calendar.validateComponents_eq_ok.mp valid
  have monthDays := Calendar.daysInMonth_le year month
  have days : -800000 ≤ Calendar.daysFromCivil year month day ∧
      Calendar.daysFromCivil year month day ≤ 3000000 :=
    Calendar.daysFromCivil_bounds (by omega) (by omega) (by omega) (by omega) (by omega) (by omega)
  simp only [naiveUnixSeconds, Calendar.secondsPerDay]
  omega

theorem nanosecond_lt (wall : WallTime) : wall.nanosecond < nanosPerSecond :=
  (Calendar.validateComponents_eq_ok.mp wall.valid).2.2.2.2.2.2

theorem new_eq_ok {year month day hour minute second nanosecond : Nat} {wall : WallTime}
    (built : new year month day hour minute second nanosecond = .ok wall) :
    wall.year = year ∧ wall.month = month ∧ wall.day = day ∧ wall.hour = hour ∧
      wall.minute = minute ∧ wall.second = second ∧ wall.nanosecond = nanosecond := by
  unfold new at built
  split at built
  · cases built
    exact ⟨rfl, rfl, rfl, rfl, rfl, rfl, rfl⟩
  · cases built

end WallTime

/-- A UTC instant on a scale wider than the database nanosecond range. -/
structure UtcInstant where
  unixSeconds : Int
  nanosecond : Nat
  nanosecond_lt : nanosecond < nanosPerSecond

namespace UtcInstant

def new (unixSeconds : Int) (nanosecond : Nat) : Except TimestampParseError UtcInstant :=
  if h : nanosecond < nanosPerSecond then .ok ⟨unixSeconds, nanosecond, h⟩
  else .error .nanosecondOutOfRange

/-- The total in nanoseconds, when each step of the computation fits `i128`. -/
def totalNanoseconds (instant : UtcInstant) : Option Int := do
  let whole ← checkedI128 (instant.unixSeconds * nanosPerSecond)
  checkedI128 (whole + instant.nanosecond)

/-- The total in nanoseconds without the machine bound. -/
def exactNanoseconds (instant : UtcInstant) : Int :=
  instant.unixSeconds * nanosPerSecond + instant.nanosecond

def orderKey (instant : UtcInstant) : List Int := [instant.unixSeconds, instant.nanosecond]

theorem length_orderKey (instant : UtcInstant) : instant.orderKey.length = 2 := rfl

theorem orderKey_injective : Function.Injective orderKey := by
  rintro ⟨seconds, nanos, _⟩ ⟨seconds', nanos', _⟩ same
  simp only [orderKey, List.cons.injEq, Int.natCast_inj] at same
  obtain ⟨rfl, rfl, _⟩ := same
  rfl

instance : LinearOrder UtcInstant := LinearOrder.lift' orderKey orderKey_injective

theorem totalNanoseconds_eq_some {instant : UtcInstant} {total : Int}
    (found : instant.totalNanoseconds = some total) : total = instant.exactNanoseconds := by
  unfold totalNanoseconds at found
  rw [Option.bind_eq_bind, Option.bind_eq_some_iff] at found
  obtain ⟨whole, hwhole, hsum⟩ := found
  obtain ⟨_, rfl⟩ := checkedI128_eq_some.mp hwhole
  obtain ⟨_, rfl⟩ := checkedI128_eq_some.mp hsum
  rfl

theorem totalNanoseconds_of_bounds {instant : UtcInstant} (low : -10 ^ 20 ≤ instant.unixSeconds)
    (high : instant.unixSeconds ≤ 10 ^ 20) :
    instant.totalNanoseconds = some instant.exactNanoseconds := by
  have nanos := instant.nanosecond_lt
  unfold nanosPerSecond at nanos
  unfold totalNanoseconds exactNanoseconds
  rw [Option.bind_eq_bind, Option.bind_eq_some_iff]
  refine ⟨instant.unixSeconds * nanosPerSecond, checkedI128_eq_some.mpr ⟨?_, rfl⟩,
    checkedI128_eq_some.mpr ⟨?_, rfl⟩⟩ <;>
    simp only [i128Min, i128Max, nanosPerSecond] <;> omega

end UtcInstant

/-- A UTC offset in whole minutes, in the conservative range of fourteen hours. -/
structure UtcOffset where
  minutes : Int
  inRange : -840 ≤ minutes ∧ minutes ≤ 840

namespace UtcOffset

def fromMinutes (minutes : Int) : Except TimestampParseError UtcOffset :=
  if h : -840 ≤ minutes ∧ minutes ≤ 840 then .ok ⟨minutes, h⟩ else .error .offsetOutOfRange

def zero : UtcOffset := ⟨0, by decide⟩

theorem minutes_injective : Function.Injective minutes := by
  rintro ⟨left, _⟩ ⟨right, _⟩ same
  cases same
  rfl

instance : LinearOrder UtcOffset := LinearOrder.lift' minutes minutes_injective

def orderKey (offset : UtcOffset) : List Int := [offset.minutes]

theorem length_orderKey (offset : UtcOffset) : offset.orderKey.length = 1 := rfl

theorem orderKey_injective : Function.Injective orderKey := fun _ _ same =>
  minutes_injective (List.cons.inj same).1

end UtcOffset

/-- How the UTC offset was obtained. -/
inductive OffsetKind where
  | explicit
  | quickTimeEpochAssumedUtc
  | missing
  deriving Repr

instance : LinearOrder OffsetKind :=
  LinearOrder.lift' OffsetKind.ctorIdx fun left right same => by
    cases left <;> cases right <;> first | rfl | cases same

/-- Source resolution, from one nanosecond through one second. -/
structure TimePrecision where
  nanoseconds : Nat
  inRange : nanoseconds ≠ 0 ∧ nanoseconds ≤ nanosPerSecond

namespace TimePrecision

def fromNanoseconds (nanoseconds : Nat) : Except TimestampParseError TimePrecision :=
  if h : nanoseconds ≠ 0 ∧ nanoseconds ≤ nanosPerSecond then .ok ⟨nanoseconds, h⟩
  else .error .precisionOutOfRange

def seconds : TimePrecision := ⟨nanosPerSecond, by decide⟩

theorem nanoseconds_injective : Function.Injective nanoseconds := by
  rintro ⟨left, _⟩ ⟨right, _⟩ same
  cases same
  rfl

instance : LinearOrder TimePrecision := LinearOrder.lift' nanoseconds nanoseconds_injective

end TimePrecision

/-- The agreement between the parts of a normalized timestamp. -/
def TimestampConsistent (wall : WallTime) (offset : Option UtcOffset)
    (instant : Option UtcInstant) : OffsetKind → Prop
  | .missing => offset = none ∧ instant = none
  | .explicit => ∃ minutes value, offset = some minutes ∧ instant = some value ∧
      value.unixSeconds = wall.naiveUnixSeconds - minutes.minutes * 60 ∧
      value.nanosecond = wall.nanosecond
  | .quickTimeEpochAssumedUtc => ∃ value, offset = some UtcOffset.zero ∧ instant = some value

/-- Strictly normalized timestamp that keeps floating-time semantics. -/
structure NormalizedTimestamp where
  wallTime : WallTime
  utcOffset : Option UtcOffset
  utcInstant : Option UtcInstant
  offsetKind : OffsetKind
  precision : TimePrecision
  consistent : TimestampConsistent wallTime utcOffset utcInstant offsetKind

namespace NormalizedTimestamp

def floating (wall : WallTime) (precision : TimePrecision) : NormalizedTimestamp :=
  ⟨wall, none, none, .missing, precision, rfl, rfl⟩

/-- `checked_sub` never leaves `i128` here: see `explicit_eq_ok`. -/
def explicit (wall : WallTime) (offset : UtcOffset) (precision : TimePrecision) :
    Except TimestampParseError NormalizedTimestamp :=
  match found : checkedI128 (wall.naiveUnixSeconds - offset.minutes * 60) with
  | none => .error .arithmeticOverflow
  | some utcSeconds =>
      let instant : UtcInstant := ⟨utcSeconds, wall.nanosecond, wall.nanosecond_lt⟩
      .ok ⟨wall, some offset, some instant, .explicit, precision,
        offset, instant, rfl, rfl, (checkedI128_eq_some.mp found).2, rfl⟩

def quicktimeEpoch (wall : WallTime) (instant : UtcInstant) : NormalizedTimestamp :=
  ⟨wall, some .zero, some instant, .quickTimeEpochAssumedUtc, .seconds, instant, rfl, rfl⟩

/-- The order key of an optional part: `none` comes before every value. -/
def optionKey {α : Type*} (key : α → List Int) : Option α → List Int
  | none => [0]
  | some value => 1 :: key value

/-- The fields in declaration order, which is the order timestamps are compared in. -/
def orderKey (timestamp : NormalizedTimestamp) : List Int :=
  timestamp.wallTime.orderKey ++ optionKey UtcOffset.orderKey timestamp.utcOffset ++
    optionKey UtcInstant.orderKey timestamp.utcInstant ++
    [(timestamp.offsetKind.ctorIdx : Int), timestamp.precision.nanoseconds]

theorem ext_parts {left right : NormalizedTimestamp} (wall : left.wallTime = right.wallTime)
    (offset : left.utcOffset = right.utcOffset) (instant : left.utcInstant = right.utcInstant)
    (kind : left.offsetKind = right.offsetKind) (precision : left.precision = right.precision) :
    left = right := by
  cases left
  cases right
  cases wall
  cases offset
  cases instant
  cases kind
  cases precision
  rfl

theorem optionKey_append_inj {α : Type*} {key : α → List Int} {width : Nat}
    (fixed : ∀ value, (key value).length = width) (injective : Function.Injective key)
    {left right : Option α} {leftRest rightRest : List Int}
    (same : optionKey key left ++ leftRest = optionKey key right ++ rightRest) :
    left = right ∧ leftRest = rightRest := by
  cases left with
  | none =>
      cases right with
      | none => exact ⟨rfl, by simpa [optionKey] using same⟩
      | some value => simp [optionKey] at same
  | some value =>
      cases right with
      | none => simp [optionKey] at same
      | some other =>
          rw [optionKey, optionKey, List.cons_append, List.cons_append, List.cons.injEq] at same
          have parts := List.append_inj same.2 ((fixed value).trans (fixed other).symm)
          exact ⟨congrArg some (injective parts.1), parts.2⟩

theorem orderKey_injective : Function.Injective orderKey := by
  intro left right same
  unfold orderKey at same
  rw [List.append_assoc, List.append_assoc, List.append_assoc, List.append_assoc] at same
  obtain ⟨walls, afterWall⟩ := List.append_inj same rfl
  obtain ⟨offsets, afterOffset⟩ := optionKey_append_inj UtcOffset.length_orderKey
    UtcOffset.orderKey_injective afterWall
  obtain ⟨instants, afterInstant⟩ := optionKey_append_inj UtcInstant.length_orderKey
    UtcInstant.orderKey_injective afterOffset
  simp only [List.cons.injEq, Int.natCast_inj, and_true] at afterInstant
  refine ext_parts (WallTime.orderKey_injective walls) offsets instants ?_
    (TimePrecision.nanoseconds_injective afterInstant.2)
  have kinds := afterInstant.1
  cases hleft : left.offsetKind <;> cases hright : right.offsetKind <;>
    first | rfl | (rw [hleft, hright] at kinds; cases kinds)

instance : LinearOrder NormalizedTimestamp := LinearOrder.lift' orderKey orderKey_injective

theorem explicit_eq_ok (wall : WallTime) (offset : UtcOffset) (precision : TimePrecision) :
    ∃ timestamp, explicit wall offset precision = .ok timestamp ∧
      timestamp.wallTime = wall ∧ timestamp.utcOffset = some offset ∧
      timestamp.offsetKind = .explicit ∧ timestamp.precision = precision ∧
      timestamp.utcInstant = some ⟨wall.naiveUnixSeconds - offset.minutes * 60, wall.nanosecond,
        wall.nanosecond_lt⟩ := by
  have bounds := wall.naiveUnixSeconds_bounds
  have range := offset.inRange
  have fits : checkedI128 (wall.naiveUnixSeconds - offset.minutes * 60) =
      some (wall.naiveUnixSeconds - offset.minutes * 60) := by
    rw [checkedI128_eq_some, i128Min, i128Max]
    omega
  unfold explicit
  split
  · rename_i missing
    rw [fits] at missing
    cases missing
  · rename_i utcSeconds found
    rw [fits] at found
    cases found
    exact ⟨_, rfl, rfl, rfl, rfl, rfl, rfl⟩

/-- The instant of a timestamp with an explicit offset stays within the `i128` nanosecond scale. -/
theorem explicit_total {timestamp : NormalizedTimestamp} {instant : UtcInstant}
    (kind : timestamp.offsetKind = .explicit) (found : timestamp.utcInstant = some instant) :
    instant.totalNanoseconds = some instant.exactNanoseconds := by
  have agree := timestamp.consistent
  rw [kind] at agree
  obtain ⟨offset, value, _, hvalue, hseconds, _⟩ := agree
  rw [found, Option.some.injEq] at hvalue
  subst hvalue
  have bounds := timestamp.wallTime.naiveUnixSeconds_bounds
  have range := offset.inRange
  exact UtcInstant.totalNanoseconds_of_bounds (by omega) (by omega)

end NormalizedTimestamp

end Guiying.Time
