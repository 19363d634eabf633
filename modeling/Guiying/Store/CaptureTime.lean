import Guiying.Store.Error
import Guiying.Time.Calendar

/-!
# Stored capture times

The store checks a normalized time again, with a calendar and a decimal reader of
its own. A value that is built here has passed that check.
-/

namespace Guiying.Store

open Guiying.Foundation Guiying.Foundation.MachineInt

/-! ## Wall times -/

def validateWallTime (year month day hour minute second nanosecond : Nat) : Result Unit :=
  let leap := year % 4 == 0 && (year % 100 != 0 || year % 400 == 0)
  let days :=
    match month with
    | 1 | 3 | 5 | 7 | 8 | 10 | 12 => 31
    | 4 | 6 | 9 | 11 => 30
    | 2 => if leap then 29 else 28
    | _ => 0
  if ¬ (1 ≤ year ∧ year ≤ 9999) ∨ days = 0 ∨ day = 0 ∨ day > days ∨ hour > 23 ∨ minute > 59 ∨
      second > 59 ∨ nanosecond ≥ 1000000000 then
    .error (.invalidInput "wall_time" "invalid proleptic-Gregorian wall time")
  else .ok ()

/-- The store's calendar is the policy's. -/
theorem validateWallTime_eq_ok {year month day hour minute second nanosecond : Nat} :
    validateWallTime year month day hour minute second nanosecond = .ok () ↔
      Time.Calendar.validateComponents year month day hour minute second nanosecond = .ok () := by
  have days : validateWallTime year month day hour minute second nanosecond =
      if ¬ (1 ≤ year ∧ year ≤ 9999) ∨ Time.Calendar.daysInMonth year month = 0 ∨ day = 0 ∨
        day > Time.Calendar.daysInMonth year month ∨ hour > 23 ∨ minute > 59 ∨ second > 59 ∨
        nanosecond ≥ 1000000000 then
        .error (.invalidInput "wall_time" "invalid proleptic-Gregorian wall time")
      else .ok () := rfl
  have months : 0 < Time.Calendar.daysInMonth year month → 1 ≤ month ∧ month ≤ 12 := by
    unfold Time.Calendar.daysInMonth
    split <;> omega
  rw [days, Time.Calendar.validateComponents_eq_ok]
  have nanos : Time.nanosPerSecond = 1000000000 := rfl
  constructor
  · intro valid
    split at valid
    · cases valid
    · omega
  · intro valid
    rw [if_neg (by omega)]

structure CaptureWallTime where
  year : Nat
  month : Nat
  day : Nat
  hour : Nat
  minute : Nat
  second : Nat
  nanosecond : Nat
  valid : validateWallTime year month day hour minute second nanosecond = .ok ()

def CaptureWallTime.new (year month day hour minute second nanosecond : Nat) :
    Result CaptureWallTime :=
  match valid : validateWallTime year month day hour minute second nanosecond with
  | .ok () => .ok ⟨year, month, day, hour, minute, second, nanosecond, valid⟩
  | .error error => .error error

def wallUnixSeconds (value : CaptureWallTime) : Int :=
  let year : Int := value.year
  let month : Int := value.month
  let day : Int := value.day
  let adjustedYear := year - (if month ≤ 2 then 1 else 0)
  let era := (if adjustedYear ≥ 0 then adjustedYear else adjustedYear - 399).tdiv 400
  let yearOfEra := adjustedYear - era * 400
  let adjustedMonth := month + (if month > 2 then -3 else 9)
  let dayOfYear := (153 * adjustedMonth + 2).tdiv 5 + day - 1
  let dayOfEra := yearOfEra * 365 + yearOfEra.tdiv 4 - yearOfEra.tdiv 100 + dayOfYear
  let days := era * 146097 + dayOfEra - 719468
  days * 86400 + value.hour * 3600 + value.minute * 60 + value.second

theorem wallUnixSeconds_eq (value : CaptureWallTime) : wallUnixSeconds value =
    Time.Calendar.daysFromCivil value.year value.month value.day * Time.Calendar.secondsPerDay +
      value.hour * 3600 + value.minute * 60 + value.second := rfl

theorem wallUnixSeconds_bounds (value : CaptureWallTime) :
    -10 ^ 12 ≤ wallUnixSeconds value ∧ wallUnixSeconds value ≤ 10 ^ 12 := by
  obtain ⟨⟨y0, y1⟩, ⟨m0, m1⟩, ⟨d0, d1⟩, h1, mi1, s1, _⟩ :=
    Time.Calendar.validateComponents_eq_ok.mp (validateWallTime_eq_ok.mp value.valid)
  have monthDays := Time.Calendar.daysInMonth_le value.year value.month
  have days : -800000 ≤ Time.Calendar.daysFromCivil value.year value.month value.day ∧
      Time.Calendar.daysFromCivil value.year value.month value.day ≤ 3000000 :=
    Time.Calendar.daysFromCivil_bounds (by omega) (by omega) (by omega) (by omega) (by omega)
      (by omega)
  rw [wallUnixSeconds_eq, Time.Calendar.secondsPerDay]
  omega

/-! ## Decimal seconds -/

/-- The shared shape of the store's two decimal readers, with their field and their messages. -/
def parseBoundedDecimal (field bounded canonical overflow : String) (value : List Char) :
    Result Int :=
  if value = [] ∨ Decimal.byteLength value > 40 ∨ ¬ Decimal.trimmed value ∨
      value.head? = some '+' then
    .error (.invalidInput field bounded)
  else if ¬ Decimal.canonicalDigits value then .error (.invalidInput field canonical)
  else
    match Decimal.parseI128 value with
    | some parsed => .ok parsed
    | none => .error (.invalidInput field overflow)

def parseCanonicalDecimal (value : List Char) : Result Int :=
  parseBoundedDecimal "utc_seconds_decimal" "UTC seconds must be bounded canonical signed decimal"
    "UTC seconds must be canonical signed decimal" "UTC seconds exceed i128" value

def parseStoredUtcSeconds (value : List Char) : Result Int :=
  parseBoundedDecimal "capture_time_member" "stored UTC seconds are not bounded canonical decimal"
    "stored UTC seconds are not canonical decimal" "stored UTC seconds exceed i128" value

theorem parseBoundedDecimal_text {field bounded canonical overflow : String} {seconds : Int}
    (inside : checkedI128 seconds = some seconds) :
    parseBoundedDecimal field bounded canonical overflow (Decimal.text seconds) = .ok seconds := by
  have some_ : Decimal.text seconds ≠ [] := by
    intro empty
    have digits := Decimal.stripMinus_text seconds
    rw [empty] at digits
    exact Nat.toDigits_ne_nil digits.symm
  have short := Decimal.byteLength_text_le inside
  have sign : (Decimal.text seconds).head? ≠ some '+' := by
    intro plus
    rcases Decimal.mem_text (List.mem_of_mem_head? plus) with digit | minus
    · exact absurd digit (by decide)
    · exact absurd minus (by decide)
  unfold parseBoundedDecimal
  rw [if_neg, if_neg, Decimal.parseI128_text, inside]
  · rw [Decimal.canonicalDigits_text]
    exact fun no => no rfl
  · rintro (empty | long | untrimmed | plus)
    · exact some_ empty
    · omega
    · exact untrimmed (Decimal.trimmed_text seconds)
    · exact sign plus

theorem parseBoundedDecimal_eq_ok {field bounded canonical overflow : String} {value : List Char}
    {parsed : Int} (ok : parseBoundedDecimal field bounded canonical overflow value = .ok parsed) :
    Decimal.parseI128 value = some parsed := by
  unfold parseBoundedDecimal at ok
  split at ok
  · cases ok
  · split at ok
    · cases ok
    · split at ok
      · rename_i found
        cases ok
        exact found
      · cases ok

/-! ## Normalized times -/

inductive CaptureTimeSemanticKind where
  | floating
  | utc
  deriving DecidableEq, Repr

def CaptureTimeSemanticKind.asStorageStr : CaptureTimeSemanticKind → String
  | .floating => "floating"
  | .utc => "utc"

inductive CaptureTimeOffsetKind where
  | missing
  | explicit
  | quickTimeEpochAssumedUtc
  deriving DecidableEq, Repr

structure NormalizedCaptureTime where
  wallTime : CaptureWallTime
  semanticKind : CaptureTimeSemanticKind
  offsetKind : CaptureTimeOffsetKind
  utcOffsetMinutes : Option Int
  utcSecondsDecimal : Option (List Char)
  utcNanoseconds : Option Nat
  precisionNs : Nat

def validatePrecision (precisionNs : Nat) : Result Unit :=
  if precisionNs = 0 ∨ precisionNs > 1000000000 then
    .error (.invalidInput "precision_ns" "precision must be between one nanosecond and one second")
  else .ok ()

namespace NormalizedCaptureTime

def floating (wallTime : CaptureWallTime) (precisionNs : Nat) : Result NormalizedCaptureTime := do
  validatePrecision precisionNs
  .ok ⟨wallTime, .floating, .missing, none, none, none, precisionNs⟩

def utc (wallTime : CaptureWallTime) (offsetKind : CaptureTimeOffsetKind) (utcOffsetMinutes : Int)
    (utcSecondsDecimal : List Char) (utcNanoseconds precisionNs : Nat) :
    Result NormalizedCaptureTime := do
  validatePrecision precisionNs
  if ¬ (-840 ≤ utcOffsetMinutes ∧ utcOffsetMinutes ≤ 840) then
    .error (.invalidInput "utc_offset_minutes" "UTC offset must be within +/-14 hours")
  else if utcNanoseconds ≥ 1000000000 then
    .error (.invalidInput "utc_nanoseconds" "nanoseconds must be below one second")
  else
    let parsed ← parseCanonicalDecimal utcSecondsDecimal
    match checkedI128 (wallUnixSeconds wallTime - utcOffsetMinutes * 60) with
    | none => .error (.invalidInput "utc_seconds_decimal" "UTC arithmetic overflow")
    | some expected =>
        if parsed ≠ expected ∨ utcNanoseconds ≠ wallTime.nanosecond then
          .error (.invalidInput "utc_seconds_decimal"
            "wall time, offset, and UTC instant are inconsistent")
        else
          .ok ⟨wallTime, .utc, offsetKind, some utcOffsetMinutes, some utcSecondsDecimal,
            some utcNanoseconds, precisionNs⟩

def explicitUtc (wallTime : CaptureWallTime) (utcOffsetMinutes : Int)
    (utcSecondsDecimal : List Char) (utcNanoseconds precisionNs : Nat) :
    Result NormalizedCaptureTime :=
  utc wallTime .explicit utcOffsetMinutes utcSecondsDecimal utcNanoseconds precisionNs

def quicktimeEpochAssumedUtc (wallTime : CaptureWallTime) (utcSecondsDecimal : List Char)
    (utcNanoseconds precisionNs : Nat) : Result NormalizedCaptureTime :=
  utc wallTime .quickTimeEpochAssumedUtc 0 utcSecondsDecimal utcNanoseconds precisionNs

/-- What a UTC time that was built says. -/
theorem utc_eq_ok {wallTime : CaptureWallTime} {offsetKind : CaptureTimeOffsetKind}
    {utcOffsetMinutes : Int} {utcSecondsDecimal : List Char} {utcNanoseconds precisionNs : Nat}
    {time : NormalizedCaptureTime}
    (built : utc wallTime offsetKind utcOffsetMinutes utcSecondsDecimal utcNanoseconds
      precisionNs = .ok time) :
    time = ⟨wallTime, .utc, offsetKind, some utcOffsetMinutes, some utcSecondsDecimal,
        some utcNanoseconds, precisionNs⟩ ∧
      validatePrecision precisionNs = .ok () ∧
      (-840 ≤ utcOffsetMinutes ∧ utcOffsetMinutes ≤ 840) ∧ utcNanoseconds < 1000000000 ∧
      parseCanonicalDecimal utcSecondsDecimal =
        .ok (wallUnixSeconds wallTime - utcOffsetMinutes * 60) ∧
      utcNanoseconds = wallTime.nanosecond := by
  unfold utc at built
  cases precision : validatePrecision precisionNs with
  | error error =>
      rw [precision] at built
      cases built
  | ok _ =>
      rw [precision] at built
      simp only [bind, Except.bind] at built
      split at built
      · cases built
      · rename_i offset
        split at built
        · cases built
        · rename_i nanos
          split at built
          · cases built
          · rename_i parsed decimal
            split at built
            · cases built
            · rename_i expected fits
              obtain ⟨-, rfl⟩ := checkedI128_eq_some.mp fits
              split at built
              · cases built
              · rename_i same
                cases built
                rw [not_or, not_not, not_not] at same
                rw [decimal, same.1]
                exact ⟨rfl, rfl, not_not.mp offset, Nat.lt_of_not_le nanos, rfl, same.2⟩

end NormalizedCaptureTime

end Guiying.Store
