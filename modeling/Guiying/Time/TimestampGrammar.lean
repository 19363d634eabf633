import Guiying.Foundation.FixedDigits
import Guiying.Time.CalendarOrder

/-!
# The grammars of timestamp text

A text is a valid wall time with the spelling of its separator, fraction and
offset. Both parsers accept exactly the printed texts, padded at the end, and
return what the text says.
-/

namespace Guiying.Time

open Guiying.Foundation ByteString FixedDigits MachineInt

/-! ## Texts -/

/-- One to nine digits of a second. -/
structure FractionText where
  width : Nat
  number : Nat
  width_pos : 1 ≤ width
  width_le : width ≤ 9
  number_lt : number < 10 ^ width

namespace FractionText

def print (fraction : FractionText) : List UInt8 := digits fraction.width fraction.number

/-- The fraction scaled to nine digits. -/
def nanosecond (fraction : FractionText) : Nat := fraction.number * 10 ^ (9 - fraction.width)

theorem scale_bounds (fraction : FractionText) :
    10 ^ (9 - fraction.width) ≠ 0 ∧ 10 ^ (9 - fraction.width) ≤ nanosPerSecond := by
  have low := fraction.width_pos
  refine ⟨(Nat.pow_pos (by decide)).ne', ?_⟩
  exact Nat.pow_le_pow_right (by decide) (show 9 - fraction.width ≤ 9 by omega)

def precision (fraction : FractionText) : TimePrecision :=
  ⟨10 ^ (9 - fraction.width), fraction.scale_bounds⟩

theorem nanosecond_lt (fraction : FractionText) : fraction.nanosecond < nanosPerSecond := by
  have whole : 10 ^ fraction.width * 10 ^ (9 - fraction.width) = nanosPerSecond := by
    have high := fraction.width_le
    rw [← pow_add, show fraction.width + (9 - fraction.width) = 9 by omega]
    rfl
  unfold nanosecond
  rw [← whole]
  exact Nat.mul_lt_mul_of_pos_right fraction.number_lt (Nat.pow_pos (by decide))

end FractionText

def fractionNanosecond : Option FractionText → Nat
  | none => 0
  | some fraction => fraction.nanosecond

def fractionPrecision : Option FractionText → TimePrecision
  | none => .seconds
  | some fraction => fraction.precision

/-- A dot and the digits, or nothing. -/
def fractionText : Option FractionText → List UInt8
  | none => []
  | some fraction => ascii '.' :: fraction.print

/-- A sign with hours and minutes, at most fourteen hours and not minus zero. -/
structure OffsetText where
  negative : Bool
  hours : Nat
  minutes : Nat
  minutes_le : minutes ≤ 59
  magnitude_le : hours * 60 + minutes ≤ 14 * 60
  not_negative_zero : ¬ (negative = true ∧ hours * 60 + minutes = 0)

namespace OffsetText

def signByte (offset : OffsetText) : UInt8 := if offset.negative then ascii '-' else ascii '+'

def print (colon : Bool) (offset : OffsetText) : List UInt8 :=
  offset.signByte :: digits 2 offset.hours ++ (if colon then [ascii ':'] else []) ++
    digits 2 offset.minutes

def signedMinutes (offset : OffsetText) : Int :=
  if offset.negative then -(offset.hours * 60 + offset.minutes : Nat)
  else (offset.hours * 60 + offset.minutes : Nat)

def value (offset : OffsetText) : UtcOffset :=
  ⟨offset.signedMinutes, by
    have bound := offset.magnitude_le
    unfold signedMinutes
    split <;> omega⟩

end OffsetText

/-- What may follow the seconds or their fraction. -/
inductive ZoneText where
  | floating
  | zulu (lower : Bool)
  | offset (colon : Bool) (offset : OffsetText)

namespace ZoneText

def print : ZoneText → List UInt8
  | .floating => []
  | .zulu lower => [if lower then ascii 'z' else ascii 'Z']
  | .offset colon text => text.print colon

def value : ZoneText → Option UtcOffset
  | .floating => none
  | .zulu _ => some .zero
  | .offset _ text => some text.value

end ZoneText

/-- The six calendar fields with their separators. -/
def clockText (dateSeparator between : UInt8) (wall : WallTime) : List UInt8 :=
  digits 4 wall.year ++ [dateSeparator] ++ digits 2 wall.month ++ [dateSeparator] ++
    digits 2 wall.day ++ [between] ++ digits 2 wall.hour ++ [ascii ':'] ++
    digits 2 wall.minute ++ [ascii ':'] ++ digits 2 wall.second

namespace NormalizedTimestamp

/-- A wall time with the instant its offset gives, if it has one. -/
def ofOffset (wall : WallTime) (precision : TimePrecision) :
    Option UtcOffset → NormalizedTimestamp
  | none => floating wall precision
  | some offset =>
      let instant : UtcInstant :=
        ⟨wall.naiveUnixSeconds - offset.minutes * 60, wall.nanosecond, wall.nanosecond_lt⟩
      ⟨wall, some offset, some instant, .explicit, precision, offset, instant, rfl, rfl, rfl, rfl⟩

theorem explicit_eq (wall : WallTime) (offset : UtcOffset) (precision : TimePrecision) :
    explicit wall offset precision = .ok (ofOffset wall precision (some offset)) := by
  obtain ⟨timestamp, built, wallOf, offsetOf, kind, precisionOf, instant⟩ :=
    explicit_eq_ok wall offset precision
  rw [built]
  exact congrArg Except.ok (ext_parts wallOf offsetOf instant kind precisionOf)

end NormalizedTimestamp

/-- A QuickTime text: its wall time has the nanoseconds of its fraction. -/
structure QuicktimeText where
  wall : WallTime
  lowerT : Bool
  fraction : Option FractionText
  zone : ZoneText
  agree : wall.nanosecond = fractionNanosecond fraction

namespace QuicktimeText

def print (text : QuicktimeText) : List UInt8 :=
  clockText (ascii '-') (if text.lowerT then ascii 't' else ascii 'T') text.wall ++
    fractionText text.fraction ++ text.zone.print

def value (text : QuicktimeText) : NormalizedTimestamp :=
  .ofOffset text.wall (fractionPrecision text.fraction) text.zone.value

end QuicktimeText

/-- An Exif time stamp with its separate fields. -/
structure ExifText where
  wall : WallTime
  fraction : Option FractionText
  offset : Option OffsetText
  agree : wall.nanosecond = fractionNanosecond fraction

namespace ExifText

def print (text : ExifText) : List UInt8 := clockText (ascii ':') (ascii ' ') text.wall

def value (text : ExifText) : NormalizedTimestamp :=
  .ofOffset text.wall (fractionPrecision text.fraction) (text.offset.map OffsetText.value)

end ExifText

namespace Parse

/-! ## Numbers -/

variable {bytes text : List UInt8} {number : Nat}

theorem isAsciiDigit_iff {byte : UInt8} : isAsciiDigit byte = true ↔ IsDigit byte := by
  unfold isAsciiDigit IsDigit
  rw [Bool.and_eq_true, decide_eq_true_eq, decide_eq_true_eq]

theorem all_isAsciiDigit_iff : bytes.all isAsciiDigit = true ↔ ∀ byte ∈ bytes, IsDigit byte := by
  rw [List.all_eq_true]
  exact forall₂_congr fun _ _ => isAsciiDigit_iff

/-- Digits that the type can hold are folded without an overflow. -/
theorem foldlM_pushDigit {bound : Nat} (all : ∀ byte ∈ bytes, IsDigit byte)
    (fits : 10 ^ bytes.length ≤ bound) :
    bytes.foldlM (pushDigit bound) 0 = .ok (value bytes) := by
  induction bytes using List.reverseRecOn with
  | nil => rfl
  | append_singleton bytes last ih =>
      have early : ∀ byte ∈ bytes, IsDigit byte :=
        fun byte member => all byte (List.mem_append_left _ member)
      have digit := isDigit_iff.mp (all last (List.mem_append_right _ List.mem_cons_self))
      have small := value_lt all
      rw [value_append_singleton] at small
      have shorter : 10 ^ bytes.length ≤ bound :=
        (Nat.pow_le_pow_right (by decide) (by simp)).trans fits
      have scaled : checkedMul bound (value bytes) 10 = some (value bytes * 10) :=
        checkedMul_eq_some.mpr ⟨by omega, rfl⟩
      have added : checkedAdd bound (value bytes * 10) (last.toNat - (ascii '0').toNat) =
          some (value bytes * 10 + (last.toNat - 48)) :=
        checkedAdd_eq_some.mpr ⟨small.trans_le fits, rfl⟩
      rw [List.foldlM_append, ih early shorter, Outcome.ok_bind, List.foldlM_cons,
        value_append_singleton]
      unfold pushDigit
      rw [scaled, Option.bind_some, added]
      rfl

/-- Up to four bytes are a number exactly when they are its digits. -/
theorem parseU16_eq_ok (bytes : List UInt8) (number : Nat) (some_ : bytes ≠ [])
    (short : bytes.length ≤ 4) :
    parseU16 bytes = .ok number ↔ bytes = digits bytes.length number ∧
      number < 10 ^ bytes.length := by
  rw [← eq_digits_iff]
  unfold parseU16
  by_cases all : ∀ byte ∈ bytes, IsDigit byte
  · have fits : 10 ^ bytes.length ≤ u16Bound :=
      (Nat.pow_le_pow_right (by decide) short).trans (by decide)
    rw [if_neg, foldlM_pushDigit all fits, Except.ok.injEq]
    · exact ⟨fun same => ⟨all, same⟩, And.right⟩
    · rw [not_or, not_not, all_isAsciiDigit_iff]
      exact ⟨some_, all⟩
  · rw [if_pos]
    · exact ⟨nofun, fun parsed => absurd parsed.1 all⟩
    · rw [all_isAsciiDigit_iff]
      exact .inr all

theorem parseU8_eq_ok (bytes : List UInt8) (number : Nat) (length : bytes.length = 2) :
    parseU8 bytes = .ok number ↔ bytes = digits 2 number ∧ number < 100 := by
  have some_ : bytes ≠ [] := by
    rintro rfl
    cases length
  have word (found : Nat) := parseU16_eq_ok bytes found some_ (by omega)
  rw [length] at word
  unfold parseU8
  rw [Outcome.bind_eq_ok]
  constructor
  · rintro ⟨found, parsed, narrowed⟩
    split at narrowed
    · cases narrowed
      exact (word number).mp parsed
    · cases narrowed
  · intro parsed
    refine ⟨number, (word number).mpr parsed, if_pos ?_⟩
    exact parsed.2.trans (by decide)

/-! ## The calendar fields -/

theorem slice_one_eq {position : Nat} {byte : UInt8} :
    slice text position 1 = [byte] ↔ text[position]? = some byte := by
  unfold slice
  rw [List.take_one, List.head?_drop]
  cases text[position]? <;> simp

theorem parseWallTime_eq_ok {nanosecond : Nat} {wall : WallTime} (long : 19 ≤ text.length) :
    parseWallTime text nanosecond = .ok wall ↔
      slice text 0 4 = digits 4 wall.year ∧ slice text 5 2 = digits 2 wall.month ∧
        slice text 8 2 = digits 2 wall.day ∧ slice text 11 2 = digits 2 wall.hour ∧
        slice text 14 2 = digits 2 wall.minute ∧ slice text 17 2 = digits 2 wall.second ∧
        wall.nanosecond = nanosecond := by
  have two (position : Nat) (inside : position + 2 ≤ text.length) (number : Nat) :=
    parseU8_eq_ok (slice text position 2) number (length_slice inside)
  have yearLength : (slice text 0 4).length = 4 := length_slice (by omega)
  have some_ : slice text 0 4 ≠ [] := by
    intro empty
    rw [empty] at yearLength
    cases yearLength
  have four (number : Nat) := parseU16_eq_ok (slice text 0 4) number some_ yearLength.le
  rw [yearLength] at four
  unfold parseWallTime
  constructor
  · intro parsed
    obtain ⟨year, yearText, parsed⟩ := Outcome.bind_eq_ok.mp parsed
    obtain ⟨month, monthText, parsed⟩ := Outcome.bind_eq_ok.mp parsed
    obtain ⟨day, dayText, parsed⟩ := Outcome.bind_eq_ok.mp parsed
    obtain ⟨hour, hourText, parsed⟩ := Outcome.bind_eq_ok.mp parsed
    obtain ⟨minute, minuteText, parsed⟩ := Outcome.bind_eq_ok.mp parsed
    obtain ⟨second, secondText, parsed⟩ := Outcome.bind_eq_ok.mp parsed
    obtain ⟨rfl, rfl, rfl, rfl, rfl, rfl, rfl⟩ := WallTime.new_eq_ok parsed
    exact ⟨((four _).mp yearText).1, ((two 5 (by omega) _).mp monthText).1,
      ((two 8 (by omega) _).mp dayText).1, ((two 11 (by omega) _).mp hourText).1,
      ((two 14 (by omega) _).mp minuteText).1, ((two 17 (by omega) _).mp secondText).1, rfl⟩
  · rintro ⟨year, month, day, hour, minute, second, rfl⟩
    obtain ⟨⟨-, yearHigh⟩, ⟨-, monthHigh⟩, ⟨-, dayHigh⟩, hourHigh, minuteHigh, secondHigh, -⟩ :=
      wall.parts_valid
    have monthDays := Calendar.daysInMonth_le wall.year wall.month
    rw [(four _).mpr ⟨year, by omega⟩, Outcome.ok_bind,
      (two 5 (by omega) _).mpr ⟨month, by omega⟩, Outcome.ok_bind,
      (two 8 (by omega) _).mpr ⟨day, by omega⟩, Outcome.ok_bind,
      (two 11 (by omega) _).mpr ⟨hour, by omega⟩, Outcome.ok_bind,
      (two 14 (by omega) _).mpr ⟨minute, by omega⟩, Outcome.ok_bind,
      (two 17 (by omega) _).mpr ⟨second, by omega⟩, Outcome.ok_bind]
    exact WallTime.new_of_valid wall.valid

theorem length_clockText (dateSeparator between : UInt8) (wall : WallTime) :
    (clockText dateSeparator between wall).length = 19 := by
  simp [clockText]

/-- The first nineteen bytes, cut at the separators. -/
theorem take_nineteen (text : List UInt8) : text.take 19 =
    slice text 0 4 ++ slice text 4 1 ++ slice text 5 2 ++ slice text 7 1 ++ slice text 8 2 ++
      slice text 10 1 ++ slice text 11 2 ++ slice text 13 1 ++ slice text 14 2 ++
      slice text 16 1 ++ slice text 17 2 := by
  have cut (count first second : Nat) (sum : first = count) :
      slice text 0 count ++ slice text first second = slice text 0 (count + second) := by
    subst sum
    have joined := slice_append text 0 first second
    rwa [Nat.zero_add] at joined
  rw [cut 4 4 1 rfl, cut 5 5 2 rfl, cut 7 7 1 rfl, cut 8 8 2 rfl, cut 10 10 1 rfl, cut 11 11 2 rfl,
    cut 13 13 1 rfl, cut 14 14 2 rfl, cut 16 16 1 rfl, cut 17 17 2 rfl]
  rfl

/-- Both parsers read a calendar text exactly where the separators and fields stand. -/
theorem clock_iff {dateSeparator between : UInt8} {nanosecond : Nat} {wall : WallTime}
    (long : 19 ≤ text.length) :
    (text[4]? = some dateSeparator ∧ text[7]? = some dateSeparator ∧ text[10]? = some between ∧
        text[13]? = some (ascii ':') ∧ text[16]? = some (ascii ':')) ∧
        parseWallTime text nanosecond = .ok wall ↔
      text.take 19 = clockText dateSeparator between wall ∧ wall.nanosecond = nanosecond := by
  have width (position count : Nat) (inside : position + count ≤ text.length) :=
    length_slice inside
  have two (position number : Nat) (inside : position + 2 ≤ text.length) :
      (slice text position 2).length = (digits 2 number).length := by
    rw [length_slice inside, length_digits]
  have one (position : Nat) (byte : UInt8) (inside : position + 1 ≤ text.length) :
      (slice text position 1).length = [byte].length := length_slice inside
  rw [parseWallTime_eq_ok long, take_nineteen]
  unfold clockText
  rw [List.append_eq_append_iff_of_size_eq_right (two 17 _ (by omega)),
    List.append_eq_append_iff_of_size_eq_right (one 16 _ (by omega)),
    List.append_eq_append_iff_of_size_eq_right (two 14 _ (by omega)),
    List.append_eq_append_iff_of_size_eq_right (one 13 _ (by omega)),
    List.append_eq_append_iff_of_size_eq_right (two 11 _ (by omega)),
    List.append_eq_append_iff_of_size_eq_right (one 10 _ (by omega)),
    List.append_eq_append_iff_of_size_eq_right (two 8 _ (by omega)),
    List.append_eq_append_iff_of_size_eq_right (one 7 _ (by omega)),
    List.append_eq_append_iff_of_size_eq_right (two 5 _ (by omega)),
    List.append_eq_append_iff_of_size_eq_right (one 4 _ (by omega))]
  simp only [slice_one_eq]
  tauto

end Parse

end Guiying.Time
