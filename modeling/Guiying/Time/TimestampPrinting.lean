import Guiying.Time.TimestampParsers
import Mathlib.Data.Nat.Log

/-!
# Printing timestamps

Every accepted value has one canonical text, which is read back as the same
value: the digits its precision asks for, and an offset with a colon.
-/

namespace Guiying.Time

open Guiying.Foundation ByteString FixedDigits

/-- The digits of the nanoseconds that the precision keeps. -/
def printFraction (nanosecond : Nat) (precision : TimePrecision) : Option (List UInt8) :=
  if precision.nanoseconds = nanosPerSecond then none
  else some (digits (9 - Nat.log 10 precision.nanoseconds) (nanosecond / precision.nanoseconds))

def printOffset (offset : UtcOffset) : List UInt8 :=
  (if offset.minutes < 0 then ascii '-' else ascii '+') ::
    digits 2 (offset.minutes.natAbs / 60) ++ [ascii ':'] ++
    digits 2 (offset.minutes.natAbs % 60)

namespace NormalizedTimestamp

def printQuicktime (timestamp : NormalizedTimestamp) : List UInt8 :=
  clockText (ascii '-') (ascii 'T') timestamp.wallTime ++
    ((printFraction timestamp.wallTime.nanosecond timestamp.precision).map
      (ascii '.' :: ·)).getD [] ++
    (timestamp.utcOffset.map printOffset).getD []

/-- The three fields of an Exif time. -/
def printExif (timestamp : NormalizedTimestamp) :
    List UInt8 × Option (List UInt8) × Option (List UInt8) :=
  (clockText (ascii ':') (ascii ' ') timestamp.wallTime,
    printFraction timestamp.wallTime.nanosecond timestamp.precision,
    timestamp.utcOffset.map printOffset)

@[simp] theorem ofOffset_wallTime (wall : WallTime) (precision : TimePrecision)
    (offset : Option UtcOffset) : (ofOffset wall precision offset).wallTime = wall := by
  cases offset <;> rfl

@[simp] theorem ofOffset_precision (wall : WallTime) (precision : TimePrecision)
    (offset : Option UtcOffset) : (ofOffset wall precision offset).precision = precision := by
  cases offset <;> rfl

@[simp] theorem ofOffset_utcOffset (wall : WallTime) (precision : TimePrecision)
    (offset : Option UtcOffset) : (ofOffset wall precision offset).utcOffset = offset := by
  cases offset <;> rfl

end NormalizedTimestamp

theorem printFraction_eq (fraction : Option FractionText) :
    printFraction (fractionNanosecond fraction) (fractionPrecision fraction) =
      fraction.map FractionText.print := by
  cases fraction with
  | none => exact if_pos rfl
  | some fraction =>
      have low := fraction.width_pos
      have high := fraction.width_le
      have power : fraction.precision.nanoseconds = 10 ^ (9 - fraction.width) := rfl
      have fine : ¬ fraction.precision.nanoseconds = nanosPerSecond := by
        rw [power]
        have lower : 10 ^ (9 - fraction.width) < 10 ^ 9 :=
          Nat.pow_lt_pow_right (by decide) (by omega)
        exact lower.ne
      have width : 9 - Nat.log 10 (10 ^ (9 - fraction.width)) = fraction.width := by
        rw [Nat.log_pow (by decide)]
        omega
      have number : fractionNanosecond (some fraction) / 10 ^ (9 - fraction.width) =
          fraction.number := Nat.mul_div_cancel _ (Nat.pow_pos (by decide))
      unfold printFraction
      rw [fractionPrecision, if_neg fine, power, width, number]
      rfl

theorem printOffset_value (offset : OffsetText) : printOffset offset.value = offset.print true := by
  obtain ⟨negative, hours, minutes, short, bounded, nonzero⟩ := offset
  have quotient : (hours * 60 + minutes) / 60 = hours := by omega
  have remainder : (hours * 60 + minutes) % 60 = minutes := by omega
  cases negative with
  | true =>
      have positive : ¬ hours * 60 + minutes = 0 := fun zero => nonzero ⟨rfl, zero⟩
      have below : -((hours * 60 + minutes : Nat) : Int) < 0 := by omega
      have size : (-((hours * 60 + minutes : Nat) : Int)).natAbs = hours * 60 + minutes := by omega
      change (if -((hours * 60 + minutes : Nat) : Int) < 0 then ascii '-' else ascii '+') ::
        digits 2 ((-((hours * 60 + minutes : Nat) : Int)).natAbs / 60) ++ [ascii ':'] ++
        digits 2 ((-((hours * 60 + minutes : Nat) : Int)).natAbs % 60) = _
      rw [if_pos below, size, quotient, remainder]
      rfl
  | false =>
      have above : ¬ ((hours * 60 + minutes : Nat) : Int) < 0 := by omega
      have size : ((hours * 60 + minutes : Nat) : Int).natAbs = hours * 60 + minutes := by omega
      change (if ((hours * 60 + minutes : Nat) : Int) < 0 then ascii '-' else ascii '+') ::
        digits 2 (((hours * 60 + minutes : Nat) : Int).natAbs / 60) ++ [ascii ':'] ++
        digits 2 (((hours * 60 + minutes : Nat) : Int).natAbs % 60) = _
      rw [if_neg above, size, quotient, remainder]
      rfl

/-- The canonical spelling of an offset: `Z` becomes zero hours and minutes. -/
def ZoneText.canonical : ZoneText → Option OffsetText
  | .floating => none
  | .zulu _ => some ⟨false, 0, 0, by decide, by decide, by decide⟩
  | .offset _ text => some text

theorem ZoneText.canonical_value (zone : ZoneText) :
    zone.canonical.map OffsetText.value = zone.value := by
  cases zone <;> rfl

def ZoneText.ofOffset : Option OffsetText → ZoneText
  | none => .floating
  | some text => .offset true text

theorem ZoneText.ofOffset_value (offset : Option OffsetText) :
    (ZoneText.ofOffset offset).value = offset.map OffsetText.value := by
  cases offset <;> rfl

namespace Parse

theorem rdropWhile_of_last_digit (front : List UInt8) {text : List UInt8} {width number : Nat}
    (ends : text = front ++ digits (width + 1) number) :
    text.rdropWhile isTrailingPadding = text := by
  have last : IsDigit (UInt8.ofNat (48 + number % 10)) := by
    have toNat := toNat_digit number
    rw [isDigit_iff, toNat]
    omega
  rw [ends, digits, ← List.append_assoc]
  refine List.rdropWhile_concat_neg _ _ _ ?_
  rw [not_padding_of_isDigit last]
  exact Bool.false_ne_true

theorem clockText_not_padded (dateSeparator between : UInt8) (wall : WallTime) :
    (clockText dateSeparator between wall).rdropWhile isTrailingPadding =
      clockText dateSeparator between wall :=
  rdropWhile_of_last_digit _ rfl

theorem fraction_not_padded (fraction : FractionText) :
    fraction.print.rdropWhile isTrailingPadding = fraction.print := by
  obtain ⟨width, number, low, high, small⟩ := fraction
  obtain ⟨rest, rfl⟩ := Nat.exists_eq_add_of_le' low
  exact rdropWhile_of_last_digit [] rfl

theorem not_padded_append (front : List UInt8) {back : List UInt8} (some_ : back ≠ [])
    (kept : back.rdropWhile isTrailingPadding = back) :
    (front ++ back).rdropWhile isTrailingPadding = front ++ back := by
  rw [List.rdropWhile_eq_self_iff] at kept ⊢
  intro joined
  rw [List.getLast_append_of_ne_nil _ some_]
  exact kept some_

theorem zone_not_padded (zone : ZoneText) :
    zone.print.rdropWhile isTrailingPadding = zone.print := by
  cases zone with
  | floating => rfl
  | zulu lower => cases lower <;> rfl
  | offset colon text => exact print_not_padded colon text

theorem quicktime_not_padded (text : QuicktimeText) :
    text.print.rdropWhile isTrailingPadding = text.print := by
  unfold QuicktimeText.print
  by_cases zoned : text.zone.print = []
  · rw [zoned, List.append_nil]
    cases shown : text.fraction with
    | none =>
        unfold fractionText
        rw [List.append_nil]
        exact clockText_not_padded _ _ _
    | some fraction =>
        have some_ : fraction.print ≠ [] := by
          intro empty
          have length : fraction.print.length = fraction.width := length_digits _ _
          rw [empty] at length
          exact absurd fraction.width_pos (by rw [← length]; decide)
        have kept := not_padded_append [ascii '.'] some_ (fraction_not_padded fraction)
        exact not_padded_append _ (List.cons_ne_nil _ _) kept
  · exact not_padded_append _ zoned (zone_not_padded text.zone)

/-- A printed text is read back as its value. -/
theorem parseQuicktimeTimestamp_print (text : QuicktimeText) :
    parseQuicktimeTimestamp text.print = .ok text.value :=
  parseQuicktimeTimestamp_eq_ok.mpr ⟨text, quicktime_not_padded text, rfl⟩

theorem parseExifTimestamp_print (text : ExifText) :
    parseExifTimestamp text.print (text.fraction.map FractionText.print)
      (text.offset.map (OffsetText.print true)) = .ok text.value := by
  refine parseExifTimestamp_eq_ok.mpr ⟨text, clockText_not_padded _ _ _, ?_, ?_, rfl⟩
  · rw [Option.map_map]
    congr 1
    funext fraction
    exact fraction_not_padded fraction
  · rw [Option.map_map]
    congr 1
    funext offset
    exact print_not_padded true offset

/-- The canonical text of an accepted value. -/
def canonicalQuicktime (text : QuicktimeText) : QuicktimeText :=
  ⟨text.wall, false, text.fraction, .ofOffset text.zone.canonical, text.agree⟩

theorem canonicalQuicktime_value (text : QuicktimeText) :
    (canonicalQuicktime text).value = text.value := by
  unfold QuicktimeText.value canonicalQuicktime
  rw [ZoneText.ofOffset_value, ZoneText.canonical_value]

theorem printOffset_canonical (zone : ZoneText) :
    (zone.value.map printOffset).getD [] = (ZoneText.ofOffset zone.canonical).print := by
  rw [← ZoneText.canonical_value]
  cases zone.canonical with
  | none => rfl
  | some text => exact printOffset_value text

theorem fractionText_eq (fraction : Option FractionText) :
    ((fraction.map FractionText.print).map (ascii '.' :: ·)).getD [] = fractionText fraction := by
  cases fraction <;> rfl

theorem printQuicktime_value (text : QuicktimeText) :
    text.value.printQuicktime = (canonicalQuicktime text).print := by
  unfold NormalizedTimestamp.printQuicktime QuicktimeText.value QuicktimeText.print
    canonicalQuicktime
  rw [NormalizedTimestamp.ofOffset_wallTime, NormalizedTimestamp.ofOffset_precision,
    NormalizedTimestamp.ofOffset_utcOffset, text.agree, printFraction_eq, printOffset_canonical,
    fractionText_eq]
  rfl

/-- Printing an accepted value and reading it again gives the same value. -/
theorem parseQuicktimeTimestamp_printQuicktime {raw : List UInt8}
    {timestamp : NormalizedTimestamp} (parsed : parseQuicktimeTimestamp raw = .ok timestamp) :
    parseQuicktimeTimestamp timestamp.printQuicktime = .ok timestamp := by
  obtain ⟨text, -, rfl⟩ := parseQuicktimeTimestamp_eq_ok.mp parsed
  rw [printQuicktime_value, parseQuicktimeTimestamp_print, canonicalQuicktime_value]

theorem printExif_value (text : ExifText) :
    text.value.printExif = (text.print, text.fraction.map FractionText.print,
      text.offset.map (OffsetText.print true)) := by
  have offsets : (text.offset.map OffsetText.value).map printOffset =
      text.offset.map (OffsetText.print true) := by
    rw [Option.map_map]
    congr 1
    funext offset
    exact printOffset_value offset
  unfold NormalizedTimestamp.printExif ExifText.value
  rw [NormalizedTimestamp.ofOffset_wallTime, NormalizedTimestamp.ofOffset_precision,
    NormalizedTimestamp.ofOffset_utcOffset, text.agree, printFraction_eq, offsets]
  rfl

theorem parseExifTimestamp_printExif {datetime : List UInt8}
    {subsecond offset : Option (List UInt8)} {timestamp : NormalizedTimestamp}
    (parsed : parseExifTimestamp datetime subsecond offset = .ok timestamp) :
    parseExifTimestamp timestamp.printExif.1 timestamp.printExif.2.1 timestamp.printExif.2.2 =
      .ok timestamp := by
  obtain ⟨text, -, -, -, rfl⟩ := parseExifTimestamp_eq_ok.mp parsed
  rw [printExif_value]
  exact parseExifTimestamp_print text

end Parse

end Guiying.Time
