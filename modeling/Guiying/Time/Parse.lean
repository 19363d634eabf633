import Guiying.Foundation.Utf8
import Guiying.Time.Timestamp
import Mathlib.Data.List.DropRight

/-!
# Strict timestamp text

The parsers of the Exif and QuickTime timestamp fields. They never repair a
value: a byte that does not fit the grammar rejects the whole field.
-/

namespace Guiying.Time.Parse

open Guiying.Foundation Guiying.Foundation.ByteString Guiying.Foundation.MachineInt

def quicktimeToUnixSeconds : Int := 2082844800

def isAsciiDigit (byte : UInt8) : Bool := ascii '0' ≤ byte && byte ≤ ascii '9'

def isTrailingPadding (byte : UInt8) : Bool :=
  byte == 0 || byte == ascii ' ' || byte == ascii '\t' || byte == ascii '\r' || byte == ascii '\n'

def trimField (raw : List UInt8) : Except TimestampParseError (List UInt8) :=
  let trimmed := raw.rdropWhile isTrailingPadding
  if trimmed = [] then .error .empty
  else if 0 ∈ trimmed then .error .invalidSyntax
  else .ok trimmed

def trimAsciiField (raw : List UInt8) : Except TimestampParseError (List UInt8) :=
  if raw.all (· ≤ 0x7F) then trimField raw else .error .invalidEncoding

def trimUtf8Field (raw : List UInt8) : Except TimestampParseError (List UInt8) :=
  if Utf8.valid raw then trimField raw else .error .invalidEncoding

/-- One step of a checked decimal fold in a type with `bound` values. -/
def pushDigit (bound value : Nat) (digit : UInt8) : Except TimestampParseError Nat :=
  match (checkedMul bound value 10).bind fun current =>
      checkedAdd bound current (digit.toNat - (ascii '0').toNat) with
  | some next => .ok next
  | none => .error .arithmeticOverflow

def parseU16 (bytes : List UInt8) : Except TimestampParseError Nat :=
  if bytes = [] ∨ ¬ bytes.all isAsciiDigit then .error .invalidSyntax
  else bytes.foldlM (pushDigit u16Bound) 0

def parseU8 (bytes : List UInt8) : Except TimestampParseError Nat := do
  let value ← parseU16 bytes
  if value < u8Bound then .ok value else .error .invalidSyntax

/-- The signed offset of a sign byte, hours and minutes: the shared end of both offset parsers. -/
def signedOffset (sign : UInt8) (hours minutes : Nat) : Except TimestampParseError UtcOffset :=
  if minutes > 59 ∨ hours > 14 ∨ (hours = 14 ∧ minutes ≠ 0) then .error .offsetOutOfRange
  else
    match (checkedMul (2 ^ 15) hours 60).bind fun value => checkedAdd (2 ^ 15) value minutes with
    | none => .error .arithmeticOverflow
    | some magnitude =>
        if sign = ascii '-' ∧ magnitude = 0 then .error .unknownNegativeZeroOffset
        else
          UtcOffset.fromMinutes (if sign = ascii '-' then -(magnitude : Int) else magnitude)

def isSign (byte : Option UInt8) : Bool := byte == some (ascii '+') || byte == some (ascii '-')

def parseOffset (raw : List UInt8) : Except TimestampParseError UtcOffset := do
  let text ← trimAsciiField raw
  if text.length ≠ 6 ∨ ¬ isSign text[0]? ∨ text[3]? ≠ some (ascii ':') then
    .error .invalidSyntax
  else
    let hours ← parseU8 (slice text 1 2)
    let minutes ← parseU8 (slice text 4 2)
    signedOffset (text.headD 0) hours minutes

def parseIsoOffset (raw : List UInt8) : Except TimestampParseError UtcOffset := do
  if raw.length = 6 then parseOffset raw
  else if raw.length ≠ 5 ∨ ¬ isSign raw[0]? then .error .invalidSyntax
  else
    let hours ← parseU8 (slice raw 1 2)
    let minutes ← parseU8 (slice raw 3 2)
    signedOffset (raw.headD 0) hours minutes

/-- Nanosecond, digit count and precision of a run of fraction digits. -/
def parseFractionDigits (text : List UInt8) :
    Except TimestampParseError (Nat × Nat × TimePrecision) := do
  if text = [] ∨ text.length > 9 ∨ ¬ text.all isAsciiDigit then .error .subsecondOutOfRange
  else
    let digits := text.length
    let numeric ← text.foldlM (pushDigit u32Bound) 0
    let scale := 10 ^ (9 - digits)
    match checkedMul u32Bound numeric scale with
    | none => .error .arithmeticOverflow
    | some nanosecond =>
        if nanosecond ≥ nanosPerSecond then .error .nanosecondOutOfRange
        else
          let precision ← TimePrecision.fromNanoseconds scale
          .ok (nanosecond, digits, precision)

def parseSubsecond (raw : List UInt8) :
    Except TimestampParseError (Nat × Nat × TimePrecision) := do
  let text ← trimAsciiField raw
  parseFractionDigits text

/-- The six calendar fields both grammars keep at the same positions. -/
def parseWallTime (text : List UInt8) (nanosecond : Nat) : Except TimestampParseError WallTime := do
  let year ← parseU16 (slice text 0 4)
  let month ← parseU8 (slice text 5 2)
  let day ← parseU8 (slice text 8 2)
  let hour ← parseU8 (slice text 11 2)
  let minute ← parseU8 (slice text 14 2)
  let second ← parseU8 (slice text 17 2)
  WallTime.new year month day hour minute second nanosecond

/-- Parse Exif `YYYY:MM:DD HH:MM:SS`. A missing offset returns a floating value. -/
def parseExifTimestamp (datetime : List UInt8) (subsecond offset : Option (List UInt8)) :
    Except TimestampParseError NormalizedTimestamp := do
  let text ← trimAsciiField datetime
  if text.length ≠ 19 ∨ text[4]? ≠ some (ascii ':') ∨ text[7]? ≠ some (ascii ':') ∨
      text[10]? ≠ some (ascii ' ') ∨ text[13]? ≠ some (ascii ':') ∨
      text[16]? ≠ some (ascii ':') then
    .error .invalidSyntax
  else
    let whole ← parseWallTime text 0
    let (wall, precision) ← match subsecond with
      | some raw => do
          let (nanosecond, _, precision) ← parseSubsecond raw
          let wall ← whole.withNanosecond nanosecond
          pure (wall, precision)
      | none => pure (whole, TimePrecision.seconds)
    match offset with
    | some raw => do
        let minutes ← parseOffset raw
        NormalizedTimestamp.explicit wall minutes precision
    | none => .ok (NormalizedTimestamp.floating wall precision)

/-- The position after the seconds and the optional fraction, with its value. -/
def parseQuicktimeFraction (text : List UInt8) :
    Except TimestampParseError (Nat × Nat × TimePrecision) :=
  if text[19]? = some (ascii '.') then
    let fraction := (text.drop 20).takeWhile isAsciiDigit
    if fraction = [] ∨ fraction.length > 9 then .error .subsecondOutOfRange
    else do
      let (nanosecond, _, precision) ← parseFractionDigits fraction
      .ok (20 + fraction.length, nanosecond, precision)
  else .ok (19, 0, .seconds)

/-- Parse a strict QuickTime ISO-8601 timestamp. A missing offset stays floating. -/
def parseQuicktimeTimestamp (raw : List UInt8) :
    Except TimestampParseError NormalizedTimestamp := do
  let text ← trimUtf8Field raw
  if text.length < 19 ∨ text[4]? ≠ some (ascii '-') ∨ text[7]? ≠ some (ascii '-') ∨
      ¬ (text[10]? = some (ascii 'T') ∨ text[10]? = some (ascii 't')) ∨
      text[13]? ≠ some (ascii ':') ∨ text[16]? ≠ some (ascii ':') then
    .error .invalidSyntax
  else
    let (cursor, nanosecond, precision) ← parseQuicktimeFraction text
    let wall ← parseWallTime text nanosecond
    let suffix := text.drop cursor
    if suffix = [] then .ok (NormalizedTimestamp.floating wall precision)
    else if suffix = [ascii 'Z'] ∨ suffix = [ascii 'z'] then do
      let utc ← UtcOffset.fromMinutes 0
      NormalizedTimestamp.explicit wall utc precision
    else do
      let minutes ← parseIsoOffset suffix
      NormalizedTimestamp.explicit wall minutes precision

/-- `calendar::unix_seconds_to_wall_time`. -/
def unixSecondsToWallTime (unixSeconds : Int) : Except TimestampParseError WallTime :=
  let days := unixSeconds / Calendar.secondsPerDay
  let seconds := unixSeconds % Calendar.secondsPerDay
  if ¬ (-2 ^ 63 ≤ days ∧ days < 2 ^ 63) then .error .yearOutOfRange
  else
    let (year, month, day) := Calendar.civilFromDays days
    if ¬ (0 ≤ year ∧ year < u16Bound) then .error .yearOutOfRange
    else if ¬ (1 ≤ year ∧ year ≤ 9999) then .error .yearOutOfRange
    else
      WallTime.new year.toNat month.toNat day.toNat (seconds / 3600).toNat
        (seconds % 3600 / 60).toNat (seconds % 60).toNat 0

/-- Decode unsigned big-endian `mvhd` seconds since 1904 UTC. -/
def parseQuicktimeMvhd (raw : List UInt8) : Except TimestampParseError NormalizedTimestamp := do
  if ¬ (raw.length = 4 ∨ raw.length = 8) then .error .unsupportedBinaryLength
  else
    let seconds : Int := readBigEndian raw
    match checkedI128 (seconds - quicktimeToUnixSeconds) with
    | none => .error .arithmeticOverflow
    | some unixSeconds => do
        let instant ← UtcInstant.new unixSeconds 0
        let wall ← unixSecondsToWallTime unixSeconds
        .ok (NormalizedTimestamp.quicktimeEpoch wall instant)

end Guiying.Time.Parse
