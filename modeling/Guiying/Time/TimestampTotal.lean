import Guiying.Time.TimestampPrinting

/-!
# The timestamp parsers never panic

Here every index, range and unsigned subtraction of the source is an operation
that panics outside its domain. No input reaches a panic: each parser does what
its total definition does. Nor does a checked operation ever overflow.
-/

namespace Guiying.Time.Parse

open Guiying.Foundation ByteString FixedDigits MachineInt

namespace Checked

/-- An outcome, or `none` for a panic. -/
abbrev Run (α : Type) := ExceptT TimestampParseError Option α

def done {α : Type} (outcome : Except TimestampParseError α) : Run α :=
  ExceptT.mk (some outcome)

def panic {α : Type} : Run α := ExceptT.mk none

/-- `text[position]` -/
def index (text : List UInt8) (position : Nat) : Run UInt8 :=
  match text[position]? with
  | some byte => done (.ok byte)
  | none => panic

/-- `&text[start..stop]` -/
def range (text : List UInt8) (start stop : Nat) : Run (List UInt8) :=
  if start ≤ stop ∧ stop ≤ text.length then done (.ok ((text.drop start).take (stop - start)))
  else panic

/-- `left - right` of unsigned integers. -/
def minus (left right : Nat) : Run Nat :=
  if right ≤ left then done (.ok (left - right)) else panic

def pushDigit (bound value : Nat) (digit : UInt8) : Run Nat :=
  match checkedMul bound value 10 with
  | none => done (.error .arithmeticOverflow)
  | some current => do
      let number ← minus digit.toNat (ascii '0').toNat
      match checkedAdd bound current number with
      | some next => done (.ok next)
      | none => done (.error .arithmeticOverflow)

def parseU16 (bytes : List UInt8) : Run Nat :=
  if bytes = [] ∨ ¬ bytes.all isAsciiDigit then done (.error .invalidSyntax)
  else bytes.foldlM (pushDigit u16Bound) 0

def parseU8 (bytes : List UInt8) : Run Nat := do
  let value ← parseU16 bytes
  if value < u8Bound then done (.ok value) else done (.error .invalidSyntax)

def parseOffset (raw : List UInt8) : Run UtcOffset := do
  let text ← done (trimAsciiField raw)
  if text.length ≠ 6 ∨ ¬ isSign text[0]? ∨ text[3]? ≠ some (ascii ':') then
    done (.error .invalidSyntax)
  else do
    let hoursText ← range text 1 3
    let hours ← parseU8 hoursText
    let minutesText ← range text 4 6
    let minutes ← parseU8 minutesText
    let sign ← index text 0
    done (signedOffset sign hours minutes)

def parseIsoOffset (raw : List UInt8) : Run UtcOffset :=
  if raw.length = 6 then parseOffset raw
  else if raw.length ≠ 5 ∨ ¬ isSign raw[0]? then done (.error .invalidSyntax)
  else do
    let hoursText ← range raw 1 3
    let hours ← parseU8 hoursText
    let minutesText ← range raw 3 5
    let minutes ← parseU8 minutesText
    let sign ← index raw 0
    done (signedOffset sign hours minutes)

def parseFractionDigits (text : List UInt8) : Run (Nat × Nat × TimePrecision) :=
  if text = [] ∨ text.length > 9 ∨ ¬ text.all isAsciiDigit then
    done (.error .subsecondOutOfRange)
  else do
    let numeric ← text.foldlM (pushDigit u32Bound) 0
    let zeros ← minus 9 text.length
    match checkedMul u32Bound numeric (10 ^ zeros) with
    | none => done (.error .arithmeticOverflow)
    | some nanosecond =>
        if nanosecond ≥ nanosPerSecond then done (.error .nanosecondOutOfRange)
        else do
          let precision ← done (TimePrecision.fromNanoseconds (10 ^ zeros))
          done (.ok (nanosecond, text.length, precision))

def parseSubsecond (raw : List UInt8) : Run (Nat × Nat × TimePrecision) := do
  let text ← done (trimAsciiField raw)
  parseFractionDigits text

def parseWallTime (text : List UInt8) (nanosecond : Nat) : Run WallTime := do
  let yearText ← range text 0 4
  let year ← parseU16 yearText
  let monthText ← range text 5 7
  let month ← parseU8 monthText
  let dayText ← range text 8 10
  let day ← parseU8 dayText
  let hourText ← range text 11 13
  let hour ← parseU8 hourText
  let minuteText ← range text 14 16
  let minute ← parseU8 minuteText
  let secondText ← range text 17 19
  let second ← parseU8 secondText
  done (WallTime.new year month day hour minute second nanosecond)

/-! ## Operations inside their domain -/

variable {α β : Type} {text bytes : List UInt8}

theorem done_bind_ok (value : α) (next : α → Run β) : (done (.ok value) >>= next) = next value := rfl

/-- A step that does not panic continues as the outcome does. -/
theorem done_bind {outcome : Except TimestampParseError α} {next : α → Run β}
    {rest : α → Except TimestampParseError β}
    (continued : ∀ value, outcome = .ok value → next value = done (rest value)) :
    (done outcome >>= next) = done (outcome >>= rest) := by
  cases outcome with
  | error error => rfl
  | ok value => exact continued value rfl

theorem range_eq {start stop : Nat} (ordered : start ≤ stop) (inside : stop ≤ text.length) :
    range text start stop = done (.ok (slice text start (stop - start))) :=
  if_pos ⟨ordered, inside⟩

theorem index_zero (some_ : text ≠ []) : index text 0 = done (.ok (text.headD 0)) := by
  cases text with
  | nil => exact absurd rfl some_
  | cons byte rest => rfl

theorem pushDigit_eq {bound value : Nat} {digit : UInt8} (shown : IsDigit digit) :
    pushDigit bound value digit = done (Parse.pushDigit bound value digit) := by
  have low : (ascii '0').toNat ≤ digit.toNat := (isDigit_iff.mp shown).1
  unfold pushDigit Parse.pushDigit minus
  rw [if_pos low]
  cases checkedMul bound value 10 with
  | none => rfl
  | some current =>
      rw [Option.bind_some]
      dsimp only
      rw [done_bind_ok]
      cases checkedAdd bound current (digit.toNat - (ascii '0').toNat) <;> rfl

theorem foldlM_pushDigit_eq {bound : Nat} (all : ∀ byte ∈ bytes, IsDigit byte) (start : Nat) :
    bytes.foldlM (pushDigit bound) start = done (bytes.foldlM (Parse.pushDigit bound) start) := by
  induction bytes generalizing start with
  | nil => rfl
  | cons byte rest ih =>
      have others : ∀ byte ∈ rest, IsDigit byte :=
        fun other member => all other (List.mem_cons_of_mem _ member)
      rw [List.foldlM_cons, List.foldlM_cons, pushDigit_eq (all byte List.mem_cons_self)]
      exact done_bind fun value _ => ih others value

theorem parseU16_eq (bytes : List UInt8) : parseU16 bytes = done (Parse.parseU16 bytes) := by
  unfold parseU16 Parse.parseU16
  split
  · rfl
  · rename_i guard
    rw [not_or, not_not, all_isAsciiDigit_iff] at guard
    exact foldlM_pushDigit_eq guard.2 0

theorem parseU8_eq (bytes : List UInt8) : parseU8 bytes = done (Parse.parseU8 bytes) := by
  unfold parseU8 Parse.parseU8
  rw [parseU16_eq]
  refine done_bind fun value _ => ?_
  split <;> rfl

/-- A range of two bytes and the number in it. -/
theorem number_eq {start stop : Nat} {next : Nat → Run β} {rest : Nat → Except TimestampParseError β}
    (two : stop = start + 2) (inside : stop ≤ text.length)
    (continued : ∀ value, next value = done (rest value)) :
    (range text start stop >>= fun found => parseU8 found >>= next) =
      done (Parse.parseU8 (slice text start 2) >>= rest) := by
  subst two
  rw [range_eq (Nat.le_add_right _ _) inside, done_bind_ok, parseU8_eq, Nat.add_sub_cancel_left]
  exact done_bind fun value _ => continued value

theorem parseOffset_eq (raw : List UInt8) : parseOffset raw = done (Parse.parseOffset raw) := by
  unfold parseOffset Parse.parseOffset
  refine done_bind fun text _ => ?_
  split
  · rfl
  · rename_i guard
    have length : text.length = 6 := not_not.mp (not_or.mp guard).1
    have some_ : text ≠ [] := List.length_pos_iff.mp (by omega)
    refine number_eq rfl (by omega) fun hours => ?_
    refine number_eq rfl (by omega) fun minutes => ?_
    rw [index_zero some_]
    rfl

theorem parseIsoOffset_eq (raw : List UInt8) :
    parseIsoOffset raw = done (Parse.parseIsoOffset raw) := by
  unfold parseIsoOffset Parse.parseIsoOffset
  split
  · exact parseOffset_eq raw
  · split
    · rfl
    · rename_i guard
      have length : raw.length = 5 := not_not.mp (not_or.mp guard).1
      have some_ : raw ≠ [] := List.length_pos_iff.mp (by omega)
      refine number_eq rfl (by omega) fun hours => ?_
      refine number_eq rfl (by omega) fun minutes => ?_
      rw [index_zero some_]
      rfl

theorem parseFractionDigits_eq (text : List UInt8) :
    parseFractionDigits text = done (Parse.parseFractionDigits text) := by
  unfold parseFractionDigits Parse.parseFractionDigits
  split
  · rfl
  · rename_i guard
    rw [not_or, not_or, not_not, all_isAsciiDigit_iff, not_lt] at guard
    rw [foldlM_pushDigit_eq guard.2.2]
    refine done_bind fun numeric _ => ?_
    unfold minus
    rw [if_pos guard.2.1, done_bind_ok]
    dsimp only
    cases checkedMul u32Bound numeric (10 ^ (9 - text.length)) with
    | none => rfl
    | some nanosecond =>
        dsimp only
        split
        · rfl
        · exact done_bind fun precision _ => rfl

theorem parseSubsecond_eq (raw : List UInt8) :
    parseSubsecond raw = done (Parse.parseSubsecond raw) :=
  done_bind fun text _ => parseFractionDigits_eq text

theorem parseWallTime_eq {nanosecond : Nat} (long : 19 ≤ text.length) :
    parseWallTime text nanosecond = done (Parse.parseWallTime text nanosecond) := by
  unfold parseWallTime Parse.parseWallTime
  rw [range_eq (by omega) (by omega), done_bind_ok, parseU16_eq]
  refine done_bind fun year _ => ?_
  refine number_eq rfl (by omega) fun month => ?_
  refine number_eq rfl (by omega) fun day => ?_
  refine number_eq rfl (by omega) fun hour => ?_
  refine number_eq rfl (by omega) fun minute => ?_
  exact number_eq rfl (by omega) fun second => rfl

/-! ## The parsers -/

def exifWall (whole : WallTime) : Option (List UInt8) → Run (WallTime × TimePrecision)
  | some raw => do
      let (nanosecond, _, precision) ← parseSubsecond raw
      let wall ← done (whole.withNanosecond nanosecond)
      done (.ok (wall, precision))
  | none => done (.ok (whole, TimePrecision.seconds))

def exifZone (wall : WallTime) (precision : TimePrecision) :
    Option (List UInt8) → Run NormalizedTimestamp
  | some raw => do
      let minutes ← parseOffset raw
      done (NormalizedTimestamp.explicit wall minutes precision)
  | none => done (.ok (NormalizedTimestamp.floating wall precision))

def parseExifTimestamp (datetime : List UInt8) (subsecond offset : Option (List UInt8)) :
    Run NormalizedTimestamp := do
  let text ← done (trimAsciiField datetime)
  if text.length ≠ 19 ∨ text[4]? ≠ some (ascii ':') ∨ text[7]? ≠ some (ascii ':') ∨
      text[10]? ≠ some (ascii ' ') ∨ text[13]? ≠ some (ascii ':') ∨
      text[16]? ≠ some (ascii ':') then
    done (.error .invalidSyntax)
  else do
    let whole ← parseWallTime text 0
    let (wall, precision) ← exifWall whole subsecond
    exifZone wall precision offset

/-- `text.get(start..stop)`, with the error of the source when the range does not exist. -/
def get (text : List UInt8) (start stop : Nat) : Run (List UInt8) :=
  if start ≤ stop ∧ stop ≤ text.length then done (.ok ((text.drop start).take (stop - start)))
  else done (.error .invalidSyntax)

def parseQuicktimeFraction (text : List UInt8) : Run (Nat × Nat × TimePrecision) :=
  if text[19]? = some (ascii '.') then do
    let stop := 20 + ((text.drop 20).takeWhile isAsciiDigit).length
    let fraction ← get text 20 stop
    if fraction = [] ∨ fraction.length > 9 then done (.error .subsecondOutOfRange)
    else do
      let (nanosecond, _, precision) ← parseFractionDigits fraction
      done (.ok (stop, nanosecond, precision))
  else done (.ok (19, 0, .seconds))

def quicktimeZone (wall : WallTime) (precision : TimePrecision) (suffix : List UInt8) :
    Run NormalizedTimestamp :=
  if suffix = [] then done (.ok (NormalizedTimestamp.floating wall precision))
  else if suffix = [ascii 'Z'] ∨ suffix = [ascii 'z'] then do
    let utc ← done (UtcOffset.fromMinutes 0)
    done (NormalizedTimestamp.explicit wall utc precision)
  else do
    let minutes ← parseIsoOffset suffix
    done (NormalizedTimestamp.explicit wall minutes precision)

def parseQuicktimeTimestamp (raw : List UInt8) : Run NormalizedTimestamp := do
  let text ← done (trimUtf8Field raw)
  if text.length < 19 ∨ text[4]? ≠ some (ascii '-') ∨ text[7]? ≠ some (ascii '-') ∨
      ¬ (text[10]? = some (ascii 'T') ∨ text[10]? = some (ascii 't')) ∨
      text[13]? ≠ some (ascii ':') ∨ text[16]? ≠ some (ascii ':') then
    done (.error .invalidSyntax)
  else do
    let (cursor, nanosecond, precision) ← parseQuicktimeFraction text
    let wall ← parseWallTime text nanosecond
    let suffix ← get text cursor text.length
    quicktimeZone wall precision suffix

theorem exifWall_eq (whole : WallTime) (subsecond : Option (List UInt8)) :
    exifWall whole subsecond = done (Parse.exifWall whole subsecond) := by
  cases subsecond with
  | none => rfl
  | some raw =>
      unfold exifWall Parse.exifWall
      dsimp only
      rw [parseSubsecond_eq]
      exact done_bind fun result _ => done_bind fun wall _ => rfl

theorem exifZone_eq (wall : WallTime) (precision : TimePrecision) (offset : Option (List UInt8)) :
    exifZone wall precision offset = done (Parse.exifZone wall precision offset) := by
  cases offset with
  | none => rfl
  | some raw =>
      unfold exifZone Parse.exifZone
      dsimp only
      rw [parseOffset_eq]
      exact done_bind fun minutes _ => rfl

theorem parseExifTimestamp_eq (datetime : List UInt8) (subsecond offset : Option (List UInt8)) :
    parseExifTimestamp datetime subsecond offset =
      done (Parse.parseExifTimestamp datetime subsecond offset) := by
  rw [parseExifTimestamp_shape]
  unfold parseExifTimestamp
  refine done_bind fun text _ => ?_
  split
  · rfl
  · rename_i guard
    have length : text.length = 19 := not_not.mp (not_or.mp guard).1
    rw [parseWallTime_eq length.ge]
    refine done_bind fun whole _ => ?_
    rw [exifWall_eq]
    exact done_bind fun found _ => exifZone_eq found.1 found.2 offset

theorem get_eq {start stop : Nat} (ordered : start ≤ stop) (inside : stop ≤ text.length) :
    get text start stop = done (.ok ((text.drop start).take (stop - start))) :=
  if_pos ⟨ordered, inside⟩

theorem parseQuicktimeFraction_eq (text : List UInt8) :
    parseQuicktimeFraction text = done (Parse.parseQuicktimeFraction text) := by
  unfold parseQuicktimeFraction Parse.parseQuicktimeFraction
  split
  · rename_i dot
    obtain ⟨position, -⟩ := List.getElem?_eq_some_iff.mp dot
    have short := (List.takeWhile_prefix isAsciiDigit (l := text.drop 20)).length_le
    rw [List.length_drop] at short
    have taken : (text.drop 20).take ((text.drop 20).takeWhile isAsciiDigit).length =
        (text.drop 20).takeWhile isAsciiDigit :=
      (List.prefix_iff_eq_take.mp (List.takeWhile_prefix isAsciiDigit)).symm
    dsimp only
    rw [get_eq (Nat.le_add_right _ _) (by omega), done_bind_ok, Nat.add_sub_cancel_left, taken]
    split
    · rfl
    · rw [parseFractionDigits_eq]
      exact done_bind fun result _ => rfl
  · rfl

theorem quicktimeZone_eq (wall : WallTime) (precision : TimePrecision) (suffix : List UInt8) :
    quicktimeZone wall precision suffix = done (Parse.quicktimeZone wall precision suffix) := by
  unfold quicktimeZone Parse.quicktimeZone
  split
  · rfl
  · split
    · exact done_bind fun utc _ => rfl
    · rw [parseIsoOffset_eq]
      exact done_bind fun minutes _ => rfl

/-- The cursor stays inside the text. -/
theorem cursor_le {cursor nanosecond : Nat} {precision : TimePrecision} (long : 19 ≤ text.length)
    (parsed : Parse.parseQuicktimeFraction text = .ok (cursor, nanosecond, precision)) :
    cursor ≤ text.length := by
  unfold Parse.parseQuicktimeFraction at parsed
  split at parsed
  · rename_i dot
    obtain ⟨position, -⟩ := List.getElem?_eq_some_iff.mp dot
    have short := (List.takeWhile_prefix isAsciiDigit (l := text.drop 20)).length_le
    rw [List.length_drop] at short
    dsimp only at parsed
    split at parsed
    · cases parsed
    · obtain ⟨result, -, same⟩ := Outcome.bind_eq_ok.mp parsed
      cases same
      omega
  · cases parsed
    exact long

theorem parseQuicktimeTimestamp_eq (raw : List UInt8) :
    parseQuicktimeTimestamp raw = done (Parse.parseQuicktimeTimestamp raw) := by
  unfold parseQuicktimeTimestamp Parse.parseQuicktimeTimestamp
  refine done_bind fun text _ => ?_
  split
  · rfl
  · rename_i guard
    have long : 19 ≤ text.length := not_lt.mp (not_or.mp guard).1
    rw [parseQuicktimeFraction_eq]
    refine done_bind fun found parsed => ?_
    obtain ⟨cursor, nanosecond, precision⟩ := found
    have inside := cursor_le long parsed
    dsimp only
    rw [parseWallTime_eq long]
    refine done_bind fun wall _ => ?_
    have rest : (text.drop cursor).take (text.length - cursor) = text.drop cursor :=
      List.take_of_length_le (by rw [List.length_drop])
    rw [get_eq inside (Nat.le_refl _), done_bind_ok, rest, quicktimeZone_eq]
    rfl

end Checked

/-! ## No overflow -/

/-- A computation that never reports an overflow of a checked operation. -/
def NoOverflow {α : Type} (outcome : Except TimestampParseError α) : Prop :=
  outcome ≠ .error .arithmeticOverflow

section NoOverflow

variable {α β : Type} {text bytes : List UInt8}

theorem NoOverflow.bind {first : Except TimestampParseError α}
    {next : α → Except TimestampParseError β} (start : NoOverflow first)
    (continued : ∀ value, first = .ok value → NoOverflow (next value)) :
    NoOverflow (first >>= next) := by
  cases first with
  | error error =>
      intro same
      exact start (congrArg Except.error (Except.error.inj same))
  | ok value => exact continued value rfl

theorem trimField_noOverflow (raw : List UInt8) : NoOverflow (trimField raw) := by
  intro failed
  unfold trimField at failed
  dsimp only at failed
  split_ifs at failed <;> cases failed

theorem trimAsciiField_noOverflow (raw : List UInt8) : NoOverflow (trimAsciiField raw) := by
  unfold trimAsciiField
  split
  · exact trimField_noOverflow raw
  · exact nofun

theorem trimUtf8Field_noOverflow (raw : List UInt8) : NoOverflow (trimUtf8Field raw) := by
  unfold trimUtf8Field
  split
  · exact trimField_noOverflow raw
  · exact nofun

theorem parseU16_noOverflow (short : bytes.length ≤ 4) : NoOverflow (parseU16 bytes) := by
  unfold parseU16
  split
  · exact nofun
  · rename_i guard
    rw [not_or, not_not, all_isAsciiDigit_iff] at guard
    have fits : 10 ^ bytes.length ≤ u16Bound :=
      (Nat.pow_le_pow_right (by decide) short).trans (by decide)
    rw [foldlM_pushDigit guard.2 fits]
    exact nofun

theorem parseU8_noOverflow (position : Nat) : NoOverflow (parseU8 (slice text position 2)) := by
  have short : (slice text position 2).length ≤ 4 :=
    (List.length_take_le 2 _).trans (by decide)
  refine (parseU16_noOverflow short).bind fun value _ => ?_
  split <;> exact nofun

theorem new_noOverflow (year month day hour minute second nanosecond : Nat) :
    NoOverflow (WallTime.new year month day hour minute second nanosecond) := by
  intro failed
  unfold WallTime.new at failed
  split at failed
  · cases failed
  · rename_i error refused
    cases failed
    unfold Calendar.validateComponents at refused
    split_ifs at refused <;> cases refused

theorem parseWallTime_noOverflow (text : List UInt8) (nanosecond : Nat) :
    NoOverflow (parseWallTime text nanosecond) := by
  have year : NoOverflow (parseU16 (slice text 0 4)) :=
    parseU16_noOverflow (List.length_take_le 4 _)
  refine year.bind fun year _ => ?_
  refine (parseU8_noOverflow 5).bind fun month _ => ?_
  refine (parseU8_noOverflow 8).bind fun day _ => ?_
  refine (parseU8_noOverflow 11).bind fun hour _ => ?_
  refine (parseU8_noOverflow 14).bind fun minute _ => ?_
  refine (parseU8_noOverflow 17).bind fun second _ => ?_
  exact new_noOverflow _ _ _ _ _ _ _

theorem fromMinutes_noOverflow (minutes : Int) : NoOverflow (UtcOffset.fromMinutes minutes) := by
  unfold UtcOffset.fromMinutes
  split <;> exact nofun

theorem signedOffset_noOverflow (sign : UInt8) (hours minutes : Nat) :
    NoOverflow (signedOffset sign hours minutes) := by
  by_cases guard : minutes > 59 ∨ hours > 14 ∨ (hours = 14 ∧ minutes ≠ 0)
  · unfold signedOffset
    rw [if_pos guard]
    exact nofun
  · rw [signedOffset_eq (by omega) (by omega)]
    split
    · exact nofun
    · exact fromMinutes_noOverflow _

theorem parseOffset_noOverflow (raw : List UInt8) : NoOverflow (parseOffset raw) := by
  refine (trimAsciiField_noOverflow raw).bind fun text _ => ?_
  split
  · exact nofun
  · refine (parseU8_noOverflow 1).bind fun hours _ => ?_
    refine (parseU8_noOverflow 4).bind fun minutes _ => ?_
    exact signedOffset_noOverflow _ _ _

theorem parseIsoOffset_noOverflow (raw : List UInt8) : NoOverflow (parseIsoOffset raw) := by
  unfold parseIsoOffset
  split
  · exact parseOffset_noOverflow raw
  · split
    · exact nofun
    · refine (parseU8_noOverflow 1).bind fun hours _ => ?_
      refine (parseU8_noOverflow 3).bind fun minutes _ => ?_
      exact signedOffset_noOverflow _ _ _

theorem parseFractionDigits_noOverflow (text : List UInt8) :
    NoOverflow (parseFractionDigits text) := by
  by_cases guard : text = [] ∨ text.length > 9 ∨ ¬ text.all isAsciiDigit
  · unfold parseFractionDigits
    rw [if_pos guard]
    exact nofun
  · rw [not_or, not_or, not_not, all_isAsciiDigit_iff, not_lt] at guard
    obtain ⟨some_, short, all⟩ := guard
    have shown : text = FractionText.print
        ⟨text.length, value text, List.length_pos_iff.mpr some_, short, value_lt all⟩ :=
      (digits_value all).symm
    rw [shown, parseFractionDigits_print]
    exact nofun

theorem explicit_noOverflow (wall : WallTime) (offset : UtcOffset) (precision : TimePrecision) :
    NoOverflow (NormalizedTimestamp.explicit wall offset precision) := by
  rw [NormalizedTimestamp.explicit_eq]
  exact nofun

theorem parseExifTimestamp_noOverflow (datetime : List UInt8)
    (subsecond offset : Option (List UInt8)) :
    NoOverflow (parseExifTimestamp datetime subsecond offset) := by
  rw [parseExifTimestamp_shape]
  refine (trimAsciiField_noOverflow datetime).bind fun text _ => ?_
  split
  · exact nofun
  · refine (parseWallTime_noOverflow text 0).bind fun whole _ => ?_
    have fraction : NoOverflow (exifWall whole subsecond) := by
      cases subsecond with
      | none => exact nofun
      | some raw =>
          have digitsOf : NoOverflow (parseSubsecond raw) :=
            (trimAsciiField_noOverflow raw).bind fun text _ => parseFractionDigits_noOverflow text
          refine digitsOf.bind fun result _ => ?_
          exact (new_noOverflow _ _ _ _ _ _ _).bind fun wall _ => nofun
    refine fraction.bind fun found _ => ?_
    cases offset with
    | none => exact nofun
    | some raw => exact (parseOffset_noOverflow raw).bind fun _ _ => explicit_noOverflow _ _ _

theorem parseQuicktimeFraction_noOverflow (text : List UInt8) :
    NoOverflow (parseQuicktimeFraction text) := by
  unfold parseQuicktimeFraction
  split
  · dsimp only
    split
    · exact nofun
    · exact (parseFractionDigits_noOverflow _).bind fun _ _ => nofun
  · exact nofun

theorem quicktimeZone_noOverflow (wall : WallTime) (precision : TimePrecision)
    (suffix : List UInt8) : NoOverflow (quicktimeZone wall precision suffix) := by
  unfold quicktimeZone
  split
  · exact nofun
  · split
    · exact (fromMinutes_noOverflow 0).bind fun _ _ => explicit_noOverflow _ _ _
    · exact (parseIsoOffset_noOverflow suffix).bind fun _ _ => explicit_noOverflow _ _ _

theorem parseQuicktimeTimestamp_noOverflow (raw : List UInt8) :
    NoOverflow (parseQuicktimeTimestamp raw) := by
  refine (trimUtf8Field_noOverflow raw).bind fun text _ => ?_
  split
  · exact nofun
  · refine (parseQuicktimeFraction_noOverflow text).bind fun found _ => ?_
    refine (parseWallTime_noOverflow text found.2.1).bind fun wall _ => ?_
    exact quicktimeZone_noOverflow _ _ _

end NoOverflow

/-! ## Both parsers -/

/-- What a value says about the text it was read from. -/
structure Components (timestamp : NormalizedTimestamp) (wall : WallTime)
    (fraction : Option FractionText) (offset : Option UtcOffset) : Prop where
  wallTime : timestamp.wallTime = wall
  nanosecond : timestamp.wallTime.nanosecond = fractionNanosecond fraction
  precision : timestamp.precision = fractionPrecision fraction
  utcOffset : timestamp.utcOffset = offset
  floating : offset = none → timestamp.offsetKind = .missing ∧ timestamp.utcInstant = none
  explicit : ∀ minutes, offset = some minutes → timestamp.offsetKind = .explicit ∧
    ∃ instant, timestamp.utcInstant = some instant ∧
      instant.unixSeconds = wall.naiveUnixSeconds - 60 * minutes.minutes ∧
      instant.nanosecond = wall.nanosecond

theorem components_ofOffset {wall : WallTime} {fraction : Option FractionText}
    (offset : Option UtcOffset) (agree : wall.nanosecond = fractionNanosecond fraction) :
    Components (.ofOffset wall (fractionPrecision fraction) offset) wall fraction offset := by
  cases offset with
  | none =>
      refine ⟨rfl, agree, rfl, rfl, fun _ => ⟨rfl, rfl⟩, ?_⟩
      intro minutes missing
      cases missing
  | some minutes =>
      refine ⟨rfl, agree, rfl, rfl, nofun, ?_⟩
      rintro _ ⟨⟩
      refine ⟨rfl, _, rfl, ?_, rfl⟩
      dsimp only
      rw [mul_comm]

/-- What the parsers accept, what they return, and that printing is their inverse. -/
structure TimestampTexts : Prop where
  quicktime : ∀ raw timestamp, parseQuicktimeTimestamp raw = .ok timestamp ↔
    ∃ text : QuicktimeText, raw.rdropWhile isTrailingPadding = text.print ∧
      Components timestamp text.wall text.fraction text.zone.value
  exif : ∀ datetime subsecond offset timestamp,
    parseExifTimestamp datetime subsecond offset = .ok timestamp ↔
      ∃ text : ExifText, datetime.rdropWhile isTrailingPadding = text.print ∧
        subsecond.map (List.rdropWhile isTrailingPadding) =
          text.fraction.map FractionText.print ∧
        offset.map (List.rdropWhile isTrailingPadding) =
          text.offset.map (OffsetText.print true) ∧
        Components timestamp text.wall text.fraction (text.offset.map OffsetText.value)
  quicktimePrinted : ∀ text : QuicktimeText,
    parseQuicktimeTimestamp text.print = .ok text.value
  exifPrinted : ∀ text : ExifText,
    parseExifTimestamp text.print (text.fraction.map FractionText.print)
      (text.offset.map (OffsetText.print true)) = .ok text.value
  quicktimeAgain : ∀ raw timestamp, parseQuicktimeTimestamp raw = .ok timestamp →
    parseQuicktimeTimestamp timestamp.printQuicktime = .ok timestamp
  exifAgain : ∀ datetime subsecond offset timestamp,
    parseExifTimestamp datetime subsecond offset = .ok timestamp →
    parseExifTimestamp timestamp.printExif.1 timestamp.printExif.2.1 timestamp.printExif.2.2 =
      .ok timestamp
  /-- With panicking indices, ranges and subtractions the parsers do the same. -/
  quicktimeTotal : ∀ raw, Checked.parseQuicktimeTimestamp raw =
    Checked.done (parseQuicktimeTimestamp raw)
  exifTotal : ∀ datetime subsecond offset, Checked.parseExifTimestamp datetime subsecond offset =
    Checked.done (parseExifTimestamp datetime subsecond offset)
  quicktimeNoOverflow : ∀ raw, parseQuicktimeTimestamp raw ≠ .error .arithmeticOverflow
  exifNoOverflow : ∀ datetime subsecond offset,
    parseExifTimestamp datetime subsecond offset ≠ .error .arithmeticOverflow

/-- The components of a value determine it. -/
theorem eq_of_components {timestamp : NormalizedTimestamp} {wall : WallTime}
    {fraction : Option FractionText} {offset : Option UtcOffset}
    (components : Components timestamp wall fraction offset) :
    timestamp = .ofOffset wall (fractionPrecision fraction) offset := by
  cases offset with
  | none =>
      obtain ⟨kind, instant⟩ := components.floating rfl
      exact NormalizedTimestamp.ext_parts components.wallTime components.utcOffset instant kind
        components.precision
  | some minutes =>
      obtain ⟨kind, instant, found, seconds, nanosecond⟩ := components.explicit minutes rfl
      refine NormalizedTimestamp.ext_parts components.wallTime components.utcOffset ?_ kind
        components.precision
      rw [found]
      obtain ⟨unixSeconds, nanoseconds, small⟩ := instant
      dsimp only at seconds nanosecond
      subst nanosecond
      rw [mul_comm] at seconds
      subst seconds
      rfl

theorem timestampTexts : TimestampTexts where
  quicktime raw timestamp := by
    rw [parseQuicktimeTimestamp_eq_ok]
    constructor
    · rintro ⟨text, trimmed, rfl⟩
      exact ⟨text, trimmed, components_ofOffset _ text.agree⟩
    · rintro ⟨text, trimmed, components⟩
      exact ⟨text, trimmed, eq_of_components components⟩
  exif datetime subsecond offset timestamp := by
    rw [parseExifTimestamp_eq_ok]
    constructor
    · rintro ⟨text, trimmed, fraction, shown, rfl⟩
      exact ⟨text, trimmed, fraction, shown, components_ofOffset _ text.agree⟩
    · rintro ⟨text, trimmed, fraction, shown, components⟩
      exact ⟨text, trimmed, fraction, shown, eq_of_components components⟩
  quicktimePrinted := parseQuicktimeTimestamp_print
  exifPrinted := parseExifTimestamp_print
  quicktimeAgain _ _ := parseQuicktimeTimestamp_printQuicktime
  exifAgain _ _ _ _ := parseExifTimestamp_printExif
  quicktimeTotal := Checked.parseQuicktimeTimestamp_eq
  exifTotal := Checked.parseExifTimestamp_eq
  quicktimeNoOverflow := parseQuicktimeTimestamp_noOverflow
  exifNoOverflow := parseExifTimestamp_noOverflow

end Guiying.Time.Parse
