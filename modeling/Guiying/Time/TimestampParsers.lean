import Guiying.Time.TimestampGrammar

/-!
# What the timestamp parsers accept

Trimming, fractions and offsets one by one, then both parsers against their
grammar: a text is accepted exactly when it is a printed one, and its value is
the value of that text.
-/

namespace Guiying.Time.Parse

open Guiying.Foundation ByteString FixedDigits MachineInt

variable {raw text bytes : List UInt8}

/-! ## Trimming -/

theorem ascii_of_trimmed (plain : ∀ byte ∈ raw.rdropWhile isTrailingPadding, byte ≤ 0x7F) :
    ∀ byte ∈ raw, byte ≤ 0x7F := by
  intro byte member
  rw [← List.rdropWhile_append_rtakeWhile (p := isTrailingPadding) (l := raw)] at member
  rcases List.mem_append.mp member with kept | dropped
  · exact plain byte kept
  · have padding := List.mem_rtakeWhile_imp dropped
    unfold isTrailingPadding at padding
    simp only [Bool.or_eq_true, beq_iff_eq] at padding
    rcases padding with (((rfl | rfl) | rfl) | rfl) | rfl <;> decide

theorem trimField_eq_ok : trimField raw = .ok text ↔
    text = raw.rdropWhile isTrailingPadding ∧ text ≠ [] ∧ 0 ∉ text := by
  unfold trimField
  dsimp only
  split_ifs with empty nul
  · exact ⟨nofun, fun found => absurd (found.1.trans empty) found.2.1⟩
  · exact ⟨nofun, fun found => absurd (found.1 ▸ nul) found.2.2⟩
  · rw [Except.ok.injEq]
    constructor
    · rintro rfl
      exact ⟨rfl, empty, nul⟩
    · rintro ⟨rfl, -⟩
      rfl

/-- A text of printed bytes: ASCII, not a NUL. -/
def Printed (text : List UInt8) : Prop := text ≠ [] ∧ ∀ byte ∈ text, byte ≠ 0 ∧ byte ≤ 0x7F

theorem trimField_of_printed (trimmed : raw.rdropWhile isTrailingPadding = text)
    (printed : Printed text) : trimField raw = .ok text :=
  trimField_eq_ok.mpr ⟨trimmed.symm, printed.1, fun nul => (printed.2 0 nul).1 rfl⟩

theorem trimAsciiField_of_printed (trimmed : raw.rdropWhile isTrailingPadding = text)
    (printed : Printed text) : trimAsciiField raw = .ok text := by
  have plain : ∀ byte ∈ raw, byte ≤ 0x7F := ascii_of_trimmed (by
    rw [trimmed]
    exact fun byte member => (printed.2 byte member).2)
  unfold trimAsciiField
  rw [if_pos (List.all_eq_true.mpr fun byte member => decide_eq_true (plain byte member))]
  exact trimField_of_printed trimmed printed

theorem trimUtf8Field_of_printed (trimmed : raw.rdropWhile isTrailingPadding = text)
    (printed : Printed text) : trimUtf8Field raw = .ok text := by
  have plain : ∀ byte ∈ raw, byte ≤ 0x7F := ascii_of_trimmed (by
    rw [trimmed]
    exact fun byte member => (printed.2 byte member).2)
  unfold trimUtf8Field
  rw [if_pos (Utf8.valid_of_ascii plain)]
  exact trimField_of_printed trimmed printed

theorem trimmed_of_ascii (found : trimAsciiField raw = .ok text) :
    raw.rdropWhile isTrailingPadding = text := by
  unfold trimAsciiField at found
  split at found
  · exact (trimField_eq_ok.mp found).1.symm
  · cases found

theorem trimmed_of_utf8 (found : trimUtf8Field raw = .ok text) :
    raw.rdropWhile isTrailingPadding = text := by
  unfold trimUtf8Field at found
  split at found
  · exact (trimField_eq_ok.mp found).1.symm
  · cases found

theorem printed_of_isDigit {byte : UInt8} (digit : IsDigit byte) : byte ≠ 0 ∧ byte ≤ 0x7F := by
  obtain ⟨low, high⟩ := isDigit_iff.mp digit
  constructor
  · rintro rfl
    exact absurd low (by decide)
  · rw [UInt8.le_iff_toNat_le]
    exact high.trans (by decide)

theorem not_padding_of_isDigit {byte : UInt8} (digit : IsDigit byte) :
    isTrailingPadding byte = false := by
  obtain ⟨low, high⟩ := isDigit_iff.mp digit
  have apart (other : UInt8) (small : other.toNat < 48) : (byte == other) = false := by
    rw [beq_eq_false_iff_ne]
    rintro rfl
    omega
  unfold isTrailingPadding
  rw [apart 0 (by decide), apart _ (by decide), apart _ (by decide), apart _ (by decide),
    apart _ (by decide)]
  rfl

/-! ## Fractions -/

theorem parseFractionDigits_print (fraction : FractionText) :
    parseFractionDigits fraction.print =
      .ok (fraction.nanosecond, fraction.width, fraction.precision) := by
  have low := fraction.width_pos
  have high := fraction.width_le
  have length : fraction.print.length = fraction.width := length_digits _ _
  have all : ∀ byte ∈ fraction.print, IsDigit byte := fun _ member => isDigit_of_mem_digits member
  have number : value fraction.print = fraction.number := value_digits_of_lt fraction.number_lt
  have small := fraction.nanosecond_lt
  have fits : 10 ^ fraction.print.length ≤ u32Bound := by
    rw [length]
    exact (Nat.pow_le_pow_right (by decide) high).trans (by decide)
  have scaled : checkedMul u32Bound fraction.number (10 ^ (9 - fraction.width)) =
      some fraction.nanosecond :=
    checkedMul_eq_some.mpr ⟨small.trans (by decide), rfl⟩
  unfold parseFractionDigits
  rw [if_neg]
  · dsimp only
    rw [foldlM_pushDigit all fits, Outcome.ok_bind, number, length, scaled]
    dsimp only
    rw [if_neg (not_le.mpr small)]
    unfold TimePrecision.fromNanoseconds
    rw [dif_pos fraction.scale_bounds, Outcome.ok_bind]
    rfl
  · have some_ : fraction.print ≠ [] := List.length_pos_iff.mp (by omega)
    rw [not_or, not_or, not_not, all_isAsciiDigit_iff, length]
    exact ⟨some_, by omega, all⟩

theorem fraction_of_parseFractionDigits {result : Nat × Nat × TimePrecision}
    (parsed : parseFractionDigits bytes = .ok result) :
    ∃ fraction : FractionText, bytes = fraction.print ∧
      result = (fraction.nanosecond, fraction.width, fraction.precision) := by
  have guard : bytes ≠ [] ∧ bytes.length ≤ 9 ∧ ∀ byte ∈ bytes, IsDigit byte := by
    unfold parseFractionDigits at parsed
    split at parsed
    · cases parsed
    · rename_i passed
      rw [not_or, not_or, not_not, all_isAsciiDigit_iff, not_lt] at passed
      exact passed
  obtain ⟨some_, short, all⟩ := guard
  let fraction : FractionText :=
    ⟨bytes.length, value bytes, List.length_pos_iff.mpr some_, short, value_lt all⟩
  have same : bytes = fraction.print := (digits_value all).symm
  refine ⟨fraction, same, ?_⟩
  rw [same, parseFractionDigits_print] at parsed
  exact (Except.ok.inj parsed).symm

/-! ## Offsets -/

theorem isSign_signByte (offset : OffsetText) : isSign (some offset.signByte) = true := by
  unfold isSign OffsetText.signByte
  cases offset.negative <;> decide

/-- Within fourteen hours only minus zero is refused. -/
theorem signedOffset_eq {sign : UInt8} {hours minutes : Nat} (short : minutes ≤ 59)
    (bounded : hours * 60 + minutes ≤ 14 * 60) :
    signedOffset sign hours minutes =
      if sign = ascii '-' ∧ hours * 60 + minutes = 0 then .error .unknownNegativeZeroOffset
      else UtcOffset.fromMinutes
        (if sign = ascii '-' then -((hours * 60 + minutes : Nat) : Int)
          else (hours * 60 + minutes : Nat)) := by
  have scaled : checkedMul (2 ^ 15) hours 60 = some (hours * 60) :=
    checkedMul_eq_some.mpr ⟨by omega, rfl⟩
  have sum : checkedAdd (2 ^ 15) (hours * 60) minutes = some (hours * 60 + minutes) :=
    checkedAdd_eq_some.mpr ⟨by omega, rfl⟩
  unfold signedOffset
  rw [if_neg (by omega), scaled, Option.bind_some, sum]

theorem signedOffset_signByte (offset : OffsetText) :
    signedOffset offset.signByte offset.hours offset.minutes = .ok offset.value := by
  rw [signedOffset_eq offset.minutes_le offset.magnitude_le]
  have fits : UtcOffset.fromMinutes offset.signedMinutes = .ok offset.value :=
    dif_pos offset.value.inRange
  obtain ⟨negative, hours, minutes, short, bounded, nonzero⟩ := offset
  cases negative with
  | true =>
      have different : ¬ hours * 60 + minutes = 0 := fun zero => nonzero ⟨rfl, zero⟩
      rw [if_neg fun both => different both.2]
      exact fits
  | false =>
      have plus : ¬ (ascii '+' = ascii '-') := by decide
      rw [if_neg fun both => plus both.1]
      exact fits

theorem offset_of_signedOffset {sign : UInt8} {hours minutes : Nat} {offset : UtcOffset}
    (signed : isSign (some sign) = true) (parsed : signedOffset sign hours minutes = .ok offset) :
    ∃ text : OffsetText, text.signByte = sign ∧ text.hours = hours ∧ text.minutes = minutes ∧
      offset = text.value := by
  have guard : minutes ≤ 59 ∧ hours * 60 + minutes ≤ 14 * 60 := by
    unfold signedOffset at parsed
    split at parsed
    · cases parsed
    · omega
  obtain ⟨short, bounded⟩ := guard
  have nonzero : ¬ (sign = ascii '-' ∧ hours * 60 + minutes = 0) := by
    intro both
    rw [signedOffset_eq short bounded, if_pos both] at parsed
    cases parsed
  have spelled : (if decide (sign = ascii '-') then ascii '-' else ascii '+') = sign := by
    unfold isSign at signed
    rw [Bool.or_eq_true, beq_iff_eq, beq_iff_eq, Option.some.injEq, Option.some.injEq] at signed
    rcases signed with rfl | rfl <;> decide
  let text : OffsetText := ⟨decide (sign = ascii '-'), hours, minutes, short, bounded, by
    rw [decide_eq_true_eq]
    exact nonzero⟩
  have same : text.signByte = sign := spelled
  refine ⟨text, same, rfl, rfl, ?_⟩
  have value := signedOffset_signByte text
  rw [same] at value
  exact Except.ok.inj (parsed.symm.trans value)

theorem length_print (colon : Bool) (offset : OffsetText) :
    (offset.print colon).length = if colon then 6 else 5 := by
  cases colon <;> simp [OffsetText.print]

theorem printed_print (colon : Bool) (offset : OffsetText) : Printed (offset.print colon) := by
  refine ⟨List.cons_ne_nil _ _, fun byte member => ?_⟩
  unfold OffsetText.print OffsetText.signByte at member
  simp only [List.cons_append, List.mem_cons, List.mem_append] at member
  rcases member with rfl | (hours | separator) | minutes
  · cases offset.negative <;> decide
  · exact printed_of_isDigit (isDigit_of_mem_digits hours)
  · cases colon with
    | true =>
        rw [List.mem_singleton.mp separator]
        decide
    | false => cases separator
  · exact printed_of_isDigit (isDigit_of_mem_digits minutes)

/-- The fields of an offset text between its sign and its end. -/
theorem offset_of_fields (colon : Bool) {sign : UInt8} {hoursText minutesText : List UInt8}
    {hours minutes : Nat} {offset : UtcOffset} (signed : isSign (some sign) = true)
    (hoursLength : hoursText.length = 2) (minutesLength : minutesText.length = 2)
    (hoursParsed : parseU8 hoursText = .ok hours) (minutesParsed : parseU8 minutesText = .ok minutes)
    (parsed : signedOffset sign hours minutes = .ok offset) :
    ∃ shown : OffsetText, sign :: hoursText ++ (if colon then [ascii ':'] else []) ++ minutesText =
      shown.print colon ∧ offset = shown.value := by
  obtain ⟨shown, rfl, rfl, rfl, same⟩ := offset_of_signedOffset signed parsed
  refine ⟨shown, ?_, same⟩
  rw [((parseU8_eq_ok _ _ hoursLength).mp hoursParsed).1,
    ((parseU8_eq_ok _ _ minutesLength).mp minutesParsed).1]
  rfl

theorem parseU8_digits {number : Nat} (small : number < 100) :
    parseU8 (digits 2 number) = .ok number :=
  (parseU8_eq_ok _ _ (length_digits _ _)).mpr ⟨rfl, small⟩

theorem hours_lt (offset : OffsetText) : offset.hours < 100 := by
  have bound := offset.magnitude_le
  omega

theorem minutes_lt (offset : OffsetText) : offset.minutes < 100 := by
  have bound := offset.minutes_le
  omega

/-- The offset of an Exif field: a sign, hours, a colon and minutes. -/
theorem parseOffset_eq_ok {offset : UtcOffset} :
    parseOffset raw = .ok offset ↔ ∃ shown : OffsetText,
      raw.rdropWhile isTrailingPadding = shown.print true ∧ offset = shown.value := by
  constructor
  · intro parsed
    unfold parseOffset at parsed
    obtain ⟨text, trimmed, parsed⟩ := Outcome.bind_eq_ok.mp parsed
    rw [trimmed_of_ascii trimmed]
    split at parsed
    · cases parsed
    · rename_i guard
      rw [not_or, not_or, not_not, not_not, not_not] at guard
      obtain ⟨length, signed, separator⟩ := guard
      obtain ⟨hours, hoursParsed, parsed⟩ := Outcome.bind_eq_ok.mp parsed
      obtain ⟨minutes, minutesParsed, parsed⟩ := Outcome.bind_eq_ok.mp parsed
      rcases text with _ | ⟨sign, _ | ⟨h, _ | ⟨h', _ | ⟨c, _ | ⟨m, _ | ⟨m', _ | ⟨x, rest⟩⟩⟩⟩⟩⟩⟩
      all_goals try cases length
      cases separator
      exact offset_of_fields true signed rfl rfl hoursParsed minutesParsed parsed
  · rintro ⟨shown, trimmed, rfl⟩
    unfold parseOffset
    have guard : ¬ ((shown.print true).length ≠ 6 ∨ ¬ isSign (shown.print true)[0]? = true ∨
        (shown.print true)[3]? ≠ some (ascii ':')) := by
      rw [not_or, not_or, not_not, not_not, not_not]
      exact ⟨length_print true shown, isSign_signByte shown, rfl⟩
    have hours : slice (shown.print true) 1 2 = digits 2 shown.hours := rfl
    have minutes : slice (shown.print true) 4 2 = digits 2 shown.minutes := rfl
    have sign : (shown.print true).headD 0 = shown.signByte := rfl
    rw [trimAsciiField_of_printed trimmed (printed_print true shown), Outcome.ok_bind,
      if_neg guard, hours, minutes, sign, parseU8_digits (hours_lt shown), Outcome.ok_bind,
      parseU8_digits (minutes_lt shown), Outcome.ok_bind]
    exact signedOffset_signByte shown

theorem print_not_padded (colon : Bool) (offset : OffsetText) :
    (offset.print colon).rdropWhile isTrailingPadding = offset.print colon := by
  have last : IsDigit (UInt8.ofNat (48 + offset.minutes % 10)) := by
    have toNat := toNat_digit offset.minutes
    rw [isDigit_iff, toNat]
    omega
  have ends : ∃ front, offset.print colon = front ++ [UInt8.ofNat (48 + offset.minutes % 10)] :=
    ⟨offset.signByte :: digits 2 offset.hours ++ (if colon then [ascii ':'] else []) ++
      digits 1 (offset.minutes / 10), by rw [List.append_assoc]; rfl⟩
  obtain ⟨front, split⟩ := ends
  rw [split]
  refine List.rdropWhile_concat_neg _ _ _ ?_
  rw [not_padding_of_isDigit last]
  exact Bool.false_ne_true

theorem eq_of_trimmed_length (same : (raw.rdropWhile isTrailingPadding).length = raw.length) :
    raw.rdropWhile isTrailingPadding = raw :=
  (List.rdropWhile_prefix isTrailingPadding raw).eq_of_length same

/-- The offset after a QuickTime time: the colon may be missing. -/
theorem parseIsoOffset_eq_ok {offset : UtcOffset} :
    parseIsoOffset raw = .ok offset ↔ ∃ (colon : Bool) (shown : OffsetText),
      raw = shown.print colon ∧ offset = shown.value := by
  constructor
  · intro parsed
    unfold parseIsoOffset at parsed
    split at parsed
    · rename_i length
      obtain ⟨shown, trimmed, same⟩ := parseOffset_eq_ok.mp parsed
      refine ⟨true, shown, ?_, same⟩
      have whole : raw.rdropWhile isTrailingPadding = raw := eq_of_trimmed_length (by
        rw [trimmed, length_print true shown, length]
        rfl)
      rw [← whole, trimmed]
    · split at parsed
      · cases parsed
      · rename_i guard
        rw [not_or, not_not, not_not] at guard
        obtain ⟨length, signed⟩ := guard
        obtain ⟨hours, hoursParsed, parsed⟩ := Outcome.bind_eq_ok.mp parsed
        obtain ⟨minutes, minutesParsed, parsed⟩ := Outcome.bind_eq_ok.mp parsed
        rcases raw with _ | ⟨sign, _ | ⟨h, _ | ⟨h', _ | ⟨m, _ | ⟨m', _ | ⟨x, rest⟩⟩⟩⟩⟩⟩
        all_goals try cases length
        exact ⟨false, offset_of_fields false signed rfl rfl hoursParsed minutesParsed parsed⟩
  · rintro ⟨colon, shown, rfl, rfl⟩
    unfold parseIsoOffset
    cases colon with
    | true =>
        have six : (shown.print true).length = 6 := length_print true shown
        rw [if_pos six]
        exact parseOffset_eq_ok.mpr ⟨shown, print_not_padded true shown, rfl⟩
    | false =>
        have five : (shown.print false).length = 5 := length_print false shown
        have guard : ¬ ((shown.print false).length ≠ 5 ∨
            ¬ isSign (shown.print false)[0]? = true) := by
          rw [not_or, not_not, not_not]
          exact ⟨five, isSign_signByte shown⟩
        have hours : slice (shown.print false) 1 2 = digits 2 shown.hours := rfl
        have minutes : slice (shown.print false) 3 2 = digits 2 shown.minutes := rfl
        have sign : (shown.print false).headD 0 = shown.signByte := rfl
        rw [if_neg (by omega), if_neg guard, hours, minutes, sign,
          parseU8_digits (hours_lt shown), Outcome.ok_bind, parseU8_digits (minutes_lt shown),
          Outcome.ok_bind]
        exact signedOffset_signByte shown


/-! ## Exif -/

theorem printed_clockText {dateSeparator between : UInt8} (wall : WallTime)
    (separator : dateSeparator ≠ 0 ∧ dateSeparator ≤ 0x7F)
    (middle : between ≠ 0 ∧ between ≤ 0x7F) :
    Printed (clockText dateSeparator between wall) := by
  constructor
  · intro empty
    have length := length_clockText dateSeparator between wall
    rw [empty] at length
    cases length
  · intro byte member
    unfold clockText at member
    simp only [List.mem_append, List.mem_singleton] at member
    have digit {width number : Nat} (inside : byte ∈ digits width number) :=
      printed_of_isDigit (isDigit_of_mem_digits inside)
    have colon : ascii ':' ≠ 0 ∧ ascii ':' ≤ 0x7F := by decide
    rcases member with (((((((((field | rfl) | field) | rfl) | field) | rfl) | field) | rfl) |
      field) | rfl) | field
    all_goals first | exact digit field | assumption

/-- The five separators that stand between the calendar fields. -/
def Separated (text : List UInt8) (dateSeparator between : UInt8) : Prop :=
  text[4]? = some dateSeparator ∧ text[7]? = some dateSeparator ∧ text[10]? = some between ∧
    text[13]? = some (ascii ':') ∧ text[16]? = some (ascii ':')

theorem withNanosecond_eq_ok {whole wall : WallTime} {nanosecond : Nat}
    (set : whole.withNanosecond nanosecond = .ok wall) :
    wall.nanosecond = nanosecond ∧ ∀ dateSeparator between,
      clockText dateSeparator between wall = clockText dateSeparator between whole := by
  obtain ⟨year, month, day, hour, minute, second, fraction⟩ := WallTime.new_eq_ok set
  refine ⟨fraction, fun dateSeparator between => ?_⟩
  unfold clockText
  rw [year, month, day, hour, minute, second]

/-- The wall time and precision after the optional fraction of an Exif time. -/
def exifWall (whole : WallTime) : Option (List UInt8) →
    Except TimestampParseError (WallTime × TimePrecision)
  | some raw => do
      let (nanosecond, _, precision) ← parseSubsecond raw
      let wall ← whole.withNanosecond nanosecond
      pure (wall, precision)
  | none => pure (whole, TimePrecision.seconds)

def exifZone (wall : WallTime) (precision : TimePrecision) : Option (List UInt8) →
    Except TimestampParseError NormalizedTimestamp
  | some raw => do
      let minutes ← parseOffset raw
      NormalizedTimestamp.explicit wall minutes precision
  | none => .ok (NormalizedTimestamp.floating wall precision)

theorem separated_iff {dateSeparator between : UInt8} :
    ¬ (text[4]? ≠ some dateSeparator ∨ text[7]? ≠ some dateSeparator ∨
        text[10]? ≠ some between ∨ text[13]? ≠ some (ascii ':') ∨
        text[16]? ≠ some (ascii ':')) ↔ Separated text dateSeparator between := by
  unfold Separated
  simp only [not_or, not_not]

theorem parseExifTimestamp_shape (datetime : List UInt8) (subsecond offset : Option (List UInt8)) :
    parseExifTimestamp datetime subsecond offset = (do
      let text ← trimAsciiField datetime
      if text.length ≠ 19 ∨ text[4]? ≠ some (ascii ':') ∨ text[7]? ≠ some (ascii ':') ∨
          text[10]? ≠ some (ascii ' ') ∨ text[13]? ≠ some (ascii ':') ∨
          text[16]? ≠ some (ascii ':') then
        .error .invalidSyntax
      else do
        let whole ← parseWallTime text 0
        let (wall, precision) ← exifWall whole subsecond
        exifZone wall precision offset) := by
  unfold parseExifTimestamp
  cases subsecond <;> cases offset <;>
    simp only [exifWall, exifZone, bind_assoc, pure_bind]

theorem parseExifTimestamp_steps {datetime : List UInt8} {subsecond offset : Option (List UInt8)}
    {timestamp : NormalizedTimestamp} :
    parseExifTimestamp datetime subsecond offset = .ok timestamp ↔
      ∃ text whole wall precision, trimAsciiField datetime = .ok text ∧ text.length = 19 ∧
        Separated text (ascii ':') (ascii ' ') ∧ parseWallTime text 0 = .ok whole ∧
        exifWall whole subsecond = .ok (wall, precision) ∧
        exifZone wall precision offset = .ok timestamp := by
  rw [parseExifTimestamp_shape, Outcome.bind_eq_ok]
  constructor
  · rintro ⟨text, trimmed, parsed⟩
    split at parsed
    · cases parsed
    · rename_i guard
      obtain ⟨length, separators⟩ := not_or.mp guard
      obtain ⟨whole, fields, parsed⟩ := Outcome.bind_eq_ok.mp parsed
      obtain ⟨⟨wall, precision⟩, set, zone⟩ := Outcome.bind_eq_ok.mp parsed
      exact ⟨text, whole, wall, precision, trimmed, not_not.mp length,
        separated_iff.mp separators, fields, set, zone⟩
  · rintro ⟨text, whole, wall, precision, trimmed, length, separators, fields, set, zone⟩
    refine ⟨text, trimmed, ?_⟩
    rw [if_neg (not_or.mpr ⟨not_not.mpr length, separated_iff.mpr separators⟩), fields,
      Outcome.ok_bind, set]
    exact zone

theorem parseSubsecond_eq_ok {result : Nat × Nat × TimePrecision} :
    parseSubsecond raw = .ok result ↔ ∃ fraction : FractionText,
      raw.rdropWhile isTrailingPadding = fraction.print ∧
        result = (fraction.nanosecond, fraction.width, fraction.precision) := by
  unfold parseSubsecond
  rw [Outcome.bind_eq_ok]
  constructor
  · rintro ⟨text, trimmed, parsed⟩
    obtain ⟨fraction, same, found⟩ := fraction_of_parseFractionDigits parsed
    exact ⟨fraction, (trimmed_of_ascii trimmed).trans same, found⟩
  · rintro ⟨fraction, trimmed, rfl⟩
    have printed : Printed fraction.print := by
      constructor
      · intro empty
        have length : fraction.print.length = fraction.width := length_digits _ _
        rw [empty] at length
        exact absurd fraction.width_pos (by rw [← length]; decide)
      · exact fun byte member => printed_of_isDigit (isDigit_of_mem_digits member)
    exact ⟨_, trimAsciiField_of_printed trimmed printed, parseFractionDigits_print fraction⟩

/-- The optional fraction of an Exif time sets the nanoseconds and the precision. -/
theorem exifWall_eq_ok {whole wall : WallTime} {precision : TimePrecision}
    {subsecond : Option (List UInt8)} (started : whole.nanosecond = 0) :
    exifWall whole subsecond = .ok (wall, precision) ↔ ∃ fraction : Option FractionText,
      subsecond.map (List.rdropWhile isTrailingPadding) = fraction.map FractionText.print ∧
        whole.withNanosecond (fractionNanosecond fraction) = .ok wall ∧
        precision = fractionPrecision fraction := by
  have unchanged : whole.withNanosecond 0 = .ok whole := by
    rw [← started]
    exact WallTime.new_of_valid whole.valid
  cases subsecond with
  | none =>
      unfold exifWall
      constructor
      · intro set
        cases set
        exact ⟨none, rfl, unchanged, rfl⟩
      · rintro ⟨fraction, same, set, rfl⟩
        cases fraction with
        | none =>
            cases unchanged.symm.trans set
            rfl
        | some fraction => cases same
  | some raw =>
      unfold exifWall
      rw [Outcome.bind_eq_ok]
      constructor
      · rintro ⟨result, parsed, rest⟩
        obtain ⟨fraction, trimmed, rfl⟩ := parseSubsecond_eq_ok.mp parsed
        obtain ⟨found, set, same⟩ := Outcome.bind_eq_ok.mp rest
        cases same
        exact ⟨some fraction, congrArg some trimmed, set, rfl⟩
      · rintro ⟨fraction, same, set, rfl⟩
        cases fraction with
        | none => cases same
        | some fraction =>
            refine ⟨_, parseSubsecond_eq_ok.mpr ⟨fraction, Option.some.inj same, rfl⟩, ?_⟩
            exact Outcome.bind_eq_ok.mpr ⟨wall, set, rfl⟩

theorem exifZone_eq_ok {wall : WallTime} {precision : TimePrecision}
    {offset : Option (List UInt8)} {timestamp : NormalizedTimestamp} :
    exifZone wall precision offset = .ok timestamp ↔ ∃ shown : Option OffsetText,
      offset.map (List.rdropWhile isTrailingPadding) = shown.map (OffsetText.print true) ∧
        timestamp = .ofOffset wall precision (shown.map OffsetText.value) := by
  cases offset with
  | none =>
      unfold exifZone
      constructor
      · intro same
        cases same
        exact ⟨none, rfl, rfl⟩
      · rintro ⟨shown, same, rfl⟩
        cases shown with
        | none => rfl
        | some shown => cases same
  | some raw =>
      unfold exifZone
      rw [Outcome.bind_eq_ok]
      constructor
      · rintro ⟨minutes, parsed, built⟩
        obtain ⟨shown, trimmed, rfl⟩ := parseOffset_eq_ok.mp parsed
        rw [NormalizedTimestamp.explicit_eq] at built
        exact ⟨some shown, congrArg some trimmed, (Except.ok.inj built).symm⟩
      · rintro ⟨shown, same, rfl⟩
        cases shown with
        | none => cases same
        | some shown =>
            exact ⟨shown.value, parseOffset_eq_ok.mpr ⟨shown, Option.some.inj same, rfl⟩,
              NormalizedTimestamp.explicit_eq _ _ _⟩

/-- An Exif time is accepted exactly when its fields are those of a text. -/
theorem parseExifTimestamp_eq_ok {datetime : List UInt8} {subsecond offset : Option (List UInt8)}
    {timestamp : NormalizedTimestamp} :
    parseExifTimestamp datetime subsecond offset = .ok timestamp ↔ ∃ text : ExifText,
      datetime.rdropWhile isTrailingPadding = text.print ∧
        subsecond.map (List.rdropWhile isTrailingPadding) =
          text.fraction.map FractionText.print ∧
        offset.map (List.rdropWhile isTrailingPadding) =
          text.offset.map (OffsetText.print true) ∧
        timestamp = text.value := by
  rw [parseExifTimestamp_steps]
  constructor
  · rintro ⟨text, whole, wall, precision, trimmed, length, separators, fields, set, zone⟩
    obtain ⟨clock, started⟩ := (clock_iff (by omega)).mp ⟨separators, fields⟩
    obtain ⟨fraction, fractionText, withFraction, rfl⟩ := (exifWall_eq_ok started).mp set
    obtain ⟨shown, offsetText, rfl⟩ := exifZone_eq_ok.mp zone
    obtain ⟨nanosecond, same⟩ := withNanosecond_eq_ok withFraction
    refine ⟨⟨wall, fraction, shown, nanosecond⟩, ?_, fractionText, offsetText, rfl⟩
    rw [trimmed_of_ascii trimmed, ← List.take_of_length_le length.le, clock]
    exact (same _ _).symm
  · rintro ⟨text, trimmed, fractionText, offsetText, rfl⟩
    have length : text.print.length = 19 := length_clockText _ _ _
    have printed : Printed text.print := printed_clockText text.wall (by decide) (by decide)
    have same : clockText (ascii ':') (ascii ' ') text.wall =
        clockText (ascii ':') (ascii ' ') text.wall.wholeSecond := rfl
    have clock : text.print.take 19 = clockText (ascii ':') (ascii ' ') text.wall.wholeSecond := by
      rw [List.take_of_length_le length.le]
      exact same
    obtain ⟨separators, fields⟩ := (clock_iff length.ge).mpr
      ⟨clock, (rfl : text.wall.wholeSecond.nanosecond = 0)⟩
    have withFraction : text.wall.wholeSecond.withNanosecond (fractionNanosecond text.fraction) =
        .ok text.wall := by
      rw [← text.agree]
      exact WallTime.new_of_valid text.wall.valid
    exact ⟨text.print, text.wall.wholeSecond, text.wall, fractionPrecision text.fraction,
      trimAsciiField_of_printed trimmed printed, length, separators, fields,
      (exifWall_eq_ok rfl).mpr ⟨text.fraction, fractionText, withFraction, rfl⟩,
      exifZone_eq_ok.mpr ⟨text.offset, offsetText, rfl⟩⟩

/-! ## QuickTime -/

theorem drop_of_getElem? {position : Nat} {byte : UInt8} (found : text[position]? = some byte) :
    text.drop position = byte :: text.drop (position + 1) := by
  obtain ⟨inside, rfl⟩ := List.getElem?_eq_some_iff.mp found
  exact List.drop_eq_getElem_cons inside

/-- A fraction that the parser found stands between the seconds and the rest. -/
theorem fraction_of_parseQuicktimeFraction {cursor nanosecond : Nat} {precision : TimePrecision}
    (parsed : parseQuicktimeFraction text = .ok (cursor, nanosecond, precision)) :
    ∃ fraction, text.drop 19 = fractionText fraction ++ text.drop cursor ∧
      nanosecond = fractionNanosecond fraction ∧ precision = fractionPrecision fraction := by
  unfold parseQuicktimeFraction at parsed
  split at parsed
  · rename_i dot
    dsimp only at parsed
    split at parsed
    · cases parsed
    · obtain ⟨result, found, same⟩ := Outcome.bind_eq_ok.mp parsed
      obtain ⟨fraction, digitsOf, rfl⟩ := fraction_of_parseFractionDigits found
      cases same
      refine ⟨some fraction, ?_, rfl, rfl⟩
      have taken : (text.drop 20).take ((text.drop 20).takeWhile isAsciiDigit).length =
          (text.drop 20).takeWhile isAsciiDigit :=
        List.prefix_iff_eq_take.mp (List.takeWhile_prefix isAsciiDigit) |>.symm
      have rest := List.take_append_drop ((text.drop 20).takeWhile isAsciiDigit).length
        (text.drop 20)
      rw [taken, List.drop_drop, digitsOf] at rest
      rw [drop_of_getElem? dot, digitsOf, ← rest]
      rfl
  · cases parsed
    exact ⟨none, rfl, rfl, rfl⟩

/-- Neither a digit nor a dot starts what follows the fraction. -/
def StartsZone (rest : List UInt8) : Prop :=
  ∀ byte, rest.head? = some byte → isAsciiDigit byte = false ∧ byte ≠ ascii '.'

theorem startsZone_print (zone : ZoneText) : StartsZone zone.print := by
  intro byte first
  cases zone with
  | floating => cases first
  | zulu lower =>
      cases first
      cases lower <;> decide
  | offset colon shown =>
      cases first
      unfold OffsetText.signByte
      cases shown.negative <;> decide

theorem takeWhile_fraction (fraction : FractionText) {rest : List UInt8} (ends : StartsZone rest) :
    (fraction.print ++ rest).takeWhile isAsciiDigit = fraction.print := by
  have all : ∀ byte ∈ fraction.print, isAsciiDigit byte = true :=
    fun _ member => isAsciiDigit_iff.mpr (isDigit_of_mem_digits member)
  rw [List.takeWhile_append_of_pos all]
  cases rest with
  | nil => rw [List.takeWhile_nil, List.append_nil]
  | cons byte rest => rw [List.takeWhile_cons, (ends byte rfl).1, if_neg Bool.false_ne_true,
      List.append_nil]

theorem parseQuicktimeFraction_text {clock rest : List UInt8} (fraction : Option FractionText)
    (length : clock.length = 19) (ends : StartsZone rest) :
    parseQuicktimeFraction (clock ++ fractionText fraction ++ rest) =
      .ok (19 + (fractionText fraction).length, fractionNanosecond fraction,
        fractionPrecision fraction) := by
  have position : (clock ++ fractionText fraction ++ rest)[19]? =
      (fractionText fraction ++ rest).head? := by
    rw [List.append_assoc, List.getElem?_append_right length.le, length]
    exact List.head?_eq_getElem?.symm
  unfold parseQuicktimeFraction
  rw [position]
  cases fraction with
  | none =>
      rw [if_neg]
      · rfl
      · intro dot
        exact (ends _ dot).2 rfl
  | some fraction =>
      have width : fraction.print.length = fraction.width := length_digits _ _
      have after : (clock ++ fractionText (some fraction) ++ rest).drop 20 =
          fraction.print ++ rest := by
        rw [List.append_assoc, List.drop_append, length, List.drop_eq_nil_of_le (by omega)]
        rfl
      have low := fraction.width_pos
      have high := fraction.width_le
      have some_ : fraction.print ≠ [] := List.length_pos_iff.mp (by omega)
      have dot : (fractionText (some fraction) ++ rest).head? = some (ascii '.') := rfl
      rw [if_pos dot]
      dsimp only
      rw [after, takeWhile_fraction fraction ends, if_neg, parseFractionDigits_print,
        Outcome.ok_bind, width]
      · unfold fractionText
        rw [List.length_cons, width, Nat.add_comm fraction.width 1, ← Nat.add_assoc]
        rfl
      · rw [width]
        exact not_or.mpr ⟨some_, by omega⟩

/-- What may follow the fraction, as the parser reads it. -/
def quicktimeZone (wall : WallTime) (precision : TimePrecision) (suffix : List UInt8) :
    Except TimestampParseError NormalizedTimestamp :=
  if suffix = [] then .ok (NormalizedTimestamp.floating wall precision)
  else if suffix = [ascii 'Z'] ∨ suffix = [ascii 'z'] then do
    let utc ← UtcOffset.fromMinutes 0
    NormalizedTimestamp.explicit wall utc precision
  else do
    let minutes ← parseIsoOffset suffix
    NormalizedTimestamp.explicit wall minutes precision

theorem quicktimeZone_eq_ok {wall : WallTime} {precision : TimePrecision} {suffix : List UInt8}
    {timestamp : NormalizedTimestamp} :
    quicktimeZone wall precision suffix = .ok timestamp ↔ ∃ zone : ZoneText,
      suffix = zone.print ∧ timestamp = .ofOffset wall precision zone.value := by
  have utc : UtcOffset.fromMinutes 0 = .ok UtcOffset.zero := rfl
  unfold quicktimeZone
  split_ifs with empty zulu
  · constructor
    · intro same
      cases same
      exact ⟨.floating, empty, rfl⟩
    · rintro ⟨zone, same, rfl⟩
      cases zone with
      | floating => rfl
      | zulu lower => cases empty.symm.trans same
      | offset colon shown => cases empty.symm.trans same
  · rw [utc, Outcome.ok_bind, NormalizedTimestamp.explicit_eq, Except.ok.injEq]
    constructor
    · rintro rfl
      rcases zulu with upper | lower
      · exact ⟨.zulu false, upper, rfl⟩
      · exact ⟨.zulu true, lower, rfl⟩
    · rintro ⟨zone, same, rfl⟩
      cases zone with
      | floating => exact absurd same empty
      | zulu lower => rfl
      | offset colon shown =>
          have length := length_print colon shown
          change suffix = shown.print colon at same
          rw [← same] at length
          rcases zulu with rfl | rfl <;> cases colon <;> cases length
  · rw [Outcome.bind_eq_ok]
    constructor
    · rintro ⟨minutes, parsed, built⟩
      obtain ⟨colon, shown, same, rfl⟩ := parseIsoOffset_eq_ok.mp parsed
      rw [NormalizedTimestamp.explicit_eq] at built
      exact ⟨.offset colon shown, same, (Except.ok.inj built).symm⟩
    · rintro ⟨zone, same, rfl⟩
      cases zone with
      | floating => exact absurd same empty
      | zulu lower =>
          cases lower
          · exact absurd (.inl same) zulu
          · exact absurd (.inr same) zulu
      | offset colon shown =>
          exact ⟨shown.value, parseIsoOffset_eq_ok.mpr ⟨colon, shown, same, rfl⟩,
            NormalizedTimestamp.explicit_eq _ _ _⟩

theorem parseQuicktimeTimestamp_steps {timestamp : NormalizedTimestamp} :
    parseQuicktimeTimestamp raw = .ok timestamp ↔
      ∃ text cursor nanosecond precision wall, ∃ lowerT : Bool,
        trimUtf8Field raw = .ok text ∧ 19 ≤ text.length ∧
        Separated text (ascii '-') (if lowerT then ascii 't' else ascii 'T') ∧
        parseQuicktimeFraction text = .ok (cursor, nanosecond, precision) ∧
        parseWallTime text nanosecond = .ok wall ∧
        quicktimeZone wall precision (text.drop cursor) = .ok timestamp := by
  have separators (text : List UInt8) :
      ¬ (text[4]? ≠ some (ascii '-') ∨ text[7]? ≠ some (ascii '-') ∨
          ¬ (text[10]? = some (ascii 'T') ∨ text[10]? = some (ascii 't')) ∨
          text[13]? ≠ some (ascii ':') ∨ text[16]? ≠ some (ascii ':')) ↔
        ∃ lowerT : Bool, Separated text (ascii '-') (if lowerT then ascii 't' else ascii 'T') := by
    unfold Separated
    rw [Bool.exists_bool]
    simp only [not_or, not_not, Bool.false_eq_true, if_true, if_false]
    tauto
  unfold parseQuicktimeTimestamp
  rw [Outcome.bind_eq_ok]
  constructor
  · rintro ⟨text, trimmed, parsed⟩
    split at parsed
    · cases parsed
    · rename_i guard
      obtain ⟨long, between⟩ := not_or.mp guard
      obtain ⟨lowerT, separated⟩ := (separators text).mp between
      obtain ⟨⟨cursor, nanosecond, precision⟩, fraction, parsed⟩ := Outcome.bind_eq_ok.mp parsed
      obtain ⟨wall, fields, zone⟩ := Outcome.bind_eq_ok.mp parsed
      exact ⟨text, cursor, nanosecond, precision, wall, lowerT, trimmed, not_lt.mp long, separated,
        fraction, fields, zone⟩
  · rintro ⟨text, cursor, nanosecond, precision, wall, lowerT, trimmed, long, separated, fraction,
      fields, zone⟩
    refine ⟨text, trimmed, ?_⟩
    rw [if_neg (not_or.mpr ⟨not_lt.mpr long, (separators text).mpr ⟨lowerT, separated⟩⟩), fraction,
      Outcome.ok_bind]
    dsimp only
    rw [fields]
    exact zone

theorem printed_quicktime (text : QuicktimeText) : Printed text.print := by
  have dash : ascii '-' ≠ 0 ∧ ascii '-' ≤ 0x7F := by decide
  have between : (if text.lowerT then ascii 't' else ascii 'T') ≠ 0 ∧
      (if text.lowerT then ascii 't' else ascii 'T') ≤ 0x7F := by
    cases text.lowerT <;> decide
  have clock := printed_clockText text.wall dash between
  unfold QuicktimeText.print
  refine ⟨fun empty => clock.1 (List.append_eq_nil_iff.mp (List.append_eq_nil_iff.mp empty).1).1,
    fun byte member => ?_⟩
  rcases List.mem_append.mp member with early | zone
  · rcases List.mem_append.mp early with field | fraction
    · exact clock.2 byte field
    · cases shown : text.fraction with
      | none =>
          rw [shown] at fraction
          cases fraction
      | some inside =>
          rw [shown] at fraction
          rcases List.mem_cons.mp fraction with rfl | digit
          · decide
          · exact printed_of_isDigit (isDigit_of_mem_digits digit)
  · cases shown : text.zone with
    | floating =>
        rw [shown] at zone
        cases zone
    | zulu lower =>
        rw [shown] at zone
        rw [List.mem_singleton.mp zone]
        cases lower <;> decide
    | offset colon offset =>
        rw [shown] at zone
        exact (printed_print colon offset).2 byte zone

/-- A QuickTime time is accepted exactly when it is a text, and it has the value of the text. -/
theorem parseQuicktimeTimestamp_eq_ok {timestamp : NormalizedTimestamp} :
    parseQuicktimeTimestamp raw = .ok timestamp ↔ ∃ text : QuicktimeText,
      raw.rdropWhile isTrailingPadding = text.print ∧ timestamp = text.value := by
  rw [parseQuicktimeTimestamp_steps]
  constructor
  · rintro ⟨text, cursor, nanosecond, precision, wall, lowerT, trimmed, long, separated, parsed,
      fields, zoned⟩
    obtain ⟨clock, fractionOf⟩ := (clock_iff long).mp ⟨separated, fields⟩
    obtain ⟨fraction, rest, rfl, rfl⟩ := fraction_of_parseQuicktimeFraction parsed
    obtain ⟨zone, zoneText, rfl⟩ := quicktimeZone_eq_ok.mp zoned
    refine ⟨⟨wall, lowerT, fraction, zone, fractionOf⟩, ?_, rfl⟩
    rw [trimmed_of_utf8 trimmed, ← List.take_append_drop 19 text, clock, rest, zoneText,
      ← List.append_assoc]
    rfl
  · rintro ⟨text, trimmed, rfl⟩
    have length := length_clockText (ascii '-') (if text.lowerT then ascii 't' else ascii 'T')
      text.wall
    have long : 19 ≤ text.print.length := by
      unfold QuicktimeText.print
      rw [List.length_append, List.length_append, length]
      omega
    have clock : text.print.take 19 =
        clockText (ascii '-') (if text.lowerT then ascii 't' else ascii 'T') text.wall := by
      unfold QuicktimeText.print
      rw [List.append_assoc, List.take_append_of_le_length length.ge,
        List.take_of_length_le length.le]
    have suffix : text.print.drop (19 + (fractionText text.fraction).length) = text.zone.print := by
      unfold QuicktimeText.print
      rw [← length, ← List.length_append, List.drop_left]
    obtain ⟨separated, fields⟩ := (clock_iff long).mpr ⟨clock, text.agree⟩
    have fraction := parseQuicktimeFraction_text text.fraction length
      (startsZone_print text.zone)
    have zone : quicktimeZone text.wall (fractionPrecision text.fraction)
        (text.print.drop (19 + (fractionText text.fraction).length)) = .ok text.value :=
      quicktimeZone_eq_ok.mpr ⟨text.zone, suffix, rfl⟩
    exact ⟨text.print, 19 + (fractionText text.fraction).length,
      fractionNanosecond text.fraction, fractionPrecision text.fraction, text.wall, text.lowerT,
      trimUtf8Field_of_printed trimmed (printed_quicktime text), long, separated, fraction,
      fields, zone⟩

end Guiying.Time.Parse
