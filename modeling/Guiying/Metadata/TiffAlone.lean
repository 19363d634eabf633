import Guiying.Foundation.TwoRuns
import Guiying.Metadata.HonestReads
import Guiying.Metadata.Tiff

/-!
# A TIFF container taken alone

The walk of a container inside a source follows the walk of its bytes alone: it finds the same
fields and the same issues, at offsets shifted by where the container starts. What stands around
the container, and what was read before, decides only whether a budget is spent.
-/

namespace Guiying.Metadata

open Guiying.Foundation Guiying.Foundation.ByteString Guiying.Foundation.MachineInt

/-! ## Shifted findings -/

def MetadataContainer.shift (distance : Nat) : MetadataContainer → MetadataContainer
  | .tiff headerOffset ifdOffset tag byteOrder =>
      .tiff (distance + headerOffset) (distance + ifdOffset) tag byteOrder
  | .jpegExif app1Offset headerOffset ifdOffset tag byteOrder =>
      .jpegExif app1Offset (distance + headerOffset) (distance + ifdOffset) tag byteOrder
  | .isoBmff boxOffset boxPath => .isoBmff (distance + boxOffset) boxPath

def MetadataField.shift (distance : Nat) (field : MetadataField) : MetadataField :=
  { field with locator := { field.locator with
      absoluteOffset := distance + field.locator.absoluteOffset
      container := field.locator.container.shift distance } }

def ParseError.shift (distance : Nat) (error : ParseError) : ParseError :=
  { error with offset := error.offset.map (distance + ·) }

def Findings.shift (distance : Nat) (found : Findings) : Findings :=
  ⟨found.fields.map (·.shift distance), found.issues.map (·.shift distance)⟩

theorem ParseError.isStructural_shift (distance : Nat) (error : ParseError) :
    (error.shift distance).isStructural = error.isStructural := rfl

def IfdEntry.shift (distance : Nat) (entry : IfdEntry) : IfdEntry :=
  { entry with offset := distance + entry.offset }

/-! ## The two runs -/

/-- A source that holds the bytes `tiff` from `distance` on. -/
structure Holding (reader : BudgetedReader) (distance : Nat) (tiff : List UInt8) : Prop where
  contents : ∃ contents, Honest reader contents ∧ StandsAt contents distance tiff ∧
    distance + tiff.length ≤ contents.length
  room : distance + 2 ^ 34 < u64Bound

/-- The reader of some bytes alone, under the limits of another. -/
def BudgetedReader.alone (reader : BudgetedReader) (tiff : List UInt8) : BudgetedReader :=
  .new (sliceSource tiff) tiff.length reader.limits

theorem BudgetedReader.alone_limits (reader : BudgetedReader) (tiff : List UInt8) :
    (reader.alone tiff).limits = reader.limits := reader.hardened

/-- The run alone used no more, and found the same since the other run was at `base`. -/
structure Tracks (reader : BudgetedReader) (distance : Nat) (base : Findings)
    (alone full : Extraction) : Prop where
  within : WithinBudget reader full
  bytesRead : alone.usage.bytesRead ≤ full.usage.bytesRead
  readOperations : alone.usage.readOperations ≤ full.usage.readOperations
  retainedFieldBytes : alone.usage.retainedFieldBytes ≤ full.usage.retainedFieldBytes
  fieldsEmitted : alone.usage.fieldsEmitted ≤ full.usage.fieldsEmitted
  ifdEntriesVisited : alone.usage.ifdEntriesVisited ≤ full.usage.ifdEntriesVisited
  fields : full.fields = base.fields ++ alone.fields.map (·.shift distance)
  issues : full.issues = base.issues ++ alone.issues.map (·.shift distance)
  visited : full.visited = alone.visited.map (distance + ·)
  pending : full.pending = alone.pending
  relative : ∀ task ∈ alone.pending, task.relativeOffset < u32Bound

/-- Structural errors are shifted; a spent budget cuts the followed run short. -/
def walkLock (reader : BudgetedReader) (distance : Nat) (base : Findings) :
    Lockstep Extraction ParseError Extraction ParseError where
  state := Tracks reader distance base
  error alone full := alone.isStructural = true ∧ full = alone.shift distance
  cut error := error.code = .limitExceeded

theorem Tracks.pushIssue {reader : BudgetedReader} {distance : Nat} {base : Findings}
    {alone full : Extraction} (tracks : Tracks reader distance base alone full)
    (error : ParseError) :
    Tracks reader distance base { alone with issues := alone.issues ++ [error] }
      { full with issues := full.issues ++ [error.shift distance] } where
  within := { tracks.within with bytesRead := tracks.within.bytesRead }
  bytesRead := tracks.bytesRead
  readOperations := tracks.readOperations
  retainedFieldBytes := tracks.retainedFieldBytes
  fieldsEmitted := tracks.fieldsEmitted
  ifdEntriesVisited := tracks.ifdEntriesVisited
  fields := tracks.fields
  issues := by
    dsimp only
    rw [tracks.issues, List.map_append, List.append_assoc]
    rfl
  visited := tracks.visited
  pending := tracks.pending
  relative := tracks.relative

section Follows

variable {reader : BudgetedReader} {distance : Nat} {tiff : List UInt8} {base : Findings}

theorem follows_ensure_cut {condition condition' : Prop} [Decidable condition]
    [Decidable condition'] {error error' : ParseError} (enough : condition' → condition)
    (cut : error'.code = .limitExceeded) :
    (walkLock reader distance base).Follows (fun _ _ => condition')
      (Program.ensure condition error) (Program.ensure condition' error') := by
  by_cases holds : condition'
  · rw [decide_eq_true holds, decide_eq_true (enough holds)]
    exact Lockstep.follows_pure holds
  · rw [decide_eq_false holds]
    exact Lockstep.follows_cut cut

/-- A structural error and its guard, at a shifted offset. -/
theorem follows_guard {condition condition' : Prop} [Decidable condition]
    [Decidable condition'] (error : ParseError) (agree : condition ↔ condition')
    (structural : error.isStructural = true) :
    (walkLock reader distance base).Follows (fun _ _ => condition)
      (Program.ensure condition error) (Program.ensure condition' (error.shift distance)) :=
  Lockstep.follows_ensure agree ⟨structural, rfl⟩

/-- A structural error of a part becomes an issue of both runs. -/
theorem follows_isolated {left right : Parse Unit}
    (follows : (walkLock reader distance base).Follows (fun _ _ => True) left right) :
    (walkLock reader distance base).Follows (fun _ _ => True) (Parse.isolated left)
      (Parse.isolated right) := by
  intro s t states
  have ends := follows s t states
  unfold Parse.isolated
  rw [Program.bind_run, Program.bind_run]
  unfold Program.attempt
  dsimp only
  generalize left s = ended at ends ⊢
  generalize right t = ended' at ends ⊢
  obtain ⟨outcome, s'⟩ := ended
  obtain ⟨outcome', t'⟩ := ended'
  have escapes : ∀ {error : ParseError}, error.code = .limitExceeded →
      Parse.isolate (.error error) = Program.fail error := by
    intro error spent
    simp [Parse.isolate, ParseError.isStructural, spent]
  cases outcome' with
  | ok value' =>
      cases outcome with
      | ok value => exact ⟨trivial, ends.2⟩
      | error error => exact ends.elim
  | error error' =>
      cases outcome with
      | ok value =>
          rw [escapes ends]
          exact Lockstep.ends_cut ends
      | error error =>
          rcases ends with spent | ⟨⟨structural, rfl⟩, states⟩
          · rw [escapes spent]
            exact Lockstep.ends_cut spent
          · simp only [Parse.isolate, ParseError.isStructural_shift, structural, if_true]
            exact ⟨trivial, states.pushIssue error⟩

end Follows

/-! ## Reads -/

section Reads

variable {reader : BudgetedReader} {distance : Nat} {tiff : List UInt8} {base : Findings}
  {offset length : Nat}

theorem readLoop_done {completed : List UInt8} (context : String) (rounds : Nat)
    (done : length ≤ completed.length) :
    reader.readLoop offset length context rounds completed = pure completed := by
  cases rounds with
  | zero => rfl
  | succ rounds =>
      unfold BudgetedReader.readLoop
      rw [if_neg (by omega)]

theorem countOperation_run {state : Extraction} (offset : Nat)
    (allowed : state.usage.readOperations + 1 ≤ reader.limits.maxReadOperations) :
    reader.countOperation offset state = (.ok state.usage.readOperations,
      { state with usage := { state.usage with
          readOperations := state.usage.readOperations + 1 } }) := by
  have hard := limits_hard reader
  have fits : state.usage.readOperations + 1 < u64Bound := by
    simp only [u64Bound]
    omega
  simp only [BudgetedReader.countOperation, Parse.usage, Parse.checkedAdd, checkedAdd, if_pos fits,
    Program.orFail_some, Parse.setUsage, Program.bind_run, Program.pure_run, Program.update,
    allowed, decide_true, Program.ensure_true]

theorem countBytes_run {state : Extraction} (readOffset read : Nat)
    (allowed : state.usage.bytesRead + read ≤ reader.limits.maxTotalBytesRead) :
    reader.countBytes readOffset read state = (.ok (),
      { state with usage := { state.usage with
          bytesRead := state.usage.bytesRead + read } }) := by
  have hard := limits_hard reader
  have fits : state.usage.bytesRead + read < u64Bound := by
    simp only [u64Bound]
    omega
  simp only [BudgetedReader.countBytes, Parse.usage, Parse.checkedAdd, checkedAdd, if_pos fits,
    Program.orFail_some, Parse.setUsage, Program.bind_run, Program.pure_run, Program.update,
    allowed, decide_true, Program.ensure_true]

/-- A read of the bytes alone takes one call, or none. -/
theorem alone_readVec (inside : offset + length ≤ tiff.length) (fits : offset + length < u64Bound)
    (single : length ≤ hardMaxSingleReadBytes) (context : String) {state : Extraction}
    (bytes : state.usage.bytesRead + length ≤ reader.limits.maxTotalBytesRead)
    (calls : state.usage.readOperations + min 1 length ≤ reader.limits.maxReadOperations) :
    (reader.alone tiff).readVec offset length context state =
      (.ok (slice tiff offset length),
        { state with usage := { state.usage with
            bytesRead := state.usage.bytesRead + length
            readOperations := state.usage.readOperations + min 1 length } }) := by
  have hard := limits_hard reader
  have bytesFit : state.usage.bytesRead + length < u64Bound := by
    simp only [u64Bound]
    omega
  have stop : offset + length ≤ (reader.alone tiff).sourceLen := inside
  have answer : ∀ call room, (reader.alone tiff).source.readAt call offset room =
      some (slice tiff offset room) := fun _ _ => rfl
  unfold BudgetedReader.readVec
  simp only [Parse.checkedAdd, checkedAdd, if_pos fits, Program.orFail_some, Program.ret_bind,
    stop, single, decide_true, Program.ensure_true, Program.bind_run, Parse.usage,
    if_pos bytesFit, Program.pure_run, BudgetedReader.alone_limits, bytes]
  cases length with
  | zero => rfl
  | succ rounds =>
      have whole : (slice tiff offset (rounds + 1)).length = rounds + 1 := length_slice inside
      have nonempty : slice tiff offset (rounds + 1) ≠ [] := by
        intro none
        rw [none] at whole
        exact absurd whole (Nat.succ_ne_zero rounds).symm
      have start : offset < u64Bound := by omega
      have called : (reader.alone tiff).countOperation offset state = _ :=
        countOperation_run offset (by rw [BudgetedReader.alone_limits]; omega)
      unfold BudgetedReader.readLoop
      rw [if_pos (by simp), Program.bind_run, called]
      simp only [Parse.checkedAdd, checkedAdd, List.length_nil, Nat.add_zero, if_pos start,
        Program.orFail_some, Program.ret_bind, Nat.sub_zero, answer, nonempty, ne_eq,
        not_false_eq_true, decide_true, Program.ensure_true, whole, Nat.le_refl, List.nil_append]
      rw [Program.bind_run, countBytes_run _ _ (by rwa [BudgetedReader.alone_limits])]
      dsimp only
      rw [readLoop_done context rounds (Nat.le_of_eq whole.symm)]
      have one : min 1 (rounds + 1) = 1 := by omega
      rw [one]
      rfl

/-- The same bytes are read at the shifted offset. -/
theorem follows_readVec (holding : Holding reader distance tiff)
    (inside : offset + length ≤ tiff.length) (context : String) :
    (walkLock reader distance base).Follows (fun left right => left = slice tiff offset length ∧
        right = left)
      ((reader.alone tiff).readVec offset length context)
      (reader.readVec (distance + offset) length context) := by
  intro s t tracks
  obtain ⟨contents, honest, stands, box⟩ := holding.contents
  have same : slice contents (distance + offset) length = slice tiff offset length := by
    obtain ⟨rest, whole⟩ := stands
    unfold slice
    rw [← List.drop_drop, ← whole, List.drop_append_of_le_length (by omega),
      List.take_append_of_le_length (by rw [List.length_drop]; omega)]
  have within : distance + offset + length ≤ contents.length := by omega
  have reads := meets_readVec honest within context t t ⟨rfl, tracks.within⟩
  have bytes := tracks.bytesRead
  have calls := tracks.readOperations
  have fits := honest.fits
  generalize reader.readVec (distance + offset) length context t = ended at reads ⊢
  obtain ⟨outcome, after⟩ := ended
  cases outcome with
  | error error => exact Lockstep.ends_cut reads
  | ok result =>
      obtain ⟨rfl, single, used⟩ := reads
      have within := used.within
      have bytesAfter := used.bytesRead
      have callsAfter := used.readOperations
      have bytesLimit := within.bytesRead
      have callsLimit := within.readOperations
      rw [alone_readVec inside (by omega) single context (by omega) (by omega)]
      refine ⟨⟨rfl, same⟩, ?_⟩
      have frame := used.frame
      generalize after.usage.bytesRead = bytesRead at *
      generalize after.usage.readOperations = readOperations at *
      subst frame
      exact {
        within
        bytesRead := by dsimp only; omega
        readOperations := by dsimp only; omega
        retainedFieldBytes := tracks.retainedFieldBytes
        fieldsEmitted := tracks.fieldsEmitted
        ifdEntriesVisited := tracks.ifdEntriesVisited
        fields := tracks.fields
        issues := tracks.issues
        visited := tracks.visited
        pending := tracks.pending
        relative := tracks.relative }

/-- The counters as both runs see them. -/
structure UsesLess (reader : BudgetedReader) (alone full : ExtractionUsage) : Prop where
  bytesRead : alone.bytesRead ≤ full.bytesRead
  retainedFieldBytes : alone.retainedFieldBytes ≤ full.retainedFieldBytes
  fieldsEmitted : alone.fieldsEmitted ≤ full.fieldsEmitted
  ifdEntriesVisited : alone.ifdEntriesVisited ≤ full.ifdEntriesVisited
  retainedLimit : full.retainedFieldBytes ≤ reader.limits.maxRetainedFieldBytes
  fieldLimit : full.fieldsEmitted ≤ reader.limits.maxFields
  entryLimit : full.ifdEntriesVisited ≤ reader.limits.maxIfdEntries

theorem follows_usage :
    (walkLock reader distance base).Follows (UsesLess reader) Parse.usage Parse.usage :=
  fun _ _ tracks => ⟨⟨tracks.bytesRead, tracks.retainedFieldBytes, tracks.fieldsEmitted,
    tracks.ifdEntriesVisited, tracks.within.retainedFieldBytes, tracks.within.fieldsEmitted,
    tracks.within.ifdEntriesVisited⟩, tracks⟩

theorem follows_readFieldBytes (holding : Holding reader distance tiff)
    (inside : offset + length ≤ tiff.length) :
    (walkLock reader distance base).Follows (fun left right => left = slice tiff offset length ∧
        right = left)
      ((reader.alone tiff).readFieldBytes offset length)
      (reader.readFieldBytes (distance + offset) length) := by
  have hard := limits_hard reader
  have hardField : reader.limits.maxFieldBytes ≤ 1024 * 1024 := by
    rw [← reader.hardened]
    simp only [ExtractionLimits.effective]
    omega
  unfold BudgetedReader.readFieldBytes
  rw [BudgetedReader.alone_limits]
  refine (follows_ensure_cut id rfl).bind fun _ _ short => ?_
  refine follows_usage.bind fun used used' less => ?_
  obtain ⟨bytes, retained, emitted, entries, retainedLimit, fieldLimit, entryLimit⟩ := less
  have fields : used.fieldsEmitted + 1 < u32Bound := by
    simp only [u32Bound]
    omega
  have fields' : used'.fieldsEmitted + 1 < u32Bound := by
    simp only [u32Bound]
    omega
  have kept : used.retainedFieldBytes + length < u64Bound := by
    simp only [u64Bound]
    omega
  have kept' : used'.retainedFieldBytes + length < u64Bound := by
    simp only [u64Bound]
    omega
  simp only [Parse.checkedAdd, checkedAdd, if_pos fields, if_pos fields', if_pos kept,
    if_pos kept', Program.orFail_some, Program.ret_bind]
  refine (follows_ensure_cut (by omega) rfl).bind fun _ _ few => ?_
  refine (follows_ensure_cut (by omega) rfl).bind fun _ _ small => ?_
  refine (follows_readVec holding inside _).bind fun left right read => ?_
  refine (Lockstep.follows_update fun s t tracks => ?_).bind fun _ _ _ =>
    Lockstep.follows_pure read
  exact { tracks with
    within := { tracks.within with fieldsEmitted := few, retainedFieldBytes := small }
    fieldsEmitted := by dsimp only; omega
    retainedFieldBytes := by dsimp only; omega }

theorem follows_visitIfdEntries (left right count : Nat) :
    (walkLock reader distance base).Follows (fun _ _ => count ≤ reader.limits.maxIfdEntries)
      ((reader.alone tiff).visitIfdEntries left count)
      (reader.visitIfdEntries right count) := by
  have hard := limits_hard reader
  unfold BudgetedReader.visitIfdEntries
  rw [BudgetedReader.alone_limits]
  refine (follows_ensure_cut id rfl).bind fun _ _ few => ?_
  refine follows_usage.bind fun used used' less => ?_
  obtain ⟨bytes, retained, emitted, entries, retainedLimit, fieldLimit, entryLimit⟩ := less
  have fits : used.ifdEntriesVisited + count < u32Bound := by
    simp only [u32Bound]
    omega
  have fits' : used'.ifdEntriesVisited + count < u32Bound := by
    simp only [u32Bound]
    omega
  simp only [checkedAdd, if_pos fits, if_pos fits', Program.orFail_some, Program.ret_bind]
  intro s t tracks
  simp only [Parse.setUsage, Program.bind_run, Program.update]
  by_cases allowed : used'.ifdEntriesVisited + count ≤ reader.limits.maxIfdEntries
  · have allowedAlone : used.ifdEntriesVisited + count ≤ reader.limits.maxIfdEntries := by omega
    rw [decide_eq_true allowed, decide_eq_true allowedAlone]
    exact ⟨few, { tracks with
      within := { tracks.within with ifdEntriesVisited := allowed }
      ifdEntriesVisited := by dsimp only; omega }⟩
  · rw [decide_eq_false allowed]
    exact Lockstep.ends_cut rfl

theorem follows_observeDepth (depth depthLimit left right : Nat) (context : String) :
    (walkLock reader distance base).Follows (fun _ _ => depth ≤ depthLimit)
      (BudgetedReader.observeDepth depth depthLimit left context)
      (BudgetedReader.observeDepth depth depthLimit right context) := by
  unfold BudgetedReader.observeDepth
  refine (follows_ensure_cut id rfl).bind fun _ _ shallow => ?_
  refine (Lockstep.follows_update fun s t tracks => ?_).mono fun _ _ _ => shallow
  exact { tracks with within := { tracks.within with bytesRead := tracks.within.bytesRead } }

end Reads

/-! ## The walk -/

section Walk

variable {reader : BudgetedReader} {distance : Nat} {tiff : List UInt8} {base : Findings}
  {byteOrder : TiffByteOrder} {origin : TiffOrigin}

theorem Tiff.readInteger_lt (byteOrder : TiffByteOrder) (bytes : List UInt8) :
    Tiff.readInteger byteOrder bytes < 256 ^ bytes.length := by
  cases byteOrder with
  | littleEndian => exact readLittleEndian_lt bytes
  | bigEndian => exact readBigEndian_lt bytes

theorem Tiff.readU16_lt (byteOrder : TiffByteOrder) (bytes : List UInt8) :
    Tiff.readU16 byteOrder bytes < u16Bound := by
  refine lt_of_lt_of_le (Tiff.readInteger_lt byteOrder _) ?_
  exact Nat.pow_le_pow_right (by decide) (List.length_take_le 2 bytes)

theorem Tiff.readU32_lt (byteOrder : TiffByteOrder) (bytes : List UInt8) :
    Tiff.readU32 byteOrder bytes < u32Bound := by
  refine lt_of_lt_of_le (Tiff.readInteger_lt byteOrder _) ?_
  exact Nat.pow_le_pow_right (by decide) (List.length_take_le 4 bytes)

theorem checkedAdd_of_fits {left right : Nat} (fits : left + right < u64Bound)
    (offset : Option Nat) (context : String) :
    Parse.checkedAdd left right offset context = pure (left + right) := by
  rw [Parse.checkedAdd, checkedAdd, if_pos fits]
  rfl

theorem checkedMul_of_fits {left right : Nat} (fits : left * right < u64Bound)
    (offset : Option Nat) (context : String) :
    Parse.checkedMul left right offset context = pure (left * right) := by
  rw [Parse.checkedMul, checkedMul, if_pos fits]
  rfl

theorem follows_pushIssue (error : ParseError) :
    (walkLock reader distance base).Follows (fun _ _ => True) (Parse.pushIssue error)
      (Parse.pushIssue (error.shift distance)) :=
  Lockstep.follows_update fun _ _ tracks => tracks.pushIssue error

theorem follows_pushField (field : MetadataField) :
    (walkLock reader distance base).Follows (fun _ _ => True) (Parse.pushField field)
      (Parse.pushField (field.shift distance)) := by
  refine Lockstep.follows_update fun s t tracks => ?_
  exact { tracks with
    within := { tracks.within with bytesRead := tracks.within.bytesRead }
    fields := by
      dsimp only
      rw [tracks.fields, List.map_append, List.append_assoc]
      rfl }

theorem follows_ensureInContainer (holding : Holding reader distance tiff) {offset length : Nat}
    (small : offset + length ≤ 2 ^ 34) (context : String) :
    (walkLock reader distance base).Follows (fun _ _ => offset + length ≤ tiff.length)
      (Tiff.ensureInContainer offset length tiff.length context)
      (Tiff.ensureInContainer (distance + offset) length (distance + tiff.length) context) := by
  have room := holding.room
  unfold Tiff.ensureInContainer
  rw [checkedAdd_of_fits (by omega), checkedAdd_of_fits (by omega)]
  exact follows_guard (.outOfBounds offset context) (by omega) rfl

/-- The numbers of an entry near the front of a source. -/
structure IfdEntry.Small (entry : IfdEntry) : Prop where
  offset : entry.offset ≤ 2 ^ 33
  valueCount : entry.valueCount < u32Bound
  value : entry.value < u32Bound

variable {entry : IfdEntry}

theorem follows_valueOffset (holding : Holding reader distance tiff) (small : entry.Small) :
    (walkLock reader distance base).Follows
      (fun left right => left ≤ 2 ^ 33 + 8 ∧ right = distance + left)
      (Tiff.valueOffset ⟨0, tiff.length, byteOrder, origin⟩ entry)
      (Tiff.valueOffset ⟨distance, distance + tiff.length, byteOrder, origin⟩
        (entry.shift distance)) := by
  have room := holding.room
  have offset := small.offset
  have value := small.value
  simp only [u32Bound] at value
  unfold Tiff.valueOffset IfdEntry.shift
  dsimp only
  split
  · rw [checkedAdd_of_fits (by omega), checkedAdd_of_fits (by omega)]
    exact Lockstep.follows_pure ⟨by omega, by omega⟩
  · rw [checkedAdd_of_fits (by omega), checkedAdd_of_fits (by omega)]
    exact Lockstep.follows_pure ⟨by omega, by omega⟩

theorem container_shift (ifdOffset tag : Nat) :
    TiffWalk.container ⟨distance, distance + tiff.length, byteOrder, origin⟩
        (distance + ifdOffset) tag =
      (TiffWalk.container ⟨0, tiff.length, byteOrder, origin⟩ ifdOffset tag).shift
        distance := by
  cases origin <;> rfl

theorem follows_extractTimestampField (holding : Holding reader distance tiff)
    (small : entry.Small) (ifdOffset : Nat) (kind : MetadataFieldKind) :
    (walkLock reader distance base).Follows (fun left right => right = left.shift distance)
      (Tiff.extractTimestampField (reader.alone tiff) ⟨0, tiff.length, byteOrder, origin⟩
        ifdOffset entry kind)
      (Tiff.extractTimestampField reader ⟨distance, distance + tiff.length, byteOrder, origin⟩
        (distance + ifdOffset) (entry.shift distance) kind) := by
  have count := small.valueCount
  simp only [u32Bound] at count
  unfold Tiff.extractTimestampField
  refine (follows_guard (.invalid entry.offset
    "timestamp field is not non-empty TIFF ASCII") Iff.rfl rfl).bind fun _ _ _ => ?_
  refine (follows_valueOffset holding small).bind fun offset _ moved => ?_
  obtain ⟨near, rfl⟩ := moved
  refine (follows_ensureInContainer holding (by omega) _).bind fun _ _ inside => ?_
  refine (follows_readFieldBytes holding inside).bind fun bytes _ read => ?_
  obtain ⟨_, rfl⟩ := read
  refine Lockstep.follows_pure ?_
  rw [container_shift]
  rfl

theorem follows_exifPointer (small : entry.Small) {exifIfd : Option Nat}
    (relative : ∀ offset, exifIfd = some offset → offset < u32Bound) :
    (walkLock reader distance base).Follows
      (fun left right => right = left ∧ ∀ offset, left = some offset → offset < u32Bound)
      (Tiff.exifPointer entry exifIfd) (Tiff.exifPointer (entry.shift distance) exifIfd) := by
  unfold Tiff.exifPointer IfdEntry.shift
  dsimp only
  split
  · refine (follows_pushIssue (.invalid entry.offset "Exif IFD pointer type/count")).bind
      fun _ _ _ => ?_
    exact Lockstep.follows_pure ⟨rfl, relative⟩
  split
  · exact Lockstep.follows_pure ⟨rfl, relative⟩
  split
  · refine (follows_pushIssue (.invalid entry.offset "duplicate Exif IFD pointer")).bind
      fun _ _ _ => ?_
    exact Lockstep.follows_pure ⟨rfl, relative⟩
  · refine Lockstep.follows_pure ⟨rfl, fun offset same => ?_⟩
    cases same
    exact small.value

theorem follows_processEntry (holding : Holding reader distance tiff) (small : entry.Small)
    (role : IfdRole) (ifdOffset : Nat) {exifIfd : Option Nat}
    (relative : ∀ offset, exifIfd = some offset → offset < u32Bound) :
    (walkLock reader distance base).Follows
      (fun left right => right = left ∧ ∀ offset, left = some offset → offset < u32Bound)
      (Tiff.processEntry (reader.alone tiff) ⟨0, tiff.length, byteOrder, origin⟩ role ifdOffset
        entry exifIfd)
      (Tiff.processEntry reader ⟨distance, distance + tiff.length, byteOrder, origin⟩ role
        (distance + ifdOffset) (entry.shift distance) exifIfd) := by
  have tag : (entry.shift distance).tag = entry.tag := rfl
  unfold Tiff.processEntry
  rw [tag]
  split
  · exact follows_exifPointer small relative
  cases Tiff.fieldKind role entry.tag with
  | none => exact Lockstep.follows_pure ⟨rfl, relative⟩
  | some kind =>
      refine (follows_isolated ?_).bind fun _ _ _ => Lockstep.follows_pure ⟨rfl, relative⟩
      refine (follows_extractTimestampField holding small ifdOffset kind).bind
        fun field _ shifted => ?_
      rw [shifted]
      exact follows_pushField field

theorem decodeEntry_small (walk : TiffWalk) (bytes : List UInt8) {offset : Nat}
    (near : offset ≤ 2 ^ 33) : (Tiff.decodeEntry walk bytes offset).Small :=
  ⟨near, Tiff.readU32_lt _ _, Tiff.readU32_lt _ _⟩

theorem follows_processEntries (holding : Holding reader distance tiff) (role : IfdRole)
    {ifdOffset tableOffset : Nat} (near : tableOffset ≤ 2 ^ 32 + 2) (table : List UInt8) :
    ∀ (remaining index : Nat) (exifIfd : Option Nat), index + remaining ≤ u16Bound →
      (∀ offset, exifIfd = some offset → offset < u32Bound) →
      (walkLock reader distance base).Follows
        (fun left right => right = left ∧ ∀ offset, left = some offset → offset < u32Bound)
        (Tiff.processEntries (reader.alone tiff) ⟨0, tiff.length, byteOrder, origin⟩ role
          ifdOffset tableOffset table remaining index exifIfd)
        (Tiff.processEntries reader ⟨distance, distance + tiff.length, byteOrder, origin⟩ role
          (distance + ifdOffset) (distance + tableOffset) table remaining index exifIfd)
  | 0, _, _, _, relative => Lockstep.follows_pure ⟨rfl, relative⟩
  | remaining + 1, index, exifIfd, few, relative => by
      have room := holding.room
      simp only [u16Bound, u64Bound] at few room
      unfold Tiff.processEntries
      simp only [Tiff.ifdEntryBytes]
      rw [checkedMul_of_fits (by simp only [u64Bound]; omega), Program.ret_bind,
        checkedMul_of_fits (by simp only [u64Bound]; omega), Program.ret_bind,
        checkedAdd_of_fits (by simp only [u64Bound]; omega), Program.ret_bind,
        checkedAdd_of_fits (by simp only [u64Bound]; omega), Program.ret_bind, Nat.add_assoc]
      refine (follows_processEntry holding (decodeEntry_small _ _ (by omega)) role ifdOffset
        relative).bind fun exifIfd _ found => ?_
      obtain ⟨rfl, relative⟩ := found
      exact follows_processEntries holding role near table remaining (index + 1) _
        (by simp only [u16Bound]; omega) relative

/-! ## Directories -/

theorem follows_insertVisited (ifdOffset : Nat) :
    (walkLock reader distance base).Follows (fun _ _ => True) (Tiff.insertVisited ifdOffset)
      (Tiff.insertVisited (distance + ifdOffset)) := by
  intro s t tracks
  have visited : distance + ifdOffset ∈ t.visited ↔ ifdOffset ∈ s.visited := by
    rw [tracks.visited, List.mem_map]
    constructor
    · rintro ⟨offset, member, same⟩
      rwa [← Nat.add_left_cancel same]
    · exact fun member => ⟨ifdOffset, member, rfl⟩
  unfold Tiff.insertVisited
  simp only [Program.bind_run, Program.current]
  by_cases seen : ifdOffset ∈ s.visited
  · have seen' := visited.mpr seen
    simp only [seen, seen', not_true_eq_false, decide_false, Program.ensure_false]
    exact .inr ⟨⟨rfl, rfl⟩, tracks⟩
  · have unseen' : distance + ifdOffset ∉ t.visited := fun member => seen (visited.mp member)
    simp only [seen, unseen', not_false_eq_true, decide_true, Program.ensure_true,
      Program.pure_run, Program.update]
    exact ⟨trivial, { tracks with
      within := { tracks.within with bytesRead := tracks.within.bytesRead }
      visited := by
        dsimp only
        rw [tracks.visited]
        rfl }⟩

theorem follows_pushTask {task : IfdTask} (small : task.relativeOffset < u32Bound) :
    (walkLock reader distance base).Follows (fun _ _ => True) (Tiff.pushTask task)
      (Tiff.pushTask task) := by
  refine Lockstep.follows_update fun s t tracks => ?_
  exact { tracks with
    within := { tracks.within with bytesRead := tracks.within.bytesRead }
    pending := congrArg (task :: ·) tracks.pending
    relative := List.forall_mem_cons.mpr ⟨small, tracks.relative⟩ }

theorem follows_readTable (holding : Holding reader distance tiff) {ifdOffset : Nat}
    (near : ifdOffset ≤ 2 ^ 32) :
    (walkLock reader distance base).Follows
      (fun left right => left.1 < u16Bound ∧ left.2.1 = ifdOffset + 2 ∧
        right = (left.1, distance + left.2.1, left.2.2))
      (Tiff.readTable (reader.alone tiff) ⟨0, tiff.length, byteOrder, origin⟩ ifdOffset)
      (Tiff.readTable reader ⟨distance, distance + tiff.length, byteOrder, origin⟩
        (distance + ifdOffset)) := by
  have room := holding.room
  simp only [u64Bound] at room
  unfold Tiff.readTable
  refine (follows_ensureInContainer holding (by omega) _).bind fun _ _ inside => ?_
  refine (follows_readVec holding inside _).bind fun _ countBytes read => ?_
  obtain ⟨_, rfl⟩ := read
  have count := Tiff.readU16_lt byteOrder countBytes
  have few := count
  simp only [u16Bound] at count
  refine (follows_visitIfdEntries _ _ _).bind fun _ _ _ => ?_
  simp only [Tiff.ifdEntryBytes, Tiff.ifdNextPointerBytes]
  rw [checkedMul_of_fits (by simp only [u64Bound]; omega), Program.ret_bind,
    checkedMul_of_fits (by simp only [u64Bound]; omega), Program.ret_bind,
    checkedAdd_of_fits (by simp only [u64Bound]; omega), Program.ret_bind,
    checkedAdd_of_fits (by simp only [u64Bound]; omega), Program.ret_bind,
    checkedAdd_of_fits (by simp only [u64Bound]; omega), Program.ret_bind,
    checkedAdd_of_fits (by simp only [u64Bound]; omega), Program.ret_bind, Nat.add_assoc]
  refine (follows_ensureInContainer holding (by omega) _).bind fun _ _ inside => ?_
  refine (follows_readVec holding inside _).bind fun _ table read => ?_
  obtain ⟨_, rfl⟩ := read
  exact Lockstep.follows_pure ⟨few, rfl, rfl⟩

theorem follows_pushNext {nextRelative : Nat} (small : nextRelative < u32Bound) (depth : Nat) :
    (walkLock reader distance base).Follows (fun _ _ => True) (Tiff.pushNext nextRelative depth)
      (Tiff.pushNext nextRelative depth) := by
  unfold Tiff.pushNext
  split
  · exact Lockstep.follows_pure trivial
  · exact follows_pushTask small

theorem follows_pushExif {exifIfd : Option Nat}
    (small : ∀ offset, exifIfd = some offset → offset < u32Bound) (depth : Nat) :
    (walkLock reader distance base).Follows (fun _ _ => True) (Tiff.pushExif exifIfd depth)
      (Tiff.pushExif exifIfd depth) := by
  cases exifIfd with
  | none => exact Lockstep.follows_pure trivial
  | some offset => exact follows_pushTask (small offset rfl)

theorem maxIfdDepth_le (reader : BudgetedReader) : reader.limits.maxIfdDepth ≤ 64 := by
  rw [← reader.hardened]
  simp only [ExtractionLimits.effective]
  omega

theorem follows_pushFollowing (task : IfdTask)
    (shallow : task.depth ≤ reader.limits.maxIfdDepth) (ifdOffset : Nat) {nextRelative : Nat}
    (next : nextRelative < u32Bound) {exifIfd : Option Nat}
    (relative : ∀ offset, exifIfd = some offset → offset < u32Bound) :
    (walkLock reader distance base).Follows (fun _ _ => True)
      (Tiff.pushFollowing task ifdOffset nextRelative exifIfd)
      (Tiff.pushFollowing task (distance + ifdOffset) nextRelative exifIfd) := by
  have hard := maxIfdDepth_le reader
  have fits : task.depth + 1 < u16Bound := by
    simp only [u16Bound]
    omega
  unfold Tiff.pushFollowing
  simp only [checkedAdd, if_pos fits, Program.orFail_some, Program.ret_bind]
  exact (follows_pushNext next _).bind fun _ _ _ => follows_pushExif relative _

theorem follows_processIfd (holding : Holding reader distance tiff) (task : IfdTask)
    (relative : task.relativeOffset < u32Bound) :
    (walkLock reader distance base).Follows (fun _ _ => True)
      (Tiff.processIfd (reader.alone tiff) ⟨0, tiff.length, byteOrder, origin⟩ task)
      (Tiff.processIfd reader ⟨distance, distance + tiff.length, byteOrder, origin⟩ task) := by
  have room := holding.room
  have near := relative
  simp only [u32Bound, u64Bound] at near room
  unfold Tiff.processIfd
  rw [checkedAdd_of_fits (by simp only [u64Bound]; omega), Program.ret_bind,
    checkedAdd_of_fits (by simp only [u64Bound]; omega), Program.ret_bind, Nat.zero_add]
  simp only [BudgetedReader.alone_limits]
  refine (follows_guard (.invalid task.relativeOffset "TIFF IFD points into header")
    Iff.rfl rfl).bind fun _ _ _ => ?_
  refine (follows_insertVisited _).bind fun _ _ _ => ?_
  refine (follows_observeDepth _ _ _ _ _).bind fun _ _ shallow => ?_
  refine (follows_readTable holding (by omega)).bind fun table _ read => ?_
  obtain ⟨count, tableOffset, bytes⟩ := table
  obtain ⟨few, start, rfl⟩ := read
  dsimp only at few start ⊢
  have close : tableOffset ≤ 2 ^ 32 + 2 := by omega
  refine (follows_processEntries holding task.role close bytes count 0 none (by omega)
    fun _ absent => absurd absent (Option.some_ne_none _).symm).bind fun _ exifIfd found => ?_
  obtain ⟨rfl, small⟩ := found
  exact follows_pushFollowing task shallow _ (Tiff.readU32_lt _ _) small

theorem follows_popTask :
    (walkLock reader distance base).Follows
      (fun left right => right = left ∧
        ∀ task, left = some task → task.relativeOffset < u32Bound)
      Tiff.popTask Tiff.popTask := by
  intro s t tracks
  have same := tracks.pending
  have relative := tracks.relative
  unfold Tiff.popTask
  rw [same]
  cases pending : s.pending with
  | nil => exact ⟨⟨rfl, nofun⟩, tracks⟩
  | cons task rest =>
      rw [pending] at relative
      obtain ⟨small, others⟩ := List.forall_mem_cons.mp relative
      refine ⟨⟨rfl, fun found taken => by cases taken; exact small⟩, ?_⟩
      exact { tracks with
        within := { tracks.within with bytesRead := tracks.within.bytesRead }
        pending := rfl
        relative := others }

theorem follows_walkPending (holding : Holding reader distance tiff) (rounds : Nat) :
    (walkLock reader distance base).Follows (fun _ _ => True)
      (Tiff.walkPending (reader.alone tiff) ⟨0, tiff.length, byteOrder, origin⟩ rounds)
      (Tiff.walkPending reader ⟨distance, distance + tiff.length, byteOrder, origin⟩ rounds) := by
  induction rounds with
  | zero => exact Lockstep.follows_pure trivial
  | succ rounds ih =>
      unfold Tiff.walkPending
      refine follows_popTask.bind fun _ popped same => ?_
      obtain ⟨rfl, relative⟩ := same
      cases popped with
      | none => exact Lockstep.follows_pure trivial
      | some task =>
          exact (follows_isolated (follows_processIfd holding task (relative task rfl))).bind
            fun _ _ _ => ih

/-- The walk of the bytes inside a source finds what the walk of the bytes alone finds. -/
theorem follows_walkContainer (origin : TiffOrigin) (holding : Holding reader distance tiff) :
    (walkLock reader distance base).Follows (fun _ _ => True)
      (Tiff.walkContainer (reader.alone tiff) 0 tiff.length origin)
      (Tiff.walkContainer reader distance (distance + tiff.length) origin) := by
  obtain ⟨contents, honest, _, box⟩ := holding.contents
  have stop : reader.operations.sourceLen = contents.length := honest.sourceLen
  have room := holding.room
  unfold Tiff.walkContainer
  refine (follows_guard (.outOfBounds 0 "TIFF container range") ?_ rfl).bind
    fun _ _ _ => ?_
  · exact ⟨fun _ => ⟨by omega, by omega⟩, fun _ => ⟨Nat.le_refl _, Nat.zero_le _⟩⟩
  simp only [Tiff.headerBytes]
  refine (follows_ensureInContainer holding (by omega : 0 + 8 ≤ 2 ^ 34) _).bind fun _ _ inside => ?_
  refine (follows_readVec holding inside _).bind fun _ header read => ?_
  obtain ⟨_, rfl⟩ := read
  have marked : (walkLock reader distance base).Follows (fun left right => right = left)
      (Program.orFail (.invalid 0 "TIFF byte-order marker") (Tiff.byteOrderMark (header.take 2)))
      (Program.orFail (.invalid distance "TIFF byte-order marker")
        (Tiff.byteOrderMark (header.take 2))) := by
    refine Lockstep.follows_orFail ?_ ⟨rfl, rfl⟩
    cases Tiff.byteOrderMark (header.take 2) with
    | none => exact .none
    | some _ => exact .some rfl
  refine marked.bind fun _ byteOrder same => ?_
  subst same
  refine (follows_guard (.invalid 0 "TIFF magic number") Iff.rfl rfl).bind
    fun _ _ _ => ?_
  split
  · exact Lockstep.follows_pure trivial
  · refine (follows_pushTask (Tiff.readU32_lt _ _)).bind fun _ _ _ => ?_
    have rounds : Tiff.walkRounds ⟨distance, distance + tiff.length, byteOrder, origin⟩ =
        Tiff.walkRounds ⟨0, tiff.length, byteOrder, origin⟩ := by
      simp only [Tiff.walkRounds]
      omega
    rw [rounds]
    exact follows_walkPending holding _

end Walk

/-! ## The findings -/

/-- The walk of some bytes alone, with a structural error of the whole as an issue. -/
def aloneRun (limits : ExtractionLimits) (origin : TiffOrigin) (tiff : List UInt8) :
    Except ParseError Unit × Extraction :=
  Parse.isolated (Tiff.parseInRange (BudgetedReader.new (sliceSource tiff) tiff.length limits) 0
    tiff.length origin) {}

def aloneFindings (limits : ExtractionLimits) (origin : TiffOrigin) (tiff : List UInt8) :
    Findings :=
  ⟨(aloneRun limits origin tiff).2.fields, (aloneRun limits origin tiff).2.issues⟩

section Alone

variable {reader : BudgetedReader} {distance : Nat} {tiff : List UInt8} {origin : TiffOrigin}

theorem isolated_withLocals (program : Parse Unit) :
    Parse.isolated (Tiff.withLocals program) = Tiff.withLocals (Parse.isolated program) := by
  funext state
  unfold Tiff.withLocals Parse.isolated
  rw [Program.bind_run, Program.bind_run]
  unfold Program.attempt
  dsimp only
  generalize program { state with visited := [], pending := [] } = ended
  obtain ⟨outcome, after⟩ := ended
  cases outcome with
  | ok _ => rfl
  | error error =>
      dsimp only [Parse.isolate]
      split <;> rfl

theorem isolated_error {program : Parse Unit} {state after : Extraction} {error : ParseError}
    (ran : Parse.isolated program state = (.error error, after)) : error.isStructural = false := by
  unfold Parse.isolated at ran
  rw [Program.bind_run] at ran
  unfold Program.attempt at ran
  dsimp only at ran
  generalize program state = ended at ran
  obtain ⟨outcome, middle⟩ := ended
  cases outcome with
  | ok _ => exact nomatch ran
  | error other =>
      dsimp only [Parse.isolate] at ran
      split at ran
      · exact nomatch ran
      · rename_i other_structural
        cases ran
        exact Bool.eq_false_iff.mpr other_structural

/-- A run that is not cut short ends well, with what the run alone found; and so does that. -/
theorem isolated_parseInRange (origin : TiffOrigin) (holding : Holding reader distance tiff) {state : Extraction}
    (within : WithinBudget reader state) :
    match Parse.isolated (Tiff.parseInRange reader distance (distance + tiff.length) origin)
      state with
    | (.ok (), after) => (aloneRun reader.limits origin tiff).1 = .ok () ∧
        WithinBudget reader after ∧
        ((aloneFindings reader.limits origin tiff).shift distance).Between state after
    | (.error error, _) => error.code = .limitExceeded := by
  have start : Tracks reader distance ⟨state.fields, state.issues⟩ {}
      { state with visited := [], pending := [] } := {
    within := { within with bytesRead := within.bytesRead }
    bytesRead := Nat.zero_le _
    readOperations := Nat.zero_le _
    retainedFieldBytes := Nat.zero_le _
    fieldsEmitted := Nat.zero_le _
    ifdEntriesVisited := Nat.zero_le _
    fields := (List.append_nil _).symm
    issues := (List.append_nil _).symm
    visited := rfl
    pending := rfl
    relative := nofun }
  have ends := follows_isolated (follows_walkContainer origin holding) _ _ start
  unfold aloneFindings aloneRun Tiff.parseInRange
  rw [isolated_withLocals, isolated_withLocals]
  unfold Tiff.withLocals
  have structural : ∀ error after, Parse.isolated
      (Tiff.walkContainer reader distance (distance + tiff.length) origin)
      { state with visited := [], pending := [] } = (.error error, after) →
      error.isStructural = false := fun _ _ => isolated_error
  change (walkLock reader distance ⟨state.fields, state.issues⟩).Ends _
    (Parse.isolated (Tiff.walkContainer
      (BudgetedReader.new (sliceSource tiff) tiff.length reader.limits) 0
      tiff.length origin) {}) _ at ends
  dsimp only
  generalize Parse.isolated (Tiff.walkContainer (BudgetedReader.new (sliceSource tiff) tiff.length
    reader.limits) 0 tiff.length origin) {} = left at ends ⊢
  generalize Parse.isolated (Tiff.walkContainer reader distance (distance + tiff.length) origin)
    { state with visited := [], pending := [] } = right at ends structural ⊢
  obtain ⟨outcome, s⟩ := left
  obtain ⟨outcome', t⟩ := right
  cases outcome' with
  | ok _ =>
      cases outcome with
      | error _ => exact ends.elim
      | ok _ =>
          obtain ⟨_, tracks⟩ := ends
          exact ⟨rfl, { tracks.within with bytesRead := tracks.within.bytesRead },
            tracks.fields, tracks.issues⟩
  | error error' =>
      cases outcome with
      | ok _ => exact ends
      | error error =>
          rcases ends with spent | ⟨⟨found, rfl⟩, _⟩
          · exact spent
          · have not := structural _ _ rfl
            rw [ParseError.isStructural_shift, found] at not
            exact nomatch not

theorem finds_parseInRange (holding : Holding reader distance tiff) :
    Finds reader (.ok ()) ((aloneFindings reader.limits origin tiff).shift distance)
      (Parse.isolated
        (Tiff.parseInRange reader distance (distance + tiff.length) origin)) := by
  intro state within
  have ends := isolated_parseInRange origin holding within
  generalize Parse.isolated (Tiff.parseInRange reader distance (distance + tiff.length) origin)
    state = ended at ends ⊢
  obtain ⟨outcome, after⟩ := ended
  cases outcome with
  | ok _ => exact ⟨rfl, ends.2⟩
  | error _ => exact .inl ends

/-- Where the walk alone spends its budget, so does the walk inside the source. -/
theorem overspends_parseInRange (holding : Holding reader distance tiff)
    (spent : (aloneRun reader.limits origin tiff).1 ≠ .ok ()) :
    Overspends reader (Parse.isolated
      (Tiff.parseInRange reader distance (distance + tiff.length) origin)) := by
  intro state within
  have ends := isolated_parseInRange origin holding within
  generalize Parse.isolated (Tiff.parseInRange reader distance (distance + tiff.length) origin)
    state = ended at ends ⊢
  obtain ⟨outcome, after⟩ := ended
  cases outcome with
  | ok _ => exact absurd ends.1 spent
  | error error => exact ⟨error, after, rfl, ends⟩

end Alone

end Guiying.Metadata
