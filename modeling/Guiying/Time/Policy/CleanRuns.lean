import Guiying.Foundation.Invariant
import Guiying.Metadata.HonestReads
import Guiying.Metadata.Tiff
import Guiying.Time.Policy.Checks

/-!
# Clean runs

The policy re-derives from a report what its extraction must have counted. A run that has raised no
issue counts every field it emits before it emits it, within every limit, whatever its source
answers.
-/

namespace Guiying.Time.Policy

open Guiying.Foundation Guiying.Foundation.MachineInt Guiying.Metadata Parse Program

/-! ## Reads of any source -/

/-- What returning `count` bytes does to a state, whatever the source answers. -/
structure ReadBy (reader : BudgetedReader) (count : Nat) (before after : Extraction) : Prop where
  bytesRead : after.usage.bytesRead = before.usage.bytesRead + count
  calls : before.usage.readOperations + min 1 count ≤ after.usage.readOperations
  callLimit : after.usage.readOperations ≤
    max before.usage.readOperations reader.limits.maxReadOperations
  frame : after = { before with usage := { before.usage with
    bytesRead := after.usage.bytesRead, readOperations := after.usage.readOperations } }

section Reads

variable {reader : BudgetedReader} {before after : Extraction} {offset length : Nat}
  {context : String}

theorem ReadBy.refl : ReadBy reader 0 before before :=
  ⟨rfl, Nat.le_refl _, Nat.le_max_left _ _, rfl⟩

theorem countOperation_ok {call : Nat}
    (ran : reader.countOperation offset before = (.ok call, after)) :
    before.usage.readOperations + 1 ≤ reader.limits.maxReadOperations ∧
      after = { before with usage := { before.usage with
        readOperations := before.usage.readOperations + 1 } } := by
  unfold BudgetedReader.countOperation at ran
  simp only [bind_eq_ok, Parse.usage, Parse.checkedAdd, orFail_eq_ok, checkedAdd_eq_some,
    Parse.setUsage, update_eq_ok, ensure_eq_ok, pure_eq_ok, decide_eq_true_eq] at ran
  obtain ⟨_, _, ⟨⟨⟩, ⟨⟩⟩, _, _, ⟨⟨_, rfl⟩, rfl⟩, _, _, rfl, _, _, ⟨within, rfl⟩, _, rfl⟩ := ran
  exact ⟨within, rfl⟩

theorem countBytes_ok {readOffset count : Nat} {done : Unit}
    (ran : reader.countBytes readOffset count before = (.ok done, after)) :
    after = { before with usage := { before.usage with
      bytesRead := before.usage.bytesRead + count } } := by
  unfold BudgetedReader.countBytes at ran
  simp only [bind_eq_ok, Parse.usage, Parse.checkedAdd, orFail_eq_ok, checkedAdd_eq_some,
    Parse.setUsage, update_eq_ok, ensure_eq_ok, decide_eq_true_eq] at ran
  obtain ⟨_, _, ⟨⟨⟩, ⟨⟩⟩, _, _, ⟨⟨_, rfl⟩, rfl⟩, _, _, rfl, _, rfl⟩ := ran
  rfl

/-- Each round completes a longer part of the range. -/
theorem readLoop_ok : ∀ rounds completed before bytes after,
    length - completed.length ≤ rounds → completed.length ≤ length →
    reader.readLoop offset length context rounds completed before = (.ok bytes, after) →
    bytes.length = length ∧ ReadBy reader (length - completed.length) before after := by
  intro rounds
  induction rounds with
  | zero =>
      intro completed before bytes after enough within ran
      obtain ⟨rfl, rfl⟩ := pure_eq_ok.mp ran
      have none : length - completed.length = 0 := by omega
      rw [none]
      exact ⟨by omega, .refl⟩
  | succ rounds ih =>
      intro completed before bytes after enough within ran
      unfold BudgetedReader.readLoop at ran
      split at ran
      · simp only [bind_eq_ok, Parse.checkedAdd, orFail_eq_ok, ensure_eq_ok,
          decide_eq_true_eq] at ran
        obtain ⟨call, counted, called, readOffset, _, ⟨_, rfl⟩, read, _, ⟨_, rfl⟩, _, _,
          ⟨nonempty, rfl⟩, _, _, ⟨room, rfl⟩, _, _, bytesCounted, rest⟩ := ran
        obtain ⟨callWithin, rfl⟩ := countOperation_ok called
        obtain rfl := countBytes_ok bytesCounted
        have positive := List.length_pos_iff.mpr nonempty
        have size : (completed ++ read).length = completed.length + read.length :=
          List.length_append
        obtain ⟨whole, later⟩ := ih _ _ _ _ (by omega) (by omega) rest
        have bytesRead := later.bytesRead
        have calls := later.calls
        have callLimit := later.callLimit
        dsimp only at bytesRead calls callLimit
        exact ⟨whole, by omega, by omega, by omega, later.frame⟩
      · obtain ⟨rfl, rfl⟩ := pure_eq_ok.mp ran
        have none : length - completed.length = 0 := by omega
        rw [none]
        exact ⟨by omega, .refl⟩

theorem readVec_ok {bytes : List UInt8}
    (ran : reader.readVec offset length context before = (.ok bytes, after)) :
    bytes.length = length ∧ offset + length < u64Bound ∧
      after.usage.bytesRead ≤ reader.limits.maxTotalBytesRead ∧
      ReadBy reader length before after := by
  unfold BudgetedReader.readVec at ran
  simp only [bind_eq_ok, Parse.usage, Parse.checkedAdd, orFail_eq_ok, checkedAdd_eq_some,
    ensure_eq_ok, decide_eq_true_eq] at ran
  obtain ⟨_, _, ⟨⟨fits, rfl⟩, rfl⟩, _, _, ⟨_, rfl⟩, _, _, ⟨_, rfl⟩, _, _, ⟨⟨⟩, ⟨⟩⟩, _, _,
    ⟨⟨_, rfl⟩, rfl⟩, _, _, ⟨projected, rfl⟩, loop⟩ := ran
  obtain ⟨whole, read⟩ := readLoop_ok length [] _ _ _ (Nat.sub_le _ _) (Nat.zero_le _) loop
  have bytesRead := read.bytesRead
  exact ⟨whole, fits, by omega, read⟩

end Reads

/-! ## What a clean run has counted -/

/-- Counters that are at least those of a floor. -/
structure AtLeast (floor used : ExtractionUsage) : Prop where
  jpegSegmentsVisited : floor.jpegSegmentsVisited ≤ used.jpegSegmentsVisited
  ifdEntriesVisited : floor.ifdEntriesVisited ≤ used.ifdEntriesVisited
  bmffBoxesVisited : floor.bmffBoxesVisited ≤ used.bmffBoxesVisited
  maxDepthObserved : floor.maxDepthObserved ≤ used.maxDepthObserved

/-- The counters that the walk of a format leaves alone, and the depth it stays within. The Exif
item of a box file is walked as a directory, so its entries and its depth count as well. -/
def Spared (limits : ExtractionLimits) (format : DetectedFormat) (used : ExtractionUsage) : Prop :=
  match format with
  | .jpeg => used.bmffBoxesVisited = 0 ∧ used.maxDepthObserved ≤ limits.maxIfdDepth
  | .tiff => used.jpegSegmentsVisited = 0 ∧ used.bmffBoxesVisited = 0 ∧
      used.maxDepthObserved ≤ limits.maxIfdDepth
  | .isoBmff => used.jpegSegmentsVisited = 0

/-- Where the walk of a format places a field. -/
def Placed (format : DetectedFormat) (kind : MetadataFieldKind) (absoluteOffset byteLen : Nat)
    (container : MetadataContainer) : Prop :=
  match format, container with
  | .jpeg, .jpegExif app1Offset headerOffset ifdOffset tag _ =>
      isExifKind kind = true ∧ tag = exifTag kind ∧ headerOffset + 8 ≤ ifdOffset ∧
        ifdOffset < u64Bound ∧ app1Offset + 10 ≤ headerOffset
  | .tiff, .tiff headerOffset ifdOffset tag _ =>
      isExifKind kind = true ∧ tag = exifTag kind ∧ headerOffset + 8 ≤ ifdOffset ∧
        ifdOffset < u64Bound ∧ headerOffset = 0
  | .isoBmff, .tiff _ _ _ _ => isExifKind kind = true
  | .isoBmff, .isoBmff boxOffset boxPath =>
      (kind = .quickTimeMovieHeaderCreationTime ∧ boxPath = [.moov, .mvhd] ∧
          (byteLen = 4 ∨ byteLen = 8) ∧ boxOffset + 12 ≤ absoluteOffset) ∨
        kind = .quickTimeMetadataCreationDate ∧
          quicktimeTextLocatorMatches boxOffset boxPath absoluteOffset = true
  | _, _ => False

/-- A field as the walk of a format emits it. -/
structure Checked (limits : ExtractionLimits) (format : DetectedFormat)
    (field : MetadataField) : Prop where
  parser : field.parser = parserIdentity
  encoding : encodingMatches field = true
  nonempty : 0 < field.locator.byteLen
  length : field.rawBytes.length = field.locator.byteLen
  small : field.locator.byteLen ≤ limits.maxFieldBytes
  addressable : field.locator.absoluteOffset + field.locator.byteLen < u64Bound
  placed : Placed format field.kind field.locator.absoluteOffset field.locator.byteLen
    field.locator.container

/-- Counters that account for a field. -/
structure Accounts (format : DetectedFormat) (used : ExtractionUsage)
    (field : MetadataField) : Prop where
  depth : ∃ depth, requiredDepth field = some depth ∧ depth ≤ used.maxDepthObserved
  entries : isExifKind field.kind = true → 0 < used.ifdEntriesVisited
  boxes : isExifKind field.kind = false → 0 < used.bmffBoxesVisited
  segments : format = .jpeg → 0 < used.jpegSegmentsVisited

def fieldBytes (fields : List MetadataField) : Nat := (fields.map (·.locator.byteLen)).sum

/-- The counters are within the limits and account for the fields, and for bytes that were read
for further fields. -/
structure Clean (reader : BudgetedReader) (format : DetectedFormat) (floor : ExtractionUsage)
    (held : List Nat) (state : Extraction) : Prop where
  within : WithinBudget reader state
  floor : AtLeast floor state.usage
  spared : Spared reader.limits format state.usage
  count : state.fields.length + held.length ≤ state.usage.fieldsEmitted
  bytes : fieldBytes state.fields + held.sum ≤ state.usage.retainedFieldBytes
  retained : state.usage.retainedFieldBytes ≤ state.usage.bytesRead
  called : 0 < state.usage.bytesRead → 0 < state.usage.readOperations
  fields : ∀ field ∈ state.fields,
    Checked reader.limits format field ∧ Accounts format state.usage field

/-- As long as there is no issue the run is clean. -/
def CleanSoFar (reader : BudgetedReader) (format : DetectedFormat) (floor : ExtractionUsage)
    (held : List Nat) (state : Extraction) : Prop :=
  state.issues = [] → Clean reader format floor held state

abbrev Cleanly {α : Type} (reader : BudgetedReader) (format : DetectedFormat)
    (floor : ExtractionUsage) (held : List Nat) (program : Parse α) (good : α → Prop) : Prop :=
  Along (CleanSoFar reader format floor held) program good

section Steps

variable {reader : BudgetedReader} {format : DetectedFormat} {floor higher : ExtractionUsage}
  {held : List Nat} {state : Extraction}

theorem AtLeast.refl (used : ExtractionUsage) : AtLeast used used :=
  ⟨Nat.le_refl _, Nat.le_refl _, Nat.le_refl _, Nat.le_refl _⟩

theorem AtLeast.trans {used : ExtractionUsage} (less : AtLeast floor higher)
    (more : AtLeast higher used) : AtLeast floor used where
  jpegSegmentsVisited := less.jpegSegmentsVisited.trans more.jpegSegmentsVisited
  ifdEntriesVisited := less.ifdEntriesVisited.trans more.ifdEntriesVisited
  bmffBoxesVisited := less.bmffBoxesVisited.trans more.bmffBoxesVisited
  maxDepthObserved := less.maxDepthObserved.trans more.maxDepthObserved

theorem Accounts.mono {used : ExtractionUsage} {field : MetadataField}
    (accounts : Accounts format floor field) (more : AtLeast floor used) :
    Accounts format used field where
  depth := accounts.depth.imp fun _ deep => ⟨deep.1, deep.2.trans more.maxDepthObserved⟩
  entries exif := (accounts.entries exif).trans_le more.ifdEntriesVisited
  boxes box := (accounts.boxes box).trans_le more.bmffBoxesVisited
  segments jpeg := (accounts.segments jpeg).trans_le more.jpegSegmentsVisited

theorem CleanSoFar.lower (soFar : CleanSoFar reader format higher held state)
    (less : AtLeast floor higher) :
    CleanSoFar reader format floor held state := fun none =>
  { soFar none with floor := less.trans (soFar none).floor }

/-- The locals of a walk are not counted. -/
theorem Clean.withLocals (clean : Clean reader format floor held state) (visited : List Nat)
    (pending : List IfdTask) :
    Clean reader format floor held { state with visited := visited, pending := pending } where
  within := { clean.within with bytesRead := clean.within.bytesRead }
  floor := clean.floor
  spared := clean.spared
  count := clean.count
  bytes := clean.bytes
  retained := clean.retained
  called := clean.called
  fields := clean.fields

/-- Usage that has grown still accounts for what was found. -/
theorem Clean.grow (clean : Clean reader format floor held state) {used : ExtractionUsage}
    (within : WithinBudget reader { state with usage := used }) (reached : AtLeast higher used)
    (more : AtLeast state.usage used) (spared : Spared reader.limits format used)
    (emitted : used.fieldsEmitted = state.usage.fieldsEmitted)
    (retained : used.retainedFieldBytes = state.usage.retainedFieldBytes)
    (bytes : state.usage.bytesRead ≤ used.bytesRead)
    (called : 0 < used.bytesRead → 0 < used.readOperations) :
    Clean reader format higher held { state with usage := used } where
  within := within
  floor := reached
  spared := spared
  count := clean.count.trans_eq emitted.symm
  bytes := clean.bytes.trans_eq retained.symm
  retained := (retained.trans_le clean.retained).trans bytes
  called := called
  fields field inside := (clean.fields field inside).imp_right (·.mono more)

theorem spared_reads {limits : ExtractionLimits} {used : ExtractionUsage}
    (spared : Spared limits format used) (bytesRead readOperations fieldsEmitted retained : Nat) :
    Spared limits format { used with
      bytesRead := bytesRead
      readOperations := readOperations
      fieldsEmitted := fieldsEmitted
      retainedFieldBytes := retained } := by
  cases format with
  | jpeg => exact spared
  | tiff => exact spared
  | isoBmff => exact spared

/-! ## Steps -/

theorem ReadBy.clean {count : Nat} {after : Extraction} (read : ReadBy reader count state after)
    (limit : after.usage.bytesRead ≤ reader.limits.maxTotalBytesRead)
    (clean : Clean reader format floor held state) : Clean reader format floor held after := by
  have bytesRead := read.bytesRead
  have calls := read.calls
  have callLimit := read.callLimit
  have called := clean.called
  have callsBefore := clean.within.readOperations
  rw [read.frame]
  refine clean.grow { clean.within with
    bytesRead := limit, readOperations := by dsimp only; omega } ?_ ?_
    (spared_reads clean.spared _ _ _ _) rfl rfl (by dsimp only; omega) (by dsimp only; omega)
  · exact { clean.floor with maxDepthObserved := clean.floor.maxDepthObserved }
  · exact { AtLeast.refl state.usage with maxDepthObserved := Nat.le_refl _ }

theorem cleanly_readVec (offset length : Nat) (context : String) :
    Cleanly reader format floor held (reader.readVec offset length context)
      fun bytes => bytes.length = length ∧ offset + length < u64Bound := by
  refine along_of_returns fun before bytes after soFar ran => ?_
  obtain ⟨whole, fits, limit, read⟩ := readVec_ok ran
  refine ⟨⟨whole, fits⟩, fun none => read.clean limit (soFar ?_)⟩
  rw [read.frame] at none
  exact none

/-- What is read for a field is held until the field is emitted. -/
theorem cleanly_readFieldBytes (offset length : Nat) :
    Meets (CleanSoFar reader format floor []) (reader.readFieldBytes offset length)
      (fun bytes state => (bytes.length = length ∧ offset + length < u64Bound ∧
          length ≤ reader.limits.maxFieldBytes) ∧
        CleanSoFar reader format floor [length] state) fun _ _ => True := by
  intro before soFar
  cases ran : reader.readFieldBytes offset length before with
  | mk outcome after =>
      cases outcome with
      | error _ => exact trivial
      | ok bytes =>
          unfold BudgetedReader.readFieldBytes at ran
          simp only [bind_eq_ok, Parse.usage, Parse.checkedAdd, orFail_eq_ok, checkedAdd_eq_some,
            Parse.setUsage, update_eq_ok, ensure_eq_ok, pure_eq_ok, decide_eq_true_eq] at ran
          obtain ⟨_, _, ⟨small, rfl⟩, _, _, ⟨⟨⟩, ⟨⟩⟩, _, _, ⟨⟨_, rfl⟩, rfl⟩, _, _, ⟨few, rfl⟩,
            _, _, ⟨⟨_, rfl⟩, rfl⟩, _, _, ⟨room, rfl⟩, _, read, reads, _, _, rfl, rfl, rfl⟩ := ran
          obtain ⟨whole, fits, limit, readBy⟩ := readVec_ok reads
          refine ⟨⟨whole, fits, small⟩, fun none => ?_⟩
          have clean := soFar (by rw [readBy.frame] at none; exact none)
          have kept := readBy.clean limit clean
          have bytesRead := readBy.bytesRead
          have emitted : read.usage.fieldsEmitted = before.usage.fieldsEmitted := by
            rw [readBy.frame]
          have retained : read.usage.retainedFieldBytes = before.usage.retainedFieldBytes := by
            rw [readBy.frame]
          have same : read.fields = before.fields := by rw [readBy.frame]
          have count := clean.count
          have total := clean.bytes
          have covered := clean.retained
          exact {
            within := { kept.within with fieldsEmitted := few, retainedFieldBytes := room }
            floor := { kept.floor with maxDepthObserved := kept.floor.maxDepthObserved }
            spared := spared_reads kept.spared _ _ _ _
            count := by
              dsimp only
              rw [same]
              simp only [List.length_nil, List.length_singleton] at count ⊢
              omega
            bytes := by
              dsimp only
              rw [same]
              simp only [List.sum_nil, List.sum_singleton] at total ⊢
              omega
            retained := by dsimp only; omega
            called := kept.called
            fields := fun field inside => (kept.fields field inside).imp_right fun accounts =>
              accounts.mono { AtLeast.refl read.usage with maxDepthObserved := Nat.le_refl _ } }


/-- A counter other than those of the reads. -/
theorem cleanly_counted {count bound limit : Nat} {overflow error : ParseError}
    {counter : ExtractionUsage → Nat} {put : Nat → ExtractionUsage → ExtractionUsage}
    (grows : ∀ state, Clean reader format floor held state →
      counter state.usage + count ≤ limit →
      Clean reader format higher held
        { state with usage := put (counter state.usage + count) state.usage }) :
    Meets (CleanSoFar reader format floor held)
      (do
        let used ← usage
        let next ← orFail overflow (MachineInt.checkedAdd bound (counter used) count)
        setUsage (put next)
        ensure (next ≤ limit) error)
      (fun _ state => True ∧ CleanSoFar reader format higher held state) fun _ _ => True := by
  intro before soFar
  generalize ran : (do
    let used ← usage
    let next ← orFail overflow (MachineInt.checkedAdd bound (counter used) count)
    setUsage (put next)
    ensure (next ≤ limit) error : Parse Unit) before = ended
  obtain ⟨outcome, after⟩ := ended
  cases outcome with
  | error _ => exact trivial
  | ok _ =>
      simp only [bind_eq_ok, Parse.usage, orFail_eq_ok, checkedAdd_eq_some, Parse.setUsage,
        update_eq_ok, ensure_eq_ok, decide_eq_true_eq] at ran
      obtain ⟨_, _, ⟨⟨⟩, ⟨⟩⟩, _, _, ⟨⟨_, rfl⟩, rfl⟩, _, _, rfl, within, rfl⟩ := ran
      exact ⟨trivial, fun none => grows before (soFar none) within⟩

theorem cleanly_visitIfdEntries (offset count : Nat) :
    Meets (CleanSoFar reader format floor held) (reader.visitIfdEntries offset count)
      (fun _ state => True ∧ CleanSoFar reader format
        { floor with ifdEntriesVisited := floor.ifdEntriesVisited + count } held state)
      fun _ _ => True := by
  refine along_raise (along_ensure : Along _ (ensure (count ≤ reader.limits.maxIfdEntries) _) _)
    fun _ _ => cleanly_counted fun state clean allowed => ?_
  refine clean.grow { clean.within with ifdEntriesVisited := allowed } ?_ ?_ ?_ rfl rfl
    (Nat.le_refl _) clean.called
  · exact { clean.floor with
      ifdEntriesVisited := Nat.add_le_add_right clean.floor.ifdEntriesVisited count }
  · exact { AtLeast.refl state.usage with ifdEntriesVisited := Nat.le_add_right _ _ }
  · have spared := clean.spared
    cases format with
    | jpeg => exact spared
    | tiff => exact spared
    | isoBmff => exact spared

theorem cleanly_visitBmffBox (offset : Nat) :
    Meets (CleanSoFar reader .isoBmff floor held) (reader.visitBmffBox offset)
      (fun _ state => True ∧ CleanSoFar reader .isoBmff
        { floor with bmffBoxesVisited := floor.bmffBoxesVisited + 1 } held state)
      fun _ _ => True :=
  cleanly_counted fun state clean allowed =>
    clean.grow { clean.within with bmffBoxesVisited := allowed }
      { clean.floor with
        bmffBoxesVisited := Nat.add_le_add_right clean.floor.bmffBoxesVisited 1 }
      { AtLeast.refl state.usage with bmffBoxesVisited := Nat.le_add_right _ _ } clean.spared
      rfl rfl (Nat.le_refl _) clean.called

theorem cleanly_visitJpegSegment (offset : Nat) :
    Meets (CleanSoFar reader .jpeg floor held) (reader.visitJpegSegment offset)
      (fun _ state => True ∧ CleanSoFar reader .jpeg
        { floor with jpegSegmentsVisited := floor.jpegSegmentsVisited + 1 } held state)
      fun _ _ => True :=
  cleanly_counted fun state clean allowed =>
    clean.grow { clean.within with jpegSegmentsVisited := allowed }
      { clean.floor with
        jpegSegmentsVisited := Nat.add_le_add_right clean.floor.jpegSegmentsVisited 1 }
      { AtLeast.refl state.usage with jpegSegmentsVisited := Nat.le_add_right _ _ } clean.spared
      rfl rfl (Nat.le_refl _) clean.called

/-- Only the walk of boxes goes deeper than a walk of directories may. -/
theorem cleanly_observeDepth {depthLimit : Nat} (depth offset : Nat) (context : String)
    (allowed : format ≠ .isoBmff → depthLimit ≤ reader.limits.maxIfdDepth) :
    Meets (CleanSoFar reader format floor held)
      (BudgetedReader.observeDepth depth depthLimit offset context)
      (fun _ state => True ∧ CleanSoFar reader format
        { floor with maxDepthObserved := max floor.maxDepthObserved depth } held state)
      fun _ _ => True := by
  refine along_raise (along_ensure : Along _ (ensure (depth ≤ depthLimit) _) _) fun _ shallow =>
    meets_update fun state soFar => ?_
  refine ⟨trivial, fun none => ?_⟩
  have clean := soFar none
  have reached := clean.floor.maxDepthObserved
  refine clean.grow { clean.within with bytesRead := clean.within.bytesRead } ?_ ?_ ?_ rfl rfl
    (Nat.le_refl _) clean.called
  · exact { clean.floor with maxDepthObserved := by dsimp only; omega }
  · exact { AtLeast.refl state.usage with maxDepthObserved := Nat.le_max_left _ _ }
  · have spared := clean.spared
    cases format with
    | jpeg => exact ⟨spared.1, max_le spared.2 (shallow.trans (allowed (by decide)))⟩
    | tiff =>
        exact ⟨spared.1, spared.2.1, max_le spared.2.2 (shallow.trans (allowed (by decide)))⟩
    | isoBmff => exact spared

/-- The field whose bytes are held is emitted. -/
theorem cleanly_pushField {field : MetadataField}
    (checked : Checked reader.limits format field) (accounts : Accounts format floor field) :
    Meets (CleanSoFar reader format floor [field.locator.byteLen]) (pushField field)
      (fun _ state => True ∧ CleanSoFar reader format floor [] state) fun _ _ => True := by
  refine meets_update fun state soFar => ⟨trivial, fun none => ?_⟩
  have clean := soFar none
  have total := clean.bytes
  exact {
    within := { clean.within with bytesRead := clean.within.bytesRead }
    floor := clean.floor
    spared := clean.spared
    count := by
      have count := clean.count
      simp only [List.length_append, List.length_singleton, List.length_nil] at count ⊢
      omega
    bytes := by
      simp only [fieldBytes, List.map_append, List.map_cons, List.map_nil, List.sum_append,
        List.sum_singleton, List.sum_nil] at total ⊢
      omega
    retained := clean.retained
    called := clean.called
    fields := fun other inside => by
      rcases List.mem_append.mp inside with before | last
      · exact clean.fields other before
      · rw [List.mem_singleton.mp last]
        exact ⟨checked, accounts.mono clean.floor⟩ }


/-- After an issue nothing is said of the run. -/
theorem cleanly_pushIssue {error : ParseError} :
    Cleanly reader format floor held (pushIssue error) fun _ => True :=
  along_update fun _ _ none => absurd none (List.append_ne_nil_of_right_ne_nil _ (List.cons_ne_nil _ _))

theorem cleanly_isolate (error : ParseError) :
    Meets (fun _ => True) (isolate (.error error))
      (fun _ state => True ∧ CleanSoFar reader format floor held state) fun _ _ => True := by
  unfold isolate
  dsimp only
  cases error.isStructural with
  | true =>
      exact meets_update fun _ _ => ⟨trivial, fun none =>
        absurd none (List.append_ne_nil_of_right_ne_nil _ (List.cons_ne_nil _ _))⟩
  | false => exact meets_fail fun _ _ => trivial

theorem cleanly_isolated {program : Parse Unit}
    (inner : Cleanly reader format floor held program fun _ => True) :
    Cleanly reader format floor held (isolated program) fun _ => True := by
  intro state soFar
  have result := inner state soFar
  unfold isolated
  rw [bind_run]
  unfold attempt
  dsimp only
  generalize program state = ended at result ⊢
  obtain ⟨outcome, after⟩ := ended
  cases outcome with
  | ok _ => exact result
  | error error => exact cleanly_isolate error after trivial

end Steps

end Guiying.Time.Policy
