import Guiying.Metadata.FaithfulLocators
import Guiying.Time.Policy.CleanBoxes

/-!
# What the policy makes of extracted reports

The policy derives the geometry of locators and the counters of a report on its own. It agrees with
the extractor but for two kinds of files: Exif segments whose marker has fill bytes, and box files
whose Exif item was walked.
-/

namespace Guiying.Time.Policy

open Guiying.Foundation Guiying.Foundation.MachineInt Guiying.Metadata Parse Program

/-! ## Clean reports -/

section Runs

variable {reader : BudgetedReader} {format : DetectedFormat} {floor : ExtractionUsage}

theorem cleanly_detectFormat (format : DetectedFormat) :
    Cleanly reader format floor [] (detectFormat reader) fun _ => True := by
  unfold detectFormat
  dsimp only
  split
  · exact along_pure trivial
  · exact (cleanly_readVec _ _ _).next fun _ => along_pure trivial

theorem cleanly_parseFormat (format : DetectedFormat) :
    Cleanly reader format floor []
      (parseFormat (fun reader => Bmff.parse reader) reader format) fun _ => True := by
  cases format with
  | jpeg => exact Jpeg.cleanly_parse
  | tiff => exact Tiff.cleanly_parseDirect
  | isoBmff => exact Bmff.cleanly_parse

theorem clean_start (reader : BudgetedReader) (format : DetectedFormat) :
    Clean reader format {} [] {} where
  within := ⟨Nat.zero_le _, Nat.zero_le _, Nat.zero_le _, Nat.zero_le _, Nat.zero_le _,
    Nat.zero_le _, Nat.zero_le _⟩
  floor := .refl _
  spared := by
    cases format with
    | jpeg => exact ⟨rfl, Nat.zero_le _⟩
    | tiff => exact ⟨rfl, rfl, Nat.zero_le _⟩
    | isoBmff => exact rfl
  count := Nat.le_refl _
  bytes := Nat.le_refl _
  retained := Nat.le_refl _
  called := fun none => absurd none (Nat.lt_irrefl _)
  fields := fun _ none => absurd none List.not_mem_nil

theorem reportStatus_extracted {noFields noErrors : Bool} :
    reportStatus (some format) noFields noErrors = .extractedUnvalidated ↔
      noFields = false ∧ noErrors = true := by
  cases noFields <;> cases noErrors <;> simp [reportStatus]

/-- A report of extracted fields is that of a clean run. -/
theorem clean_of_extracted {source : ReadAtSource} {limits : ExtractionLimits}
    (extracted : (extractTimestampEvidence (fun reader => Bmff.parse reader) source limits).status =
      .extractedUnvalidated) :
    ∃ (reader : BudgetedReader) (format : DetectedFormat) (state : Extraction),
      extractTimestampEvidence (fun reader => Bmff.parse reader) source limits =
        reader.finish state.usage (some format) state.fields [] ∧
      state.fields ≠ [] ∧ Clean reader format {} [] state := by
  unfold extractTimestampEvidence at extracted ⊢
  cases length : source.sourceLen with
  | none =>
      rw [length] at extracted
      cases extracted
  | some sourceLen =>
      rw [length] at extracted
      dsimp only at extracted ⊢
      generalize BudgetedReader.new source sourceLen limits.effective = reader at extracted ⊢
      cases detected : detectFormat reader {} with
      | mk outcome state =>
          rw [detected] at extracted
          cases outcome with
          | error error => cases extracted
          | ok found =>
              cases found with
              | none => cases extracted
              | some format =>
                  dsimp only at extracted ⊢
                  have started := (cleanly_detectFormat format).of_ok
                    (fun _ => clean_start reader format) detected
                  cases parsed : parseFormat (fun reader => Bmff.parse reader) reader format
                      state with
                  | mk outcome after =>
                      rw [parsed] at extracted
                      cases outcome with
                      | error error => cases extracted
                      | ok done =>
                          have clean := (cleanly_parseFormat format).of_ok started.2 parsed
                          dsimp only [reportParsed, BudgetedReader.finish] at extracted ⊢
                          obtain ⟨some_, none⟩ := reportStatus_extracted.mp extracted
                          have issues := List.isEmpty_iff.mp none
                          rw [issues]
                          refine ⟨reader, format, after, rfl, ?_, clean.2 issues⟩
                          exact fun none => Bool.false_ne_true
                            (some_.symm.trans (List.isEmpty_iff.mpr none))

end Runs

/-! ## Totals -/

theorem fieldBytes_cons (field : MetadataField) (fields : List MetadataField) :
    fieldBytes (field :: fields) = field.locator.byteLen + fieldBytes fields := by
  simp [fieldBytes]

/-- The extractor adds up the bytes, saturating, where the policy adds up the locators. -/
theorem foldl_rawBytes {fields : List MetadataField} {total : Nat}
    (lengths : ∀ field ∈ fields, field.rawBytes.length = field.locator.byteLen)
    (fits : total + fieldBytes fields < u64Bound) :
    fields.foldl (fun total field => saturatingAdd u64Bound total field.rawBytes.length) total =
      total + fieldBytes fields := by
  induction fields generalizing total with
  | nil => rfl
  | cons field fields ih =>
      rw [fieldBytes_cons] at fits ⊢
      have length := lengths field List.mem_cons_self
      have step : saturatingAdd u64Bound total field.rawBytes.length =
          total + field.locator.byteLen := by
        rw [length]
        exact if_pos (by omega)
      rw [List.foldl_cons, step,
        ih (fun other inside => lengths other (List.mem_cons_of_mem field inside)) (by omega)]
      exact Nat.add_assoc _ _ _

theorem foldlM_byteLen {fields : List MetadataField} {total : Nat}
    (fits : total + fieldBytes fields < u64Bound) :
    fields.foldlM (fun total field => MachineInt.checkedAdd u64Bound total field.locator.byteLen) total =
      some (total + fieldBytes fields) := by
  induction fields generalizing total with
  | nil => rfl
  | cons field fields ih =>
      rw [fieldBytes_cons] at fits ⊢
      have step : MachineInt.checkedAdd u64Bound total field.locator.byteLen =
          some (total + field.locator.byteLen) := if_pos (by omega)
      rw [List.foldlM_cons, step]
      exact (ih (by omega)).trans (congrArg some (Nat.add_assoc _ _ _))

/-! ## The checks of the policy -/

/-- The marker code of the field's Exif segment stands behind fill bytes. -/
def behindFill (field : MetadataField) : Bool :=
  match field.locator.container with
  | .jpegExif app1Offset headerOffset _ _ _ => headerOffset != app1Offset + 10
  | _ => false

/-- The box file had an Exif item whose directories were walked. -/
def WalkedItem (report : ExtractionReport) : Prop :=
  report.format = some .isoBmff ∧ (report.usage.ifdEntriesVisited ≠ 0 ∨
    report.limits.maxBmffDepth < report.usage.maxDepthObserved)

section Checks

variable {reader : BudgetedReader} {format : DetectedFormat} {state : Extraction}

/-- Only a box file has fields that are not those of directories. -/
theorem Placed.exif {kind : MetadataFieldKind} {absoluteOffset byteLen : Nat}
    {container : MetadataContainer} (placed : Placed format kind absoluteOffset byteLen container)
    (other : format ≠ .isoBmff) : isExifKind kind = true := by
  unfold Placed at placed
  split at placed
  · exact placed.1
  · exact placed.1
  · exact absurd rfl other
  · exact absurd rfl other
  · exact placed.elim

theorem fieldContradicts_iff {field : MetadataField} {report : ExtractionReport}
    (parser : report.parser = parserIdentity) (detected : report.format = some format)
    (checked : Checked reader.limits format field) :
    fieldContradicts report field = true ↔ behindFill field = true ∨
      format = .isoBmff ∧ isExifKind field.kind = true := by
  have length : tryFrom u64Bound field.rawBytes.length = some field.locator.byteLen := by
    rw [checked.length]
    exact if_pos (by have := checked.addressable; omega)
  have stop : (MachineInt.checkedAdd u64Bound field.locator.absoluteOffset
      field.locator.byteLen).isNone = false := by
    rw [MachineInt.checkedAdd, if_pos checked.addressable]
    rfl
  have placed := checked.placed
  unfold fieldContradicts
  rw [parser, checked.parser, checked.encoding, detected]
  unfold behindFill formatAndContainerMatch locatorMatches
  rw [if_neg (by rw [length, stop]; simp)]
  cases container : field.locator.container with
  | tiff headerOffset ifdOffset tag byteOrder =>
      rw [container] at placed
      cases format with
      | jpeg => exact placed.elim
      | tiff =>
          obtain ⟨exif, rfl, behind, fits, rfl⟩ := placed
          have minimum : atLeastAfter 0 8 ifdOffset = true := by
            unfold atLeastAfter MachineInt.checkedAdd
            rw [if_pos (by omega)]
            exact decide_eq_true behind
          simp [exif, tiffLocatorMatches, minimum]
      | isoBmff => simp [show isExifKind field.kind = true from placed]
  | jpegExif app1Offset headerOffset ifdOffset tag byteOrder =>
      rw [container] at placed
      cases format with
      | jpeg =>
          obtain ⟨exif, rfl, behind, fits, after⟩ := placed
          have minimum : atLeastAfter headerOffset 8 ifdOffset = true := by
            unfold atLeastAfter MachineInt.checkedAdd
            rw [if_pos (by omega)]
            exact decide_eq_true behind
          have start : MachineInt.checkedAdd u64Bound app1Offset 10 = some (app1Offset + 10) :=
            if_pos (by omega)
          simp only [exif, tiffLocatorMatches, minimum, start]
          simp [ne_comm]
      | tiff => exact placed.elim
      | isoBmff => exact placed.elim
  | isoBmff boxOffset boxPath =>
      rw [container] at placed
      cases format with
      | jpeg => exact placed.elim
      | tiff => exact placed.elim
      | isoBmff =>
          rcases placed with ⟨kind, rfl, width, behind⟩ | ⟨kind, text⟩
          · have fits := checked.addressable
            have minimum : atLeastAfter boxOffset 12 field.locator.absoluteOffset = true := by
              unfold atLeastAfter MachineInt.checkedAdd
              rw [if_pos (by omega)]
              exact decide_eq_true behind
            simp [kind, isExifKind, minimum]
            omega
          · simp [kind, isExifKind, text]

variable (clean : Clean reader format {} [] state)

include clean

theorem fieldsEmitted_finish :
    (reader.finish state.usage (some format) state.fields []).usage.fieldsEmitted =
      state.fields.length := by
  have count := clean.count
  have few := clean.within.fieldsEmitted
  have hard := limits_hard reader
  have fits : tryFrom u32Bound state.fields.length = some state.fields.length :=
    if_pos (by simp only [u32Bound, List.length_nil] at *; omega)
  dsimp only [BudgetedReader.finish]
  rw [fits]
  rfl

theorem fieldBytes_lt : fieldBytes state.fields < u64Bound := by
  have bytes := clean.bytes
  have room := clean.within.retainedFieldBytes
  have hard := limits_hard reader
  simp only [u64Bound, List.sum_nil] at *
  omega

theorem retainedFieldBytes_finish :
    (reader.finish state.usage (some format) state.fields []).usage.retainedFieldBytes =
      fieldBytes state.fields := by
  have fits : 0 + fieldBytes state.fields < u64Bound := by
    rw [Nat.zero_add]
    exact fieldBytes_lt clean
  exact (foldl_rawBytes (fun field inside => (clean.fields field inside).1.length) fits).trans
    (Nat.zero_add _)

theorem formatDepthMatches_iff :
    formatDepthMatches (reader.finish state.usage (some format) state.fields []) = true ↔
      (format = .isoBmff → state.usage.maxDepthObserved ≤ reader.limits.maxBmffDepth) := by
  have spared := clean.spared
  unfold formatDepthMatches BudgetedReader.finish
  dsimp only
  rw [decide_eq_true_eq]
  cases format with
  | jpeg => exact ⟨fun _ other => absurd other (by decide), fun _ => spared.2⟩
  | tiff => exact ⟨fun _ other => absurd other (by decide), fun _ => spared.2.2⟩
  | isoBmff => exact ⟨fun shallow _ => shallow, fun shallow => shallow rfl⟩

theorem locatorDepthMatches_finish :
    locatorDepthMatches (reader.finish state.usage (some format) state.fields []) = true := by
  unfold locatorDepthMatches
  refine List.all_eq_true.mpr fun field inside => ?_
  obtain ⟨depth, required, deep⟩ := (clean.fields field inside).2.depth
  rw [required]
  exact decide_eq_true deep

variable (some_ : state.fields ≠ [])

include some_

theorem formatUsageMatches_iff :
    formatUsageMatches (reader.finish state.usage (some format) state.fields []) = true ↔
      (format = .isoBmff → state.usage.ifdEntriesVisited = 0) := by
  obtain ⟨field, inside⟩ := List.exists_mem_of_ne_nil _ some_
  obtain ⟨checked, accounts⟩ := clean.fields field inside
  have spared := clean.spared
  have placed := checked.placed
  have emitted : state.fields.isEmpty = false := by
    rw [List.isEmpty_eq_false_iff]
    exact some_
  unfold formatUsageMatches BudgetedReader.finish
  dsimp only
  rw [emitted]
  cases format with
  | jpeg =>
      have entries := accounts.entries (placed.exif (by decide))
      have segments := accounts.segments rfl
      simp [spared.1, entries, segments]
  | tiff =>
      have entries := accounts.entries (placed.exif (by decide))
      simp [spared.1, spared.2.1, entries]
  | isoBmff =>
      have segments : state.usage.jpegSegmentsVisited = 0 := spared
      simp only [segments, beq_self_eq_true, Bool.true_and, Bool.false_or, Bool.and_eq_true,
        beq_iff_eq, decide_eq_true_eq, true_imp_iff, and_iff_left_iff_imp]
      intro none
      refine accounts.boxes (Bool.eq_false_iff.mpr fun exif => ?_)
      exact absurd none (Nat.ne_of_gt (accounts.entries exif))

theorem extractionBudgetMatches_iff :
    extractionBudgetMatches (reader.finish state.usage (some format) state.fields []) = true ↔
      (format = .isoBmff → state.usage.ifdEntriesVisited = 0 ∧
        state.usage.maxDepthObserved ≤ reader.limits.maxBmffDepth) := by
  have within := clean.within
  have retained := retainedFieldBytes_finish clean
  have emitted := fieldsEmitted_finish clean
  have bytes := clean.bytes
  have covered := clean.retained
  have called := clean.called
  have few := clean.within.fieldsEmitted
  have count := clean.count
  have room := clean.within.retainedFieldBytes
  have hard := limits_hard reader
  have positive : 0 < fieldBytes state.fields := by
    obtain ⟨field, fields, same⟩ := List.exists_cons_of_ne_nil some_
    have nonempty := (clean.fields field (same ▸ List.mem_cons_self)).1.nonempty
    rw [same, fieldBytes_cons]
    omega
  simp only [List.length_nil, List.sum_nil, Nat.add_zero] at bytes count
  have lengths : (state.fields.any fun field =>
      (tryFrom u64Bound field.rawBytes.length).all (· > reader.limits.maxFieldBytes)) = false := by
    refine List.any_eq_false.mpr fun field inside => ?_
    obtain ⟨checked, -⟩ := clean.fields field inside
    have fits : tryFrom u64Bound field.rawBytes.length = some field.locator.byteLen := by
      rw [checked.length]
      exact if_pos (by have := checked.addressable; omega)
    rw [fits]
    simpa using checked.small
  have totals : retainedBytes state.fields = some (fieldBytes state.fields) := by
    have sum : 0 + fieldBytes state.fields < u64Bound := by
      rw [Nat.zero_add]
      exact fieldBytes_lt clean
    exact (foldlM_byteLen sum).trans (congrArg some (Nat.zero_add _))
  have counted : tryFrom u32Bound state.fields.length = some state.fields.length :=
    if_pos (by simp only [u32Bound]; omega)
  have depth := formatDepthMatches_iff clean
  have usage := formatUsageMatches_iff clean some_
  have located := locatorDepthMatches_finish clean
  unfold extractionBudgetMatches
  constructor
  · intro accepted iso
    split at accepted
    · cases accepted
    · rename_i sound
      simp only [not_or, Bool.not_eq_false] at sound
      exact ⟨usage.mp sound.2.2.2.2.2.2.2.2.2.1 iso, depth.mp sound.2.2.2.2.2.2.2.2.1 iso⟩
  · intro unwalked
    have shallow := depth.mpr fun iso => (unwalked iso).2
    have unused := usage.mpr fun iso => (unwalked iso).1
    rw [if_neg]
    · dsimp only [BudgetedReader.finish] at emitted retained ⊢
      rw [counted, totals]
      dsimp only
      rw [counted] at emitted
      simp only [emitted, retained, beq_self_eq_true, Bool.and_self, Bool.true_and]
      exact decide_eq_true (bytes.trans covered)
    · simp only [not_or, Bool.not_eq_false]
      refine ⟨not_not.mpr reader.hardened.symm, Nat.not_lt.mpr within.bytesRead,
        Nat.not_lt.mpr within.readOperations, ?_, ?_, Nat.not_lt.mpr within.jpegSegmentsVisited,
        Nat.not_lt.mpr within.ifdEntriesVisited, Nat.not_lt.mpr within.bmffBoxesVisited, shallow,
        unused, located, ?_, Bool.not_eq_true _ ▸ lengths⟩
      · rw [retained]
        exact Nat.not_lt.mpr (bytes.trans room)
      · rw [emitted]
        exact Nat.not_lt.mpr (count.trans few)
      · rintro ⟨-, none⟩
        dsimp only [BudgetedReader.finish] at none
        omega

/-- A clean report contradicts itself where a field stands behind fill bytes or an item was
walked. -/
theorem reportContradicts_finish :
    reportContradicts (reader.finish state.usage (some format) state.fields []) = true ↔
      (∃ field ∈ state.fields, behindFill field = true) ∨
        WalkedItem (reader.finish state.usage (some format) state.fields []) := by
  have budget := extractionBudgetMatches_iff clean some_
  have status : statusContradiction (reader.finish state.usage (some format) state.fields []) =
      false := by
    obtain ⟨field, fields, same⟩ := List.exists_cons_of_ne_nil some_
    rw [same]
    rfl
  have fields : (state.fields.any (fieldContradicts
      (reader.finish state.usage (some format) state.fields []))) = true ↔
      (∃ field ∈ state.fields, behindFill field = true) ∨
        ∃ field ∈ state.fields, format = .isoBmff ∧ isExifKind field.kind = true := by
    rw [List.any_eq_true, ← exists_or]
    refine exists_congr fun field => ?_
    rw [← and_or_left]
    refine and_congr_right fun inside => ?_
    exact fieldContradicts_iff rfl rfl (clean.fields field inside).1
  have walked : extractionBudgetMatches
      (reader.finish state.usage (some format) state.fields []) = false ↔
      WalkedItem (reader.finish state.usage (some format) state.fields []) := by
    rw [← Bool.not_eq_true, budget]
    unfold WalkedItem BudgetedReader.finish
    simp only [Option.some.injEq, Classical.not_imp, not_and_or, Nat.not_le]
  have parser : ((reader.finish state.usage (some format) state.fields []).parser !=
      parserIdentity) = false := rfl
  unfold reportContradicts
  rw [parser, status, Bool.false_or, Bool.or_false, Bool.or_eq_true, Bool.not_eq_true', walked]
  refine (or_congr Iff.rfl fields).trans ⟨?_, ?_⟩
  · rintro (item | fill | ⟨field, inside, rfl, exif⟩)
    · exact .inr item
    · exact .inl fill
    · have entries := (clean.fields field inside).2.entries exif
      exact .inr ⟨rfl, .inl (Nat.ne_of_gt entries)⟩
  · rintro (fill | item)
    · exact .inr (.inl fill)
    · exact .inl item

end Checks

/-- The policy accepts what the extractor extracts, from whatever source, unless a field stands
behind the fill bytes of its marker or the Exif item of a box file was walked. -/
theorem reportContradicts_extracted {source : ReadAtSource} {limits : ExtractionLimits}
    (extracted : (extractTimestampEvidence (fun reader => Bmff.parse reader) source limits).status =
      .extractedUnvalidated) :
    reportContradicts (extractTimestampEvidence (fun reader => Bmff.parse reader) source limits) =
        true ↔
      (∃ field ∈ (extractTimestampEvidence (fun reader => Bmff.parse reader) source limits).fields,
        behindFill field = true) ∨
      WalkedItem (extractTimestampEvidence (fun reader => Bmff.parse reader) source limits) := by
  obtain ⟨reader, format, state, same, some_, clean⟩ := clean_of_extracted extracted
  rw [same]
  exact reportContradicts_finish clean some_

/-- The date of the file stands behind a fill byte, so the policy takes its report for a
contradiction. -/
theorem reportContradicts_extracted_datedFile :
    (∃ field ∈ (extractTimestampEvidence (fun reader => Bmff.parse reader) (sliceSource datedFile)
        .default).fields, behindFill field = true) ∧
      reportContradicts (extractTimestampEvidence (fun reader => Bmff.parse reader)
        (sliceSource datedFile) .default) = true := by
  have fill : ∃ field ∈ (extractTimestampEvidence (fun reader => Bmff.parse reader)
      (sliceSource datedFile) .default).fields, behindFill field = true := by decide +kernel
  exact ⟨fill, (reportContradicts_extracted (by decide +kernel)).mpr (.inl fill)⟩

end Guiying.Time.Policy
