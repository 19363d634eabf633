import Guiying.Foundation.JsonReader
import Guiying.Store.HistoryRecords

/-!
# The texts of export records

Every record is written as JSON, and two records that are written alike are the
same record: no field is left out, and no text runs into the next.
-/

namespace Guiying.Store

open Guiying.Foundation ByteString Json

/-! ## Fields -/

@[simp] theorem isCompact_optionalText (value : Option HistoryExportDecimal) :
    IsCompact (optionalText value) :=
  isCompact_optional isCompact_text value

theorem optionalText_injective : Function.Injective optionalText :=
  optional_injective text_injective text_ne_null

@[simp] theorem HistoryExportProjectedText.isCompact_json (value : HistoryExportProjectedText) :
    IsCompact value.json := by
  cases value with
  | redacted => exact isCompact_bare _ _
  | display value => exact isCompact_tagged _ _ _ (isCompact_text value)

theorem HistoryExportProjectedText.json_injective :
    Function.Injective HistoryExportProjectedText.json := by
  have lengths (value : List UInt8) :
      HistoryExportProjectedText.redacted.json ≠ (HistoryExportProjectedText.display value).json := by
    intro same
    have members := object_inj (by simp) (by simp) same
    exact absurd (congrArg List.length members) (by simp)
  intro value other same
  cases value with
  | redacted =>
      cases other with
      | redacted => rfl
      | display value => exact absurd same (lengths value)
  | display value =>
      cases other with
      | redacted => exact absurd same.symm (lengths value)
      | display other =>
          have members := object_inj (by simp) (by simp) same
          simp only [List.map_cons, List.map_nil, List.cons.injEq, Prod.mk.injEq, true_and,
            and_true, text_injective.eq_iff] at members
          exact congrArg _ members

@[simp] theorem isCompact_nameJson (name : String) : IsCompact (nameJson name) := isCompact_text _

/-- Names that are told apart as strings are told apart as JSON. -/
theorem nameJson_injective {α : Type} {name : α → String}
    (apart : Function.Injective fun value => asciiBytes (name value)) :
    Function.Injective fun value => nameJson (name value) :=
  text_injective.comp apart

theorem scanMode_injective :
    Function.Injective fun mode : HistoryExportScanMode => nameJson mode.name := by
  apply nameJson_injective
  intro mode other same
  cases mode <;> cases other <;> first | rfl | exact absurd same (by decide)

theorem timeState_injective :
    Function.Injective fun state : HistoryExportTimeState => nameJson state.name := by
  apply nameJson_injective
  intro state other same
  cases state <;> cases other <;> first | rfl | exact absurd same (by decide)

theorem coverageStatus_injective :
    Function.Injective fun status : HistoryExportCoverageStatus => nameJson status.name := by
  apply nameJson_injective
  intro status other same
  cases status <;> cases other <;> first | rfl | exact absurd same (by decide)

theorem issueSeverity_injective :
    Function.Injective fun severity : HistoryExportIssueSeverity => nameJson severity.name := by
  apply nameJson_injective
  intro severity other same
  cases severity <;> cases other <;> first | rfl | exact absurd same (by decide)

/-! ## Records -/

@[simp] theorem HistoryExportTimeOutcome.isCompact_json (outcome : HistoryExportTimeOutcome) :
    IsCompact outcome.json :=
  isCompact_object (by simp)

theorem HistoryExportTimeOutcome.json_injective :
    Function.Injective HistoryExportTimeOutcome.json := by
  intro outcome other same
  have members := object_inj (by simp) (by simp) same
  simp only [List.map_cons, List.map_nil, List.cons.injEq, Prod.mk.injEq, true_and, and_true,
    timeState_injective.eq_iff, optionalText_injective.eq_iff] at members
  obtain ⟨_, _⟩ := outcome
  obtain ⟨_, _⟩ := other
  simpa using members

@[simp] theorem HistoryExportSummaryRecord.isCompact_json (record : HistoryExportSummaryRecord) :
    IsCompact record.json :=
  isCompact_object (by simp)

theorem HistoryExportSummaryRecord.json_injective :
    Function.Injective HistoryExportSummaryRecord.json := by
  intro record other same
  have members := object_inj (by simp) (by simp) same
  simp only [List.map_cons, List.map_nil, List.cons.injEq, Prod.mk.injEq, true_and, and_true,
    text_injective.eq_iff, scanMode_injective.eq_iff, coverageStatus_injective.eq_iff,
    HistoryExportProjectedText.json_injective.eq_iff,
    HistoryExportTimeOutcome.json_injective.eq_iff] at members
  obtain ⟨_, _⟩ := record
  obtain ⟨_, _⟩ := other
  simpa using members

@[simp] theorem HistoryExportDuplicateGroupRecord.isCompact_json
    (record : HistoryExportDuplicateGroupRecord) : IsCompact record.json :=
  isCompact_object (by simp)

theorem HistoryExportDuplicateGroupRecord.json_injective :
    Function.Injective HistoryExportDuplicateGroupRecord.json := by
  intro record other same
  have members := object_inj (by simp) (by simp) same
  simp only [List.map_cons, List.map_nil, List.cons.injEq, Prod.mk.injEq, true_and, and_true,
    text_injective.eq_iff] at members
  obtain ⟨_, _⟩ := record
  obtain ⟨_, _⟩ := other
  simpa using members

@[simp] theorem HistoryExportFileTimestamp.isCompact_json (timestamp : HistoryExportFileTimestamp) :
    IsCompact timestamp.json :=
  isCompact_object (by simp)

theorem HistoryExportFileTimestamp.json_injective :
    Function.Injective HistoryExportFileTimestamp.json := by
  intro timestamp other same
  have members := object_inj (by simp) (by simp) same
  simp only [List.map_cons, List.map_nil, List.cons.injEq, Prod.mk.injEq, true_and, and_true,
    text_injective.eq_iff] at members
  obtain ⟨_, _⟩ := timestamp
  obtain ⟨_, _⟩ := other
  simpa using members

@[simp] theorem isCompact_birthTime (time : Option HistoryExportFileTimestamp) :
    IsCompact (Json.optional (time.map HistoryExportFileTimestamp.json)) :=
  isCompact_optional HistoryExportFileTimestamp.isCompact_json time

theorem birthTime_injective : Function.Injective fun time : Option HistoryExportFileTimestamp =>
    Json.optional (time.map HistoryExportFileTimestamp.json) :=
  optional_injective HistoryExportFileTimestamp.json_injective fun _ => object_ne_null _

@[simp] theorem HistoryExportDuplicateMemberRecord.isCompact_json
    (record : HistoryExportDuplicateMemberRecord) : IsCompact record.json :=
  isCompact_object (by simp)

theorem HistoryExportDuplicateMemberRecord.json_injective :
    Function.Injective HistoryExportDuplicateMemberRecord.json := by
  intro record other same
  have members := object_inj (by simp) (by simp) same
  have births {time time' : Option HistoryExportFileTimestamp} :
      Json.optional (time.map HistoryExportFileTimestamp.json) =
        Json.optional (time'.map HistoryExportFileTimestamp.json) ↔ time = time' :=
    birthTime_injective.eq_iff
  simp only [List.map_cons, List.map_nil, List.cons.injEq, Prod.mk.injEq, true_and, and_true,
    text_injective.eq_iff, optionalText_injective.eq_iff, births,
    HistoryExportProjectedText.json_injective.eq_iff,
    HistoryExportFileTimestamp.json_injective.eq_iff] at members
  obtain ⟨_, _⟩ := record
  obtain ⟨_, _⟩ := other
  simpa using members

@[simp] theorem HistoryExportScanIssueRecord.isCompact_json
    (record : HistoryExportScanIssueRecord) : IsCompact record.json :=
  isCompact_object (by simp)

theorem HistoryExportScanIssueRecord.json_injective :
    Function.Injective HistoryExportScanIssueRecord.json := by
  intro record other same
  have members := object_inj (by simp) (by simp) same
  simp only [List.map_cons, List.map_nil, List.cons.injEq, Prod.mk.injEq, true_and, and_true,
    text_injective.eq_iff, optionalText_injective.eq_iff, issueSeverity_injective.eq_iff,
    HistoryExportProjectedText.json_injective.eq_iff] at members
  obtain ⟨_, _⟩ := record
  obtain ⟨_, _⟩ := other
  simpa using members

theorem HistoryExportRecord.isCompact_json (record : HistoryExportRecord) :
    IsCompact record.json := by
  cases record <;> exact isCompact_tagged _ _ _ (by simp)

/-- The tag and the content of an adjacently tagged value are read back from it. -/
theorem tagged_inj {tagName tag tag' contentName : String} {content content' : List UInt8}
    (compact : IsCompact content) (compact' : IsCompact content')
    (same : tagged tagName tag contentName content = tagged tagName tag' contentName content') :
    asciiBytes tag = asciiBytes tag' ∧ content = content' := by
  have members := object_inj (by simpa using compact) (by simpa using compact') same
  simpa [text_injective.eq_iff] using members

/-- A record is determined by its JSON. -/
theorem HistoryExportRecord.json_injective : Function.Injective HistoryExportRecord.json := by
  intro record other same
  cases record <;> cases other <;> obtain ⟨tags, content⟩ := tagged_inj (by simp) (by simp) same
  case summary.summary => exact congrArg _ (HistoryExportSummaryRecord.json_injective content)
  case duplicateGroup.duplicateGroup =>
    exact congrArg _ (HistoryExportDuplicateGroupRecord.json_injective content)
  case duplicateMember.duplicateMember =>
    exact congrArg _ (HistoryExportDuplicateMemberRecord.json_injective content)
  case scanIssue.scanIssue => exact congrArg _ (HistoryExportScanIssueRecord.json_injective content)
  all_goals exact absurd tags (by decide)

end Guiying.Store
