import Guiying.Foundation.Decimal
import Guiying.Foundation.Json

/-!
# Records of a history export

The records one export streams, as they cross the store's boundary, and their
JSON. Every number is the canonical text of a 64-bit integer; a text is there only
under the display projection.
-/

namespace Guiying.Store

open Guiying.Foundation ByteString

abbrev HistoryExportDecimal := List UInt8

def decimal (value : Int64) : HistoryExportDecimal := (Decimal.text value.toInt).map ascii

inductive HistoryExportProjectedText where
  | redacted
  | display (value : List UInt8)
  deriving DecidableEq

inductive HistoryExportScanMode where
  | full
  | incremental
  | resume
  | verify
  deriving DecidableEq

inductive HistoryExportTimeState where
  | complete
  | partly
  | notRun
  | unavailable
  | failed
  deriving DecidableEq

inductive HistoryExportCoverageStatus where
  | complete
  | partly
  deriving DecidableEq

inductive HistoryExportIssueSeverity where
  | info
  | warning
  | error
  | fatal
  deriving DecidableEq

structure HistoryExportTimeOutcome where
  state : HistoryExportTimeState
  expectedGroupCount : Option HistoryExportDecimal
  evidenceGroupCount : Option HistoryExportDecimal
  unavailableGroupCount : Option HistoryExportDecimal
  failedGroupCount : Option HistoryExportDecimal
  maxTotalReadBytes : Option HistoryExportDecimal
  maxProbeCountPerGroup : Option HistoryExportDecimal
  maxReportTotalBytesRead : Option HistoryExportDecimal
  maxReportReadOperations : Option HistoryExportDecimal
  maxReportRetainedFieldBytes : Option HistoryExportDecimal
  maxReportFields : Option HistoryExportDecimal
  maxReportIssues : Option HistoryExportDecimal
  sealedReportReadBytes : Option HistoryExportDecimal
  sealedReportReadOperations : Option HistoryExportDecimal
  finalizedAtMs : Option HistoryExportDecimal
  deriving DecidableEq

structure HistoryExportSummaryRecord where
  scanRunId : HistoryExportDecimal
  rootDisplayPath : HistoryExportProjectedText
  scanMode : HistoryExportScanMode
  startedAtMs : HistoryExportDecimal
  finishedAtMs : HistoryExportDecimal
  durationMs : HistoryExportDecimal
  coverageStatus : HistoryExportCoverageStatus
  discoveredCount : HistoryExportDecimal
  fingerprintedCount : HistoryExportDecimal
  errorCount : HistoryExportDecimal
  logicalBytesSeen : HistoryExportDecimal
  observedFileCount : HistoryExportDecimal
  verifiedGroupCount : HistoryExportDecimal
  verifiedMemberCount : HistoryExportDecimal
  redundantCopyCount : HistoryExportDecimal
  logicalReclaimableBytes : HistoryExportDecimal
  issueCount : HistoryExportDecimal
  unresolvedIssueCount : HistoryExportDecimal
  timeOutcome : HistoryExportTimeOutcome
  deriving DecidableEq

structure HistoryExportDuplicateGroupRecord where
  scanRunId : HistoryExportDecimal
  groupBuildId : HistoryExportDecimal
  memberCount : HistoryExportDecimal
  edgeCount : HistoryExportDecimal
  independentFileCount : HistoryExportDecimal
  logicalReclaimableBytes : HistoryExportDecimal
  finalizedAtMs : HistoryExportDecimal
  deriving DecidableEq

structure HistoryExportFileTimestamp where
  seconds : HistoryExportDecimal
  nanoseconds : HistoryExportDecimal
  deriving DecidableEq

structure HistoryExportDuplicateMemberRecord where
  scanRunId : HistoryExportDecimal
  groupBuildId : HistoryExportDecimal
  ordinal : HistoryExportDecimal
  sortRank : HistoryExportDecimal
  displayPath : HistoryExportProjectedText
  sizeBytes : HistoryExportDecimal
  birthTime : Option HistoryExportFileTimestamp
  modifiedTime : HistoryExportFileTimestamp
  timestampGranularityNs : Option HistoryExportDecimal
  deriving DecidableEq

structure HistoryExportScanIssueRecord where
  scanRunId : HistoryExportDecimal
  issueId : HistoryExportDecimal
  severity : HistoryExportIssueSeverity
  stage : HistoryExportProjectedText
  code : HistoryExportProjectedText
  message : HistoryExportProjectedText
  occurredAtMs : HistoryExportDecimal
  resolvedAtMs : Option HistoryExportDecimal
  deriving DecidableEq

inductive HistoryExportRecord where
  | summary (record : HistoryExportSummaryRecord)
  | duplicateGroup (record : HistoryExportDuplicateGroupRecord)
  | duplicateMember (record : HistoryExportDuplicateMemberRecord)
  | scanIssue (record : HistoryExportScanIssueRecord)
  deriving DecidableEq

/-! ## JSON

The members stand in the order of the fields. -/

def HistoryExportProjectedText.json : HistoryExportProjectedText → List UInt8
  | .redacted => Json.bare "projection" "redacted"
  | .display value => Json.tagged "projection" "display" "value" (Json.text value)

def HistoryExportScanMode.name : HistoryExportScanMode → String
  | .full => "full"
  | .incremental => "incremental"
  | .resume => "resume"
  | .verify => "verify"

def HistoryExportTimeState.name : HistoryExportTimeState → String
  | .complete => "complete"
  | .partly => "partial"
  | .notRun => "not_run"
  | .unavailable => "unavailable"
  | .failed => "failed"

def HistoryExportCoverageStatus.name : HistoryExportCoverageStatus → String
  | .complete => "complete"
  | .partly => "partial"

def HistoryExportIssueSeverity.name : HistoryExportIssueSeverity → String
  | .info => "info"
  | .warning => "warning"
  | .error => "error"
  | .fatal => "fatal"

def nameJson (name : String) : List UInt8 := Json.text (asciiBytes name)

def optionalText (value : Option HistoryExportDecimal) : List UInt8 :=
  Json.optional (value.map Json.text)

def HistoryExportTimeOutcome.json (outcome : HistoryExportTimeOutcome) : List UInt8 :=
  Json.object
    [("state", nameJson outcome.state.name),
      ("expected_group_count", optionalText outcome.expectedGroupCount),
      ("evidence_group_count", optionalText outcome.evidenceGroupCount),
      ("unavailable_group_count", optionalText outcome.unavailableGroupCount),
      ("failed_group_count", optionalText outcome.failedGroupCount),
      ("max_total_read_bytes", optionalText outcome.maxTotalReadBytes),
      ("max_probe_count_per_group", optionalText outcome.maxProbeCountPerGroup),
      ("max_report_total_bytes_read", optionalText outcome.maxReportTotalBytesRead),
      ("max_report_read_operations", optionalText outcome.maxReportReadOperations),
      ("max_report_retained_field_bytes", optionalText outcome.maxReportRetainedFieldBytes),
      ("max_report_fields", optionalText outcome.maxReportFields),
      ("max_report_issues", optionalText outcome.maxReportIssues),
      ("sealed_report_read_bytes", optionalText outcome.sealedReportReadBytes),
      ("sealed_report_read_operations", optionalText outcome.sealedReportReadOperations),
      ("finalized_at_ms", optionalText outcome.finalizedAtMs)]

def HistoryExportSummaryRecord.json (record : HistoryExportSummaryRecord) : List UInt8 :=
  Json.object
    [("scan_run_id", Json.text record.scanRunId),
      ("root_display_path", record.rootDisplayPath.json),
      ("scan_mode", nameJson record.scanMode.name),
      ("started_at_ms", Json.text record.startedAtMs),
      ("finished_at_ms", Json.text record.finishedAtMs),
      ("duration_ms", Json.text record.durationMs),
      ("coverage_status", nameJson record.coverageStatus.name),
      ("discovered_count", Json.text record.discoveredCount),
      ("fingerprinted_count", Json.text record.fingerprintedCount),
      ("error_count", Json.text record.errorCount),
      ("logical_bytes_seen", Json.text record.logicalBytesSeen),
      ("observed_file_count", Json.text record.observedFileCount),
      ("verified_group_count", Json.text record.verifiedGroupCount),
      ("verified_member_count", Json.text record.verifiedMemberCount),
      ("redundant_copy_count", Json.text record.redundantCopyCount),
      ("logical_reclaimable_bytes", Json.text record.logicalReclaimableBytes),
      ("issue_count", Json.text record.issueCount),
      ("unresolved_issue_count", Json.text record.unresolvedIssueCount),
      ("time_outcome", record.timeOutcome.json)]

def HistoryExportDuplicateGroupRecord.json (record : HistoryExportDuplicateGroupRecord) :
    List UInt8 :=
  Json.object
    [("scan_run_id", Json.text record.scanRunId),
      ("group_build_id", Json.text record.groupBuildId),
      ("member_count", Json.text record.memberCount),
      ("edge_count", Json.text record.edgeCount),
      ("independent_file_count", Json.text record.independentFileCount),
      ("logical_reclaimable_bytes", Json.text record.logicalReclaimableBytes),
      ("finalized_at_ms", Json.text record.finalizedAtMs)]

def HistoryExportFileTimestamp.json (timestamp : HistoryExportFileTimestamp) : List UInt8 :=
  Json.object
    [("seconds", Json.text timestamp.seconds), ("nanoseconds", Json.text timestamp.nanoseconds)]

def HistoryExportDuplicateMemberRecord.json (record : HistoryExportDuplicateMemberRecord) :
    List UInt8 :=
  Json.object
    [("scan_run_id", Json.text record.scanRunId),
      ("group_build_id", Json.text record.groupBuildId),
      ("ordinal", Json.text record.ordinal),
      ("sort_rank", Json.text record.sortRank),
      ("display_path", record.displayPath.json),
      ("size_bytes", Json.text record.sizeBytes),
      ("birth_time", Json.optional (record.birthTime.map HistoryExportFileTimestamp.json)),
      ("modified_time", record.modifiedTime.json),
      ("timestamp_granularity_ns", optionalText record.timestampGranularityNs)]

def HistoryExportScanIssueRecord.json (record : HistoryExportScanIssueRecord) : List UInt8 :=
  Json.object
    [("scan_run_id", Json.text record.scanRunId),
      ("issue_id", Json.text record.issueId),
      ("severity", nameJson record.severity.name),
      ("stage", record.stage.json),
      ("code", record.code.json),
      ("message", record.message.json),
      ("occurred_at_ms", Json.text record.occurredAtMs),
      ("resolved_at_ms", optionalText record.resolvedAtMs)]

def HistoryExportRecord.json : HistoryExportRecord → List UInt8
  | .summary record => Json.tagged "record_type" "summary" "record" record.json
  | .duplicateGroup record => Json.tagged "record_type" "duplicate_group" "record" record.json
  | .duplicateMember record => Json.tagged "record_type" "duplicate_member" "record" record.json
  | .scanIssue record => Json.tagged "record_type" "scan_issue" "record" record.json

/-! ## The size of a number -/

theorem plain_of_mem_decimal {value : Int64} {byte : UInt8} (member : byte ∈ decimal value) :
    Json.Plain byte := by
  obtain ⟨character, inside, rfl⟩ := List.mem_map.mp member
  have range : 45 ≤ character.toNat ∧ character.toNat ≤ 57 := by
    rcases Decimal.mem_text inside with digit | rfl
    · have bounds := Decimal.toNat_of_isDigit digit
      omega
    · decide
  have number : (ascii character).toNat = character.toNat :=
    UInt8.toNat_ofNat_of_lt' (lt_of_le_of_lt range.2 (by decide))
  have other (control : UInt8) (apart : control.toNat ≠ character.toNat) :
      ascii character ≠ control := by
    rintro rfl
    exact apart number
  refine ⟨other 34 ?_, other 92 ?_, ?_⟩
  · change 34 ≠ character.toNat
    omega
  · change 92 ≠ character.toNat
    omega
  · rw [UInt8.le_iff_toNat_le, number]
    change 32 ≤ character.toNat
    omega

/-- The smallest 64-bit integer has the longest text. -/
theorem length_decimal_le (value : Int64) : (decimal value).length ≤ 20 := by
  have low := value.le_toInt
  have high := value.toInt_lt
  have digits : (Nat.toDigits 10 value.toInt.natAbs).length ≤ 19 := by
    rw [Nat.length_toDigits_le_iff (by decide) (by decide)]
    omega
  rw [decimal, List.length_map, Decimal.text_eq, List.length_append]
  split
  · simp only [List.length_cons, List.length_nil]
    omega
  · simp only [List.length_nil]
    omega

theorem length_text_decimal_le (value : Int64) : (Json.text (decimal value)).length ≤ 22 := by
  rw [Json.length_text_of_plain fun _ member => plain_of_mem_decimal member]
  have digits := length_decimal_le value
  omega

theorem length_optionalText_le (value : Option Int64) :
    (optionalText (value.map decimal)).length ≤ 22 := by
  cases value with
  | none => decide
  | some value => exact length_text_decimal_le value

end Guiying.Store
