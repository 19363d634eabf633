import Guiying.Export.Encoder
import Guiying.Foundation.Keyset
import Guiying.Store.HistoryRecords
import Mathlib.Data.Prod.Lex

/-!
# The rows behind an export

The rows of one completed run that an export reads, the queries that select them,
and the conversion of a row into a record of the export. The query of the summary
is not taken apart: its row is given.
-/

namespace Guiying.Export

open Guiying.Foundation Guiying.Foundation.ByteString Guiying.Store

/-- The failures of a snapshot. A failure of SQLite itself, or of a conversion it makes, is one
value: nothing depends on what it says. -/
inductive SnapshotError where
  | invalidInput (field reason : String)
  | concurrencyConflict (entity : String)
  | readResultLimit (kind : String) (bytes limit : Nat)
  | sqlite
  deriving DecidableEq, Repr

abbrev SnapshotResult (α : Type) := Except SnapshotError α

/-! ## Tables -/

inductive BuildState where
  | draft
  | verified
  | abandoned
  deriving DecidableEq, Repr

structure ExactGroupBuildRow where
  id : Int64
  volumeId : Int64
  scanRunId : Int64
  state : BuildState
  expectedMemberCount : Int64
  expectedEdgeCount : Int64
  independentFileCount : Option Int64
  logicalReclaimableBytes : Option Int64
  finalizedAtMs : Option Int64
  deriving DecidableEq

structure ExactGroupBuildMemberRow where
  exactGroupBuildId : Int64
  volumeId : Int64
  scanRunId : Int64
  ordinal : Int64
  mediaObservationSnapshotId : Int64
  sortRank : Int64
  deriving DecidableEq

structure MediaObservationSnapshotRow where
  id : Int64
  volumeId : Int64
  scanRunId : Int64
  displayPath : List UInt8
  sizeBytes : Int64
  birthTimeSeconds : Option Int64
  birthTimeNanoseconds : Option Int64
  modifiedTimeSeconds : Int64
  modifiedTimeNanoseconds : Int64
  timestampGranularityNs : Int64
  deriving DecidableEq

structure ScanIssueRow where
  id : Int64
  volumeId : Int64
  scanRunId : Int64
  severity : String
  stage : List UInt8
  code : List UInt8
  message : List UInt8
  occurredAtMs : Int64
  resolvedAtMs : Option Int64
  deriving DecidableEq

structure ScanHistoryTimeOutcomeRecord where
  state : String
  expectedGroupCount : Option Int64
  evidenceGroupCount : Option Int64
  unavailableGroupCount : Option Int64
  failedGroupCount : Option Int64
  maxTotalReadBytes : Option Int64
  maxProbeCountPerGroup : Option Int64
  maxReportTotalBytesRead : Option Int64
  maxReportReadOperations : Option Int64
  maxReportRetainedFieldBytes : Option Int64
  maxReportFields : Option Int64
  maxReportIssues : Option Int64
  sealedReportReadBytes : Option Int64
  sealedReportReadOperations : Option Int64
  finalizedAtMs : Option Int64
  deriving DecidableEq

structure ScanHistoryRecord where
  scanRunId : Int64
  rootDisplayPath : List UInt8
  scanMode : String
  startedAtMs : Int64
  finishedAtMs : Int64
  durationMs : Int64
  coverageStatus : String
  discoveredCount : Int64
  fingerprintedCount : Int64
  errorCount : Int64
  logicalBytesSeen : Int64
  observedFileCount : Int64
  verifiedGroupCount : Int64
  verifiedMemberCount : Int64
  redundantCopyCount : Int64
  logicalReclaimableBytes : Int64
  issueCount : Int64
  unresolvedIssueCount : Int64
  timeOutcome : ScanHistoryTimeOutcomeRecord
  deriving DecidableEq

/-- The run an export is about, and the tables it reads. -/
structure HistoryRows where
  scanRunId : Int64
  volumeId : Int64
  /-- `root_relative_path` of the run's row. -/
  rootRelativePath : List UInt8
  summary : ScanHistoryRecord
  builds : List ExactGroupBuildRow
  members : List ExactGroupBuildMemberRow
  observations : List MediaObservationSnapshotRow
  issues : List ScanIssueRow

/-! ## Conversions -/

def historyExportScanMode : String → SnapshotResult HistoryExportScanMode
  | "full" => .ok .full
  | "incremental" => .ok .incremental
  | "resume" => .ok .resume
  | "verify" => .ok .verify
  | _ => .error (.invalidInput "history_export_scan_mode" "database returned an unsupported scan mode")

def historyExportCoverageStatus : String → SnapshotResult HistoryExportCoverageStatus
  | "complete" => .ok .complete
  | "partial" => .ok .partly
  | _ => .error (.invalidInput "history_export_coverage_status"
      "database returned an ineligible coverage status")

def historyExportSeverity : String → SnapshotResult HistoryExportIssueSeverity
  | "info" => .ok .info
  | "warning" => .ok .warning
  | "error" => .ok .error
  | "fatal" => .ok .fatal
  | _ => .error (.invalidInput "history_export_issue_severity"
      "database returned an unsupported issue severity")

def historyExportTimeState : String → SnapshotResult HistoryExportTimeState
  | "complete" => .ok .complete
  | "partial" => .ok .partly
  | "not_run" => .ok .notRun
  | "unavailable" => .ok .unavailable
  | "failed" => .ok .failed
  | _ => .error (.invalidInput "history_export_time_state" "database returned an unsupported time state")

def projectedText (projection : HistoryExportProjection) (value : List UInt8) :
    HistoryExportProjectedText :=
  match projection with
  | .redacted => .redacted
  | .display => .display value

/-- What `CASE WHEN ?n = 1 THEN column END` selects, read as a string. -/
def selectedText (projection : HistoryExportProjection) (value : List UInt8) :
    SnapshotResult (Option (List UInt8)) :=
  match projection with
  | .redacted => .ok none
  | .display => if Utf8.valid value then .ok (some value) else .error .sqlite

def projectedOptionalText (projection : HistoryExportProjection) (value : Option (List UInt8)) :
    SnapshotResult HistoryExportProjectedText :=
  match projection, value with
  | .redacted, _ => .ok .redacted
  | .display, some value => .ok (.display value)
  | .display, none => .error (.invalidInput "history_export_projection"
      "display projection unexpectedly omitted display text")

def historyExportOptionalTimestamp (seconds nanoseconds : Option Int64) :
    SnapshotResult (Option HistoryExportFileTimestamp) :=
  match seconds, nanoseconds with
  | none, none => .ok none
  | some seconds, some nanoseconds =>
      if 0 ≤ nanoseconds.toInt ∧ nanoseconds.toInt < 1000000000 then
        .ok (some ⟨decimal seconds, decimal nanoseconds⟩)
      else .error .sqlite
  | _, _ => .error .sqlite

def historyExportRequiredTimestamp (seconds nanoseconds : Option Int64) :
    SnapshotResult HistoryExportFileTimestamp := do
  match ← historyExportOptionalTimestamp seconds nanoseconds with
  | some timestamp => .ok timestamp
  | none => .error .sqlite

/-- A column that is read as an `i64`. -/
def required : Option Int64 → SnapshotResult Int64
  | some value => .ok value
  | none => .error .sqlite

def historyExportTimeOutcome (record : ScanHistoryTimeOutcomeRecord) :
    SnapshotResult HistoryExportTimeOutcome := do
  let state ← historyExportTimeState record.state
  .ok
    { state := state
      expectedGroupCount := record.expectedGroupCount.map decimal
      evidenceGroupCount := record.evidenceGroupCount.map decimal
      unavailableGroupCount := record.unavailableGroupCount.map decimal
      failedGroupCount := record.failedGroupCount.map decimal
      maxTotalReadBytes := record.maxTotalReadBytes.map decimal
      maxProbeCountPerGroup := record.maxProbeCountPerGroup.map decimal
      maxReportTotalBytesRead := record.maxReportTotalBytesRead.map decimal
      maxReportReadOperations := record.maxReportReadOperations.map decimal
      maxReportRetainedFieldBytes := record.maxReportRetainedFieldBytes.map decimal
      maxReportFields := record.maxReportFields.map decimal
      maxReportIssues := record.maxReportIssues.map decimal
      sealedReportReadBytes := record.sealedReportReadBytes.map decimal
      sealedReportReadOperations := record.sealedReportReadOperations.map decimal
      finalizedAtMs := record.finalizedAtMs.map decimal }

def historyExportSummary (projection : HistoryExportProjection) (record : ScanHistoryRecord) :
    SnapshotResult HistoryExportSummaryRecord := do
  let scanMode ← historyExportScanMode record.scanMode
  let coverageStatus ← historyExportCoverageStatus record.coverageStatus
  let timeOutcome ← historyExportTimeOutcome record.timeOutcome
  .ok
    { scanRunId := decimal record.scanRunId
      rootDisplayPath := projectedText projection record.rootDisplayPath
      scanMode := scanMode
      startedAtMs := decimal record.startedAtMs
      finishedAtMs := decimal record.finishedAtMs
      durationMs := decimal record.durationMs
      coverageStatus := coverageStatus
      discoveredCount := decimal record.discoveredCount
      fingerprintedCount := decimal record.fingerprintedCount
      errorCount := decimal record.errorCount
      logicalBytesSeen := decimal record.logicalBytesSeen
      observedFileCount := decimal record.observedFileCount
      verifiedGroupCount := decimal record.verifiedGroupCount
      verifiedMemberCount := decimal record.verifiedMemberCount
      redundantCopyCount := decimal record.redundantCopyCount
      logicalReclaimableBytes := decimal record.logicalReclaimableBytes
      issueCount := decimal record.issueCount
      unresolvedIssueCount := decimal record.unresolvedIssueCount
      timeOutcome := timeOutcome }

def duplicateGroupRecord (scanRunId : Int64) (row : ExactGroupBuildRow) :
    SnapshotResult HistoryExportRecord := do
  let independentCount ← required row.independentFileCount
  let bytes ← required row.logicalReclaimableBytes
  let finalized ← required row.finalizedAtMs
  .ok (.duplicateGroup
    { scanRunId := decimal scanRunId
      groupBuildId := decimal row.id
      memberCount := decimal row.expectedMemberCount
      edgeCount := decimal row.expectedEdgeCount
      independentFileCount := decimal independentCount
      logicalReclaimableBytes := decimal bytes
      finalizedAtMs := decimal finalized })

/-- A member with its observation, as the join selects them. -/
abbrev MemberRow := ExactGroupBuildMemberRow × MediaObservationSnapshotRow

def duplicateMemberRecord (projection : HistoryExportProjection) (scanRunId : Int64)
    (row : MemberRow) : SnapshotResult HistoryExportRecord := do
  let (member, observation) := row
  let path ← selectedText projection observation.displayPath
  let birth ← historyExportOptionalTimestamp observation.birthTimeSeconds
    observation.birthTimeNanoseconds
  let modified ← historyExportRequiredTimestamp (some observation.modifiedTimeSeconds)
    (some observation.modifiedTimeNanoseconds)
  let displayPath ← projectedOptionalText projection path
  .ok (.duplicateMember
    { scanRunId := decimal scanRunId
      groupBuildId := decimal member.exactGroupBuildId
      ordinal := decimal member.ordinal
      sortRank := decimal member.sortRank
      displayPath := displayPath
      sizeBytes := decimal observation.sizeBytes
      birthTime := birth
      modifiedTime := modified
      timestampGranularityNs := some (decimal observation.timestampGranularityNs) })

def scanIssueRecord (projection : HistoryExportProjection) (scanRunId : Int64)
    (row : ScanIssueRow) : SnapshotResult HistoryExportRecord := do
  let stage ← selectedText projection row.stage
  let code ← selectedText projection row.code
  let message ← selectedText projection row.message
  let severity ← historyExportSeverity row.severity
  let stage ← projectedOptionalText projection stage
  let code ← projectedOptionalText projection code
  let message ← projectedOptionalText projection message
  .ok (.scanIssue
    { scanRunId := decimal scanRunId
      issueId := decimal row.id
      severity := severity
      stage := stage
      code := code
      message := message
      occurredAtMs := decimal row.occurredAtMs
      resolvedAtMs := row.resolvedAtMs.map decimal })

/-! ## Queries -/

/-- The order of the members: group, sort rank, ordinal. -/
abbrev MemberKey := ℤ ×ₗ ℤ ×ₗ ℤ

def memberKeyOf (groupId sortRank ordinal : ℤ) : MemberKey := toLex (groupId, toLex (sortRank, ordinal))

def buildKey (row : ExactGroupBuildRow) : ℤ := row.id.toInt

def memberKey (row : MemberRow) : MemberKey :=
  memberKeyOf row.1.exactGroupBuildId.toInt row.1.sortRank.toInt row.1.ordinal.toInt

def issueKey (row : ScanIssueRow) : ℤ := row.id.toInt

/-- The order of the keys is the comparison that the query of the members spells out. -/
theorem memberKeyOf_lt_iff {group rank ordinal group' rank' ordinal' : ℤ} :
    memberKeyOf group rank ordinal < memberKeyOf group' rank' ordinal' ↔
      group < group' ∨ group = group' ∧ (rank < rank' ∨ rank = rank' ∧ ordinal < ordinal') := by
  simp only [memberKeyOf, Prod.Lex.toLex_lt_toLex]

namespace HistoryRows

variable (history : HistoryRows)

def verifiedBuilds : List ExactGroupBuildRow :=
  history.builds.filter fun build =>
    build.scanRunId = history.scanRunId && build.volumeId = history.volumeId &&
      build.state = .verified

def runMembers : List ExactGroupBuildMemberRow :=
  history.members.filter fun member =>
    member.scanRunId = history.scanRunId && member.volumeId = history.volumeId

/-- The verified builds that a member is joined with. -/
def buildsOf (member : ExactGroupBuildMemberRow) : List ExactGroupBuildRow :=
  history.builds.filter fun build =>
    build.volumeId = member.volumeId && build.scanRunId = member.scanRunId &&
      build.id = member.exactGroupBuildId && build.state = .verified

/-- The observations that a member is joined with. -/
def observationsOf (member : ExactGroupBuildMemberRow) : List MediaObservationSnapshotRow :=
  history.observations.filter fun observation =>
    observation.volumeId = member.volumeId && observation.scanRunId = member.scanRunId &&
      observation.id = member.mediaObservationSnapshotId

/-- The members of verified builds, as they are counted. -/
def joinedMembers : List ExactGroupBuildMemberRow :=
  history.runMembers.flatMap fun member => (history.buildsOf member).map fun _ => member

/-- The members of verified builds with their observations. -/
def memberRows : List MemberRow :=
  history.joinedMembers.flatMap fun member =>
    (history.observationsOf member).map fun observation => (member, observation)

def runIssues : List ScanIssueRow :=
  history.issues.filter fun issue =>
    issue.scanRunId = history.scanRunId && issue.volumeId = history.volumeId

end HistoryRows

/-! ## Preflight -/

def maxHistoryExportBatchSize : Nat := 128

def maxHistoryExportRecords : Nat := 250000

def maxHistoryExportLogicalBytes : Nat := 256 * 1024 * 1024

def historyExportRecordCount (history : HistoryRows) (scope : HistoryExportScope) :
    SnapshotResult Nat :=
  let count := match scope with
    | .summary => 1
    | .completeEvidence =>
        1 + history.verifiedBuilds.length + history.joinedMembers.length + history.runIssues.length
  if count > maxHistoryExportRecords then
    .error (.invalidInput "history_export" "history export exceeds 250000 records")
  else .ok count

/-- `CASE WHEN ?3 = 1 THEN 6 * length(column) ELSE 0 END` -/
def escapedBytes (projection : HistoryExportProjection) (value : List UInt8) : Nat :=
  match projection with
  | .redacted => 0
  | .display => 6 * value.length

def summaryAllowance (projection : HistoryExportProjection) (rootRelativePath : List UInt8) : Nat :=
  2050 + escapedBytes projection rootRelativePath

def memberAllowance (projection : HistoryExportProjection) (row : MemberRow) : Nat :=
  512 + escapedBytes projection row.2.displayPath

def issueAllowance (projection : HistoryExportProjection) (row : ScanIssueRow) : Nat :=
  512 + (escapedBytes projection row.stage + escapedBytes projection row.code +
    escapedBytes projection row.message)

def historyExportPreflightBytes (history : HistoryRows) (request : HistoryExportRequest) :
    SnapshotResult Nat :=
  let projection := request.projection
  let bytes := match request.scope with
    | .summary => summaryAllowance projection history.rootRelativePath
    | .completeEvidence =>
        summaryAllowance projection history.rootRelativePath +
          (history.verifiedBuilds.map fun _ => 512).sum +
          (history.memberRows.map (memberAllowance projection)).sum +
          (history.runIssues.map (issueAllowance projection)).sum
  if bytes > maxHistoryExportLogicalBytes then
    .error (.readResultLimit "history export logical records" bytes maxHistoryExportLogicalBytes)
  else .ok bytes

end Guiying.Export
