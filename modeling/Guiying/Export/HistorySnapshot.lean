import Guiying.Export.HistoryRows
import Guiying.Export.WriteExport

/-!
# The snapshot of a history export

One read snapshot is streamed in batches: the summary, the groups, their members
and the issues, each table page by page after its own cursor. A batch is counted
and measured before it is handed out.
-/

namespace Guiying.Export

open Guiying.Foundation Guiying.Store

inductive HistoryExportStage where
  | summary
  | duplicateGroups
  | duplicateMembers
  | scanIssues
  | done
  deriving DecidableEq, Repr

/-- The stages that are still ahead. -/
def HistoryExportStage.ahead : HistoryExportStage → Nat
  | .summary => 4
  | .duplicateGroups => 3
  | .duplicateMembers => 2
  | .scanIssues => 1
  | .done => 0

/-- A request with its validated batch size. -/
structure SnapshotRequest extends HistoryExportRequest where
  batchSize : Nat
  positive : 0 < batchSize
  bounded : batchSize ≤ maxHistoryExportBatchSize

structure HistoryExportSnapshot where
  stage : HistoryExportStage
  summary : Option HistoryExportSummaryRecord
  groupAfterId : ℤ
  memberAfter : MemberKey
  issueAfterId : ℤ
  emittedRecordCount : Nat
  emittedLogicalBytesUpperBound : Nat
  expectedRecordCount : Nat
  logicalBytesUpperBound : Nat

structure HistoryExportBatch where
  records : List HistoryExportRecord
  cumulativeRecordCount : Nat
  cumulativeLogicalBytesUpperBound : Nat

/-- What one round of `next_batch` finds: records, the end of a stage, or the end of the export. -/
inductive Round where
  | records (records : List HistoryExportRecord)
  | stageEnded
  | exportEnded

namespace HistoryExportSnapshot

def new (summary : HistoryExportSummaryRecord) (expectedRecordCount logicalBytesUpperBound : Nat) :
    HistoryExportSnapshot where
  stage := .summary
  summary := some summary
  groupAfterId := 0
  memberAfter := memberKeyOf 0 (-1) (-1)
  issueAfterId := 0
  emittedRecordCount := 0
  -- the brackets of the array
  emittedLogicalBytesUpperBound := 2
  expectedRecordCount := expectedRecordCount
  logicalBytesUpperBound := logicalBytesUpperBound

def isComplete (snapshot : HistoryExportSnapshot) : Bool :=
  snapshot.stage = .done && snapshot.emittedRecordCount = snapshot.expectedRecordCount

section Reading

variable (history : HistoryRows) (request : SnapshotRequest) (snapshot : HistoryExportSnapshot)

def groupPage : List ExactGroupBuildRow :=
  Keyset.page buildKey history.verifiedBuilds snapshot.groupAfterId request.batchSize

def memberPage : List MemberRow :=
  Keyset.page memberKey history.memberRows snapshot.memberAfter request.batchSize

def issuePage : List ScanIssueRow :=
  Keyset.page issueKey history.runIssues snapshot.issueAfterId request.batchSize

def readDuplicateGroupsBatch :
    SnapshotResult (List HistoryExportRecord × HistoryExportSnapshot) := do
  let rows := snapshot.groupPage history request
  let records ← rows.mapM (duplicateGroupRecord history.scanRunId)
  .ok (records,
    { snapshot with groupAfterId := Keyset.advance buildKey snapshot.groupAfterId rows })

def readDuplicateMembersBatch :
    SnapshotResult (List HistoryExportRecord × HistoryExportSnapshot) := do
  let rows := snapshot.memberPage history request
  let records ← rows.mapM (duplicateMemberRecord request.projection history.scanRunId)
  .ok (records,
    { snapshot with memberAfter := Keyset.advance memberKey snapshot.memberAfter rows })

def readScanIssuesBatch :
    SnapshotResult (List HistoryExportRecord × HistoryExportSnapshot) := do
  let rows := snapshot.issuePage history request
  let records ← rows.mapM (scanIssueRecord request.projection history.scanRunId)
  .ok (records,
    { snapshot with issueAfterId := Keyset.advance issueKey snapshot.issueAfterId rows })

/-- A page that has records is handed on; an empty one ends its stage. -/
def orNextStage (next : HistoryExportStage)
    (read : List HistoryExportRecord × HistoryExportSnapshot) : Round × HistoryExportSnapshot :=
  if read.1 = [] then (.stageEnded, { read.2 with stage := next }) else (.records read.1, read.2)

/-- One round of the loop, between its deadline checks. -/
def round : SnapshotResult (Round × HistoryExportSnapshot) :=
  match snapshot.stage with
  | .summary =>
      match snapshot.summary with
      | none => .error (.concurrencyConflict "scan_history_export_summary")
      | some summary =>
          let next := match request.scope with
            | .summary => HistoryExportStage.done
            | .completeEvidence => .duplicateGroups
          .ok (.records [.summary summary], { snapshot with stage := next, summary := none })
  | .duplicateGroups =>
      (snapshot.readDuplicateGroupsBatch history request).map (orNextStage .duplicateMembers)
  | .duplicateMembers =>
      (snapshot.readDuplicateMembersBatch history request).map (orNextStage .scanIssues)
  | .scanIssues => (snapshot.readScanIssuesBatch history request).map (orNextStage .done)
  | .done =>
      if snapshot.emittedRecordCount ≠ snapshot.expectedRecordCount then
        .error (.concurrencyConflict "scan_history_export_record_count")
      else .ok (.exportEnded, snapshot)

/-- The encoded size of the records, each with the comma after it. -/
def encodedBytes (records : List HistoryExportRecord) : Nat :=
  (records.map fun record => record.json.length + 1).sum

def finishBatch (records : List HistoryExportRecord) :
    SnapshotResult (HistoryExportBatch × HistoryExportSnapshot) := do
  let batchCount := records.length
  if batchCount = 0 ∨ batchCount > request.batchSize then
    .error (.invalidInput "history_export_batch" "batch is empty or exceeds the validated request size")
  else
  let nextCount := snapshot.emittedRecordCount + batchCount
  if nextCount > maxHistoryExportRecords ∨ nextCount > snapshot.expectedRecordCount then
    .error (.invalidInput "history_export" "history export exceeds 250000 records")
  else
  let nextBytes := snapshot.emittedLogicalBytesUpperBound + encodedBytes records
  if nextBytes > maxHistoryExportLogicalBytes ∨ nextBytes > snapshot.logicalBytesUpperBound then
    .error (.readResultLimit "history export logical records" nextBytes maxHistoryExportLogicalBytes)
  else
  .ok (⟨records, nextCount, nextBytes⟩,
    { snapshot with
      emittedRecordCount := nextCount
      emittedLogicalBytesUpperBound := nextBytes })

end Reading

/-! ## The loop -/

theorem orNextStage_stageEnded {next : HistoryExportStage}
    {read : List HistoryExportRecord × HistoryExportSnapshot} {after : HistoryExportSnapshot}
    (ended : orNextStage next read = (.stageEnded, after)) : after.stage = next := by
  unfold orNextStage at ended
  split at ended
  · cases ended
    rfl
  · cases ended

/-- A stage that ends makes way for a later one. -/
theorem ahead_of_stageEnded {history : HistoryRows} {request : SnapshotRequest}
    {snapshot after : HistoryExportSnapshot}
    (ended : snapshot.round history request = .ok (.stageEnded, after)) :
    after.stage.ahead < snapshot.stage.ahead := by
  have mapped {next : HistoryExportStage}
      {read : SnapshotResult (List HistoryExportRecord × HistoryExportSnapshot)}
      (ended : read.map (orNextStage next) = .ok (.stageEnded, after)) : after.stage = next := by
    cases read with
    | error error => cases ended
    | ok read => exact orNextStage_stageEnded (Except.ok.inj ended)
  unfold round at ended
  cases stage : snapshot.stage with
  | summary =>
      rw [stage] at ended
      dsimp only at ended
      split at ended <;> cases ended
  | duplicateGroups =>
      rw [stage] at ended
      rw [mapped ended]
      decide
  | duplicateMembers =>
      rw [stage] at ended
      rw [mapped ended]
      decide
  | scanIssues =>
      rw [stage] at ended
      rw [mapped ended]
      decide
  | done =>
      rw [stage] at ended
      dsimp only at ended
      split at ended <;> cases ended

/-- The next batch, or nothing when the export has ended. -/
def nextBatch (history : HistoryRows) (request : SnapshotRequest)
    (snapshot : HistoryExportSnapshot) :
    SnapshotResult (Option HistoryExportBatch × HistoryExportSnapshot) :=
  match _found : snapshot.round history request with
  | .error error => .error error
  | .ok (.exportEnded, after) => .ok (none, after)
  | .ok (.stageEnded, after) => after.nextBatch history request
  | .ok (.records records, after) =>
      (after.finishBatch request records).map fun (batch, after) => (some batch, after)
termination_by snapshot.stage.ahead
decreasing_by exact ahead_of_stageEnded _found

/-- The batches of repeated calls; nothing when that many calls do not end the export. -/
def drain (history : HistoryRows) (request : SnapshotRequest) :
    Nat → HistoryExportSnapshot →
      SnapshotResult (Option (List HistoryExportBatch) × HistoryExportSnapshot)
  | 0, snapshot => .ok (none, snapshot)
  | calls + 1, snapshot => do
      match ← snapshot.nextBatch history request with
      | (none, after) => .ok (some [], after)
      | (some batch, after) =>
          let (batches, after) ← drain history request calls after
          .ok (batches.map (batch :: ·), after)

/-- The pages of the rounds, as the worker of an export meets them. -/
def pages (history : HistoryRows) (request : SnapshotRequest) :
    Nat → HistoryExportSnapshot → List (StorePage HistoryExportRecord) × HistoryExportSnapshot
  | 0, snapshot => ([], snapshot)
  | rounds + 1, snapshot =>
      match snapshot.round history request with
      | .error _ => ([.refused], snapshot)
      | .ok (.exportEnded, after) => ([], after)
      | .ok (.stageEnded, after) =>
          let rest := pages history request rounds after
          (.empty :: rest.1, rest.2)
      | .ok (.records records, after) =>
          match after.finishBatch request records with
          | .error _ => ([.rejected], after)
          | .ok (batch, after) =>
              let rest := pages history request rounds after
              (.batch batch.records :: rest.1, rest.2)

end HistoryExportSnapshot

/-! ## Opening the snapshot -/

/-- The counts, the measure and the summary are read before the callback is called. -/
def openSnapshot (history : HistoryRows) (request : SnapshotRequest) :
    SnapshotResult HistoryExportSnapshot := do
  let expectedRecordCount ← historyExportRecordCount history request.scope
  let logicalBytesUpperBound ← historyExportPreflightBytes history request.toHistoryExportRequest
  let summary ← historyExportSummary request.projection history.summary
  .ok (.new summary expectedRecordCount logicalBytesUpperBound)

/-- The store as the worker of an export meets it: every round hands on a record or leaves a
stage behind, so there are no more rounds than this. -/
def snapshotRun (history : HistoryRows) (request : SnapshotRequest) : StoreRun HistoryExportRecord :=
  match openSnapshot history request with
  | .error _ => ⟨none, [], false⟩
  | .ok snapshot =>
      let read := snapshot.pages history request (snapshot.expectedRecordCount + 5)
      ⟨some snapshot.expectedRecordCount, read.1, read.2.isComplete⟩

end Guiying.Export
