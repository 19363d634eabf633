import Guiying.Export.PublishedRecords
import Guiying.Export.RecordAllowances

/-!
# What a snapshot streams

The records of an export are fixed by the history and the request. Whatever the
batch size is, the batches hold exactly these, in order, and stay within what the
preflight has counted and measured.
-/

namespace Guiying.Export

open Guiying.Foundation Guiying.Store

/-! ## The records of an export -/

namespace HistoryRows

variable (history : HistoryRows) (projection : HistoryExportProjection)

def summaryRecords : List HistoryExportRecord :=
  recordsOf (fun row => (historyExportSummary projection row).map .summary) [history.summary]

def groupRecords : List HistoryExportRecord :=
  recordsOf (duplicateGroupRecord history.scanRunId) (Keyset.ordered buildKey history.verifiedBuilds)

def memberRecords : List HistoryExportRecord :=
  recordsOf (duplicateMemberRecord projection history.scanRunId)
    (Keyset.ordered memberKey history.memberRows)

def issueRecords : List HistoryExportRecord :=
  recordsOf (scanIssueRecord projection history.scanRunId)
    (Keyset.ordered issueKey history.runIssues)

/-- The summary and, as complete evidence, one record for every row of the three tables, each table
in the order of its key. -/
def exportedRecords (request : HistoryExportRequest) : List HistoryExportRecord :=
  match request.scope with
  | .summary => history.summaryRecords request.projection
  | .completeEvidence =>
      history.summaryRecords request.projection ++
        (history.groupRecords ++
          (history.memberRecords request.projection ++ history.issueRecords request.projection))

end HistoryRows

open HistoryExportSnapshot

section Opening

variable (history : StoredHistory) (request : HistoryExportRequest)

theorem summaryRecords_eq {projection : HistoryExportProjection}
    {summary : HistoryExportSummaryRecord}
    (converted : historyExportSummary projection history.summary = .ok summary) :
    history.summaryRecords projection = [.summary summary] := by
  rw [HistoryRows.summaryRecords, recordsOf, List.filterMap_cons_some (by rw [converted]; rfl)]
  rfl

theorem length_groupRecords : history.groupRecords.length = history.verifiedBuilds.length := by
  rw [HistoryRows.groupRecords, length_recordsOf fun build inside =>
    history.group_converts build (Keyset.mem_ordered.mp inside), Keyset.length_ordered]

theorem length_memberRecords (projection : HistoryExportProjection) :
    (history.memberRecords projection).length = history.joinedMembers.length := by
  rw [HistoryRows.memberRecords, length_recordsOf fun row inside =>
    history.member_converts projection row (Keyset.mem_ordered.mp inside), Keyset.length_ordered,
    history.length_memberRows]

theorem length_issueRecords (projection : HistoryExportProjection) :
    (history.issueRecords projection).length = history.runIssues.length := by
  rw [HistoryRows.issueRecords, length_recordsOf fun issue inside =>
    history.issue_converts projection issue (Keyset.mem_ordered.mp inside), Keyset.length_ordered]

theorem encodedBytes_ordered_le {α Key : Type} [LinearOrder Key] (key : α → Key)
    {convert : α → SnapshotResult HistoryExportRecord} {allowance : α → Nat}
    (granted : ∀ row record, convert row = .ok record → record.json.length < allowance row)
    (rows : List α) :
    encodedBytes (recordsOf convert (Keyset.ordered key rows)) ≤ (rows.map allowance).sum := by
  rw [encodedBytes_perm (recordsOf_perm (Keyset.ordered_perm key rows))]
  exact encodedBytes_recordsOf_le granted rows

theorem encodedBytes_groupRecords_le (history : HistoryRows) :
    encodedBytes history.groupRecords ≤ (history.verifiedBuilds.map fun _ => 512).sum :=
  encodedBytes_ordered_le buildKey (fun _ _ converted => length_group_lt converted) _

theorem encodedBytes_memberRecords_le (history : HistoryRows)
    (projection : HistoryExportProjection) :
    encodedBytes (history.memberRecords projection) ≤
      (history.memberRows.map (memberAllowance projection)).sum :=
  encodedBytes_ordered_le memberKey (fun _ _ converted => length_member_lt converted) _

theorem encodedBytes_issueRecords_le (history : HistoryRows)
    (projection : HistoryExportProjection) :
    encodedBytes (history.issueRecords projection) ≤
      (history.runIssues.map (issueAllowance projection)).sum :=
  encodedBytes_ordered_le issueKey (fun _ _ converted => length_issue_lt converted) _

/-- A number that passes its limit is handed on as it is. -/
theorem eq_of_limited {value limit result : Nat} {error : SnapshotError}
    (passed : (if value > limit then .error error else .ok value : SnapshotResult Nat) =
      .ok result) : value = result ∧ value ≤ limit := by
  split at passed
  · cases passed
  · next within =>
      cases passed
      exact ⟨rfl, Nat.le_of_not_lt within⟩

/-- The preflight counts the records of the export. -/
theorem expectedRecordCount_eq {count : Nat}
    (counted : historyExportRecordCount history.toHistoryRows request.scope = .ok count) :
    count = (history.exportedRecords request).length ∧ count ≤ maxHistoryExportRecords := by
  obtain ⟨scope, projection⟩ := request
  obtain ⟨summary, converted⟩ := history.summary_converts projection
  have one := summaryRecords_eq history converted
  cases scope with
  | summary =>
      unfold historyExportRecordCount at counted
      obtain ⟨rfl, within⟩ := eq_of_limited counted
      rw [HistoryRows.exportedRecords, one]
      exact ⟨rfl, within⟩
  | completeEvidence =>
      unfold historyExportRecordCount at counted
      obtain ⟨rfl, within⟩ := eq_of_limited counted
      refine ⟨?_, within⟩
      dsimp only
      rw [HistoryRows.exportedRecords, one, List.length_append, List.length_append,
        List.length_append, length_groupRecords, length_memberRecords, length_issueRecords,
        List.length_singleton]
      omega

/-- The preflight leaves room for the records of the export. -/
theorem logicalBytesUpperBound_le {bound : Nat}
    (measured : historyExportPreflightBytes history.toHistoryRows request = .ok bound) :
    2 + encodedBytes (history.exportedRecords request) ≤ bound ∧
      bound ≤ maxHistoryExportLogicalBytes := by
  obtain ⟨scope, projection⟩ := request
  obtain ⟨summary, converted⟩ := history.summary_converts projection
  have one := summaryRecords_eq history converted
  have own := length_summary_lt converted
  rw [history.root] at own
  have single : encodedBytes [.summary summary] =
    (HistoryExportRecord.summary summary).json.length + 1 := rfl
  cases scope with
  | summary =>
      unfold historyExportPreflightBytes at measured
      obtain ⟨rfl, within⟩ := eq_of_limited measured
      refine ⟨?_, within⟩
      change 2 + encodedBytes (history.summaryRecords projection) ≤ summaryAllowance projection _
      rw [one]
      omega
  | completeEvidence =>
      unfold historyExportPreflightBytes at measured
      obtain ⟨rfl, within⟩ := eq_of_limited measured
      refine ⟨?_, within⟩
      dsimp only
      have groups := encodedBytes_groupRecords_le history.toHistoryRows
      have members := encodedBytes_memberRecords_le history.toHistoryRows projection
      have issues := encodedBytes_issueRecords_le history.toHistoryRows projection
      change 2 + encodedBytes (history.summaryRecords projection ++ (history.groupRecords ++
        (history.memberRecords projection ++ history.issueRecords projection))) ≤
          summaryAllowance projection history.rootRelativePath +
            (history.verifiedBuilds.map fun _ => 512).sum +
            (history.memberRows.map (memberAllowance projection)).sum +
            (history.runIssues.map (issueAllowance projection)).sum
      rw [one, encodedBytes_append, encodedBytes_append, encodedBytes_append]
      omega

end Opening

/-! ## What is still ahead -/

namespace HistoryExportSnapshot

section Left

variable (history : HistoryRows) (request : SnapshotRequest) (snapshot : HistoryExportSnapshot)

def summaryLeft : List HistoryExportRecord := (snapshot.summary.map .summary).toList

def groupsLeft : List HistoryExportRecord :=
  recordsOf (duplicateGroupRecord history.scanRunId)
    (Keyset.after buildKey history.verifiedBuilds snapshot.groupAfterId)

def membersLeft : List HistoryExportRecord :=
  recordsOf (duplicateMemberRecord request.projection history.scanRunId)
    (Keyset.after memberKey history.memberRows snapshot.memberAfter)

def issuesLeft : List HistoryExportRecord :=
  recordsOf (scanIssueRecord request.projection history.scanRunId)
    (Keyset.after issueKey history.runIssues snapshot.issueAfterId)

/-- The records after the summary. -/
def evidenceLeft : List HistoryExportRecord :=
  match request.scope with
  | .summary => []
  | .completeEvidence =>
      snapshot.groupsLeft history ++
        (snapshot.membersLeft history request ++ snapshot.issuesLeft history request)

/-- The records that the later batches hold. -/
def remaining : List HistoryExportRecord :=
  match snapshot.stage with
  | .summary => snapshot.summaryLeft ++ snapshot.evidenceLeft history request
  | .duplicateGroups =>
      snapshot.groupsLeft history ++
        (snapshot.membersLeft history request ++ snapshot.issuesLeft history request)
  | .duplicateMembers => snapshot.membersLeft history request ++ snapshot.issuesLeft history request
  | .scanIssues => snapshot.issuesLeft history request
  | .done => []

variable {history request snapshot}

theorem remaining_duplicateGroups (stage : snapshot.stage = .duplicateGroups) :
    snapshot.remaining history request = snapshot.groupsLeft history ++
      (snapshot.membersLeft history request ++ snapshot.issuesLeft history request) := by
  rw [remaining, stage]

theorem remaining_duplicateMembers (stage : snapshot.stage = .duplicateMembers) :
    snapshot.remaining history request =
      snapshot.membersLeft history request ++ snapshot.issuesLeft history request := by
  rw [remaining, stage]

theorem remaining_scanIssues (stage : snapshot.stage = .scanIssues) :
    snapshot.remaining history request = snapshot.issuesLeft history request := by
  rw [remaining, stage]

theorem remaining_done (stage : snapshot.stage = .done) :
    snapshot.remaining history request = [] := by
  rw [remaining, stage]

end Left

/-- A round takes the records off what is ahead and leaves the counts to the batch. -/
structure Takes (history : HistoryRows) (request : SnapshotRequest)
    (snapshot : HistoryExportSnapshot) (records : List HistoryExportRecord)
    (after : HistoryExportSnapshot) : Prop where
  parts : snapshot.remaining history request = records ++ after.remaining history request
  later : after.stage ≠ .summary
  ahead : after.stage.ahead ≤ snapshot.stage.ahead
  emitted : after.emittedRecordCount = snapshot.emittedRecordCount
  measured : after.emittedLogicalBytesUpperBound = snapshot.emittedLogicalBytesUpperBound
  expected : after.expectedRecordCount = snapshot.expectedRecordCount
  bound : after.logicalBytesUpperBound = snapshot.logicalBytesUpperBound

section Tables

variable {α Key : Type} [LinearOrder Key] {key : α → Key} {rows : List α}
  {convert : α → SnapshotResult HistoryExportRecord}

/-- A page and what its last key leaves are what was left before it. -/
theorem recordsOf_after (distinct : (rows.map key).Nodup) (cursor : Key) (size : Nat) :
    recordsOf convert (Keyset.after key rows cursor) =
      recordsOf convert (Keyset.page key rows cursor size) ++
        recordsOf convert (Keyset.after key rows
          (Keyset.advance key cursor (Keyset.page key rows cursor size))) := by
  rw [Keyset.after_advance distinct, Keyset.page, ← recordsOf_append, List.take_append_drop]

theorem mem_of_mem_page {cursor : Key} {size : Nat} {row : α}
    (inside : row ∈ Keyset.page key rows cursor size) : row ∈ rows :=
  List.mem_of_mem_filter (Keyset.mem_ordered.mp (List.mem_of_mem_take inside))

theorem length_recordsOf_page_le (cursor : Key) (size : Nat) :
    (recordsOf convert (Keyset.page key rows cursor size)).length ≤ size := by
  have converted := List.length_filterMap_le (fun row => (convert row).toOption)
    (Keyset.page key rows cursor size)
  have page : (Keyset.page key rows cursor size).length ≤ size := List.length_take_le _ _
  exact Nat.le_trans converted page

/-- A page without records is the end of its table. -/
theorem after_of_empty_page (converts : ∀ row ∈ rows, (convert row).isOk) {cursor : Key} {size : Nat}
    (positive : 0 < size) (empty : recordsOf convert (Keyset.page key rows cursor size) = []) :
    recordsOf convert (Keyset.after key rows cursor) = [] := by
  have none_ : Keyset.page key rows cursor size = [] := by
    rw [← List.length_eq_zero_iff, ← length_recordsOf fun row inside =>
      converts row (mem_of_mem_page inside), empty, List.length_nil]
  rw [(Keyset.page_eq_nil_iff positive).mp none_]
  rfl

end Tables

section Rounds

variable (history : StoredHistory) (request : SnapshotRequest) {snapshot : HistoryExportSnapshot}

/-- What a round finds when nothing has gone wrong: the end of a stage, or records. -/
def Advances (snapshot : HistoryExportSnapshot) : Prop :=
  (∃ after, snapshot.round history.toHistoryRows request = .ok (.stageEnded, after) ∧
      Takes history.toHistoryRows request snapshot [] after) ∨
    ∃ records after, snapshot.round history.toHistoryRows request = .ok (.records records, after) ∧
      records ≠ [] ∧ records.length ≤ request.batchSize ∧
      Takes history.toHistoryRows request snapshot records after

theorem summary_advances (stage : snapshot.stage = .summary) (held : snapshot.summary.isSome) :
    Advances history request snapshot := by
  obtain ⟨summary, found⟩ := Option.isSome_iff_exists.mp held
  let next := match request.scope with
    | .summary => HistoryExportStage.done
    | .completeEvidence => .duplicateGroups
  let after := { snapshot with stage := next, summary := none }
  have handed : snapshot.round history.toHistoryRows request =
      .ok (.records [.summary summary], after) := by
    cases snapshot
    cases stage
    cases found
    rfl
  refine .inr ⟨[.summary summary], after, handed, List.cons_ne_nil _ _, request.positive, ?_⟩
  constructor
  case parts =>
    rw [remaining, stage]
    dsimp only
    rw [summaryLeft, found, evidenceLeft]
    unfold remaining
    dsimp only [after, next]
    cases request.scope <;> rfl
  case later =>
    dsimp only [after, next]
    cases request.scope <;> exact HistoryExportStage.noConfusion
  case ahead =>
    rw [stage]
    dsimp only [after, next]
    cases request.scope <;> decide
  all_goals rfl

/-- The round of a table, whose read hands on a page or leaves the table behind. -/
theorem table_advances {next : HistoryExportStage} {records : List HistoryExportRecord}
    {read : HistoryExportSnapshot}
    (found : snapshot.round history.toHistoryRows request = .ok (orNextStage next (records, read)))
    (small : records.length ≤ request.batchSize)
    (taken : Takes history.toHistoryRows request snapshot records read) (later : next ≠ .summary)
    (ended : records = [] → read.remaining history.toHistoryRows request =
      { read with stage := next }.remaining history.toHistoryRows request) :
    Advances history request snapshot := by
  by_cases empty : records = []
  · have left : snapshot.round history.toHistoryRows request =
        .ok (.stageEnded, { read with stage := next }) := by
      rw [found, orNextStage, if_pos empty]
    refine .inl ⟨{ read with stage := next }, left, ?_, later, (ahead_of_stageEnded left).le,
      taken.emitted, taken.measured, taken.expected, taken.bound⟩
    rw [taken.parts, empty, List.nil_append, List.nil_append, ended empty]
  · refine .inr ⟨records, read, ?_, empty, small, taken⟩
    rw [found, orNextStage, if_neg empty]

theorem duplicateGroups_advances (stage : snapshot.stage = .duplicateGroups) :
    Advances history request snapshot := by
  let rows := snapshot.groupPage history.toHistoryRows request
  let records := recordsOf (duplicateGroupRecord history.scanRunId) rows
  let read := { snapshot with groupAfterId := Keyset.advance buildKey snapshot.groupAfterId rows }
  have stays : read.stage = .duplicateGroups := stage
  have parts : snapshot.groupsLeft history.toHistoryRows =
      records ++ read.groupsLeft history.toHistoryRows :=
    recordsOf_after history.buildKeys_nodup _ _
  have converted : rows.mapM (duplicateGroupRecord history.scanRunId) = .ok records :=
    mapM_recordsOf fun build inside => history.group_converts build (mem_of_mem_page inside)
  have found : snapshot.round history.toHistoryRows request =
      .ok (orNextStage .duplicateMembers (records, read)) := by
    rw [round, stage]
    dsimp only
    rw [readDuplicateGroupsBatch, converted]
    rfl
  refine table_advances history request found (length_recordsOf_page_le _ _) ?_
    HistoryExportStage.noConfusion fun empty => ?_
  · refine ⟨?_, ?_, Nat.le_refl _, rfl, rfl, rfl, rfl⟩
    · rw [remaining_duplicateGroups stage, remaining_duplicateGroups stays, parts,
        List.append_assoc]
      rfl
    · rw [stays]
      exact HistoryExportStage.noConfusion
  · have left := after_of_empty_page history.group_converts request.positive empty
    rw [← groupsLeft, parts, empty, List.nil_append] at left
    rw [remaining_duplicateGroups stays, left, remaining_duplicateMembers rfl]
    rfl

theorem duplicateMembers_advances (stage : snapshot.stage = .duplicateMembers) :
    Advances history request snapshot := by
  let rows := snapshot.memberPage history.toHistoryRows request
  let records := recordsOf (duplicateMemberRecord request.projection history.scanRunId) rows
  let read := { snapshot with memberAfter := Keyset.advance memberKey snapshot.memberAfter rows }
  have stays : read.stage = .duplicateMembers := stage
  have parts : snapshot.membersLeft history.toHistoryRows request =
      records ++ read.membersLeft history.toHistoryRows request :=
    recordsOf_after history.memberKeys_nodup _ _
  have converted :
      rows.mapM (duplicateMemberRecord request.projection history.scanRunId) = .ok records :=
    mapM_recordsOf fun row inside => history.member_converts _ row (mem_of_mem_page inside)
  have found : snapshot.round history.toHistoryRows request =
      .ok (orNextStage .scanIssues (records, read)) := by
    rw [round, stage]
    dsimp only
    rw [readDuplicateMembersBatch, converted]
    rfl
  refine table_advances history request found (length_recordsOf_page_le _ _) ?_
    HistoryExportStage.noConfusion fun empty => ?_
  · refine ⟨?_, ?_, Nat.le_refl _, rfl, rfl, rfl, rfl⟩
    · rw [remaining_duplicateMembers stage, remaining_duplicateMembers stays, parts,
        List.append_assoc]
      rfl
    · rw [stays]
      exact HistoryExportStage.noConfusion
  · have left := after_of_empty_page (history.member_converts _) request.positive empty
    rw [← membersLeft, parts, empty, List.nil_append] at left
    rw [remaining_duplicateMembers stays, left, remaining_scanIssues rfl]
    rfl

theorem scanIssues_advances (stage : snapshot.stage = .scanIssues) :
    Advances history request snapshot := by
  let rows := snapshot.issuePage history.toHistoryRows request
  let records := recordsOf (scanIssueRecord request.projection history.scanRunId) rows
  let read := { snapshot with issueAfterId := Keyset.advance issueKey snapshot.issueAfterId rows }
  have stays : read.stage = .scanIssues := stage
  have parts : snapshot.issuesLeft history.toHistoryRows request =
      records ++ read.issuesLeft history.toHistoryRows request :=
    recordsOf_after history.issueKeys_nodup _ _
  have converted :
      rows.mapM (scanIssueRecord request.projection history.scanRunId) = .ok records :=
    mapM_recordsOf fun issue inside => history.issue_converts _ issue (mem_of_mem_page inside)
  have found : snapshot.round history.toHistoryRows request =
      .ok (orNextStage .done (records, read)) := by
    rw [round, stage]
    dsimp only
    rw [readScanIssuesBatch, converted]
    rfl
  refine table_advances history request found (length_recordsOf_page_le _ _) ?_
    HistoryExportStage.noConfusion fun empty => ?_
  · refine ⟨?_, ?_, Nat.le_refl _, rfl, rfl, rfl, rfl⟩
    · rw [remaining_scanIssues stage, remaining_scanIssues stays, parts]
    · rw [stays]
      exact HistoryExportStage.noConfusion
  · have left := after_of_empty_page (history.issue_converts _) request.positive empty
    rw [← issuesLeft, parts, empty, List.nil_append] at left
    rw [remaining_scanIssues stays, left, remaining_done rfl]

/-- A round finds the end of the export, or it advances. -/
theorem round_cases (held : snapshot.stage = .summary → snapshot.summary.isSome) :
    snapshot.stage = .done ∨ Advances history request snapshot := by
  cases stage : snapshot.stage with
  | summary => exact .inr (summary_advances history request stage (held stage))
  | duplicateGroups => exact .inr (duplicateGroups_advances history request stage)
  | duplicateMembers => exact .inr (duplicateMembers_advances history request stage)
  | scanIssues => exact .inr (scanIssues_advances history request stage)
  | done => exact .inl rfl

end Rounds

end HistoryExportSnapshot

end Guiying.Export
