import Guiying.Export.HistoryBatches

/-!
# What a redacted export depends on

Under the redacted projection no text of the history is read: two histories that
differ only in the root, the display paths and the texts of the issues are
exported alike, failures included.
-/

namespace Guiying.Export

open Guiying.Foundation Guiying.Store

/-! ## Rows without their texts -/

def MediaObservationSnapshotRow.erased (row : MediaObservationSnapshotRow) :
    MediaObservationSnapshotRow :=
  { row with displayPath := [] }

def ScanIssueRow.erased (row : ScanIssueRow) : ScanIssueRow :=
  { row with stage := [], code := [], message := [] }

def MemberRow.erased (row : MemberRow) : MemberRow := (row.1, row.2.erased)

/-- The history with every text that the redacted projection hides taken out. -/
def HistoryRows.erased (history : HistoryRows) : HistoryRows :=
  { history with
    rootRelativePath := []
    summary := { history.summary with rootDisplayPath := [] }
    observations := history.observations.map MediaObservationSnapshotRow.erased
    issues := history.issues.map ScanIssueRow.erased }

namespace HistoryRows

variable (history : HistoryRows)

theorem observationsOf_erased (member : ExactGroupBuildMemberRow) :
    history.erased.observationsOf member =
      (history.observationsOf member).map MediaObservationSnapshotRow.erased :=
  List.filter_map

theorem memberRows_erased : history.erased.memberRows = history.memberRows.map MemberRow.erased := by
  have joined : history.erased.joinedMembers = history.joinedMembers := rfl
  rw [memberRows, memberRows, joined, List.map_flatMap]
  refine List.flatMap_congr fun member _ => ?_
  rw [observationsOf_erased, List.map_map, List.map_map]
  rfl

theorem runIssues_erased : history.erased.runIssues = history.runIssues.map ScanIssueRow.erased :=
  List.filter_map

end HistoryRows

/-! ## Opening -/

section Redacted

variable {history : HistoryRows} {request : SnapshotRequest}

theorem historyExportPreflightBytes_erased (hides : request.projection = .redacted) :
    historyExportPreflightBytes history.erased request.toHistoryExportRequest =
      historyExportPreflightBytes history request.toHistoryExportRequest := by
  have members : history.erased.memberRows.map (memberAllowance .redacted) =
      history.memberRows.map (memberAllowance .redacted) := by
    rw [history.memberRows_erased, List.map_map]
    rfl
  have issues : history.erased.runIssues.map (issueAllowance .redacted) =
      history.runIssues.map (issueAllowance .redacted) := by
    rw [history.runIssues_erased, List.map_map]
    rfl
  unfold historyExportPreflightBytes
  dsimp only
  rw [hides, members, issues]
  rfl

theorem historyExportRecordCount_erased (scope : HistoryExportScope) :
    historyExportRecordCount history.erased scope = historyExportRecordCount history scope := by
  have issues : history.erased.runIssues.length = history.runIssues.length := by
    rw [history.runIssues_erased, List.length_map]
  unfold historyExportRecordCount
  rw [issues]
  rfl

theorem openSnapshot_erased (hides : request.projection = .redacted) :
    openSnapshot history.erased request = openSnapshot history request := by
  unfold openSnapshot
  rw [historyExportRecordCount_erased, historyExportPreflightBytes_erased hides, hides]
  rfl

/-! ## Reading -/

namespace HistoryExportSnapshot

variable (snapshot : HistoryExportSnapshot)

theorem page_map {α β Key : Type} [LinearOrder Key] {key : α → Key} {otherKey : β → Key}
    (change : α → β) (keeps : ∀ row, otherKey (change row) = key row) (rows : List α) (cursor : Key)
    (size : Nat) :
    Keyset.page otherKey (rows.map change) cursor size =
      (Keyset.page key rows cursor size).map change := by
  rw [Keyset.page, Keyset.page, ← Keyset.map_after change keeps, List.map_take]

theorem readDuplicateMembersBatch_erased (hides : request.projection = .redacted) :
    snapshot.readDuplicateMembersBatch history.erased request =
      snapshot.readDuplicateMembersBatch history request := by
  have keeps : ∀ row : MemberRow, memberKey row.erased = memberKey row := fun _ => rfl
  have page : snapshot.memberPage history.erased request =
      (snapshot.memberPage history request).map MemberRow.erased := by
    rw [memberPage, history.memberRows_erased, page_map MemberRow.erased keeps]
    rfl
  unfold readDuplicateMembersBatch
  dsimp only
  rw [page, Keyset.advance_map MemberRow.erased keeps, List.mapM_map, hides]
  rfl

theorem readScanIssuesBatch_erased (hides : request.projection = .redacted) :
    snapshot.readScanIssuesBatch history.erased request =
      snapshot.readScanIssuesBatch history request := by
  have keeps : ∀ row : ScanIssueRow, issueKey row.erased = issueKey row := fun _ => rfl
  have page : snapshot.issuePage history.erased request =
      (snapshot.issuePage history request).map ScanIssueRow.erased := by
    rw [issuePage, history.runIssues_erased, page_map ScanIssueRow.erased keeps]
    rfl
  unfold readScanIssuesBatch
  dsimp only
  rw [page, Keyset.advance_map ScanIssueRow.erased keeps, List.mapM_map, hides]
  rfl

theorem round_erased (hides : request.projection = .redacted) :
    snapshot.round history.erased request = snapshot.round history request := by
  unfold round
  rw [readDuplicateMembersBatch_erased snapshot hides, readScanIssuesBatch_erased snapshot hides]
  rfl

end HistoryExportSnapshot

end Redacted

/-! ## Whole reads -/

namespace HistoryExportSnapshot

section Alike

variable {first second : HistoryRows} {request : SnapshotRequest}

theorem nextBatch_of_error {snapshot : HistoryExportSnapshot} {error : SnapshotError}
    (found : snapshot.round first request = .error error) :
    snapshot.nextBatch first request = .error error := by
  rw [nextBatch]
  split
  case h_1 other =>
    cases found.symm.trans other
    rfl
  case h_2 other => cases found.symm.trans other
  case h_3 other => cases found.symm.trans other
  case h_4 other => cases found.symm.trans other

/-- Histories whose rounds are alike hand out the same batches. -/
theorem nextBatch_congr
    (alike : ∀ snapshot : HistoryExportSnapshot,
      snapshot.round first request = snapshot.round second request)
    (snapshot : HistoryExportSnapshot) :
    snapshot.nextBatch first request = snapshot.nextBatch second request := by
  induction ahead : snapshot.stage.ahead using Nat.strong_induction_on generalizing snapshot with
  | _ number ih =>
      subst ahead
      have same := alike snapshot
      cases found : snapshot.round first request with
      | error error =>
          rw [found] at same
          rw [nextBatch_of_error found, nextBatch_of_error same.symm]
      | ok answer =>
          rw [found] at same
          obtain ⟨round, after⟩ := answer
          cases round with
          | records records => rw [nextBatch_of_records found, nextBatch_of_records same.symm]
          | stageEnded =>
              rw [nextBatch_of_stageEnded found, nextBatch_of_stageEnded same.symm]
              exact ih _ (ahead_of_stageEnded found) after rfl
          | exportEnded =>
              rw [nextBatch_of_exportEnded found, nextBatch_of_exportEnded same.symm]

theorem drain_congr
    (alike : ∀ snapshot : HistoryExportSnapshot,
      snapshot.round first request = snapshot.round second request)
    (calls : Nat) (snapshot : HistoryExportSnapshot) :
    snapshot.drain first request calls = snapshot.drain second request calls := by
  induction calls generalizing snapshot with
  | zero => rfl
  | succ calls ih =>
      rw [drain, drain, nextBatch_congr alike]
      simp only [ih]

theorem pages_congr
    (alike : ∀ snapshot : HistoryExportSnapshot,
      snapshot.round first request = snapshot.round second request)
    (rounds : Nat) (snapshot : HistoryExportSnapshot) :
    snapshot.pages first request rounds = snapshot.pages second request rounds := by
  induction rounds generalizing snapshot with
  | zero => rfl
  | succ rounds ih =>
      rw [pages, pages, alike]
      simp only [ih]

end Alike

end HistoryExportSnapshot

section Blind

variable {first second : HistoryRows} {request : SnapshotRequest}

/-- The rounds of a redacted export see two histories with the same rows but for their texts as
one. -/
theorem round_redacted (hides : request.projection = .redacted)
    (same : first.erased = second.erased) (snapshot : HistoryExportSnapshot) :
    snapshot.round first request = snapshot.round second request := by
  rw [← HistoryExportSnapshot.round_erased snapshot hides, same,
    HistoryExportSnapshot.round_erased snapshot hides]

theorem openSnapshot_redacted (hides : request.projection = .redacted)
    (same : first.erased = second.erased) :
    openSnapshot first request = openSnapshot second request := by
  rw [← openSnapshot_erased hides, same, openSnapshot_erased hides]

theorem snapshotRun_redacted (hides : request.projection = .redacted)
    (same : first.erased = second.erased) :
    snapshotRun first request = snapshotRun second request := by
  unfold snapshotRun
  rw [openSnapshot_redacted hides same]
  simp only [HistoryExportSnapshot.pages_congr (round_redacted hides same)]

/-- A redacted export is blind to texts: histories that differ in nothing else are opened and read
alike, whatever the texts are, and whole exports of them end alike. -/
theorem redacted_blind (blake3 : List UInt8 → List UInt8) (hides : request.projection = .redacted)
    (same : first.erased = second.erased) (calls : Calls) (format : ExportFormat)
    (target : BoundExportTarget) (directory : Directory) (writes : List WriteAnswer) :
    (∀ number, (do (← openSnapshot first request).drain first request number) =
        (do (← openSnapshot second request).drain second request number)) ∧
      exportRecords blake3 calls (snapshotRun first request) format request.toHistoryExportRequest
          target directory writes =
        exportRecords blake3 calls (snapshotRun second request) format
          request.toHistoryExportRequest target directory writes := by
  constructor
  · intro number
    have drained := HistoryExportSnapshot.drain_congr (round_redacted hides same) number
    rw [openSnapshot_redacted hides same]
    simp only [drained]
  · rw [snapshotRun_redacted hides same]

end Blind

/-- The sample run under another root, with other file names and another message, one of them no
text at all. -/
def renamedRows : HistoryRows :=
  { sampleHistory.toHistoryRows with
    rootRelativePath := ByteString.asciiBytes "Private"
    summary := { sampleSummary with rootDisplayPath := ByteString.asciiBytes "Private" }
    observations := [{ sampleObservation 8 "a.jpg" with displayPath := [255] },
      sampleObservation 9 "secret.jpg"]
    issues := [⟨5, 1, 7, "warning", [], [], ByteString.asciiBytes "gone", 130, none⟩] }

/-- Pairs of records of the whole evidence, without its texts. -/
def redactedPairs : SnapshotRequest :=
  ⟨⟨.completeEvidence, .redacted⟩, samplePairs.batchSize, samplePairs.positive, samplePairs.bounded⟩

theorem redacted_blind_renamedRows :
    exportRecords id keptCalls (snapshotRun sampleHistory.toHistoryRows redactedPairs) .json
        redactedPairs.toHistoryExportRequest sampleTarget emptyDirectory [] =
      exportRecords id keptCalls (snapshotRun renamedRows redactedPairs) .json
        redactedPairs.toHistoryExportRequest sampleTarget emptyDirectory [] := by
  have hides : redactedPairs.projection = .redacted := rfl
  have same : sampleHistory.toHistoryRows.erased = renamedRows.erased := rfl
  exact (redacted_blind id hides same keptCalls .json sampleTarget emptyDirectory []).2

end Guiying.Export
