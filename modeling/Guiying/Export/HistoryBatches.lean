import Guiying.Export.HistoryStream

/-!
# The batches of a history export

A snapshot that has been opened is read to its end: repeated calls hand out the
records of the export, each once and in order, in batches of the requested size,
and the counts agree with the preflight.
-/

namespace Guiying.Export

open Guiying.Foundation Guiying.Store

namespace HistoryExportSnapshot

/-- A snapshot that has emitted the first records of its export. -/
structure Standing (history : StoredHistory) (request : SnapshotRequest)
    (emitted : List HistoryExportRecord) (snapshot : HistoryExportSnapshot) : Prop where
  whole : emitted ++ snapshot.remaining history.toHistoryRows request =
    history.exportedRecords request.toHistoryExportRequest
  held : snapshot.stage = .summary → snapshot.summary.isSome
  count : snapshot.emittedRecordCount = emitted.length
  bytes : snapshot.emittedLogicalBytesUpperBound = 2 + encodedBytes emitted
  expected : snapshot.expectedRecordCount =
    (history.exportedRecords request.toHistoryExportRequest).length
  few : snapshot.expectedRecordCount ≤ maxHistoryExportRecords
  room : 2 + encodedBytes (history.exportedRecords request.toHistoryExportRequest) ≤
    snapshot.logicalBytesUpperBound
  limit : snapshot.logicalBytesUpperBound ≤ maxHistoryExportLogicalBytes

/-- A batch that follows the records emitted before it. -/
structure Follows (request : SnapshotRequest) (emitted : List HistoryExportRecord)
    (batch : HistoryExportBatch) : Prop where
  some_ : batch.records ≠ []
  small : batch.records.length ≤ request.batchSize
  counted : batch.cumulativeRecordCount = (emitted ++ batch.records).length
  measured : batch.cumulativeLogicalBytesUpperBound = 2 + encodedBytes (emitted ++ batch.records)

/-- Batches, each after the records of the ones before it. -/
inductive Handed (request : SnapshotRequest) :
    List HistoryExportRecord → List HistoryExportBatch → Prop where
  | ended (emitted : List HistoryExportRecord) : Handed request emitted []
  | next {emitted : List HistoryExportRecord} {batch : HistoryExportBatch}
      {later : List HistoryExportBatch} (follows : Follows request emitted batch)
      (handed : Handed request (emitted ++ batch.records) later) :
      Handed request emitted (batch :: later)

section Steps

variable {history : StoredHistory} {request : SnapshotRequest} {emitted : List HistoryExportRecord}
  {snapshot after : HistoryExportSnapshot}

theorem openSnapshot_standing (opened : openSnapshot history.toHistoryRows request = .ok snapshot) :
    Standing history request [] snapshot := by
  obtain ⟨count, counted, opened⟩ := Outcome.bind_eq_ok.mp opened
  obtain ⟨bound, measured, opened⟩ := Outcome.bind_eq_ok.mp opened
  obtain ⟨summary, converted, opened⟩ := Outcome.bind_eq_ok.mp opened
  cases opened
  obtain ⟨expected, few⟩ := expectedRecordCount_eq history request.toHistoryExportRequest counted
  obtain ⟨room, limit⟩ := logicalBytesUpperBound_le history request.toHistoryExportRequest measured
  refine ⟨?_, fun _ => rfl, rfl, rfl, expected, few, room, limit⟩
  have groups : (new summary count bound).groupsLeft history.toHistoryRows =
      history.groupRecords := by
    rw [groupsLeft, HistoryRows.groupRecords, ← Keyset.after_of_below history.buildKeys_above]
    rfl
  have members : (new summary count bound).membersLeft history.toHistoryRows request =
      history.memberRecords request.projection := by
    rw [membersLeft, HistoryRows.memberRecords, ← Keyset.after_of_below history.memberKeys_above]
    rfl
  have issues : (new summary count bound).issuesLeft history.toHistoryRows request =
      history.issueRecords request.projection := by
    rw [issuesLeft, HistoryRows.issueRecords, ← Keyset.after_of_below history.issueKeys_above]
    rfl
  change [.summary summary] ++ (new summary count bound).evidenceLeft history.toHistoryRows request =
    history.exportedRecords request.toHistoryExportRequest
  rw [evidenceLeft, HistoryRows.exportedRecords, groups, members, issues,
    summaryRecords_eq history converted]
  cases request.scope with
  | summary => rfl
  | completeEvidence => rfl

/-- The end of a stage emits nothing. -/
theorem Standing.stageEnded (standing : Standing history request emitted snapshot)
    (takes : Takes history.toHistoryRows request snapshot [] after) :
    Standing history request emitted after where
  whole := by
    rw [← standing.whole, takes.parts, List.nil_append]
  held stage := absurd stage takes.later
  count := takes.emitted.trans standing.count
  bytes := takes.measured.trans standing.bytes
  expected := takes.expected.trans standing.expected
  few := takes.expected ▸ standing.few
  room := takes.bound ▸ standing.room
  limit := takes.bound ▸ standing.limit

/-- Records that a round takes make a batch within the counts of the preflight. -/
theorem Standing.finishBatch {records : List HistoryExportRecord}
    (standing : Standing history request emitted snapshot) (some_ : records ≠ [])
    (small : records.length ≤ request.batchSize)
    (takes : Takes history.toHistoryRows request snapshot records after) :
    ∃ batch next, after.finishBatch request records = .ok (batch, next) ∧
      batch.records = records ∧ Follows request emitted batch ∧ next.stage = after.stage ∧
      Standing history request (emitted ++ records) next := by
  have whole : emitted ++ records ++ after.remaining history.toHistoryRows request =
      history.exportedRecords request.toHistoryExportRequest := by
    rw [← standing.whole, takes.parts, List.append_assoc]
  have counts := congrArg List.length whole
  have sizes := congrArg encodedBytes whole
  rw [List.length_append, List.length_append] at counts
  rw [encodedBytes_append, encodedBytes_append] at sizes
  have count := takes.emitted.trans standing.count
  have bytes := takes.measured.trans standing.bytes
  have expected := takes.expected.trans standing.expected
  have few := takes.expected ▸ standing.few
  have room := takes.bound ▸ standing.room
  have limit := takes.bound ▸ standing.limit
  have positive := List.length_pos_iff.mpr some_
  let batch : HistoryExportBatch :=
    ⟨records, after.emittedRecordCount + records.length,
      after.emittedLogicalBytesUpperBound + encodedBytes records⟩
  let next := { after with
    emittedRecordCount := after.emittedRecordCount + records.length
    emittedLogicalBytesUpperBound := after.emittedLogicalBytesUpperBound + encodedBytes records }
  have finished : after.finishBatch request records = .ok (batch, next) := by
    rw [HistoryExportSnapshot.finishBatch, if_neg (by omega), if_neg (by omega),
      if_neg (by omega)]
  refine ⟨batch, next, finished, rfl, ?_, rfl, ?_⟩
  · refine ⟨some_, small, ?_, ?_⟩
    · rw [List.length_append, ← count]
    · rw [encodedBytes_append, ← Nat.add_assoc, ← bytes]
  · refine ⟨whole, fun stage => absurd stage takes.later, ?_, ?_, expected, few, room, limit⟩
    · rw [List.length_append, ← count]
    · rw [encodedBytes_append, ← Nat.add_assoc, ← bytes]

/-- The last stage has handed out what was counted. -/
theorem Standing.done (standing : Standing history request emitted snapshot)
    (stage : snapshot.stage = .done) :
    emitted = history.exportedRecords request.toHistoryExportRequest ∧
      snapshot.isComplete ∧
      snapshot.round history.toHistoryRows request = .ok (.exportEnded, snapshot) := by
  have whole := standing.whole
  rw [remaining_done stage, List.append_nil] at whole
  have counts : snapshot.emittedRecordCount = snapshot.expectedRecordCount := by
    rw [standing.count, standing.expected, whole]
  refine ⟨whole, ?_, ?_⟩
  · rw [isComplete, stage, counts, decide_eq_true rfl, decide_eq_true rfl]
    rfl
  · rw [round, stage]
    exact if_neg (not_not.mpr counts)

/-- A stage that ends is left within the same call. -/
theorem nextBatch_of_stageEnded {history : HistoryRows}
    (found : snapshot.round history request = .ok (.stageEnded, after)) :
    snapshot.nextBatch history request = after.nextBatch history request := by
  rw [nextBatch]
  split
  case h_1 other => cases found.symm.trans other
  case h_2 other => cases found.symm.trans other
  case h_3 other =>
    cases found.symm.trans other
    rfl
  case h_4 other => cases found.symm.trans other

theorem nextBatch_of_records {history : HistoryRows} {records : List HistoryExportRecord}
    (found : snapshot.round history request = .ok (.records records, after)) :
    snapshot.nextBatch history request =
      (after.finishBatch request records).map fun (batch, after) => (some batch, after) := by
  rw [nextBatch]
  split
  case h_1 other => cases found.symm.trans other
  case h_2 other => cases found.symm.trans other
  case h_3 other => cases found.symm.trans other
  case h_4 other =>
    cases found.symm.trans other
    rfl

theorem nextBatch_of_exportEnded {history : HistoryRows}
    (found : snapshot.round history request = .ok (.exportEnded, after)) :
    snapshot.nextBatch history request = .ok (none, after) := by
  rw [nextBatch]
  split
  case h_1 other => cases found.symm.trans other
  case h_2 other =>
    cases found.symm.trans other
    rfl
  case h_3 other => cases found.symm.trans other
  case h_4 other => cases found.symm.trans other

/-- A call hands out the next batch, or it finds the export complete. -/
theorem nextBatch_standing (standing : Standing history request emitted snapshot) :
    (∃ after, snapshot.nextBatch history.toHistoryRows request = .ok (none, after) ∧
        after.isComplete ∧ emitted = history.exportedRecords request.toHistoryExportRequest) ∨
      ∃ batch after,
        snapshot.nextBatch history.toHistoryRows request = .ok (some batch, after) ∧
          Follows request emitted batch ∧
          Standing history request (emitted ++ batch.records) after := by
  -- the stages ahead become fewer until one of them has records
  induction ahead : snapshot.stage.ahead using Nat.strong_induction_on generalizing snapshot with
  | _ number ih =>
      subst ahead
      rcases round_cases history request standing.held with stage | ended | taken
      · obtain ⟨all, complete, found⟩ := standing.done stage
        exact .inl ⟨snapshot, nextBatch_of_exportEnded found, complete, all⟩
      · obtain ⟨after, found, takes⟩ := ended
        rw [nextBatch_of_stageEnded found]
        exact ih _ (ahead_of_stageEnded found) (standing.stageEnded takes) rfl
      · obtain ⟨records, after, found, some_, small, takes⟩ := taken
        obtain ⟨batch, next, finished, rfl, follows, _, stands⟩ :=
          standing.finishBatch some_ small takes
        refine .inr ⟨batch, next, ?_, follows, stands⟩
        rw [nextBatch_of_records found, finished]
        rfl

theorem Standing.length_le (standing : Standing history request emitted snapshot) :
    emitted.length ≤ (history.exportedRecords request.toHistoryExportRequest).length := by
  rw [← standing.whole, List.length_append]
  exact Nat.le_add_right _ _

/-- More calls than there are records left read the snapshot to its end. -/
theorem drain_standing {calls : Nat} (standing : Standing history request emitted snapshot)
    (enough : (history.exportedRecords request.toHistoryExportRequest).length <
      emitted.length + calls) :
    ∃ batches after, snapshot.drain history.toHistoryRows request calls = .ok (some batches, after) ∧
      emitted ++ batches.flatMap HistoryExportBatch.records =
        history.exportedRecords request.toHistoryExportRequest ∧
      Handed request emitted batches ∧ after.isComplete := by
  induction calls generalizing emitted snapshot with
  | zero => exact absurd enough (Nat.not_lt.mpr standing.length_le)
  | succ calls ih =>
      rcases nextBatch_standing standing with ⟨after, called, complete, all⟩ |
        ⟨batch, after, called, follows, stands⟩
      · refine ⟨[], after, ?_, ?_, .ended emitted, complete⟩
        · rw [drain, called]
          rfl
        · rw [List.flatMap_nil, List.append_nil, all]
      · have positive := List.length_pos_iff.mpr follows.some_
        have fewer : (history.exportedRecords request.toHistoryExportRequest).length <
            (emitted ++ batch.records).length + calls := by
          rw [List.length_append]
          omega
        obtain ⟨batches, ended, drained, parts, handed, complete⟩ := ih stands fewer
        refine ⟨batch :: batches, ended, ?_, ?_, .next follows handed, complete⟩
        · rw [drain, called]
          dsimp only [bind, Except.bind]
          rw [drained]
          rfl
        · rw [List.flatMap_cons, ← List.append_assoc, parts]

/-- The rounds that the worker of an export meets hold the same records. -/
theorem pages_standing {rounds : Nat} (standing : Standing history request emitted snapshot)
    (enough : (history.exportedRecords request.toHistoryExportRequest).length +
      snapshot.stage.ahead < emitted.length + rounds) :
    emitted ++ (snapshot.pages history.toHistoryRows request rounds).1.flatMap StorePage.records =
        history.exportedRecords request.toHistoryExportRequest ∧
      (snapshot.pages history.toHistoryRows request rounds).2.isComplete := by
  induction rounds generalizing emitted snapshot with
  | zero =>
      have short := standing.length_le
      omega
  | succ rounds ih =>
      rcases round_cases history request standing.held with stage | ended | taken
      · obtain ⟨all, complete, found⟩ := standing.done stage
        have read : snapshot.pages history.toHistoryRows request (rounds + 1) = ([], snapshot) := by
          rw [pages, found]
        rw [read]
        exact ⟨by rw [List.flatMap_nil, List.append_nil, all], complete⟩
      · obtain ⟨after, found, takes⟩ := ended
        have fewer := ahead_of_stageEnded found
        obtain ⟨parts, complete⟩ := ih (standing.stageEnded takes) (by omega)
        have read : snapshot.pages history.toHistoryRows request (rounds + 1) =
            (.empty :: (after.pages history.toHistoryRows request rounds).1,
              (after.pages history.toHistoryRows request rounds).2) := by
          rw [pages, found]
        rw [read]
        exact ⟨parts, complete⟩
      · obtain ⟨records, after, found, some_, small, takes⟩ := taken
        obtain ⟨batch, next, finished, rfl, _, stage, stands⟩ :=
          standing.finishBatch some_ small takes
        have positive := List.length_pos_iff.mpr some_
        have later := takes.ahead
        obtain ⟨parts, complete⟩ := ih stands (by
          rw [List.length_append, stage]
          omega)
        have read : snapshot.pages history.toHistoryRows request (rounds + 1) =
            (.batch batch.records :: (next.pages history.toHistoryRows request rounds).1,
              (next.pages history.toHistoryRows request rounds).2) := by
          rw [pages, found]
          dsimp only
          rw [finished]
        rw [read]
        refine ⟨?_, complete⟩
        rw [List.flatMap_cons, ← List.append_assoc]
        exact parts

end Steps

/-- What a snapshot that is read to its end has handed out. -/
structure Streamed (history : StoredHistory) (request : SnapshotRequest)
    (snapshot : HistoryExportSnapshot) (batches : List HistoryExportBatch)
    (after : HistoryExportSnapshot) : Prop where
  records : batches.flatMap HistoryExportBatch.records =
    history.exportedRecords request.toHistoryExportRequest
  handed : Handed request [] batches
  counted : (batches.flatMap HistoryExportBatch.records).length = snapshot.expectedRecordCount
  measured : 2 + encodedBytes (batches.flatMap HistoryExportBatch.records) ≤
    snapshot.logicalBytesUpperBound
  complete : after.isComplete

end HistoryExportSnapshot

open HistoryExportSnapshot

/-- Once a history is opened for an export, repeated calls hand out all its records, whatever the
batch size is. -/
theorem drain_openSnapshot {history : StoredHistory} {request : SnapshotRequest}
    {snapshot : HistoryExportSnapshot} {calls : Nat}
    (opened : openSnapshot history.toHistoryRows request = .ok snapshot)
    (enough : snapshot.expectedRecordCount < calls) :
    ∃ batches after, snapshot.drain history.toHistoryRows request calls = .ok (some batches, after) ∧
      Streamed history request snapshot batches after := by
  have standing := openSnapshot_standing opened
  have more : (history.exportedRecords request.toHistoryExportRequest).length <
      ([] : List HistoryExportRecord).length + calls := by
    rw [← standing.expected, List.length_nil, Nat.zero_add]
    exact enough
  obtain ⟨batches, after, drained, parts, handed, complete⟩ := drain_standing standing more
  rw [List.nil_append] at parts
  refine ⟨batches, after, drained, parts, handed, ?_, ?_, complete⟩
  · rw [parts, standing.expected]
  · rw [parts]
    exact standing.room

/-! One run with a verified group of two copies, an unfinished group and an issue. -/

def sampleSummary : ScanHistoryRecord where
  scanRunId := 7
  rootDisplayPath := ByteString.asciiBytes "Pictures"
  scanMode := "full"
  startedAtMs := 100
  finishedAtMs := 250
  durationMs := 150
  coverageStatus := "complete"
  discoveredCount := 3
  fingerprintedCount := 3
  errorCount := 0
  logicalBytesSeen := 30
  observedFileCount := 3
  verifiedGroupCount := 1
  verifiedMemberCount := 2
  redundantCopyCount := 1
  logicalReclaimableBytes := 10
  issueCount := 1
  unresolvedIssueCount := 1
  timeOutcome := ⟨"not_run", none, none, none, none, none, none, none, none, none, none, none, none,
    none, none⟩

def sampleObservation (id : Int64) (displayPath : String) : MediaObservationSnapshotRow where
  id := id
  volumeId := 1
  scanRunId := 7
  displayPath := ByteString.asciiBytes displayPath
  sizeBytes := 10
  birthTimeSeconds := none
  birthTimeNanoseconds := none
  modifiedTimeSeconds := 20
  modifiedTimeNanoseconds := 5
  timestampGranularityNs := 1

theorem sampleObservation_timed (id : Int64) (displayPath : String) :
    (sampleObservation id displayPath).Timed where
  birth := rfl
  birthFraction _ absent := absurd absent (Option.not_mem_none _)
  modifiedFraction := by
    change 0 ≤ (5 : Int64).toInt ∧ (5 : Int64).toInt < 1000000000
    decide

def sampleHistory : StoredHistory where
  scanRunId := 7
  volumeId := 1
  rootRelativePath := ByteString.asciiBytes "Pictures"
  summary := sampleSummary
  builds := [⟨4, 1, 7, .draft, 2, 1, none, none, none⟩,
    ⟨3, 1, 7, .verified, 2, 1, some 2, some 10, some 240⟩]
  members := [⟨4, 1, 7, 0, 8, 0⟩, ⟨3, 1, 7, 1, 9, 0⟩, ⟨3, 1, 7, 0, 8, 1⟩]
  observations := [sampleObservation 8 "a.jpg", sampleObservation 9 "b.jpg"]
  issues := [⟨5, 1, 7, "warning", ByteString.asciiBytes "hash", ByteString.asciiBytes "io",
    ByteString.asciiBytes "short read", 130, none⟩]
  root := rfl
  scanMode := by decide
  coverageStatus := by decide
  timeState := by decide
  buildIds := by decide
  buildIds_positive := by decide
  verified := by decide
  memberIds := by decide
  memberRanks := by decide
  observationIds := by decide
  observed := by decide
  times := by
    simp only [List.forall_mem_cons, List.not_mem_nil, false_implies, implies_true, and_true]
    exact ⟨sampleObservation_timed _ _, sampleObservation_timed _ _⟩
  paths := by
    simp only [List.forall_mem_cons, List.not_mem_nil, false_implies, implies_true, and_true]
    decide
  issueIds := by decide
  issueIds_positive := by decide
  severities := by decide
  issueTexts := by
    simp only [List.forall_mem_cons, List.not_mem_nil, false_implies, implies_true, and_true]
    decide

/-- Pairs of records of the whole evidence, as the user reads it. -/
def samplePairs : SnapshotRequest := ⟨⟨.completeEvidence, .display⟩, 2, by decide, by decide⟩

theorem drain_openSnapshot_sampleHistory :
    ∃ snapshot batches after, openSnapshot sampleHistory.toHistoryRows samplePairs = .ok snapshot ∧
      snapshot.drain sampleHistory.toHistoryRows samplePairs 6 = .ok (some batches, after) ∧
      Streamed sampleHistory samplePairs snapshot batches after := by
  have counted : (openSnapshot sampleHistory.toHistoryRows samplePairs).toOption.map
      HistoryExportSnapshot.expectedRecordCount = some 5 := by decide +kernel
  cases opened : openSnapshot sampleHistory.toHistoryRows samplePairs with
  | error error =>
      rw [opened] at counted
      cases counted
  | ok snapshot =>
      rw [opened] at counted
      have five : snapshot.expectedRecordCount = 5 := Option.some.inj counted
      have enough : snapshot.expectedRecordCount < 6 := by
        rw [five]
        decide
      obtain ⟨batches, after, drained, streamed⟩ := drain_openSnapshot opened enough
      exact ⟨snapshot, batches, after, rfl, drained, streamed⟩

/-! ## Whole exports -/

/-- A store that opens answers with the records of the export and closes well. -/
theorem snapshotRun_records {history : StoredHistory} {request : SnapshotRequest}
    {snapshot : HistoryExportSnapshot}
    (opened : openSnapshot history.toHistoryRows request = .ok snapshot) :
    (snapshotRun history.toHistoryRows request).records =
        history.exportedRecords request.toHistoryExportRequest ∧
      (snapshotRun history.toHistoryRows request).closing = true := by
  have standing := openSnapshot_standing opened
  have first : snapshot.stage.ahead ≤ 4 := by
    cases snapshot.stage <;> decide
  have rounds : (history.exportedRecords request.toHistoryExportRequest).length +
      snapshot.stage.ahead < ([] : List HistoryExportRecord).length +
        (snapshot.expectedRecordCount + 5) := by
    rw [standing.expected, List.length_nil]
    omega
  obtain ⟨parts, complete⟩ := pages_standing standing rounds
  unfold snapshotRun StoreRun.records
  rw [opened]
  exact ⟨parts, complete⟩

section Runs

variable (blake3 : List UInt8 → List UInt8) {history : StoredHistory} {request : SnapshotRequest}
  {calls : Calls} {format : ExportFormat} {target : BoundExportTarget} {directory : Directory}
  {writes : List WriteAnswer} {artifact : ExportArtifact}

/-- An export that succeeds has published the document of its history, whatever the batch size is,
and a reader of the format finds the records of the history in it. -/
theorem exportRecords_snapshotRun
    (succeeded : (exportRecords blake3 calls (snapshotRun history.toHistoryRows request) format
      request.toHistoryExportRequest target directory writes).1 = .ok artifact) :
    ∃ inode content,
      (exportRecords blake3 calls (snapshotRun history.toHistoryRows request) format
        request.toHistoryExportRequest target directory writes).2.directory.entries
          target.fileName = some inode ∧
      (exportRecords blake3 calls (snapshotRun history.toHistoryRows request) format
        request.toHistoryExportRequest target directory writes).2.directory.contents inode =
          content ∧
      content = document blake3 format request.toHistoryExportRequest
        ((history.exportedRecords request.toHistoryExportRequest).map HistoryExportRecord.json) ∧
      ReadsBack blake3 request.toHistoryExportRequest
        (history.exportedRecords request.toHistoryExportRequest) content format ∧
      artifact.bytesWritten = content.length ∧
      artifact.recordCount = (history.exportedRecords request.toHistoryExportRequest).length := by
  have admitted : Admitted request.scope (snapshotRun history.toHistoryRows request)
      artifact.bytesWritten artifact.recordCount :=
    (returns_writeHistoryExport _ calls blake3 _ format request.toHistoryExportRequest
      target).of_ok succeeded
  have records : (snapshotRun history.toHistoryRows request).records =
      history.exportedRecords request.toHistoryExportRequest := by
    cases opened : openSnapshot history.toHistoryRows request with
    | error error =>
        have announced := admitted.announced
        unfold snapshotRun at announced
        rw [opened] at announced
        cases announced
    | ok snapshot => exact (snapshotRun_records opened).1
  obtain ⟨name, world, body, written, bytes, count, _, published, ended⟩ :=
    exportRecords_published blake3 succeeded
  obtain ⟨entry, contents⟩ := published_target target directory published
  rw [records] at written count
  refine ⟨directory.next, body, ?_, ?_, written, ?_, bytes, count⟩
  · rw [ended]
    exact entry
  · rw [ended, contents]
  · rw [written]
    exact document_readsBack blake3 format _ _

/-- A stand-in for the hash, which the run below needs only to be some function. -/
def sampleHash (bytes : List UInt8) : List UInt8 := List.replicate 32 (UInt8.ofNat bytes.length)

theorem exportRecords_snapshotRun_sampleHistory :
    (sampleHistory.exportedRecords samplePairs.toHistoryExportRequest).length = 5 ∧
    ∃ inode content,
      (exportRecords sampleHash keptCalls (snapshotRun sampleHistory.toHistoryRows samplePairs) .csv
        samplePairs.toHistoryExportRequest sampleTarget emptyDirectory []).2.directory.entries
          sampleTarget.fileName = some inode ∧
      ReadsBack sampleHash samplePairs.toHistoryExportRequest
        (sampleHistory.exportedRecords samplePairs.toHistoryExportRequest) content .csv := by
  have done : (exportRecords sampleHash keptCalls
      (snapshotRun sampleHistory.toHistoryRows samplePairs) .csv samplePairs.toHistoryExportRequest
      sampleTarget emptyDirectory []).1.toOption.map ExportArtifact.recordCount = some 5 := by
    decide +kernel
  cases succeeded : (exportRecords sampleHash keptCalls
      (snapshotRun sampleHistory.toHistoryRows samplePairs) .csv samplePairs.toHistoryExportRequest
      sampleTarget emptyDirectory []).1 with
  | error error =>
      rw [succeeded] at done
      cases done
  | ok artifact =>
      rw [succeeded] at done
      obtain ⟨inode, content, entry, _, _, readsBack, _, count⟩ :=
        exportRecords_snapshotRun sampleHash succeeded
      have five : artifact.recordCount = 5 := Option.some.inj done
      exact ⟨count.symm.trans five, inode, content, entry, readsBack⟩

end Runs

end Guiying.Export
