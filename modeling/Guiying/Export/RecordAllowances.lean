import Guiying.Export.StoredHistory
import Guiying.Foundation.Outcome

/-!
# What a record may take

The preflight grants each row a fixed number of bytes and six for each byte of
its texts. No record takes more, whatever its numbers are and whatever its texts
have to escape.
-/

namespace Guiying.Export

open Guiying.Foundation Guiying.Foundation.ByteString Guiying.Store

/-! ## Values -/

theorem length_projectedText_le (projection : HistoryExportProjection) (value : List UInt8) :
    (projectedText projection value).json.length ≤ 35 + escapedBytes projection value := by
  cases projection with
  | redacted =>
      have fixed : HistoryExportProjectedText.redacted.json.length ≤ 35 := by decide
      exact Nat.le_trans fixed (Nat.le_add_right _ _)
  | display =>
      have escaped := Json.length_text_le value
      have names : Json.namesSize ["projection", "value"] = 19 := by decide
      have tag : (Json.text (asciiBytes "display")).length = 9 := by decide
      change (Json.object [("projection", Json.text (asciiBytes "display")),
        ("value", Json.text value)]).length ≤ 35 + 6 * value.length
      rw [Json.length_object (List.cons_ne_nil _ _)]
      simp only [List.map_cons, List.map_nil, List.sum_cons, List.sum_nil, names, tag]
      omega

/-- What a selected text is projected to. -/
theorem projectedText_of_selected {projection : HistoryExportProjection} {value : List UInt8}
    {selected : Option (List UInt8)} {text : HistoryExportProjectedText}
    (read : selectedText projection value = .ok selected)
    (projected : projectedOptionalText projection selected = .ok text) :
    text = projectedText projection value := by
  cases projection with
  | redacted =>
      cases projected
      rfl
  | display =>
      unfold selectedText at read
      dsimp only at read
      split at read
      · cases read
        cases projected
        rfl
      · cases read

theorem length_timestamp_le (seconds nanoseconds : Int64) :
    (HistoryExportFileTimestamp.json ⟨decimal seconds, decimal nanoseconds⟩).length ≤ 71 := by
  have first := length_text_decimal_le seconds
  have second := length_text_decimal_le nanoseconds
  have names : Json.namesSize ["seconds", "nanoseconds"] = 22 := by decide
  unfold HistoryExportFileTimestamp.json
  rw [Json.length_object (List.cons_ne_nil _ _)]
  simp only [List.map_cons, List.map_nil, List.sum_cons, List.sum_nil, names]
  omega

theorem length_optionalTimestamp_le {seconds nanoseconds : Option Int64}
    {time : Option HistoryExportFileTimestamp}
    (read : historyExportOptionalTimestamp seconds nanoseconds = .ok time) :
    (Json.optional (time.map HistoryExportFileTimestamp.json)).length ≤ 71 := by
  unfold historyExportOptionalTimestamp at read
  split at read
  · cases read
    decide
  · split at read
    · cases read
      exact length_timestamp_le _ _
    · cases read
  · cases read

theorem length_requiredTimestamp_le {seconds nanoseconds : Option Int64}
    {time : HistoryExportFileTimestamp}
    (read : historyExportRequiredTimestamp seconds nanoseconds = .ok time) :
    time.json.length ≤ 71 := by
  unfold historyExportRequiredTimestamp at read
  cases found : historyExportOptionalTimestamp seconds nanoseconds with
  | error error =>
      rw [found] at read
      cases read
  | ok time' =>
      have small := length_optionalTimestamp_le found
      rw [found] at read
      cases time' with
      | none => cases read
      | some time' =>
          cases read
          exact small

/-- A record is its content between its tag and two braces. -/
theorem length_tagged (tag : String) (content : List UInt8) :
    (Json.tagged "record_type" tag "record" content).length =
      26 + (Json.text (asciiBytes tag)).length + content.length := by
  have names : Json.namesSize ["record_type", "record"] = 21 := by decide
  rw [Json.tagged, Json.length_object (List.cons_ne_nil _ _)]
  simp only [List.map_cons, List.map_nil, List.sum_cons, List.sum_nil, names]
  omega

/-! ## Records -/

theorem length_group_lt {scanRunId : Int64} {row : ExactGroupBuildRow}
    {record : HistoryExportRecord} (converted : duplicateGroupRecord scanRunId row = .ok record) :
    record.json.length < 512 := by
  obtain ⟨independent, _, converted⟩ := Outcome.bind_eq_ok.mp converted
  obtain ⟨bytes, _, converted⟩ := Outcome.bind_eq_ok.mp converted
  obtain ⟨finalized, _, converted⟩ := Outcome.bind_eq_ok.mp converted
  cases converted
  have number := length_text_decimal_le
  have names : Json.namesSize ["scan_run_id", "group_build_id", "member_count", "edge_count",
    "independent_file_count", "logical_reclaimable_bytes", "finalized_at_ms"] = 123 := by decide
  have tag : (Json.text (asciiBytes "duplicate_group")).length = 17 := by decide
  rw [HistoryExportRecord.json, length_tagged, tag, HistoryExportDuplicateGroupRecord.json]
  refine Nat.lt_of_le_of_lt (Nat.add_le_add_left (Json.length_object_le
      (.cons (number scanRunId) (.cons (number row.id) (.cons (number row.expectedMemberCount)
        (.cons (number row.expectedEdgeCount) (.cons (number independent) (.cons (number bytes)
          (.cons (number finalized) .nil)))))))) _) ?_
  simp only [List.map_cons, List.map_nil, List.sum_cons, List.sum_nil, names]
  omega

theorem length_member_lt {projection : HistoryExportProjection} {scanRunId : Int64}
    {row : MemberRow} {record : HistoryExportRecord}
    (converted : duplicateMemberRecord projection scanRunId row = .ok record) :
    record.json.length < memberAllowance projection row := by
  obtain ⟨selected, read, converted⟩ := Outcome.bind_eq_ok.mp converted
  obtain ⟨birth, birthRead, converted⟩ := Outcome.bind_eq_ok.mp converted
  obtain ⟨modified, modifiedRead, converted⟩ := Outcome.bind_eq_ok.mp converted
  obtain ⟨path, projected, converted⟩ := Outcome.bind_eq_ok.mp converted
  cases converted
  have number := length_text_decimal_le
  have names : Json.namesSize ["scan_run_id", "group_build_id", "ordinal", "sort_rank",
    "display_path", "size_bytes", "birth_time", "modified_time", "timestamp_granularity_ns"] =
      128 := by decide
  have tag : (Json.text (asciiBytes "duplicate_member")).length = 18 := by decide
  have granularity : (optionalText (some (decimal row.2.timestampGranularityNs))).length ≤ 22 :=
    number row.2.timestampGranularityNs
  have text := length_projectedText_le projection row.2.displayPath
  rw [← projectedText_of_selected read projected] at text
  rw [HistoryExportRecord.json, length_tagged, tag, HistoryExportDuplicateMemberRecord.json,
    memberAllowance]
  refine Nat.lt_of_le_of_lt (Nat.add_le_add_left (Json.length_object_le
      (.cons (number scanRunId) (.cons (number row.1.exactGroupBuildId)
        (.cons (number row.1.ordinal) (.cons (number row.1.sortRank) (.cons text
          (.cons (number row.2.sizeBytes) (.cons (length_optionalTimestamp_le birthRead)
            (.cons (length_requiredTimestamp_le modifiedRead)
              (.cons granularity .nil)))))))))) _) ?_
  simp only [List.map_cons, List.map_nil, List.sum_cons, List.sum_nil, names]
  omega

theorem length_issue_lt {projection : HistoryExportProjection} {scanRunId : Int64}
    {row : ScanIssueRow} {record : HistoryExportRecord}
    (converted : scanIssueRecord projection scanRunId row = .ok record) :
    record.json.length < issueAllowance projection row := by
  obtain ⟨_, stageRead, converted⟩ := Outcome.bind_eq_ok.mp converted
  obtain ⟨_, codeRead, converted⟩ := Outcome.bind_eq_ok.mp converted
  obtain ⟨_, messageRead, converted⟩ := Outcome.bind_eq_ok.mp converted
  obtain ⟨severity, _, converted⟩ := Outcome.bind_eq_ok.mp converted
  obtain ⟨_, stage, converted⟩ := Outcome.bind_eq_ok.mp converted
  obtain ⟨_, code, converted⟩ := Outcome.bind_eq_ok.mp converted
  obtain ⟨_, message, converted⟩ := Outcome.bind_eq_ok.mp converted
  cases converted
  have names : Json.namesSize ["scan_run_id", "issue_id", "severity", "stage", "code", "message",
    "occurred_at_ms", "resolved_at_ms"] = 87 := by decide
  have tag : (Json.text (asciiBytes "scan_issue")).length = 12 := by decide
  have name : (nameJson severity.name).length ≤ 9 := by cases severity <;> decide
  have number := length_text_decimal_le
  have stageText := length_projectedText_le projection row.stage
  rw [← projectedText_of_selected stageRead stage] at stageText
  have codeText := length_projectedText_le projection row.code
  rw [← projectedText_of_selected codeRead code] at codeText
  have messageText := length_projectedText_le projection row.message
  rw [← projectedText_of_selected messageRead message] at messageText
  rw [HistoryExportRecord.json, length_tagged, tag, HistoryExportScanIssueRecord.json,
    issueAllowance]
  refine Nat.lt_of_le_of_lt (Nat.add_le_add_left (Json.length_object_le
      (.cons (number scanRunId) (.cons (number row.id) (.cons name (.cons stageText
        (.cons codeText (.cons messageText (.cons (number row.occurredAtMs)
          (.cons (length_optionalText_le row.resolvedAtMs) .nil))))))))) _) ?_
  simp only [List.map_cons, List.map_nil, List.sum_cons, List.sum_nil, names]
  omega

theorem length_timeOutcome_le {record : ScanHistoryTimeOutcomeRecord}
    {outcome : HistoryExportTimeOutcome}
    (converted : historyExportTimeOutcome record = .ok outcome) :
    outcome.json.length ≤ 700 := by
  obtain ⟨state, _, converted⟩ := Outcome.bind_eq_ok.mp converted
  cases converted
  have names : Json.namesSize ["state", "expected_group_count", "evidence_group_count",
    "unavailable_group_count", "failed_group_count", "max_total_read_bytes",
    "max_probe_count_per_group", "max_report_total_bytes_read", "max_report_read_operations",
    "max_report_retained_field_bytes", "max_report_fields", "max_report_issues",
    "sealed_report_read_bytes", "sealed_report_read_operations", "finalized_at_ms"] = 347 := by
      decide
  have name : (nameJson state.name).length ≤ 13 := by cases state <;> decide
  have number := length_optionalText_le
  have bounds : 2 + 347 + ((13 :: List.replicate 14 22).map fun bound => bound + 2).sum = 700 := by
    decide
  rw [← bounds, ← names]
  exact Json.length_object_le
    (.cons name (.cons (number record.expectedGroupCount) (.cons (number record.evidenceGroupCount)
      (.cons (number record.unavailableGroupCount) (.cons (number record.failedGroupCount)
        (.cons (number record.maxTotalReadBytes) (.cons (number record.maxProbeCountPerGroup)
          (.cons (number record.maxReportTotalBytesRead)
            (.cons (number record.maxReportReadOperations)
              (.cons (number record.maxReportRetainedFieldBytes)
                (.cons (number record.maxReportFields) (.cons (number record.maxReportIssues)
                  (.cons (number record.sealedReportReadBytes)
                    (.cons (number record.sealedReportReadOperations)
                      (.cons (number record.finalizedAtMs) .nil)))))))))))))))

/-- The summary leaves room for the brackets of the array and its comma. -/
theorem length_summary_lt {projection : HistoryExportProjection} {record : ScanHistoryRecord}
    {summary : HistoryExportSummaryRecord}
    (converted : historyExportSummary projection record = .ok summary) :
    (HistoryExportRecord.summary summary).json.length + 2 <
      summaryAllowance projection record.rootDisplayPath := by
  obtain ⟨mode, _, converted⟩ := Outcome.bind_eq_ok.mp converted
  obtain ⟨status, _, converted⟩ := Outcome.bind_eq_ok.mp converted
  obtain ⟨outcome, timed, converted⟩ := Outcome.bind_eq_ok.mp converted
  cases converted
  have names : Json.namesSize ["scan_run_id", "root_display_path", "scan_mode", "started_at_ms",
    "finished_at_ms", "duration_ms", "coverage_status", "discovered_count", "fingerprinted_count",
    "error_count", "logical_bytes_seen", "observed_file_count", "verified_group_count",
    "verified_member_count", "redundant_copy_count", "logical_reclaimable_bytes", "issue_count",
    "unresolved_issue_count", "time_outcome"] = 342 := by decide
  have tag : (Json.text (asciiBytes "summary")).length = 9 := by decide
  have modeName : (nameJson mode.name).length ≤ 13 := by cases mode <;> decide
  have statusName : (nameJson status.name).length ≤ 10 := by cases status <;> decide
  have number := length_text_decimal_le
  rw [HistoryExportRecord.json, length_tagged, tag, HistoryExportSummaryRecord.json,
    summaryAllowance]
  refine Nat.lt_of_le_of_lt (Nat.add_le_add_right (Nat.add_le_add_left (Json.length_object_le
      (.cons (number record.scanRunId) (.cons (length_projectedText_le _ _) (.cons modeName
        (.cons (number record.startedAtMs) (.cons (number record.finishedAtMs)
          (.cons (number record.durationMs) (.cons statusName (.cons (number record.discoveredCount)
            (.cons (number record.fingerprintedCount) (.cons (number record.errorCount)
              (.cons (number record.logicalBytesSeen) (.cons (number record.observedFileCount)
                (.cons (number record.verifiedGroupCount)
                  (.cons (number record.verifiedMemberCount)
                    (.cons (number record.redundantCopyCount)
                      (.cons (number record.logicalReclaimableBytes)
                        (.cons (number record.issueCount)
                          (.cons (number record.unresolvedIssueCount)
                            (.cons (length_timeOutcome_le timed) .nil)))))))))))))))))))) _) _) ?_
  simp only [List.map_cons, List.map_nil, List.sum_cons, List.sum_nil, names]
  omega

/-! ## Tables -/

open HistoryExportSnapshot

theorem encodedBytes_append (first second : List HistoryExportRecord) :
    encodedBytes (first ++ second) = encodedBytes first + encodedBytes second := by
  rw [encodedBytes, List.map_append, List.sum_append, ← encodedBytes, ← encodedBytes]

theorem encodedBytes_perm {first second : List HistoryExportRecord} (same : first.Perm second) :
    encodedBytes first = encodedBytes second :=
  (same.map _).sum_eq

/-- The records of a table stay within what its rows are granted. -/
theorem encodedBytes_recordsOf_le {α : Type} {convert : α → SnapshotResult HistoryExportRecord}
    {allowance : α → Nat}
    (granted : ∀ row record, convert row = .ok record → record.json.length < allowance row)
    (rows : List α) : encodedBytes (recordsOf convert rows) ≤ (rows.map allowance).sum := by
  induction rows with
  | nil => exact Nat.le_refl 0
  | cons row rest ih =>
      rw [List.map_cons, List.sum_cons]
      cases converted : convert row with
      | error error =>
          rw [recordsOf, List.filterMap_cons_none (by rw [converted]; rfl), ← recordsOf]
          exact Nat.le_trans ih (Nat.le_add_left _ _)
      | ok record =>
          have own := granted row record converted
          rw [recordsOf, List.filterMap_cons_some (by rw [converted]; rfl), ← recordsOf,
            ← List.singleton_append, encodedBytes_append]
          have single : encodedBytes [record] = record.json.length + 1 := rfl
          omega

end Guiying.Export
