import Guiying.Export.HistorySnapshot

/-!
# A history as the schema keeps it

The constraints of the tables that an export relies on, and what follows from
them: every selected row has a key of its own and can be converted into a record.
-/

namespace Guiying.Export

open Guiying.Foundation Guiying.Store

/-- The nanoseconds of a time are a fraction of its second, and neither is there alone. -/
structure MediaObservationSnapshotRow.Timed (row : MediaObservationSnapshotRow) : Prop where
  birth : row.birthTimeSeconds.isSome = row.birthTimeNanoseconds.isSome
  birthFraction : ∀ nanoseconds ∈ row.birthTimeNanoseconds,
    0 ≤ nanoseconds.toInt ∧ nanoseconds.toInt < 1000000000
  modifiedFraction : 0 ≤ row.modifiedTimeNanoseconds.toInt ∧
    row.modifiedTimeNanoseconds.toInt < 1000000000

/-- The rows of a run under the constraints of their tables. Row ids are given out from 1 on, and
every text has been written from a string. -/
structure StoredHistory extends HistoryRows where
  root : summary.rootDisplayPath = rootRelativePath
  scanMode : summary.scanMode ∈ ["full", "incremental", "resume", "verify"]
  coverageStatus : summary.coverageStatus ∈ ["complete", "partial"]
  timeState : summary.timeOutcome.state ∈ ["complete", "partial", "not_run", "unavailable", "failed"]
  /-- The primary key of `exact_group_builds`. -/
  buildIds : (builds.map ExactGroupBuildRow.id).Nodup
  buildIds_positive : ∀ build ∈ builds, 0 < build.id.toInt
  /-- The check on the columns of a verified build. -/
  verified : ∀ build ∈ builds, build.state = .verified → build.independentFileCount.isSome ∧
    build.logicalReclaimableBytes.isSome ∧ build.finalizedAtMs.isSome
  /-- The primary key of `exact_group_build_members`. -/
  memberIds : (members.map fun member => (member.exactGroupBuildId, member.ordinal)).Nodup
  memberRanks : ∀ member ∈ members, 0 ≤ member.sortRank.toInt
  /-- The primary key of `media_observation_snapshots`. -/
  observationIds : (observations.map MediaObservationSnapshotRow.id).Nodup
  /-- The foreign key of a member, through its fingerprint. -/
  observed : ∀ member ∈ members, ∃ observation ∈ observations,
    observation.volumeId = member.volumeId ∧ observation.scanRunId = member.scanRunId ∧
      observation.id = member.mediaObservationSnapshotId
  times : ∀ observation ∈ observations, observation.Timed
  paths : ∀ observation ∈ observations, Utf8.valid observation.displayPath
  /-- The primary key of `scan_issues`. -/
  issueIds : (issues.map ScanIssueRow.id).Nodup
  issueIds_positive : ∀ issue ∈ issues, 0 < issue.id.toInt
  severities : ∀ issue ∈ issues, issue.severity ∈ ["info", "warning", "error", "fatal"]
  issueTexts : ∀ issue ∈ issues,
    Utf8.valid issue.stage ∧ Utf8.valid issue.code ∧ Utf8.valid issue.message

/-! ## Joins -/

section Joins

variable {α β γ : Type*}

/-- At most one row has a given value in a column without repetitions. -/
theorem length_filter_le_one {column : α → γ} {rows : List α} (distinct : (rows.map column).Nodup)
    {kept : α → Bool} (value : γ) (same : ∀ row ∈ rows, kept row = true → column row = value) :
    (rows.filter kept).length ≤ 1 := by
  have constant : (rows.filter kept).map column =
      List.replicate (rows.filter kept).length value := by
    rw [List.eq_replicate_iff]
    refine ⟨List.length_map _, fun found member => ?_⟩
    obtain ⟨row, inside, rfl⟩ := List.mem_map.mp member
    obtain ⟨listed, keeps⟩ := List.mem_filter.mp inside
    exact same row listed keeps
  have nodup : ((rows.filter kept).map column).Nodup :=
    distinct.sublist (List.filter_sublist.map column)
  rw [constant, List.nodup_replicate] at nodup
  exact nodup

/-- A join that finds at most one partner for each row keeps some of the rows. -/
theorem sublist_joined (partners : α → List β) {rows : List α}
    (unique : ∀ row ∈ rows, (partners row).length ≤ 1) :
    (rows.flatMap fun row => (partners row).map fun _ => row).Sublist rows := by
  induction rows with
  | nil => exact List.Sublist.refl _
  | cons row rest ih =>
      have later := ih fun other inside => unique other (List.mem_cons_of_mem row inside)
      have own := unique row List.mem_cons_self
      rw [List.flatMap_cons, List.map_const']
      match number : (partners row).length, own with
      | 0, _ => exact later.cons row
      | 1, _ => exact later.cons_cons row

/-- A join that finds one partner for each row keeps all rows. -/
theorem joined_eq (partners : α → List β) {rows : List α}
    (one : ∀ row ∈ rows, (partners row).length = 1) :
    (rows.flatMap fun row => (partners row).map fun _ => row) = rows := by
  induction rows with
  | nil => rfl
  | cons row rest ih =>
      rw [List.flatMap_cons, List.map_const', one row List.mem_cons_self,
        ih fun other inside => one other (List.mem_cons_of_mem row inside)]
      rfl

end Joins

namespace StoredHistory

variable (history : StoredHistory)

theorem joinedMembers_sublist : history.joinedMembers.Sublist history.members := by
  have unique : ∀ member ∈ history.runMembers, (history.buildsOf member).length ≤ 1 := by
    intro member _
    refine length_filter_le_one history.buildIds member.exactGroupBuildId fun build _ joined => ?_
    simp only [Bool.and_eq_true, decide_eq_true_eq] at joined
    exact joined.1.2
  exact (sublist_joined history.buildsOf unique).trans List.filter_sublist

theorem length_observationsOf {member : ExactGroupBuildMemberRow}
    (inside : member ∈ history.members) : (history.observationsOf member).length = 1 := by
  have unique : (history.observationsOf member).length ≤ 1 := by
    refine length_filter_le_one history.observationIds member.mediaObservationSnapshotId
      fun observation _ joined => ?_
    simp only [Bool.and_eq_true, decide_eq_true_eq] at joined
    exact joined.2
  obtain ⟨observation, listed, volume, run, id⟩ := history.observed member inside
  have found : observation ∈ history.observationsOf member :=
    List.mem_filter.mpr ⟨listed, by simp [volume, run, id]⟩
  exact Nat.le_antisymm unique (List.length_pos_of_mem found)

/-- Every member of a verified build has one row with its observation. -/
theorem map_fst_memberRows : history.memberRows.map Prod.fst = history.joinedMembers := by
  have one : ∀ member ∈ history.joinedMembers, (history.observationsOf member).length = 1 :=
    fun member inside => history.length_observationsOf (history.joinedMembers_sublist.subset inside)
  have rows := joined_eq history.observationsOf one
  rw [HistoryRows.memberRows, List.map_flatMap]
  simp only [List.map_map, Function.comp_def]
  exact rows

theorem length_memberRows : history.memberRows.length = history.joinedMembers.length := by
  rw [← map_fst_memberRows, List.length_map]

/-! ## Keys -/

theorem toInt_injective : Function.Injective Int64.toInt := fun _ _ same => Int64.toInt_inj.mp same

theorem buildKeys_nodup : (history.verifiedBuilds.map buildKey).Nodup := by
  have ids : (history.verifiedBuilds.map ExactGroupBuildRow.id).Nodup :=
    history.buildIds.sublist (List.filter_sublist.map _)
  have keys : history.verifiedBuilds.map buildKey =
      (history.verifiedBuilds.map ExactGroupBuildRow.id).map Int64.toInt := by
    rw [List.map_map]
    rfl
  rw [keys]
  exact ids.map toInt_injective

theorem issueKeys_nodup : (history.runIssues.map issueKey).Nodup := by
  have ids : (history.runIssues.map ScanIssueRow.id).Nodup :=
    history.issueIds.sublist (List.filter_sublist.map _)
  have keys : history.runIssues.map issueKey =
      (history.runIssues.map ScanIssueRow.id).map Int64.toInt := by
    rw [List.map_map]
    rfl
  rw [keys]
  exact ids.map toInt_injective

/-- The key of a member, whatever it is joined with. -/
def ordinalKey (member : ExactGroupBuildMemberRow) : MemberKey :=
  memberKeyOf member.exactGroupBuildId.toInt member.sortRank.toInt member.ordinal.toInt

theorem memberKeys_nodup : (history.memberRows.map memberKey).Nodup := by
  have keys : history.memberRows.map memberKey = history.joinedMembers.map ordinalKey := by
    rw [← map_fst_memberRows, List.map_map]
    rfl
  have ids : (history.joinedMembers.map fun member =>
      (member.exactGroupBuildId, member.ordinal)).Nodup :=
    history.memberIds.sublist (history.joinedMembers_sublist.map _)
  rw [keys]
  refine List.Nodup.of_map (fun key : MemberKey => ((ofLex key).1, (ofLex (ofLex key).2).2)) ?_
  have columns : (history.joinedMembers.map ordinalKey).map
      (fun key => ((ofLex key).1, (ofLex (ofLex key).2).2)) =
        (history.joinedMembers.map fun member => (member.exactGroupBuildId, member.ordinal)).map
          (Prod.map Int64.toInt Int64.toInt) := by
    rw [List.map_map, List.map_map]
    rfl
  rw [columns]
  exact ids.map (toInt_injective.prodMap toInt_injective)

theorem buildKeys_above : ∀ build ∈ history.verifiedBuilds, 0 < buildKey build :=
  fun build inside => history.buildIds_positive build (List.mem_of_mem_filter inside)

theorem issueKeys_above : ∀ issue ∈ history.runIssues, 0 < issueKey issue :=
  fun issue inside => history.issueIds_positive issue (List.mem_of_mem_filter inside)

theorem exists_build_of_joined {member : ExactGroupBuildMemberRow}
    (inside : member ∈ history.joinedMembers) :
    ∃ build ∈ history.builds, build.id = member.exactGroupBuildId := by
  obtain ⟨other, _, joined⟩ := List.mem_flatMap.mp inside
  obtain ⟨build, found, rfl⟩ := List.mem_map.mp joined
  obtain ⟨listed, matched⟩ := List.mem_filter.mp found
  simp only [Bool.and_eq_true, decide_eq_true_eq] at matched
  exact ⟨build, listed, matched.1.2⟩

theorem memberKeys_above : ∀ row ∈ history.memberRows, memberKeyOf 0 (-1) (-1) < memberKey row := by
  intro row inside
  have joined : row.1 ∈ history.joinedMembers := by
    rw [← map_fst_memberRows]
    exact List.mem_map_of_mem inside
  obtain ⟨build, listed, same⟩ := history.exists_build_of_joined joined
  have positive := history.buildIds_positive build listed
  rw [same] at positive
  exact memberKeyOf_lt_iff.mpr (.inl positive)

/-! ## Conversions -/

theorem group_converts : ∀ build ∈ history.verifiedBuilds,
    (duplicateGroupRecord history.scanRunId build).isOk := by
  intro build inside
  obtain ⟨listed, kept⟩ := List.mem_filter.mp inside
  simp only [Bool.and_eq_true, decide_eq_true_eq] at kept
  obtain ⟨independent, bytes, finalized⟩ := history.verified build listed kept.2
  obtain ⟨_, independent⟩ := Option.isSome_iff_exists.mp independent
  obtain ⟨_, bytes⟩ := Option.isSome_iff_exists.mp bytes
  obtain ⟨_, finalized⟩ := Option.isSome_iff_exists.mp finalized
  rw [duplicateGroupRecord, independent, bytes, finalized]
  rfl

theorem optionalTimestamp_converts {seconds nanoseconds : Option Int64}
    (together : seconds.isSome = nanoseconds.isSome)
    (fraction : ∀ value ∈ nanoseconds, 0 ≤ value.toInt ∧ value.toInt < 1000000000) :
    historyExportOptionalTimestamp seconds nanoseconds =
      .ok (seconds.bind fun seconds => nanoseconds.map fun nanoseconds =>
        ⟨decimal seconds, decimal nanoseconds⟩) := by
  cases seconds with
  | none =>
      cases nanoseconds with
      | none => rfl
      | some value => cases together
  | some seconds =>
      cases nanoseconds with
      | none => cases together
      | some value =>
          rw [historyExportOptionalTimestamp, if_pos (fraction value rfl)]
          rfl

theorem member_converts (projection : HistoryExportProjection) : ∀ row ∈ history.memberRows,
    (duplicateMemberRecord projection history.scanRunId row).isOk := by
  rintro ⟨member, observation⟩ inside
  have listed : observation ∈ history.observations := by
    obtain ⟨_, _, joined⟩ := List.mem_flatMap.mp inside
    obtain ⟨_, found, same⟩ := List.mem_map.mp joined
    cases same
    exact List.mem_of_mem_filter found
  have timed := history.times observation listed
  have modified : historyExportRequiredTimestamp (some observation.modifiedTimeSeconds)
      (some observation.modifiedTimeNanoseconds) =
        .ok ⟨decimal observation.modifiedTimeSeconds,
          decimal observation.modifiedTimeNanoseconds⟩ := by
    rw [historyExportRequiredTimestamp, historyExportOptionalTimestamp,
      if_pos timed.modifiedFraction]
    rfl
  unfold duplicateMemberRecord
  dsimp only
  rw [optionalTimestamp_converts timed.birth timed.birthFraction, modified]
  cases projection with
  | redacted => rfl
  | display =>
      rw [selectedText, if_pos (history.paths observation listed)]
      rfl

theorem issue_converts (projection : HistoryExportProjection) : ∀ issue ∈ history.runIssues,
    (scanIssueRecord projection history.scanRunId issue).isOk := by
  intro issue inside
  have listed : issue ∈ history.issues := List.mem_of_mem_filter inside
  obtain ⟨stage, code, message⟩ := history.issueTexts issue listed
  have severity : ∃ value, historyExportSeverity issue.severity = .ok value := by
    have known := history.severities issue listed
    simp only [List.mem_cons, List.not_mem_nil, or_false] at known
    rcases known with same | same | same | same <;> rw [same] <;> exact ⟨_, rfl⟩
  obtain ⟨_, severity⟩ := severity
  unfold scanIssueRecord
  rw [severity]
  cases projection with
  | redacted => rfl
  | display =>
      simp only [selectedText]
      rw [if_pos stage, if_pos code, if_pos message]
      rfl

theorem summary_converts (projection : HistoryExportProjection) :
    ∃ summary, historyExportSummary projection history.summary = .ok summary := by
  have mode : ∃ value, historyExportScanMode history.summary.scanMode = .ok value := by
    have known := history.scanMode
    simp only [List.mem_cons, List.not_mem_nil, or_false] at known
    rcases known with same | same | same | same <;> rw [same] <;> exact ⟨_, rfl⟩
  have coverage :
      ∃ value, historyExportCoverageStatus history.summary.coverageStatus = .ok value := by
    have known := history.coverageStatus
    simp only [List.mem_cons, List.not_mem_nil, or_false] at known
    rcases known with same | same <;> rw [same] <;> exact ⟨_, rfl⟩
  have state : ∃ value, historyExportTimeState history.summary.timeOutcome.state = .ok value := by
    have known := history.timeState
    simp only [List.mem_cons, List.not_mem_nil, or_false] at known
    rcases known with same | same | same | same | same <;> rw [same] <;> exact ⟨_, rfl⟩
  obtain ⟨_, mode⟩ := mode
  obtain ⟨_, coverage⟩ := coverage
  obtain ⟨_, state⟩ := state
  unfold historyExportSummary historyExportTimeOutcome
  rw [mode, coverage, state]
  exact ⟨_, rfl⟩

end StoredHistory

/-! ## Rows to records -/

section Convert

variable {α : Type} {convert : α → SnapshotResult HistoryExportRecord} {rows : List α}

/-- The records of the rows that can be converted. -/
def recordsOf (convert : α → SnapshotResult HistoryExportRecord) (rows : List α) :
    List HistoryExportRecord :=
  rows.filterMap fun row => (convert row).toOption

theorem mapM_recordsOf (converts : ∀ row ∈ rows, (convert row).isOk) :
    rows.mapM convert = .ok (recordsOf convert rows) := by
  induction rows with
  | nil => rfl
  | cons row rest ih =>
      have own := converts row List.mem_cons_self
      have later := ih fun other inside => converts other (List.mem_cons_of_mem row inside)
      rw [List.mapM_cons, recordsOf]
      cases converted : convert row with
      | error error =>
          rw [converted] at own
          cases own
      | ok record =>
          rw [later, List.filterMap_cons_some (b := record) (by rw [converted]; rfl)]
          rfl

theorem length_recordsOf (converts : ∀ row ∈ rows, (convert row).isOk) :
    (recordsOf convert rows).length = rows.length := by
  induction rows with
  | nil => rfl
  | cons row rest ih =>
      have own := converts row List.mem_cons_self
      have later := ih fun other inside => converts other (List.mem_cons_of_mem row inside)
      cases converted : convert row with
      | error error =>
          rw [converted] at own
          cases own
      | ok record =>
          rw [recordsOf, List.filterMap_cons_some (by rw [converted]; rfl), List.length_cons,
            ← recordsOf, later, List.length_cons]

theorem recordsOf_append (first second : List α) :
    recordsOf convert (first ++ second) = recordsOf convert first ++ recordsOf convert second :=
  List.filterMap_append

theorem recordsOf_perm {others : List α} (same : rows.Perm others) :
    (recordsOf convert rows).Perm (recordsOf convert others) :=
  same.filterMap _

end Convert

end Guiying.Export
