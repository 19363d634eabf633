import Guiying.Foundation.PrefixCode
import Guiying.Store.ControlDigests

/-!
# The digests of stored evidence

What is hashed for an exact group and for the capture-time evidence of a scan.
Each digest is a check, with the errors in the order of the source, and the bytes
that are hashed when it passes.
-/

namespace Guiying.Store

open Guiying.Foundation ByteString Outcome MachineInt

def textBytes (text : String) : List UInt8 := charBytes text.toList

def int64Bytes (value : Int64) : List UInt8 := i64Bytes value.toInt

/-- A length that the prefix cannot hold. -/
def checkLength (bytes : List UInt8) : Result Unit :=
  refuse (decide (u64Bound ≤ bytes.length)) (.invalidInput "manifest" "byte length overflow")

/-- `require_positive`. -/
def checkPositive (field : String) (value : Int64) : Result Unit :=
  refuse (decide (value.toInt ≤ 0)) (.invalidInput field "value must be positive")

/-- A row more, in a counter of type `i64`. -/
def nextCount (field reason : String) (count : Nat) : Result Nat := do
  refuse (decide (i64Max < count + 1)) (.invalidInput field reason)
  .ok (count + 1)

/-- Check the rows of a query one by one and count them. -/
def checkRows {α : Type} (check : α → Result Unit) (next : Nat → Result Nat) (count : Nat) :
    List α → Result Nat
  | [] => .ok count
  | row :: rest => do
      check row
      let count ← next count
      checkRows check next count rest

/-! ## Exact groups -/

structure ExactGroupManifestMember where
  ordinal : UInt64
  observationId : UInt64
  fingerprintId : UInt64
  sortRank : UInt64
  stablePathKey : Bytes32
  sourceSignature : Bytes32
  sizeBytes : UInt64
  algorithm : String
  algorithmVersion : UInt32
  parametersHash : Bytes32
  digest : List UInt8
  fileObjectKey : Option Bytes32
  deriving DecidableEq

namespace ExactGroupManifestMember

def check (member : ExactGroupManifestMember) : Result Unit := do
  requireBoundedNonempty "algorithm" member.algorithm maxIdentifierBytes
  refuse (member.digest = [] || decide (1024 < member.digest.length))
    (.invalidInput "digest" "fingerprint digest must contain between 1 and 1024 bytes")
  checkLength (textBytes member.algorithm)
  checkLength member.digest

def leafBytes (member : ExactGroupManifestMember) : List UInt8 :=
  asciiBytes "guiying.exact-group-member.v1\x00" ++ leBytes 8 member.ordinal.toNat ++
    leBytes 8 member.observationId.toNat ++ leBytes 8 member.fingerprintId.toNat ++
    leBytes 8 member.sortRank.toNat ++ member.stablePathKey.bytes ++
    member.sourceSignature.bytes ++ leBytes 8 member.sizeBytes.toNat ++
    lengthPrefixed (textBytes member.algorithm) ++ leBytes 4 member.algorithmVersion.toNat ++
    member.parametersHash.bytes ++ lengthPrefixed member.digest ++
    optionCode 0 1 Bytes32.bytes member.fileObjectKey

end ExactGroupManifestMember

def checkGroupManifest (memberLeaves : List Bytes32) : Result Unit := do
  refuse (decide (memberLeaves.length < 2))
    (.invalidInput "member_leaves" "an exact duplicate manifest requires at least two members")
  refuse (decide (u64Bound ≤ memberLeaves.length))
    (.invalidInput "member_leaves" "member count overflow")

def groupManifestBytes (memberLeaves : List Bytes32) : List UInt8 :=
  asciiBytes "guiying.exact-group-manifest.v1\x00" ++ leBytes 8 memberLeaves.length ++
    memberLeaves.flatMap Bytes32.bytes

structure ExactFingerprintCommon where
  algorithm : String
  algorithmVersion : Int64
  parametersHash : Bytes32
  digest : List UInt8
  sizeBytes : Int64
  deriving DecidableEq

namespace ExactFingerprintCommon

def check (common : ExactFingerprintCommon) (runKey : String) : Result Unit := do
  requireBoundedNonempty "run_key" runKey maxIdentifierBytes
  requireBoundedNonempty "algorithm" common.algorithm maxIdentifierBytes
  checkLength (textBytes runKey)
  checkLength (textBytes common.algorithm)
  refuse (decide (common.algorithmVersion.toInt < 0 ∨ u32Bound ≤ common.algorithmVersion.toInt))
    (.invalidInput "algorithm_version" "value exceeds u32")
  checkLength common.digest
  refuse (decide (common.sizeBytes.toInt < 0)) (.invalidInput "size_bytes" "value is negative")

def groupKeyBytes (common : ExactFingerprintCommon) (runKey : String) (manifest : Bytes32) :
    List UInt8 :=
  asciiBytes "guiying.exact-group.v1\x00" ++ lengthPrefixed (textBytes runKey) ++
    lengthPrefixed (textBytes common.algorithm) ++ leBytes 4 common.algorithmVersion.toInt.toNat ++
    common.parametersHash.bytes ++ lengthPrefixed common.digest ++
    leBytes 8 common.sizeBytes.toInt.toNat ++ manifest.bytes

end ExactFingerprintCommon

/-! ## The scope of a time session -/

/-- A verified group as the query of the scope reads it. -/
structure VerifiedGroupColumns where
  id : Int64
  groupKey : List UInt8
  expectedMemberCount : Int64
  expectedManifestDigest : List UInt8
  deriving DecidableEq

namespace VerifiedGroupColumns

def check (group : VerifiedGroupColumns) : Result Unit :=
  refuse (decide (group.groupKey.length ≠ 32 ∨ group.expectedManifestDigest.length ≠ 32 ∨
      group.expectedMemberCount.toInt < 2))
    (.invalidInput "time_session_manifest" "stored verified exact group is malformed")

def bytes (group : VerifiedGroupColumns) : List UInt8 :=
  int64Bytes group.id ++ group.groupKey ++ int64Bytes group.expectedMemberCount ++
    group.expectedManifestDigest

end VerifiedGroupColumns

/-- The count of the groups, when all of them pass. -/
def checkTimeScope (scanRunId : Int64) (groups : List VerifiedGroupColumns) : Result Nat := do
  checkPositive "scan_run_id" scanRunId
  checkRows VerifiedGroupColumns.check
    (nextCount "expected_group_count" "group count overflow") 0 groups

def timeScopeBytes (scanRunId : Int64) (groups : List VerifiedGroupColumns) : List UInt8 :=
  asciiBytes "guiying.time-session-exact-scope.v1\x00" ++ int64Bytes scanRunId ++
    groups.flatMap VerifiedGroupColumns.bytes ++ i64Bytes groups.length

/-! ## The outcomes of a time session -/

/-- A member's file times as the query of an analysis reads them. -/
structure MemberTimeColumns where
  memberOrdinal : Int64
  observationId : Int64
  birthTimeSeconds : Option Int64
  birthTimeNanoseconds : Option Int64
  modifiedTimeSeconds : Int64
  modifiedTimeNanoseconds : Int64
  timestampGranularityNs : Option Int64
  deriving DecidableEq

/-- `hash_optional_i64`. -/
def optionalInt64Bytes (value : Option Int64) : List UInt8 := optionCode 0 1 int64Bytes value

def MemberTimeColumns.bytes (member : MemberTimeColumns) : List UInt8 :=
  0xA7 :: (int64Bytes member.memberOrdinal ++ int64Bytes member.observationId ++
    optionalInt64Bytes member.birthTimeSeconds ++ optionalInt64Bytes member.birthTimeNanoseconds ++
    int64Bytes member.modifiedTimeSeconds ++ int64Bytes member.modifiedTimeNanoseconds ++
    optionalInt64Bytes member.timestampGranularityNs)

/-- The outcome of a group, with the columns of its analysis and the members of that. -/
structure GroupOutcomeColumns where
  groupId : Int64
  outcome : String
  analysisId : Option Int64
  reasonCode : String
  createdAtMs : Int64
  analysisManifest : Option (List UInt8)
  analysisDecision : Option String
  selectedCandidateOrdinal : Option Int64
  analysisFinalizedAtMs : Option Int64
  analysisTimeSessionId : Option Int64
  analysisGroupId : Option Int64
  analysisState : Option String
  members : List MemberTimeColumns
  deriving DecidableEq

structure OutcomeCounts where
  evidence : Nat
  unavailable : Nat
  failed : Nat
  deriving DecidableEq, Repr

def outcomeError (reason : String) : StoreError :=
  .invalidInput "time_session_outcome_manifest" reason

def maxOutcomeMembers : Nat := 8192

namespace GroupOutcomeColumns

/-- An analysis that is sealed with a decision, for this group in this session. -/
def hasSealedAnalysis (row : GroupOutcomeColumns) (timeSessionId : Int64) : Bool :=
  row.analysisId.isSome && row.analysisManifest.any (fun manifest => manifest.length = 32) &&
    row.analysisDecision.any (fun decision => decision = "no_usable_evidence" ||
      decision = "review_required" || decision = "evidence_eligible" || decision = "conflict") &&
    row.analysisFinalizedAtMs.isSome && row.analysisTimeSessionId = some timeSessionId &&
    row.analysisGroupId = some row.groupId && row.analysisState = some "sealed"

def nextMember (count : Nat) : Result Nat := do
  let count ← nextCount "time_session_outcome_manifest" "analysis member count overflow" count
  refuse (decide (maxOutcomeMembers < count))
    (outcomeError "analysis member count exceeds the v7 hard bound")
  .ok count

/-- The counts with this row, if its outcome fits its analysis. -/
def countOutcome (row : GroupOutcomeColumns) (timeSessionId : Int64) (counts : OutcomeCounts) :
    Result OutcomeCounts :=
  if row.outcome = "evidence" then do
    let evidence ← nextCount "evidence_group_count" "count overflow" counts.evidence
    refuse (!row.hasSealedAnalysis timeSessionId)
      (outcomeError "evidence outcome lacks its complete sealed analysis decision")
    .ok { counts with evidence }
  else if row.outcome = "unavailable" then do
    let unavailable ← nextCount "unavailable_group_count" "count overflow" counts.unavailable
    refuse row.analysisId.isSome
      (outcomeError "unavailable outcome must not reference an analysis")
    .ok { counts with unavailable }
  else if row.outcome = "failed" then do
    let failed ← nextCount "failed_group_count" "count overflow" counts.failed
    refuse row.analysisId.isSome (outcomeError "failed outcome must not reference an analysis")
    .ok { counts with failed }
  else .error (outcomeError "stored group outcome is not a v7 value")

/-- What is asked for again of an analysis here is there already. -/
def checkAnalysis (row : GroupOutcomeColumns) : Result Unit :=
  if row.analysisId.isSome then do
    checkLength (textBytes (row.analysisDecision.getD ""))
    let _ ← checkRows (fun _ => .ok ()) nextMember 0 row.members
    .ok ()
  else .ok ()

def check (row : GroupOutcomeColumns) (timeSessionId : Int64) (counts : OutcomeCounts) :
    Result OutcomeCounts := do
  let counts ← row.countOutcome timeSessionId counts
  checkLength (textBytes row.outcome)
  row.checkAnalysis
  checkLength (textBytes row.reasonCode)
  .ok counts

def analysisBytes (row : GroupOutcomeColumns) : List UInt8 :=
  match row.analysisId with
  | none => [0]
  | some analysisId =>
      1 :: (int64Bytes analysisId ++ row.analysisManifest.getD [] ++
        lengthPrefixed (textBytes (row.analysisDecision.getD "")) ++
        optionalInt64Bytes row.selectedCandidateOrdinal ++
        int64Bytes (row.analysisFinalizedAtMs.getD 0) ++
        lengthPrefixed (asciiBytes "member_filesystem_times") ++
        row.members.flatMap MemberTimeColumns.bytes ++ i64Bytes row.members.length)

def bytes (row : GroupOutcomeColumns) : List UInt8 :=
  int64Bytes row.groupId ++ lengthPrefixed (textBytes row.outcome) ++ row.analysisBytes ++
    lengthPrefixed (textBytes row.reasonCode) ++ int64Bytes row.createdAtMs

end GroupOutcomeColumns

/-- A time session that is over, and the outcomes of its groups. -/
structure TimeOutcomes where
  timeSessionId : Int64
  terminalState : String
  finalizedAtMs : Int64
  scanRunId : Int64
  expectedGroupCount : Int64
  expectedScopeManifest : List UInt8
  rows : List GroupOutcomeColumns
  deriving DecidableEq

namespace TimeOutcomes

def checkOutcomes (timeSessionId : Int64) (counts : OutcomeCounts) :
    List GroupOutcomeColumns → Result OutcomeCounts
  | [] => .ok counts
  | row :: rest => do
      let counts ← row.check timeSessionId counts
      checkOutcomes timeSessionId counts rest

def check (input : TimeOutcomes) : Result OutcomeCounts := do
  checkPositive "time_session_id" input.timeSessionId
  refuse (decide (input.finalizedAtMs.toInt < 0))
    (.invalidInput "finalized_at_ms" "value must be non-negative")
  refuse (input.terminalState ≠ "complete" && input.terminalState ≠ "partial")
    (.invalidInput "time_session_state"
      "outcome manifest requires complete or partial terminal state")
  refuse (decide (input.expectedScopeManifest.length ≠ 32))
    (outcomeError "frozen exact-scope digest is malformed")
  let counts ← checkOutcomes input.timeSessionId ⟨0, 0, 0⟩ input.rows
  checkLength (textBytes input.terminalState)
  .ok counts

def bytes (input : TimeOutcomes) (counts : OutcomeCounts) : List UInt8 :=
  asciiBytes "guiying.time-session-outcomes.v2\x00" ++ int64Bytes input.timeSessionId ++
    int64Bytes input.scanRunId ++ input.rows.flatMap GroupOutcomeColumns.bytes ++
    i64Bytes counts.evidence ++ i64Bytes counts.unavailable ++ i64Bytes counts.failed ++
    lengthPrefixed (textBytes input.terminalState) ++ int64Bytes input.expectedGroupCount ++
    input.expectedScopeManifest ++ int64Bytes input.finalizedAtMs

end TimeOutcomes

/-! ## The rows of a query -/

/-- A value of SQLite; the digits of a real are left out. -/
inductive SqlValue where
  | null
  | integer (value : Int64)
  | real
  | text (bytes : List UInt8)
  | blob (bytes : List UInt8)
  deriving DecidableEq

namespace SqlValue

def check : SqlValue → Result Unit
  | null | integer _ => .ok ()
  | real =>
      .error (.invalidInput "time_evidence_manifest"
        "REAL values are forbidden in evidence manifests")
  | text bytes | blob bytes => checkLength bytes

def bytes : SqlValue → List UInt8
  | null => [0]
  | integer value => 1 :: int64Bytes value
  | real => []
  | text bytes => 3 :: lengthPrefixed bytes
  | blob bytes => 4 :: lengthPrefixed bytes

end SqlValue

/-- A query with its label and the number of its columns. -/
structure EvidenceQuery where
  label : String
  columnCount : Nat
  deriving DecidableEq

/-- What a query answered. -/
structure QueryRows (query : EvidenceQuery) where
  rows : List (List SqlValue)
  width : ∀ row ∈ rows, row.length = query.columnCount

namespace QueryRows

variable {query : EvidenceQuery}

def checkRow : List SqlValue → Result Unit
  | [] => .ok ()
  | value :: rest => do
      value.check
      checkRow rest

/-- The number of the rows. -/
def check (answer : QueryRows query) : Result Nat := do
  checkLength (asciiBytes query.label)
  checkRows checkRow (nextCount "time_evidence_manifest" "row count overflow") 0 answer.rows

def rowBytes (row : List SqlValue) : List UInt8 := 0xA5 :: row.flatMap SqlValue.bytes

/-- `hash_sqlite_query_by_id`. -/
def bytes (answer : QueryRows query) : List UInt8 :=
  lengthPrefixed (asciiBytes query.label) ++ answer.rows.flatMap rowBytes ++
    0x5A :: i64Bytes answer.rows.length

end QueryRows

/-- The queries of one manifest with what each answered. -/
inductive QueryAnswers : List EvidenceQuery → Type where
  | nil : QueryAnswers []
  | cons {query : EvidenceQuery} {queries : List EvidenceQuery} (answer : QueryRows query)
      (rest : QueryAnswers queries) : QueryAnswers (query :: queries)

namespace QueryAnswers

def check {queries : List EvidenceQuery} : QueryAnswers queries → Result Unit
  | nil => .ok ()
  | cons answer rest => do
      let _ ← answer.check
      rest.check

def bytes {queries : List EvidenceQuery} : QueryAnswers queries → List UInt8
  | nil => []
  | cons answer rest => answer.bytes ++ rest.bytes

/-- The first query answers one row, or the manifest is refused under `entity`. -/
def checkManifest {query : EvidenceQuery} {queries : List EvidenceQuery} (entity : String)
    (id : Int64) : QueryAnswers (query :: queries) → Result Unit
  | cons answer rest => do
      let headerCount ← answer.check
      refuse (headerCount ≠ 1) (.concurrencyConflict entity id.toInt)
      rest.check

end QueryAnswers

def metadataReportQueries : List EvidenceQuery :=
  [⟨"header", 35⟩, ⟨"fields", 18⟩, ⟨"issues", 7⟩, ⟨"revalidation", 19⟩]

def captureTimeAnalysisQueries : List EvidenceQuery :=
  [⟨"header", 14⟩, ⟨"sources", 6⟩, ⟨"observations", 24⟩, ⟨"candidates", 23⟩,
    ⟨"policy-issues", 8⟩, ⟨"members", 8⟩, ⟨"recommendation", 11⟩]

def checkMetadataReport (reportId : Int64) (answers : QueryAnswers metadataReportQueries) :
    Result Unit := do
  checkPositive "report_id" reportId
  answers.checkManifest "metadata_report_manifest" reportId

def metadataReportBytes (answers : QueryAnswers metadataReportQueries) : List UInt8 :=
  asciiBytes "guiying.metadata-report-manifest.v1\x00" ++ answers.bytes

def checkCaptureTimeAnalysis (analysisBuildId : Int64)
    (answers : QueryAnswers captureTimeAnalysisQueries) : Result Unit := do
  checkPositive "analysis_build_id" analysisBuildId
  answers.checkManifest "capture_time_analysis_manifest" analysisBuildId

def captureTimeAnalysisBytes (answers : QueryAnswers captureTimeAnalysisQueries) : List UInt8 :=
  asciiBytes "guiying.capture-time-analysis-manifest.v1\x00" ++ answers.bytes

/-! ## The digests -/

variable (hash : List UInt8 → Bytes32)

def computeExactGroupMemberLeaf (member : ExactGroupManifestMember) : Result Bytes32 := do
  member.check
  .ok (hash member.leafBytes)

def computeExactGroupManifest (memberLeaves : List Bytes32) : Result Bytes32 := do
  checkGroupManifest memberLeaves
  .ok (hash (groupManifestBytes memberLeaves))

def computeExactGroupKey (runKey : String) (common : ExactFingerprintCommon)
    (manifest : Bytes32) : Result Bytes32 := do
  common.check runKey
  .ok (hash (common.groupKeyBytes runKey manifest))

def recomputeTimeSessionScopeManifest (scanRunId : Int64) (groups : List VerifiedGroupColumns) :
    Result (Nat × Bytes32) := do
  let count ← checkTimeScope scanRunId groups
  .ok (count, hash (timeScopeBytes scanRunId groups))

def recomputeTimeSessionOutcomeManifestForTerminal (input : TimeOutcomes) : Result Bytes32 := do
  let counts ← input.check
  .ok (hash (input.bytes counts))

def recomputeMetadataReportManifest (reportId : Int64)
    (answers : QueryAnswers metadataReportQueries) : Result Bytes32 := do
  checkMetadataReport reportId answers
  .ok (hash (metadataReportBytes answers))

def recomputeCaptureTimeAnalysisManifest (analysisBuildId : Int64)
    (answers : QueryAnswers captureTimeAnalysisQueries) : Result Bytes32 := do
  checkCaptureTimeAnalysis analysisBuildId answers
  .ok (hash (captureTimeAnalysisBytes answers))

end Guiying.Store
