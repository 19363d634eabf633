import Guiying.Store.CaptureTime

/-!
# Filesystem times of group members

What the store expects an assessment to say about the two times of a member, what
it therefore takes from a caller, and what it looks for when the database is
opened again.
-/

namespace Guiying.Store

open Guiying.Foundation Guiying.Foundation.MachineInt

inductive FileTimeRelation where
  | unavailable
  | notCompared
  | «matches»
  | differs
  | reviewFsPrecisionUnknown
  deriving DecidableEq, Repr

def FileTimeRelation.asStorageStr : FileTimeRelation → String
  | .unavailable => "unavailable"
  | .notCompared => "not_compared"
  | .matches => "matches"
  | .differs => "differs"
  | .reviewFsPrecisionUnknown => "review_fs_precision_unknown"

inductive TimeDonorEligibility where
  | eligible
  | ineligible
  | reviewRequired
  deriving DecidableEq, Repr

def TimeDonorEligibility.asStorageStr : TimeDonorEligibility → String
  | .eligible => "eligible"
  | .ineligible => "ineligible"
  | .reviewRequired => "review_required"

/-- What the reader of a group finds of a member's times. -/
structure FileTimestampParts where
  seconds : Int
  nanoseconds : Nat
  deriving DecidableEq, Repr

structure CaptureTimeMemberAssessmentInput where
  memberOrdinal : Int
  mediaObservationSnapshotId : Int
  candidateOrdinal : Option Int
  birthTimeRelation : FileTimeRelation
  modifiedTimeRelation : FileTimeRelation
  donorEligibility : TimeDonorEligibility
  reasonCode : String
  createdAtMs : Int
  deriving DecidableEq, Repr

def CaptureTimeMemberAssessmentInput.new (memberOrdinal mediaObservationSnapshotId : Int)
    (candidateOrdinal : Option Int) (birthTimeRelation modifiedTimeRelation : FileTimeRelation)
    (donorEligibility : TimeDonorEligibility) (reasonCode : String) (createdAtMs : Int) :
    Result CaptureTimeMemberAssessmentInput :=
  if ¬ (0 ≤ memberOrdinal ∧ memberOrdinal ≤ 8191) ∨ mediaObservationSnapshotId ≤ 0 ∨
      candidateOrdinal.any (· < 0) ∨ createdAtMs < 0 then
    .error (.invalidInput "capture_time_member_assessment"
      "member/candidate ordinals and timestamp must be non-negative and observation id positive")
  else do
    validateModelIdentifier "member_assessment_reason_code" reasonCode
    if modifiedTimeRelation = .unavailable then
      .error (.invalidInput "modified_time_relation"
        "modified time is mandatory in the immutable observation snapshot")
    else
      .ok ⟨memberOrdinal, mediaObservationSnapshotId, candidateOrdinal, birthTimeRelation,
        modifiedTimeRelation, donorEligibility, reasonCode, createdAtMs⟩

/-! ## The expected assessment -/

structure StoredMemberCandidate where
  id : Int
  utcSecondsDecimal : List Char
  utcNanoseconds : Int
  precisionNs : Int
  deriving DecidableEq, Repr

structure StoredMemberObservation where
  birthTimeSeconds : Option Int
  birthTimeNanoseconds : Option Int
  modifiedTimeSeconds : Int
  modifiedTimeNanoseconds : Int
  timestampGranularityNs : Option Int
  deriving DecidableEq, Repr

def isNanoseconds (value : Int) : Bool := 0 ≤ value && value < 1000000000

def relationForTimestamp (candidateSeconds candidateNanoseconds filesystemSeconds
    filesystemNanoseconds toleranceNs : Int) : Result FileTimeRelation :=
  if !isNanoseconds candidateNanoseconds || !isNanoseconds filesystemNanoseconds ||
      decide (toleranceNs ≤ 0) then
    .error (.invalidInput "capture_time_member"
      "timestamp components or comparison tolerance are invalid")
  else
    match (checkedI128 (candidateSeconds * 1000000000)).bind fun value =>
        checkedI128 (value + candidateNanoseconds) with
    | none => .error (.invalidInput "capture_time_member" "candidate timestamp overflow")
    | some candidateTotal =>
        let filesystemTotal := filesystemSeconds * 1000000000 + filesystemNanoseconds
        match (checkedI128 (candidateTotal - filesystemTotal)).bind fun value =>
            checkedI128 value.natAbs with
        | none => .error (.invalidInput "capture_time_member" "timestamp difference overflow")
        | some difference => .ok (if difference ≤ toleranceNs then .matches else .differs)

/-- The relations of the birth and the modified time, and the reason. -/
abbrev Expected := FileTimeRelation × FileTimeRelation × String

/-- Both components of the birth time, or none of them. -/
def storedBirthTime (observation : StoredMemberObservation) : Result (Option (Int × Int)) :=
  match observation.birthTimeSeconds, observation.birthTimeNanoseconds with
  | some seconds, some nanoseconds =>
      if isNanoseconds nanoseconds then .ok (some (seconds, nanoseconds))
      else
        .error (.invalidInput "capture_time_member"
          "stored birth timestamp components are inconsistent")
  | none, none => .ok none
  | _, _ =>
      .error (.invalidInput "capture_time_member"
        "stored birth timestamp components are inconsistent")

def expectedMemberAssessment (candidate : Option StoredMemberCandidate)
    (observation : StoredMemberObservation) : Result Expected := do
  let birthTime ← storedBirthTime observation
  if !isNanoseconds observation.modifiedTimeNanoseconds then
    .error (.invalidInput "capture_time_member" "stored modified timestamp nanoseconds are invalid")
  else
    match candidate with
    | none =>
        .ok (if birthTime.isSome then .notCompared else .unavailable, .notCompared,
          "no_strong_embedded_candidate")
    | some candidate =>
        match observation.timestampGranularityNs with
        | none =>
            .ok (if birthTime.isSome then .reviewFsPrecisionUnknown else .unavailable,
              .reviewFsPrecisionUnknown, "fs_precision_unknown")
        | some granularityNs =>
            if granularityNs ≤ 0 ∨
                ¬ (1 ≤ candidate.precisionNs ∧ candidate.precisionNs ≤ 1000000000) then
              .error (.invalidInput "capture_time_member"
                "stored filesystem or candidate precision is invalid")
            else
              let candidateSeconds ← parseStoredUtcSeconds candidate.utcSecondsDecimal
              let toleranceNs := max granularityNs candidate.precisionNs
              let birthRelation ←
                match birthTime with
                | some (seconds, nanoseconds) =>
                    relationForTimestamp candidateSeconds candidate.utcNanoseconds seconds
                      nanoseconds toleranceNs
                | none => .ok .unavailable
              let modifiedRelation ← relationForTimestamp candidateSeconds
                candidate.utcNanoseconds observation.modifiedTimeSeconds
                observation.modifiedTimeNanoseconds toleranceNs
              .ok (birthRelation, modifiedRelation,
                if birthRelation = .matches ∨ modifiedRelation = .matches then
                  "embedded_time_matches_fs"
                else "embedded_time_differs_fs")

/-- The check of `append_capture_time_members` on one input. -/
def validateMemberAssessmentPolicy (input : CaptureTimeMemberAssessmentInput)
    (candidate : Option StoredMemberCandidate) (observation : StoredMemberObservation) :
    Result Unit := do
  let expected ← expectedMemberAssessment candidate observation
  if input.birthTimeRelation ≠ expected.1 ∨ input.modifiedTimeRelation ≠ expected.2.1 ∨
      input.donorEligibility ≠ .ineligible ∨ input.reasonCode ≠ expected.2.2 then
    .error (.invalidInput "capture_time_member"
      "member filesystem-time relations or reason do not match persisted UTC evidence and precision")
  else .ok ()

/-! ## The audit -/

/-- The candidate columns that the audit joins to a member. -/
structure JoinedCandidate where
  id : Int
  utcSecondsDecimal : Option (List Char)
  utcNanoseconds : Option Int
  precisionNs : Option Int
  evidenceGate : String
  semanticKind : String
  deriving DecidableEq, Repr

/-- A stored assessment with the candidate of its id and the observation of its member. -/
structure MemberRow where
  analysisBuildId : Int
  memberOrdinal : Int
  birthTimeRelation : String
  modifiedTimeRelation : String
  donorEligibility : String
  reasonCode : String
  candidateId : Option Int
  candidate : Option JoinedCandidate
  observation : StoredMemberObservation
  deriving DecidableEq, Repr

/-- The rules of `validate_capture_time_declared_bounds` about relations and reasons. -/
def declaredMemberViolation (row : MemberRow) : Bool :=
  row.birthTimeRelation ∉ ["unavailable", "not_compared", "matches", "differs",
    "review_fs_precision_unknown"] ||
  row.modifiedTimeRelation ∉ ["not_compared", "matches", "differs",
    "review_fs_precision_unknown"] ||
  row.donorEligibility != "ineligible" ||
  (row.birthTimeRelation == "unavailable") != row.observation.birthTimeSeconds.isNone ||
  (row.candidateId.isNone &&
    (row.birthTimeRelation ∉ ["unavailable", "not_compared"] ||
      row.modifiedTimeRelation != "not_compared" ||
      row.reasonCode != "no_strong_embedded_candidate")) ||
  (row.candidateId.isSome &&
    (row.candidate.isNone ||
      row.candidate.any (fun candidate => candidate.evidenceGate != "eligible") ||
      row.candidate.any (fun candidate => candidate.semanticKind != "utc") ||
      (row.observation.timestampGranularityNs.isNone &&
        (row.birthTimeRelation !=
            (if row.observation.birthTimeSeconds.isNone then "unavailable"
              else "review_fs_precision_unknown") ||
          row.modifiedTimeRelation != "review_fs_precision_unknown" ||
          row.reasonCode != "fs_precision_unknown")) ||
      (row.observation.timestampGranularityNs.isSome &&
        (row.birthTimeRelation ∉ ["unavailable", "matches", "differs"] ||
          row.modifiedTimeRelation ∉ ["matches", "differs"] ||
          row.reasonCode !=
            (if row.birthTimeRelation == "matches" || row.modifiedTimeRelation == "matches" then
              "embedded_time_matches_fs"
            else "embedded_time_differs_fs")))))

/-- The candidate of a row, which has to be eligible evidence of a UTC instant. -/
def joinedMemberCandidate (row : MemberRow) : Result (Option StoredMemberCandidate) :=
  match row.candidateId, row.candidate with
  | some id, some joined =>
      if joined.id = id ∧ joined.evidenceGate = "eligible" ∧ joined.semanticKind = "utc" then
        match joined.utcSecondsDecimal, joined.utcNanoseconds, joined.precisionNs with
        | none, _, _ =>
            .error (.invalidInput "capture_time_member"
              "eligible member candidate has no UTC seconds")
        | _, none, _ =>
            .error (.invalidInput "capture_time_member"
              "eligible member candidate has no UTC nanoseconds")
        | _, _, none =>
            .error (.invalidInput "capture_time_member"
              "eligible member candidate has no precision")
        | some seconds, some nanoseconds, some precision =>
            .ok (some ⟨id, seconds, nanoseconds, precision⟩)
      else
        .error (.invalidInput "capture_time_member"
          "member candidate is detached or not eligible UTC evidence")
  | some _, none =>
      .error (.invalidInput "capture_time_member"
        "member candidate is detached or not eligible UTC evidence")
  | none, _ => .ok none

/-- One row of `validate_capture_time_member_relations`. -/
def validateMemberRelation (row : MemberRow) : Result Unit := do
  if row.donorEligibility ≠ "ineligible" then
    .error (.invalidInput "capture_time_member"
      s!"analysis {row.analysisBuildId} member {row.memberOrdinal} has detached observation or forbidden donor status")
  else
    let candidate ← joinedMemberCandidate row
    let expected ← expectedMemberAssessment candidate row.observation
    if row.birthTimeRelation ≠ expected.1.asStorageStr ∨
        row.modifiedTimeRelation ≠ expected.2.1.asStorageStr ∨ row.reasonCode ≠ expected.2.2 then
      .error (.invalidInput "capture_time_member"
        s!"analysis {row.analysisBuildId} member {row.memberOrdinal} stores a false filesystem-time relation")
    else .ok ()

/-- The audit takes a row: neither its declared bounds nor its relations are violated. -/
def auditAccepts (row : MemberRow) : Prop :=
  declaredMemberViolation row = false ∧ validateMemberRelation row = .ok ()

instance (row : MemberRow) : Decidable (auditAccepts row) := inferInstanceAs (Decidable (_ ∧ _))

end Guiying.Store
