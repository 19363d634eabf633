import Guiying.Store.MemberTimes
import Guiying.Time.Timestamp

/-!
# From the time policy to the store

The runtime turns the values of the policy into the values the store takes, and
compares the embedded time of a group with the filesystem times of its members.
-/

namespace Guiying.Runtime

open Guiying.Foundation Guiying.Foundation.MachineInt
open Guiying.Store
open Guiying.Time (NormalizedTimestamp UtcInstant OffsetKind nanosPerSecond)

inductive RuntimeError where
  | store (error : StoreError)
  | unsupportedEvidence (reason : String)
  | numericRange (what : String)
  deriving DecidableEq, Repr

abbrev RuntimeResult (α : Type) := Except RuntimeError α

/-- `?` on a result of the store. -/
def fromStore {α : Type} (result : Store.Result α) : RuntimeResult α :=
  match result with
  | .ok value => .ok value
  | .error error => .error (.store error)

theorem fromStore_eq_ok {α : Type} {result : Store.Result α} {value : α}
    (ok : fromStore result = .ok value) : result = .ok value := by
  cases result with
  | ok _ =>
      cases ok
      rfl
  | error _ => cases ok

/-! ## Normalized times -/

def normalizedCaptureTime (timestamp : NormalizedTimestamp) :
    RuntimeResult NormalizedCaptureTime := do
  let wall := timestamp.wallTime
  let wall ← fromStore (CaptureWallTime.new wall.year wall.month wall.day wall.hour wall.minute
    wall.second wall.nanosecond)
  let precisionNs := timestamp.precision.nanoseconds
  match timestamp.offsetKind with
  | .missing =>
      if timestamp.utcOffset.isSome ∨ timestamp.utcInstant.isSome then
        .error (.unsupportedEvidence "floating timestamp unexpectedly carries a UTC interpretation")
      else fromStore (NormalizedCaptureTime.floating wall precisionNs)
  | .explicit =>
      match timestamp.utcOffset with
      | none => .error (.unsupportedEvidence "explicit timestamp is missing its UTC offset")
      | some offset =>
          match timestamp.utcInstant with
          | none => .error (.unsupportedEvidence "explicit timestamp is missing its UTC instant")
          | some instant =>
              fromStore (NormalizedCaptureTime.explicitUtc wall offset.minutes
                (Decimal.text instant.unixSeconds) instant.nanosecond precisionNs)
  | .quickTimeEpochAssumedUtc =>
      match timestamp.utcOffset with
      | none =>
          .error (.unsupportedEvidence "QuickTime timestamp is missing its assumed UTC offset")
      | some offset =>
          if offset.minutes ≠ 0 then
            .error (.unsupportedEvidence "QuickTime epoch timestamp has a nonzero UTC offset")
          else
            match timestamp.utcInstant with
            | none => .error (.unsupportedEvidence "QuickTime timestamp is missing its UTC instant")
            | some instant =>
                fromStore (NormalizedCaptureTime.quicktimeEpochAssumedUtc wall
                  (Decimal.text instant.unixSeconds) instant.nanosecond precisionNs)

/-! ## Members -/

/-- What the assessment of a member reads of it. -/
structure DuplicateGroupMemberRecord where
  ordinal : Int
  observationId : Int
  birthTime : Option FileTimestampParts
  modifiedTime : FileTimestampParts
  timestampGranularityNs : Option Int
  deriving DecidableEq, Repr

def compareFileTimestamp (value : FileTimestampParts) (granularityNs : Int)
    (candidate : NormalizedTimestamp) : RuntimeResult FileTimeRelation :=
  if value.nanoseconds ≥ nanosPerSecond then
    .error (.unsupportedEvidence "filesystem timestamp nanoseconds are out of range")
  else if granularityNs ≤ 0 then .ok .reviewFsPrecisionUnknown
  else
    match candidate.utcInstant with
    | none =>
        .error (.unsupportedEvidence "filesystem comparison requires a UTC embedded candidate")
    | some instant =>
        match (checkedI128 (value.seconds * nanosPerSecond)).bind fun seconds =>
            checkedI128 (seconds + value.nanoseconds) with
        | none => .error (.numericRange "filesystem timestamp nanoseconds")
        | some fileNs =>
            match instant.totalNanoseconds with
            | none => .error (.numericRange "embedded timestamp nanoseconds")
            | some candidateNs =>
                let difference :=
                  if fileNs ≥ candidateNs then fileNs - candidateNs else candidateNs - fileNs
                let tolerance := max granularityNs candidate.precision.nanoseconds
                .ok (if difference ≤ tolerance then .matches else .differs)

structure MemberFilesystemTimeAssessment where
  candidateOrdinal : Option Int
  birthRelation : FileTimeRelation
  modifiedRelation : FileTimeRelation
  reasonCode : String
  deriving DecidableEq, Repr

def assessMemberFilesystemTimes (member : DuplicateGroupMemberRecord)
    (strongCandidate : Option (Int × NormalizedTimestamp)) :
    RuntimeResult MemberFilesystemTimeAssessment :=
  match strongCandidate with
  | some (candidateOrdinal, candidate) =>
      match member.timestampGranularityNs with
      | some granularityNs => do
          let birthRelation ←
            match member.birthTime with
            | some value => compareFileTimestamp value granularityNs candidate
            | none => .ok .unavailable
          let modifiedRelation ← compareFileTimestamp member.modifiedTime granularityNs candidate
          let reasonCode :=
            if (birthRelation = .matches ∨ birthRelation = .unavailable) ∧
                modifiedRelation = .matches then
              "embedded_time_matches_fs"
            else "embedded_time_differs_fs"
          .ok ⟨some candidateOrdinal, birthRelation, modifiedRelation, reasonCode⟩
      | none =>
          .ok ⟨some candidateOrdinal,
            if member.birthTime.isSome then .reviewFsPrecisionUnknown else .unavailable,
            .reviewFsPrecisionUnknown, "fs_precision_unknown"⟩
  | none =>
      .ok ⟨none, if member.birthTime.isSome then .notCompared else .unavailable, .notCompared,
        "no_strong_embedded_candidate"⟩

def memberAssessment (member : DuplicateGroupMemberRecord)
    (strongCandidate : Option (Int × NormalizedTimestamp)) (createdAtMs : Int) :
    RuntimeResult CaptureTimeMemberAssessmentInput := do
  let assessment ← assessMemberFilesystemTimes member strongCandidate
  fromStore (CaptureTimeMemberAssessmentInput.new member.ordinal member.observationId
    assessment.candidateOrdinal assessment.birthRelation assessment.modifiedRelation .ineligible
    assessment.reasonCode createdAtMs)

end Guiying.Runtime
