import Guiying.Foundation.SortedSet
import Guiying.Metadata.Report
import Guiying.Time.Timestamp

/-!
# Time evidence

The vocabulary of the evidence policy: sources and their identities, the strict
reading of each field, candidates with the gate that guards them, and the
diagnostics the policy raises.
-/

namespace Guiying.Time

open Guiying.Foundation Guiying.Metadata

def maxStrongEvidenceToleranceSeconds : Nat := 5
def maxIntegerHourResidualToleranceSeconds : Nat := 5
def maxObviousFutureToleranceSeconds : Nat := 7 * 24 * 60 * 60
def maxSuspectedOffsetHours : Nat := 14

def maxAnalysisSources : Nat := 4096
def maxAnalysisObservations : Nat := 8192
def maxAnalysisExtractionIssues : Nat := 8192
def maxAnalysisRawBytes : Nat := 32 * 1024 * 1024
def maxAnalysisSentinelRules : Nat := 1024
def maxAnalysisBmffPathComponents : Nat := 6 * maxAnalysisObservations
def maxAnalysisPolicyIssues : Nat := 262144

def hardSentinelYears : List Nat := [1904, 1970, 1980]
def minAutomaticUnixNanoseconds : Int := -2 ^ 63
def maxAutomaticUnixNanoseconds : Int := 2 ^ 63 - 1

/-- Identity persisted with normalized candidates and policy decisions. -/
structure PolicyIdentity where
  name : String
  version : String
  deriving DecidableEq

def policyIdentity : PolicyIdentity := ⟨"guiying-time", "0.1.0"⟩

/-! ## Sources -/

/-- Caller-defined identity for one concrete input source. -/
structure SourceKey where
  bytes : Bytes32

namespace SourceKey

theorem bytes_injective : Function.Injective bytes := by
  rintro ⟨left⟩ ⟨right⟩ same
  cases same
  rfl

instance : LinearOrder SourceKey := LinearOrder.lift' bytes bytes_injective

end SourceKey

/-- Provenance family: copies of one original share the key, so copies cannot vote. -/
structure LineageKey where
  bytes : Bytes32

namespace LineageKey

theorem bytes_injective : Function.Injective bytes := by
  rintro ⟨left⟩ ⟨right⟩ same
  cases same
  rfl

instance : LinearOrder LineageKey := LinearOrder.lift' bytes bytes_injective

end LineageKey

/-- Whether raw locators were re-extracted from the caller's pinned source. -/
inductive EvidenceBindingStatus where
  | unverified
  | reextractedFromPinnedSource
  deriving DecidableEq

/-- One metadata extraction report and its caller-proven source identities. -/
structure EvidenceSource where
  sourceKey : SourceKey
  lineageKey : LineageKey
  report : ExtractionReport
  binding : EvidenceBindingStatus

/-! ## Policy inputs -/

/-- An additional caller-controlled sentinel rule. -/
inductive SentinelRule where
  | year (year : Nat)
  | date (year month day : Nat)
  | wallTime (value : WallTime)
  | unixSecond (value : Int)

/-- Explicit inputs controlling plausibility and conflict policy. -/
structure PolicyContext where
  referenceUtc : UtcInstant
  referenceWallTime : Option WallTime
  automaticEarliestUtc : Option UtcInstant
  automaticLatestUtc : Option UtcInstant
  obviousFutureToleranceSeconds : Nat
  strongEvidenceToleranceSeconds : Nat
  integerHourResidualToleranceSeconds : Nat
  maximumSuspectedOffsetHours : Nat
  sentinelRules : List SentinelRule

namespace PolicyContext

/-- Conservative defaults around a reference instant. -/
def conservative (referenceUtc : UtcInstant) : PolicyContext where
  referenceUtc := referenceUtc
  referenceWallTime := none
  automaticEarliestUtc := none
  automaticLatestUtc := none
  obviousFutureToleranceSeconds := 48 * 60 * 60
  strongEvidenceToleranceSeconds := 2
  integerHourResidualToleranceSeconds := 2
  maximumSuspectedOffsetHours := 14
  sentinelRules := []

end PolicyContext

/-! ## Observations and candidates -/

/-- Strict interpretation retained beside every raw metadata field. -/
inductive ObservationInterpretation where
  | timestamp (value : NormalizedTimestamp)
  | offset (value : UtcOffset)
  | subsecond (nanosecond digits : Nat) (precision : TimePrecision)
  | rejected (error : TimestampParseError)
  deriving DecidableEq

/-- Raw evidence, its source identity, and the strict parse result. -/
structure EvidenceObservation where
  sourceKey : SourceKey
  lineageKey : LineageKey
  field : MetadataField
  interpretation : ObservationInterpretation

/-- Timestamp evidence source semantics. -/
inductive TimeEvidenceKind where
  | exifDateTimeOriginal
  | exifCreateDate
  | exifModifyDate
  | quickTimeMetadataCreationDate
  | quickTimeMovieHeaderCreationTime

theorem TimeEvidenceKind.ctorIdx_injective : Function.Injective TimeEvidenceKind.ctorIdx :=
  SortedSet.injective_of_listed
    [.exifDateTimeOriginal, .exifCreateDate, .exifModifyDate, .quickTimeMetadataCreationDate,
      .quickTimeMovieHeaderCreationTime]
    fun value => by cases value <;> rfl

instance : LinearOrder TimeEvidenceKind :=
  LinearOrder.lift' TimeEvidenceKind.ctorIdx TimeEvidenceKind.ctorIdx_injective

/-- Candidate confidence from this evidence policy only. -/
inductive Confidence where
  | conflict
  | low
  | medium
  | high
  deriving DecidableEq

inductive CandidateAnomaly where
  | missingOffset
  | sentinelValue
  | obviousFuture
  | outsideAutomaticRange
  | quickTimeEpochSemanticUncertainty
  | invalidCompanion

theorem CandidateAnomaly.ctorIdx_injective : Function.Injective CandidateAnomaly.ctorIdx :=
  SortedSet.injective_of_listed
    [.missingOffset, .sentinelValue, .obviousFuture, .outsideAutomaticRange,
      .quickTimeEpochSemanticUncertainty, .invalidCompanion]
    fun value => by cases value <;> rfl

instance : LinearOrder CandidateAnomaly :=
  LinearOrder.lift' CandidateAnomaly.ctorIdx CandidateAnomaly.ctorIdx_injective

/-- Why timestamp evidence cannot enter an automatic repair plan. -/
inductive EvidenceGateBlocker where
  | confidenceBelowHigh
  | noUtcInstant
  | evidenceConflict
  | sentinelValue
  | obviousFuture
  | outsideAutomaticRange
  | quickTimeEpochSemanticUncertainty
  | invalidEvidencePresent
  | extractionReportUntrusted
  | sourceNotRevalidated
  | multipleStrongValuesWithinTolerance

theorem EvidenceGateBlocker.ctorIdx_injective : Function.Injective EvidenceGateBlocker.ctorIdx :=
  SortedSet.injective_of_listed
    [.confidenceBelowHigh, .noUtcInstant, .evidenceConflict, .sentinelValue, .obviousFuture,
      .outsideAutomaticRange, .quickTimeEpochSemanticUncertainty, .invalidEvidencePresent,
      .extractionReportUntrusted, .sourceNotRevalidated, .multipleStrongValuesWithinTolerance]
    fun value => by cases value <;> rfl

instance : LinearOrder EvidenceGateBlocker :=
  LinearOrder.lift' EvidenceGateBlocker.ctorIdx EvidenceGateBlocker.ctorIdx_injective

/-- Evidence-only action gate. -/
inductive EvidenceGateDecision where
  | eligible
  | blocked (blockers : List EvidenceGateBlocker)
  deriving DecidableEq

/-- A normalized candidate with auditable, lineage-deduplicated support. -/
structure TimeCandidate where
  timestamp : NormalizedTimestamp
  evidenceKinds : List TimeEvidenceKind
  supportingSources : List SourceKey
  supportingLineages : List LineageKey
  observationIndices : List Nat
  confidence : Confidence
  anomalies : List CandidateAnomaly
  evidenceGate : EvidenceGateDecision

/-! ## Diagnostics and results -/

inductive PolicyIssueCode where
  | invalidField
  | invalidCompanion
  | orphanExifCompanion
  | repeatedFieldConflict
  | lineageConflict
  | strongEvidenceConflict
  | strongEvidenceWithinToleranceAmbiguous
  | possibleTimezoneConflict
  | sentinelValue
  | obviousFuture
  | outsideAutomaticRange
  | quickTimeEpochSemanticUncertainty
  | extractionReportUntrusted
  | extractionReportContradiction
  | parserIdentityMismatch
  | fieldEncodingMismatch
  | containerFormatMismatch
  | metadataLocatorMismatch
  | duplicateSourceIdentity
  | unknownParserIdentity
  | extractionBudgetContradiction
  | analysisLimitExceeded
  deriving DecidableEq

/-- Bounded, raw-byte-free policy diagnostic. -/
structure PolicyIssue where
  code : PolicyIssueCode
  fieldKind : Option MetadataFieldKind
  observationIndices : List Nat
  sourceKeys : List SourceKey
  lineageKeys : List LineageKey
  context : String

/-- Original extractor issue with caller-proven source identity. -/
structure SourceExtractionIssue where
  sourceKey : SourceKey
  lineageKey : LineageKey
  issue : MetadataIssue

/-- Extraction status retained even when a report emitted no field. -/
structure SourceReportStatus where
  sourceKey : SourceKey
  lineageKey : LineageKey
  parser : ParserIdentity
  status : ExtractionStatus
  binding : EvidenceBindingStatus

/-- Final evidence-policy decision. -/
inductive AnalysisDecision where
  | noUsableEvidence
  | reviewRequired (candidateIndex : Nat)
  | evidenceEligible (candidateIndex : Nat)
  | conflict
  deriving DecidableEq

/-- Complete result of normalization and policy evaluation. -/
structure TimeAnalysis where
  policy : PolicyIdentity
  sourceReports : List SourceReportStatus
  extractionIssues : List SourceExtractionIssue
  observations : List EvidenceObservation
  candidates : List TimeCandidate
  issues : List PolicyIssue
  decision : AnalysisDecision

end Guiying.Time
