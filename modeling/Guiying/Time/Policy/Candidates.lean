import Guiying.Time.Policy.Conflicts
import Mathlib.Data.Finset.Insert

/-!
# Candidates and the evidence gate

Atoms with the same timestamp merge into one candidate. Its gate collects every
reason against automatic use; only a candidate without a blocker is eligible,
and a last pass blocks high candidates that are near but not identical.
-/

namespace Guiying.Time.Policy

open Guiying.Foundation Guiying.Foundation.SortedSet Guiying.Foundation.MachineInt
open Guiying.Metadata

/-! ## Sentinels and plausibility -/

structure SentinelIndex where
  years : Finset Nat
  dates : Finset (Nat × Nat × Nat)
  wallTimes : Finset WallTime
  unixSeconds : Finset Int

namespace SentinelIndex

def insertRule (index : SentinelIndex) : SentinelRule → SentinelIndex
  | .year year => { index with years := insert year index.years }
  | .date year month day => { index with dates := insert (year, month, day) index.dates }
  | .wallTime value => { index with wallTimes := insert value index.wallTimes }
  | .unixSecond value => { index with unixSeconds := insert value index.unixSeconds }

def fromRules (rules : List SentinelRule) : SentinelIndex :=
  rules.foldl insertRule ⟨∅, ∅, ∅, ∅⟩

def «matches» (index : SentinelIndex) (timestamp : NormalizedTimestamp) : Bool :=
  let wall := timestamp.wallTime
  wall.year ∈ index.years || (wall.year, wall.month, wall.day) ∈ index.dates ||
    wall ∈ index.wallTimes ||
    timestamp.utcInstant.any fun instant => instant.unixSeconds ∈ index.unixSeconds

end SentinelIndex

def isObviouslyFuture (timestamp : NormalizedTimestamp) (context : PolicyContext) : Bool :=
  let tolerance := secondsToNanoseconds
    (min context.obviousFutureToleranceSeconds maxObviousFutureToleranceSeconds)
  match timestamp.utcInstant with
  | some instant =>
      match instant.totalNanoseconds, context.referenceUtc.totalNanoseconds with
      | some value, some reference => value > saturateI128 (reference + tolerance)
      | _, _ => true
  | none =>
      match context.referenceWallTime with
      | none => false
      | some reference =>
          let referenceValue := saturateI128
            (saturateI128 (reference.naiveUnixSeconds * nanosPerSecond) + reference.nanosecond)
          match wallTotalNanoseconds timestamp with
          | none => true
          | some value => value > saturateI128 (referenceValue + tolerance)

def instantTotalBound (instant : UtcInstant) : Int :=
  instant.totalNanoseconds.getD (if instant.unixSeconds < 0 then i128Min else i128Max)

def isInsideAutomaticRange (timestamp : NormalizedTimestamp) (context : PolicyContext) : Bool :=
  match timestamp.utcInstant with
  | none => true
  | some instant =>
      match instant.totalNanoseconds with
      | none => false
      | some value =>
          let callerEarliest :=
            (context.automaticEarliestUtc.map instantTotalBound).getD minAutomaticUnixNanoseconds
          let callerLatest :=
            (context.automaticLatestUtc.map instantTotalBound).getD maxAutomaticUnixNanoseconds
          let earliest := max minAutomaticUnixNanoseconds callerEarliest
          let latest := min maxAutomaticUnixNanoseconds callerLatest
          decide (earliest ≤ latest ∧ earliest ≤ value ∧ value ≤ latest)

/-! ## Merging atoms -/

structure CandidateWork where
  timestamp : NormalizedTimestamp
  kinds : List TimeEvidenceKind
  sources : List SourceKey
  lineages : List LineageKey
  observations : List Nat
  baseConfidence : Confidence
  conflicted : Bool
  invalidCompanion : Bool
  allSourcesVerified : Bool

def confidenceRank : Confidence → Nat
  | .conflict => 0
  | .low => 1
  | .medium => 2
  | .high => 3

def higherConfidence (left right : Confidence) : Confidence :=
  if confidenceRank left ≥ confidenceRank right then left else right

def mergeAtom (atom : Atom) : Option CandidateWork → CandidateWork
  | some existing =>
      { existing with
        kinds := existing.kinds ++ [atom.kind]
        sources := existing.sources ++ [atom.sourceKey]
        lineages := existing.lineages ++ [atom.lineageKey]
        observations := existing.observations ++ atom.observationIndices
        baseConfidence := higherConfidence existing.baseConfidence atom.baseConfidence
        conflicted := existing.conflicted || atom.conflicted
        invalidCompanion := existing.invalidCompanion || atom.invalidCompanion
        allSourcesVerified := existing.allSourcesVerified && atom.sourceVerified }
  | none =>
      { timestamp := atom.timestamp
        kinds := [atom.kind]
        sources := [atom.sourceKey]
        lineages := [atom.lineageKey]
        observations := atom.observationIndices
        baseConfidence := atom.baseConfidence
        conflicted := atom.conflicted
        invalidCompanion := atom.invalidCompanion
        allSourcesVerified := atom.sourceVerified }

def candidateAnomalies (candidate : CandidateWork) (context : PolicyContext)
    (sentinelIndex : SentinelIndex) : List CandidateAnomaly :=
  raiseIf candidate.timestamp.utcInstant.isNone .missingOffset ++
    raiseIf (candidate.kinds.contains .quickTimeMovieHeaderCreationTime)
      .quickTimeEpochSemanticUncertainty ++
    raiseIf (hardSentinelYears.contains candidate.timestamp.wallTime.year ||
      sentinelIndex.matches candidate.timestamp) .sentinelValue ++
    raiseIf (isObviouslyFuture candidate.timestamp context) .obviousFuture ++
    raiseIf (!isInsideAutomaticRange candidate.timestamp context) .outsideAutomaticRange

/-- The flags of the whole analysis that every gate looks at. -/
structure AnalysisFlags where
  globalConflict : Bool
  invalidEvidence : Bool
  extractionUntrusted : Bool

def evidenceGate (confidence : Confidence) (timestamp : NormalizedTimestamp)
    (anomalies : List CandidateAnomaly) (flags : AnalysisFlags) (allSourcesVerified : Bool) :
    EvidenceGateDecision :=
  let blockers := sortDedup (
    raiseIf (confidence != .high) EvidenceGateBlocker.confidenceBelowHigh ++
    raiseIf timestamp.utcInstant.isNone .noUtcInstant ++
    raiseIf (flags.globalConflict || confidence == .conflict) .evidenceConflict ++
    raiseIf (anomalies.contains .sentinelValue) .sentinelValue ++
    raiseIf (anomalies.contains .obviousFuture) .obviousFuture ++
    raiseIf (anomalies.contains .outsideAutomaticRange) .outsideAutomaticRange ++
    raiseIf (anomalies.contains .quickTimeEpochSemanticUncertainty)
      .quickTimeEpochSemanticUncertainty ++
    raiseIf (flags.invalidEvidence || anomalies.contains .invalidCompanion)
      .invalidEvidencePresent ++
    raiseIf flags.extractionUntrusted .extractionReportUntrusted ++
    raiseIf (!allSourcesVerified) .sourceNotRevalidated)
  if blockers = [] then .eligible else .blocked blockers

def anomalyIssue : CandidateAnomaly → Option (PolicyIssueCode × String)
  | .sentinelValue =>
      some (.sentinelValue, "candidate matches a non-removable or caller-supplied sentinel rule")
  | .obviousFuture =>
      some (.obviousFuture, "candidate is beyond the caller-supplied future tolerance")
  | .outsideAutomaticRange =>
      some (.outsideAutomaticRange,
        "candidate is outside the non-widenable automatic timestamp range")
  | .quickTimeEpochSemanticUncertainty =>
      some (.quickTimeEpochSemanticUncertainty,
        "mvhd epoch semantics are uncertain and never sufficient alone")
  | .missingOffset | .invalidCompanion => none

def isImplausible (anomaly : CandidateAnomaly) : Bool :=
  match anomaly with
  | .sentinelValue | .obviousFuture | .outsideAutomaticRange => true
  | _ => false

/-- Canonical lists in a merged candidate: sorted, without repetition. -/
def canonicalWork (candidate : CandidateWork) : CandidateWork :=
  { candidate with
    kinds := sortDedup candidate.kinds
    sources := sortDedup candidate.sources
    lineages := sortDedup candidate.lineages
    observations := sortDedup candidate.observations }

def settledConfidence (conflict : Bool) (anomalies : List CandidateAnomaly)
    (baseConfidence : Confidence) : Confidence :=
  if conflict then .conflict
  else if anomalies.any isImplausible then .low
  else baseConfidence

def finishCandidate (context : PolicyContext) (sentinelIndex : SentinelIndex)
    (flags : AnalysisFlags) (merged : CandidateWork) : TimeCandidate × List PolicyIssue :=
  let candidate := canonicalWork merged
  let anomalies := sortDedup (candidateAnomalies candidate context sentinelIndex ++
    raiseIf candidate.invalidCompanion .invalidCompanion)
  let issues := anomalies.filterMap fun anomaly =>
    (anomalyIssue anomaly).map fun (code, message) =>
      { code := code
        fieldKind := none
        observationIndices := candidate.observations
        sourceKeys := candidate.sources
        lineageKeys := candidate.lineages
        context := message : PolicyIssue }
  let confidence := settledConfidence (candidate.conflicted || flags.globalConflict) anomalies
    candidate.baseConfidence
  ({ timestamp := candidate.timestamp
     evidenceKinds := candidate.kinds
     supportingSources := candidate.sources
     supportingLineages := candidate.lineages
     observationIndices := candidate.observations
     confidence := confidence
     anomalies := anomalies
     evidenceGate := evidenceGate confidence candidate.timestamp anomalies flags
       candidate.allSourcesVerified },
    issues)

def mergeAtoms (atoms : List Atom) : OrderedMap NormalizedTimestamp CandidateWork :=
  .collect (·.timestamp) mergeAtom atoms

def buildCandidates (atoms : List Atom) (context : PolicyContext) (sentinelIndex : SentinelIndex)
    (flags : AnalysisFlags) : List TimeCandidate × List PolicyIssue :=
  let finished := (mergeAtoms atoms).values.map (finishCandidate context sentinelIndex flags)
  (finished.map Prod.fst, finished.flatMap Prod.snd)

/-! ## Near candidates -/

def evidencePriorityOf : TimeEvidenceKind → Nat
  | .exifDateTimeOriginal => 5
  | .quickTimeMetadataCreationDate => 4
  | .exifCreateDate => 3
  | .exifModifyDate => 2
  | .quickTimeMovieHeaderCreationTime => 1

def evidencePriority (kinds : List TimeEvidenceKind) : Nat :=
  (kinds.map evidencePriorityOf).foldr max 0

def addGateBlocker (gate : EvidenceGateDecision) (blocker : EvidenceGateBlocker) :
    EvidenceGateDecision :=
  match gate with
  | .eligible => .blocked [blocker]
  | .blocked blockers => .blocked (sortDedup (blockers ++ [blocker]))

/-- A high candidate with the two values it is grouped by and its index. -/
structure HighCandidate where
  priority : Nat
  value : Int
  index : Nat
  candidate : TimeCandidate

def highCandidate (entry : TimeCandidate × Nat) : Option HighCandidate :=
  if entry.1.confidence = .high then
    (utcTotalNanoseconds entry.1.timestamp).map fun value =>
      ⟨evidencePriority entry.1.evidenceKinds, value, entry.2, entry.1⟩
  else none

/-- Neighbouring instants of one priority that lie within the tolerance. -/
def nearPairs (tolerance : Int) :
    List (Int × List HighCandidate) → List (List HighCandidate)
  | (leftValue, left) :: (rightValue, right) :: rest =>
      if saturatingSub rightValue leftValue ≤ tolerance then
        (left ++ right) :: nearPairs tolerance ((rightValue, right) :: rest)
      else nearPairs tolerance ((rightValue, right) :: rest)
  | _ => []

def blockNearCandidatePair (candidates : List TimeCandidate) (pair : List HighCandidate) :
    List TimeCandidate :=
  candidates.mapIdx fun index candidate =>
    if index ∈ pair.map (·.index) then
      { candidate with evidenceGate :=
          addGateBlocker candidate.evidenceGate .multipleStrongValuesWithinTolerance }
    else candidate

def nearPairIssue (pair : List HighCandidate) : PolicyIssue where
  code := .strongEvidenceWithinToleranceAmbiguous
  fieldKind := none
  observationIndices := sortDedup (pair.flatMap (·.candidate.observationIndices))
  sourceKeys := sortDedup (pair.flatMap (·.candidate.supportingSources))
  lineageKeys := sortDedup (pair.flatMap (·.candidate.supportingLineages))
  context :=
    "equal-rank strong values are close but not identical; review chooses the exact value"

/-- Every pair of neighbouring instants that blocks its candidates. -/
def ambiguousPairs (candidates : List TimeCandidate) (context : PolicyContext) :
    List (List HighCandidate) :=
  let tolerance := secondsToNanoseconds (effectiveStrongTolerance context)
  let groups := OrderedMap.groupBy HighCandidate.priority (candidates.zipIdx.filterMap highCandidate)
  groups.values.flatMap fun group =>
    nearPairs tolerance (OrderedMap.groupBy HighCandidate.value group).entries

def blockEqualRankNearAmbiguity (candidates : List TimeCandidate) (context : PolicyContext) :
    List TimeCandidate × List PolicyIssue :=
  let pairs := ambiguousPairs candidates context
  (pairs.foldl blockNearCandidatePair candidates, pairs.map nearPairIssue)

/-! ## Choosing -/

def candidatePreference (left right : TimeCandidate) : Ordering :=
  (compare (confidenceRank left.confidence) (confidenceRank right.confidence)).then <|
  (compare left.timestamp.utcInstant.isSome right.timestamp.utcInstant.isSome).then <|
  (compare (evidencePriority left.evidenceKinds) (evidencePriority right.evidenceKinds)).then <|
  (compare right.timestamp.precision.nanoseconds left.timestamp.precision.nanoseconds).then <|
  compare right.timestamp left.timestamp

/-- The key of `candidate_order`. -/
def candidateOrderKey (candidate : TimeCandidate) : NormalizedTimestamp ×ₗ List TimeEvidenceKind :=
  toLex (candidate.timestamp, candidate.evidenceKinds)

def sortCandidates (candidates : List TimeCandidate) : List TimeCandidate :=
  candidates.insertionSort fun left right => candidateOrderKey left ≤ candidateOrderKey right

def betterCandidate (eligibleOnly : Bool) (best : Option (TimeCandidate × Nat))
    (entry : TimeCandidate × Nat) : Option (TimeCandidate × Nat) :=
  if eligibleOnly = true ∧ entry.1.evidenceGate ≠ .eligible then best
  else
    match best with
    | some current => if candidatePreference entry.1 current.1 = .gt then some entry else best
    | none => some entry

def bestCandidateIndex (candidates : List TimeCandidate) (eligibleOnly : Bool) : Option Nat :=
  (candidates.zipIdx.foldl (betterCandidate eligibleOnly) none).map Prod.snd

def decideCandidates (candidates : List TimeCandidate) (globalConflict : Bool) : AnalysisDecision :=
  if globalConflict then .conflict
  else if candidates = [] then .noUsableEvidence
  else
    match bestCandidateIndex candidates true with
    | some index => .evidenceEligible index
    | none => .reviewRequired ((bestCandidateIndex candidates false).getD 0)

end Guiying.Time.Policy
