import Guiying.Time.Policy.Candidates

/-!
# Timestamp evidence analysis

`analyzeTimestampEvidence` visits every source once, marks the conflicts between
their atoms, merges the atoms into candidates and decides. An analysis beyond
the aggregate limits is refused as a whole.
-/

namespace Guiying.Time.Policy

open Guiying.Foundation Guiying.Foundation.SortedSet Guiying.Foundation.MachineInt
open Guiying.Metadata

/-! ## Aggregate limits -/

def maxBmffPathComponentsPerField : Nat := 6

/-- Raw bytes and path components counted so far, when both are within the limits. -/
def countField (totals : Nat × Nat) (field : MetadataField) : Option (Nat × Nat) := do
  let fieldBytes ← tryFrom u64Bound field.rawBytes.length
  let rawBytes ← checkedAdd u64Bound totals.1 fieldBytes
  if rawBytes > maxAnalysisRawBytes then none
  else
    match field.locator.container with
    | .isoBmff _ boxPath =>
        if boxPath.length > maxBmffPathComponentsPerField then none
        else
          let components ← checkedAdd u64Bound totals.2 boxPath.length
          if components > maxAnalysisBmffPathComponents then none
          else some (rawBytes, components)
    | _ => some (rawBytes, totals.2)

/-- Observations and extraction issues first, then raw bytes and path components. -/
abbrev AggregateCounts := (Nat × Nat) × Nat × Nat

def countSource (counts : AggregateCounts) (source : EvidenceSource) : Option AggregateCounts := do
  let observations ← checkedAdd u64Bound counts.1.1 source.report.fields.length
  let extractionIssues ← checkedAdd u64Bound counts.1.2 source.report.issues.length
  if observations > maxAnalysisObservations ∨ extractionIssues > maxAnalysisExtractionIssues then
    none
  else
    let totals ← source.report.fields.foldlM countField counts.2
    some ((observations, extractionIssues), totals)

/-- The issues an analysis can raise, estimated from its inputs. -/
def estimatedPolicyIssues (sources observations extractionIssues : Nat) : Option Nat := do
  let fromObservations ← checkedMul u64Bound observations 16
  let withSources ← checkedAdd u64Bound fromObservations (min (sources * 8) (u64Bound - 1))
  checkedAdd u64Bound withSources extractionIssues

def aggregateCountsWithinLimits (sources observations extractionIssues rawBytes bmffPathComponents
    sentinelRules : Nat) : Bool :=
  sources ≤ maxAnalysisSources &&
    observations ≤ maxAnalysisObservations &&
    extractionIssues ≤ maxAnalysisExtractionIssues &&
    rawBytes ≤ maxAnalysisRawBytes &&
    bmffPathComponents ≤ maxAnalysisBmffPathComponents &&
    sentinelRules ≤ maxAnalysisSentinelRules &&
    (estimatedPolicyIssues sources observations extractionIssues).any (· ≤ maxAnalysisPolicyIssues)

def aggregateWithinLimits (sources : List EvidenceSource) (context : PolicyContext) : Bool :=
  if sources.length > maxAnalysisSources ∨
      context.sentinelRules.length > maxAnalysisSentinelRules then
    false
  else
    match sources.foldlM countSource ((0, 0), 0, 0) with
    | none => false
    | some ((observations, extractionIssues), rawBytes, bmffPathComponents) =>
        aggregateCountsWithinLimits sources.length observations extractionIssues rawBytes
          bmffPathComponents context.sentinelRules.length

def analysisLimitExceeded : TimeAnalysis where
  policy := policyIdentity
  sourceReports := []
  extractionIssues := []
  observations := []
  candidates := []
  issues := [{
    code := .analysisLimitExceeded
    fieldKind := none
    observationIndices := []
    sourceKeys := []
    lineageKeys := []
    context := "aggregate timestamp evidence exceeded a parser-owned hard limit" }]
  decision := .conflict

/-! ## Visiting the sources -/

def observe (source : EvidenceSource) (field : MetadataField) : EvidenceObservation :=
  ⟨source.sourceKey, source.lineageKey, field, interpretField field⟩

def isRejected (interpretation : ObservationInterpretation) : Bool :=
  match interpretation with
  | .rejected _ => true
  | _ => false

def fieldIssues (source : EvidenceSource) (ref : ObservationRef) : List PolicyIssue :=
  let field := ref.observation.field
  let issue code context := singleObservationIssue code (some field.kind) ref.index source context
  raiseIf (field.parser != source.report.parser)
    (issue .parserIdentityMismatch "field parser identity differs from extraction report") ++
  raiseIf (!encodingMatches field)
    (issue .fieldEncodingMismatch "field encoding contradicts its metadata kind") ++
  raiseIf (!formatAndContainerMatch source.report.format field)
    (issue .containerFormatMismatch
      "metadata field kind contradicts the detected media format") ++
  raiseIf (!locatorMatches field)
    (issue .metadataLocatorMismatch
      "metadata field locator contradicts its raw bytes or field kind") ++
  raiseIf (isRejected ref.observation.interpretation)
    (issue .invalidField "timestamp field failed strict syntax, calendar, or range validation")

def untrustedStatus (status : ExtractionStatus) : Bool :=
  status == .partialExtraction || status == .failed

/-- The issues of a source before and after its fields are looked at. -/
def identityIssues (duplicate : Bool) (source : EvidenceSource) : List PolicyIssue :=
  raiseIf duplicate
    (sourceIssue .duplicateSourceIdentity source
      "one concrete source identity was supplied more than once") ++
  raiseIf (source.report.parser != parserIdentity)
    (sourceIssue .unknownParserIdentity source
      "extraction report was not produced by the parser version bound to this policy crate") ++
  raiseIf (!extractionBudgetMatches source.report)
    (sourceIssue .extractionBudgetContradiction source
      "extraction usage or limits contradict the retained fields")

def statusIssues (source : EvidenceSource) : List PolicyIssue :=
  raiseIf (untrustedStatus source.report.status)
    (sourceIssue .extractionReportUntrusted source
      "partial or failed extraction cannot supply repair evidence") ++
  raiseIf (statusContradiction source.report)
    (sourceIssue .extractionReportContradiction source
      "extraction status, fields, and issues are self-contradictory")

/-- Everything the visit of the sources accumulates. -/
structure AnalysisPass where
  sourceReports : List SourceReportStatus := []
  extractionIssues : List SourceExtractionIssue := []
  observations : List EvidenceObservation := []
  issues : List PolicyIssue := []
  atoms : List Atom := []
  extractionUntrusted : Bool := false
  invalidEvidence : Bool := false
  seenSourceKeys : Finset SourceKey := ∅

def sourceRefs (start : Nat) (source : EvidenceSource) : List ObservationRef :=
  refsFrom start (source.report.fields.map (observe source))

/-- Atoms and issues of a source, when its report is trusted and does not contradict itself. -/
def trustedFields (start : Nat) (source : EvidenceSource) : List Atom × List PolicyIssue :=
  if source.report.status = .extractedUnvalidated ∧ reportContradicts source.report = false then
    processSourceFields source (sourceRefs start source)
  else ([], [])

def visitSource (pass : AnalysisPass) (source : EvidenceSource) : AnalysisPass :=
  let report := source.report
  let duplicate := source.sourceKey ∈ pass.seenSourceKeys
  let refs := sourceRefs pass.observations.length source
  let trusted := trustedFields pass.observations.length source
  { sourceReports := pass.sourceReports ++
      [⟨source.sourceKey, source.lineageKey, report.parser, report.status, source.binding⟩]
    extractionIssues := pass.extractionIssues ++
      report.issues.map fun issue => ⟨source.sourceKey, source.lineageKey, issue⟩
    observations := pass.observations ++ refs.map (·.observation)
    issues := pass.issues ++ identityIssues duplicate source ++
      refs.flatMap (fieldIssues source) ++ statusIssues source ++ trusted.2
    atoms := pass.atoms ++ trusted.1
    extractionUntrusted := pass.extractionUntrusted || duplicate ||
      untrustedStatus report.status || statusContradiction report
    invalidEvidence := pass.invalidEvidence ||
      refs.any fun ref => isRejected ref.observation.interpretation
    seenSourceKeys := insert source.sourceKey pass.seenSourceKeys }

def visitSources (sources : List EvidenceSource) : AnalysisPass := sources.foldl visitSource {}

/-! ## Issues -/

def metadataKindRank : Option MetadataFieldKind → Nat
  | none => 0
  | some .exifDateTimeOriginal => 1
  | some .exifCreateDate => 2
  | some .exifModifyDate => 3
  | some .exifOffsetTimeOriginal => 4
  | some .exifSubSecTimeOriginal => 5
  | some .quickTimeMovieHeaderCreationTime => 6
  | some .quickTimeMetadataCreationDate => 7

def canonicalIssue (issue : PolicyIssue) : PolicyIssue :=
  { issue with
    observationIndices := sortDedup issue.observationIndices
    sourceKeys := sortDedup issue.sourceKeys
    lineageKeys := sortDedup issue.lineageKeys }

/-- The fields issues are sorted by, in the order they are compared. -/
def issueOrderKey (issue : PolicyIssue) :
    Nat ×ₗ Nat ×ₗ List Nat ×ₗ List SourceKey ×ₗ List LineageKey :=
  toLex (issue.code.ctorIdx, toLex (metadataKindRank issue.fieldKind,
    toLex (issue.observationIndices, toLex (issue.sourceKeys, issue.lineageKeys))))

def sameIssue (left right : PolicyIssue) : Prop :=
  left.code = right.code ∧ left.fieldKind = right.fieldKind ∧
    left.observationIndices = right.observationIndices ∧
    left.sourceKeys = right.sourceKeys ∧ left.lineageKeys = right.lineageKeys

instance : DecidableRel sameIssue := fun left right =>
  inferInstanceAs (Decidable (left.code = right.code ∧ left.fieldKind = right.fieldKind ∧
    left.observationIndices = right.observationIndices ∧
    left.sourceKeys = right.sourceKeys ∧ left.lineageKeys = right.lineageKeys))

def deduplicateIssues (issues : List PolicyIssue) : List PolicyIssue :=
  ((issues.map canonicalIssue).insertionSort fun left right =>
    issueOrderKey left ≤ issueOrderKey right).destutter fun left right => ¬ sameIssue left right

def marksInvalidEvidence (code : PolicyIssueCode) : Bool :=
  match code with
  | .invalidField | .invalidCompanion | .orphanExifCompanion => true
  | _ => false

def marksGlobalConflict (code : PolicyIssueCode) : Bool :=
  match code with
  | .invalidCompanion | .repeatedFieldConflict | .lineageConflict | .strongEvidenceConflict
  | .possibleTimezoneConflict | .extractionReportUntrusted | .extractionReportContradiction
  | .parserIdentityMismatch | .fieldEncodingMismatch | .containerFormatMismatch
  | .metadataLocatorMismatch | .duplicateSourceIdentity | .unknownParserIdentity
  | .extractionBudgetContradiction => true
  | _ => false

/-! ## The analysis -/

/-- The atoms and issues after both conflict passes. -/
def conflictPasses (pass : AnalysisPass) (context : PolicyContext) :
    List Atom × List PolicyIssue :=
  let (atoms, issues) := markLineageConflicts pass.atoms pass.issues
  markStrongConflicts atoms context issues

def analysisFlags (pass : AnalysisPass) (issues : List PolicyIssue) : AnalysisFlags where
  invalidEvidence := pass.invalidEvidence || issues.any fun issue => marksInvalidEvidence issue.code
  globalConflict :=
    pass.extractionUntrusted || issues.any fun issue => marksGlobalConflict issue.code
  extractionUntrusted := pass.extractionUntrusted

def finishAnalysis (context : PolicyContext) (pass : AnalysisPass) (atoms : List Atom)
    (issues : List PolicyIssue) : TimeAnalysis :=
  let flags := analysisFlags pass issues
  let built := buildCandidates atoms context (.fromRules context.sentinelRules) flags
  let blocked := blockEqualRankNearAmbiguity built.1 context
  let allIssues := issues ++ built.2 ++ blocked.2
  if allIssues.length > maxAnalysisPolicyIssues then analysisLimitExceeded
  else
    let candidates := sortCandidates blocked.1
    { policy := policyIdentity
      sourceReports := pass.sourceReports.insertionSort fun left right =>
        toLex (left.lineageKey, left.sourceKey) ≤ toLex (right.lineageKey, right.sourceKey)
      extractionIssues := pass.extractionIssues
      observations := pass.observations
      candidates := candidates
      issues := deduplicateIssues allIssues
      decision := decideCandidates candidates flags.globalConflict }

/-- Strictly normalize extractor reports and evaluate timestamp evidence. -/
def analyzeTimestampEvidence (sources : List EvidenceSource) (context : PolicyContext) :
    TimeAnalysis :=
  if aggregateWithinLimits sources context = false then analysisLimitExceeded
  else
    let pass := visitSources sources
    let passes := conflictPasses pass context
    if passes.2.length > maxAnalysisPolicyIssues then analysisLimitExceeded
    else finishAnalysis context pass passes.1 (deduplicateIssues passes.2)

end Guiying.Time.Policy
