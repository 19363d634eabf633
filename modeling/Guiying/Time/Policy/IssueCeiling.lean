import Guiying.Time.Policy.Provenance

/-!
# The issue ceiling

How many issues an admitted analysis raises at most. The estimate the aggregate check makes from
the numbers of observations and sources is never passed, so neither later exit is taken.
-/

namespace Guiying.Time.Policy

open Guiying.Foundation Guiying.Foundation.SortedSet Guiying.Metadata

/-! ## Neighbours -/

theorem sum_pred_le (sizes : List Nat) : (sizes.map (· - 1)).sum ≤ sizes.sum - 1 := by
  induction sizes with
  | nil => exact le_refl 0
  | cons size rest ih =>
      rw [List.map_cons, List.sum_cons, List.sum_cons]
      omega

/-- Fewer pairs of neighbours than there are instants. -/
theorem length_nearPairs_pred (tolerance : Int) (instants : List (Int × List HighCandidate)) :
    (nearPairs tolerance instants).length ≤ instants.length - 1 := by
  fun_induction nearPairs tolerance instants with
  | case1 leftValue left rightValue right rest near ih =>
      simp only [List.length_cons] at ih ⊢
      omega
  | case2 leftValue left rightValue right rest far ih =>
      simp only [List.length_cons] at ih ⊢
      omega
  | case3 instants short => exact Nat.zero_le _

theorem length_ambiguousPairs_pred (candidates : List TimeCandidate) (context : PolicyContext) :
    (ambiguousPairs candidates context).length ≤ candidates.length - 1 := by
  have high : (candidates.zipIdx.filterMap highCandidate).length ≤ candidates.length :=
    (List.length_filterMap_le _ _).trans List.length_zipIdx.le
  have groups := OrderedMap.sum_length_groupBy HighCandidate.priority
    (candidates.zipIdx.filterMap highCandidate)
  simp only [ambiguousPairs, List.length_flatMap]
  refine (List.sum_le_sum (g := fun group => group.length - 1) fun group _ => ?_).trans ?_
  · exact (length_nearPairs_pred _ _).trans
      (Nat.sub_le_sub_right (OrderedMap.length_groupBy_le _ _) 1)
  · have fewer := sum_pred_le ((OrderedMap.groupBy HighCandidate.priority
      (candidates.zipIdx.filterMap highCandidate)).values.map List.length)
    rw [List.map_map] at fewer
    exact fewer.trans (by omega)

/-! ## Anomalies of a candidate -/

/-- The anomalies that raise an issue. -/
def raisingAnomalies : List CandidateAnomaly :=
  [.sentinelValue, .obviousFuture, .outsideAutomaticRange, .quickTimeEpochSemanticUncertainty]

theorem mem_raisingAnomalies {anomaly : CandidateAnomaly}
    (raises : (anomalyIssue anomaly).isSome = true) : anomaly ∈ raisingAnomalies := by
  cases anomaly <;> simp_all [anomalyIssue, raisingAnomalies]

/-- Distinct anomalies raise at most one issue for each that raises any. -/
theorem length_anomalyIssues {α : Type*} {anomalies : List CandidateAnomaly}
    (distinct : anomalies.Nodup) (make : PolicyIssueCode × String → α) :
    (anomalies.filterMap fun anomaly => (anomalyIssue anomaly).map make).length ≤ 4 := by
  have raising : (anomalies.filterMap fun anomaly => (anomalyIssue anomaly).map make).length =
      (anomalies.filter fun anomaly => (anomalyIssue anomaly).isSome).length := by
    induction anomalies with
    | nil => rfl
    | cons anomaly rest ih =>
        have shorter := ih (List.nodup_cons.mp distinct).2
        cases known : anomalyIssue anomaly with
        | none => simpa [known] using shorter
        | some issue => simpa [known] using shorter
  rw [raising]
  have subset : (anomalies.filter fun anomaly => (anomalyIssue anomaly).isSome) ⊆
      raisingAnomalies := fun anomaly found => mem_raisingAnomalies (List.mem_filter.mp found).2
  exact ((distinct.filter _).subperm subset).length_le

theorem length_finishCandidate_issues_le (context : PolicyContext) (sentinelIndex : SentinelIndex)
    (flags : AnalysisFlags) (merged : CandidateWork) :
    (finishCandidate context sentinelIndex flags merged).2.length ≤ 4 :=
  length_anomalyIssues (sortDedup_nodup _) _

theorem length_buildCandidates_issues (atoms : List Atom) (context : PolicyContext)
    (sentinelIndex : SentinelIndex) (flags : AnalysisFlags) :
    (buildCandidates atoms context sentinelIndex flags).2.length ≤
      (buildCandidates atoms context sentinelIndex flags).1.length * 4 := by
  simp only [buildCandidates, List.length_flatMap, List.map_map, List.length_map]
  refine (List.sum_le_sum (g := fun _ => 4) fun work _ =>
    length_finishCandidate_issues_le context sentinelIndex flags work).trans ?_
  rw [List.map_const', List.sum_replicate, smul_eq_mul]

/-! ## Nothing to compare -/

theorem not_disagreement_nil (context : PolicyContext) : ¬ Disagreement context [] := by
  rintro (⟨_, member, -⟩ | ⟨_, member, -⟩ | ⟨_, member, -⟩) <;> cases member

theorem visitedAtoms_of_no_fields {sources : List EvidenceSource} (none : fieldTotal sources = 0)
    (start : Nat) : visitedAtoms start sources = [] := by
  have bound := length_visitedAtoms start sources
  rw [none] at bound
  exact List.eq_nil_of_length_eq_zero (Nat.le_zero.mp bound)

/-! ## The ceiling -/

section Ceiling

variable (sources : List EvidenceSource) (context : PolicyContext)

/-- The issues the check makes room for: sixteen for each field, eight for each source. -/
def issueRoom : Nat := 16 * fieldTotal sources + 8 * sources.length

/-- All issues of an analysis, none of them merged with another. -/
def raisedIssues : List PolicyIssue :=
  (conflictPasses (visitSources sources) context).2 ++ (builtCandidates sources context).2 ++
    (blockedCandidates sources context).2

/-- Two of the three kinds of conflict are raised at most once, and none without an atom. -/
theorem length_conflictPasses_le :
    (conflictPasses (visitSources sources) context).2.length ≤
        10 * fieldTotal sources + 8 * sources.length + 2 ∧
      (fieldTotal sources = 0 →
        (conflictPasses (visitSources sources) context).2.length ≤ 8 * sources.length) := by
  refine ⟨length_conflictPasses_issues sources context, fun none => ?_⟩
  have atoms : (visitSources sources).atoms = [] := by
    rw [visitSources_atoms, visitedAtoms_of_no_fields none]
  have pass := conflictPasses_pass (visitSources sources) context
  have quiet := pass.quiet (by rw [atoms]; exact not_disagreement_nil context)
  have issues := length_visitedIssues 0 ∅ sources
  rw [quiet]
  dsimp only
  rw [visitSources_issues]
  omega

theorem length_candidates_le :
    (builtCandidates sources context).1.length ≤ fieldTotal sources :=
  (length_buildCandidates _ _ _ _).1.trans (length_conflictPasses_atoms sources context)

theorem length_blocked_le :
    (blockedCandidates sources context).2.length ≤
      (builtCandidates sources context).1.length - 1 := by
  rw [blockedCandidates, blockEqualRankNearAmbiguity_snd, List.length_map]
  exact length_ambiguousPairs_pred _ _

theorem length_raisedIssues :
    (raisedIssues sources context).length ≤ issueRoom sources := by
  have conflicts := length_conflictPasses_le sources context
  have built : (builtCandidates sources context).2.length ≤
      (builtCandidates sources context).1.length * 4 := length_buildCandidates_issues _ _ _ _
  have few := length_candidates_le sources context
  have near := length_blocked_le sources context
  simp only [raisedIssues, issueRoom, List.length_append]
  rcases Nat.eq_zero_or_pos (fieldTotal sources) with none | some
  · have quiet := conflicts.2 none
    omega
  · have loud := conflicts.1
    omega

/-- Merging equal issues first makes them no more. -/
theorem length_allIssues_le_raised :
    (allIssues sources context).length ≤ (raisedIssues sources context).length := by
  have merged : (settledIssues sources context).length ≤ _ := length_deduplicateIssues _
  simp only [allIssues, raisedIssues, List.length_append]
  omega

end Ceiling

theorem issueRoom_le_ceiling {sources : List EvidenceSource} {context : PolicyContext}
    (within : aggregateWithinLimits sources context = true) :
    issueRoom sources ≤ maxAnalysisPolicyIssues := by
  obtain ⟨fewSources, _, _, ⟨fewFields, _⟩, _⟩ := (aggregateWithinLimits_iff _ _).mp within
  rw [sum_sourceWeight_fields] at fewFields
  simp only [maxAnalysisSources, maxAnalysisObservations] at fewSources fewFields
  simp only [issueRoom, maxAnalysisPolicyIssues]
  omega

theorem analysis_codes {sources : List EvidenceSource} {context : PolicyContext}
    (within : aggregateWithinLimits sources context = true) :
    ∀ issue ∈ (analyzeTimestampEvidence sources context).issues,
      issue.code ≠ .analysisLimitExceeded := by
  intro issue found
  rw [analyzeTimestampEvidence_eq within] at found
  dsimp only at found
  exact (deduplicateIssues_located (allIssues_located sources context) issue found).admitted

/-- An admitted analysis makes room for its issues: at neither check are there more of them than
the estimate, which is below the ceiling; it ends with its own result, in which no issue reports
that a limit was passed. -/
theorem issueCeiling_unreached (sources : List EvidenceSource) (context : PolicyContext)
    (within : aggregateWithinLimits sources context = true) :
    let observations := (visitSources sources).observations.length
    let early := (conflictPasses (visitSources sources) context).2
    let late := allIssues sources context
    early.length ≤ 16 * observations + 8 * sources.length ∧
      late.length ≤ 16 * observations + 8 * sources.length ∧
      (raisedIssues sources context).length ≤ 16 * observations + 8 * sources.length ∧
      ¬ early.length > maxAnalysisPolicyIssues ∧ ¬ late.length > maxAnalysisPolicyIssues ∧
      analyzeTimestampEvidence sources context ≠ analysisLimitExceeded ∧
      ∀ issue ∈ (analyzeTimestampEvidence sources context).issues,
        issue.code ≠ .analysisLimitExceeded := by
  intro observations early late
  have counted : 16 * observations + 8 * sources.length = issueRoom sources := by
    change 16 * (visitSources sources).observations.length + _ = _
    rw [visitSources_observations, length_observationsOf, issueRoom]
  have raised : (raisedIssues sources context).length ≤ issueRoom sources :=
    length_raisedIssues sources context
  have lateRoom : late.length ≤ issueRoom sources :=
    (length_allIssues_le_raised sources context).trans raised
  have earlyRoom : early.length ≤ issueRoom sources := by
    refine le_trans ?_ raised
    simp only [raisedIssues, List.length_append]
    exact (Nat.le_add_right _ _).trans (Nat.le_add_right _ _)
  have ceiling := issueRoom_le_ceiling within
  have codes := analysis_codes within
  rw [counted]
  refine ⟨earlyRoom, lateRoom, raised, not_lt.mpr (earlyRoom.trans ceiling),
    not_lt.mpr (lateRoom.trans ceiling), fun refused => ?_, codes⟩
  rw [refused] at codes
  exact codes _ List.mem_cons_self rfl

theorem issueCeiling_unreached_sampleSource :
    analyzeTimestampEvidence [sampleSource] sampleContext ≠ analysisLimitExceeded :=
  (issueCeiling_unreached [sampleSource] sampleContext (by decide)).2.2.2.2.2.1

end Guiying.Time.Policy
