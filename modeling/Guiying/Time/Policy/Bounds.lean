import Guiying.Time.Policy.Disagreement
import Mathlib.Algebra.Group.Action.Defs
import Mathlib.Algebra.Order.BigOperators.Group.List

/-!
# Aggregate limits and the number of issues

The aggregate check adds up four totals and holds exactly when each total is
within its limit. Under it no analysis raises more issues than the policy's
ceiling, so neither later exit is ever taken.
-/

namespace Guiying.Time.Policy

open Guiying.Foundation Guiying.Foundation.SortedSet Guiying.Foundation.MachineInt
open Guiying.Metadata

/-! ## Totals -/

def pathLength (field : MetadataField) : Nat :=
  match field.locator.container with
  | .isoBmff _ boxPath => boxPath.length
  | _ => 0

def fieldWeight (field : MetadataField) : Nat × Nat := (field.rawBytes.length, pathLength field)

def sourceWeight (source : EvidenceSource) : AggregateCounts :=
  ((source.report.fields.length, source.report.issues.length),
    (source.report.fields.map fieldWeight).sum)

def fieldTotal (sources : List EvidenceSource) : Nat :=
  (sources.map fun source => source.report.fields.length).sum

def FieldTotalsWithin (totals : Nat × Nat) : Prop :=
  totals.1 ≤ maxAnalysisRawBytes ∧ totals.2 ≤ maxAnalysisBmffPathComponents

def CountsWithin (counts : AggregateCounts) : Prop :=
  (counts.1.1 ≤ maxAnalysisObservations ∧ counts.1.2 ≤ maxAnalysisExtractionIssues) ∧
    FieldTotalsWithin counts.2

def PathAccepted (field : MetadataField) : Prop := pathLength field ≤ maxBmffPathComponentsPerField

instance : DecidablePred FieldTotalsWithin := fun totals =>
  inferInstanceAs (Decidable (totals.1 ≤ maxAnalysisRawBytes ∧ _))

instance : DecidablePred CountsWithin := fun counts =>
  inferInstanceAs (Decidable ((counts.1.1 ≤ maxAnalysisObservations ∧ _) ∧ _))

instance : DecidablePred PathAccepted := fun field =>
  inferInstanceAs (Decidable (pathLength field ≤ _))

theorem fieldTotalsWithin_of_add (left right : Nat × Nat) :
    FieldTotalsWithin (left + right) → FieldTotalsWithin left := by
  rintro ⟨raw, path⟩
  exact ⟨(Nat.le_add_right _ _).trans raw, (Nat.le_add_right _ _).trans path⟩

theorem countsWithin_of_add (left right : AggregateCounts) :
    CountsWithin (left + right) → CountsWithin left := by
  rintro ⟨⟨observations, issues⟩, fields⟩
  exact ⟨⟨(Nat.le_add_right _ _).trans observations, (Nat.le_add_right _ _).trans issues⟩,
    fieldTotalsWithin_of_add _ _ fields⟩

theorem countField_eq (totals : Nat × Nat) (field : MetadataField)
    (start : FieldTotalsWithin totals) :
    countField totals field =
      if PathAccepted field ∧ FieldTotalsWithin (totals + fieldWeight field) then
        some (totals + fieldWeight field)
      else none := by
  have rawFits : maxAnalysisRawBytes < u64Bound := by decide
  have pathFits : maxAnalysisBmffPathComponents < u64Bound := by decide
  have pathStart : totals.2 ≤ maxAnalysisBmffPathComponents := start.2
  unfold countField
  simp only [Option.bind_eq_bind]
  rw [tryFrom_bind fun beyond => by
    rw [checkedAdd, if_neg (by omega)]
    rfl]
  rw [checkedAdd_bind_le rawFits]
  by_cases rawInside : totals.1 + field.rawBytes.length ≤ maxAnalysisRawBytes
  · rw [if_pos rawInside]
    cases container : field.locator.container with
    | isoBmff boxOffset boxPath =>
        have path : pathLength field = boxPath.length := by simp only [pathLength, container]
        by_cases accepted : boxPath.length ≤ maxBmffPathComponentsPerField
        · simp only [gt_iff_lt, not_lt.mpr accepted, if_false]
          rw [checkedAdd_bind_le pathFits]
          simp [PathAccepted, FieldTotalsWithin, fieldWeight, path, accepted, rawInside]
          rfl
        · simp [gt_iff_lt, not_le.mp accepted, PathAccepted, path, accepted]
    | tiff headerOffset ifdOffset tag order =>
        have path : pathLength field = 0 := by simp only [pathLength, container]
        simp [PathAccepted, FieldTotalsWithin, fieldWeight, path, rawInside, pathStart]
        rfl
    | jpegExif app1Offset headerOffset ifdOffset tag order =>
        have path : pathLength field = 0 := by simp only [pathLength, container]
        simp [PathAccepted, FieldTotalsWithin, fieldWeight, path, rawInside, pathStart]
        rfl
  · rw [if_neg rawInside, if_neg]
    rintro ⟨_, raw, _⟩
    exact rawInside raw

theorem foldlM_countField (fields : List MetadataField) {totals : Nat × Nat}
    (start : FieldTotalsWithin totals) :
    fields.foldlM countField totals =
      if (∀ field ∈ fields, PathAccepted field) ∧
          FieldTotalsWithin (totals + (fields.map fieldWeight).sum) then
        some (totals + (fields.map fieldWeight).sum)
      else none :=
  foldlM_guarded fieldWeight FieldTotalsWithin PathAccepted countField fieldTotalsWithin_of_add
    countField_eq fields start

def PathsAccepted (source : EvidenceSource) : Prop :=
  ∀ field ∈ source.report.fields, PathAccepted field

instance : DecidablePred PathsAccepted := fun source =>
  inferInstanceAs (Decidable (∀ field ∈ source.report.fields, PathAccepted field))

theorem countSource_eq (counts : AggregateCounts) (source : EvidenceSource)
    (start : CountsWithin counts) :
    countSource counts source =
      if PathsAccepted source ∧ CountsWithin (counts + sourceWeight source) then
        some (counts + sourceWeight source)
      else none := by
  have observationsFit : maxAnalysisObservations < u64Bound := by decide
  have issuesFit : maxAnalysisExtractionIssues < u64Bound := by decide
  unfold countSource
  simp only [Option.bind_eq_bind]
  by_cases inside : counts.1.1 + source.report.fields.length ≤ maxAnalysisObservations ∧
      counts.1.2 + source.report.issues.length ≤ maxAnalysisExtractionIssues
  · rw [checkedAdd, if_pos (by omega), Option.bind_some, checkedAdd, if_pos (by omega),
      Option.bind_some, if_neg (by omega), foldlM_countField source.report.fields start.2]
    by_cases within : (∀ field ∈ source.report.fields, PathAccepted field) ∧
        FieldTotalsWithin (counts.2 + (source.report.fields.map fieldWeight).sum)
    · rw [if_pos within, if_pos ⟨within.1, inside, within.2⟩]
      rfl
    · rw [if_neg within, if_neg]
      · rfl
      · rintro ⟨accepted, _, totals⟩
        exact within ⟨accepted, totals⟩
  · rw [if_neg fun accepted => inside accepted.2.1]
    unfold checkedAdd
    split
    · rw [Option.bind_some]
      split
      · rw [Option.bind_some, if_pos (by omega)]
      · rfl
    · rfl

theorem foldlM_countSource (sources : List EvidenceSource) {counts : AggregateCounts}
    (start : CountsWithin counts) :
    sources.foldlM countSource counts =
      if (∀ source ∈ sources, PathsAccepted source) ∧
          CountsWithin (counts + (sources.map sourceWeight).sum) then
        some (counts + (sources.map sourceWeight).sum)
      else none :=
  foldlM_guarded sourceWeight CountsWithin PathsAccepted countSource countsWithin_of_add
    countSource_eq sources start

/-- The estimate never exceeds its ceiling once the totals are within their limits. -/
theorem estimatedPolicyIssues_within {sources observations extractionIssues : Nat}
    (hsources : sources ≤ maxAnalysisSources) (hobservations : observations ≤ maxAnalysisObservations)
    (hissues : extractionIssues ≤ maxAnalysisExtractionIssues) :
    (estimatedPolicyIssues sources observations extractionIssues).any
      (· ≤ maxAnalysisPolicyIssues) = true := by
  simp only [maxAnalysisSources, maxAnalysisObservations, maxAnalysisExtractionIssues] at *
  have small : min (sources * 8) (u64Bound - 1) ≤ 32768 :=
    (Nat.min_le_left _ _).trans (by omega)
  have bound : u64Bound = 18446744073709551616 := by decide
  unfold estimatedPolicyIssues
  generalize min (sources * 8) (u64Bound - 1) = fromSources at small
  rw [checkedMul, if_pos (by omega), Option.bind_eq_bind, Option.bind_some, checkedAdd,
    if_pos (by omega), Option.bind_some, checkedAdd, if_pos (by omega)]
  rw [Option.any_some, decide_eq_true_eq, maxAnalysisPolicyIssues]
  omega

/-- The aggregate check, as conditions on the totals. -/
theorem aggregateWithinLimits_iff (sources : List EvidenceSource) (context : PolicyContext) :
    aggregateWithinLimits sources context = true ↔
      sources.length ≤ maxAnalysisSources ∧
      context.sentinelRules.length ≤ maxAnalysisSentinelRules ∧
      (∀ source ∈ sources, PathsAccepted source) ∧
      CountsWithin (sources.map sourceWeight).sum := by
  have start : CountsWithin (0 : AggregateCounts) := by decide
  unfold aggregateWithinLimits
  have zero : (((0, 0), 0, 0) : AggregateCounts) = 0 := rfl
  rw [zero, foldlM_countSource sources start, zero_add]
  by_cases few : sources.length > maxAnalysisSources ∨
      context.sentinelRules.length > maxAnalysisSentinelRules
  · rw [if_pos few]
    simp only [Bool.false_eq_true, false_iff]
    rintro ⟨hsources, hrules, _⟩
    omega
  rw [if_neg few]
  by_cases within : (∀ source ∈ sources, PathsAccepted source) ∧
      CountsWithin (sources.map sourceWeight).sum
  · rw [if_pos within]
    obtain ⟨⟨observations, issues⟩, raw, path⟩ := within.2
    have few : sources.length ≤ maxAnalysisSources := by omega
    have estimate := estimatedPolicyIssues_within few observations issues
    refine iff_of_true ?_ ⟨by omega, by omega, within.1, within.2⟩
    simp only [aggregateCountsWithinLimits, Bool.and_eq_true, decide_eq_true_eq]
    exact ⟨⟨⟨⟨⟨⟨by omega, observations⟩, issues⟩, raw⟩, path⟩, by omega⟩, estimate⟩
  · rw [if_neg within]
    simp only [Bool.false_eq_true, false_iff]
    rintro ⟨_, _, rest⟩
    exact within rest

theorem sum_sourceWeight_fields (sources : List EvidenceSource) :
    (sources.map sourceWeight).sum.1.1 = fieldTotal sources := by
  induction sources with
  | nil => rfl
  | cons source rest ih =>
      rw [List.map_cons, List.sum_cons, fieldTotal, List.map_cons, List.sum_cons]
      exact congrArg (source.report.fields.length + ·) ih

/-! ## Atoms and issues of a source -/

theorem length_collectPasses {α : Type*} (pass : α → List Atom × List PolicyIssue)
    (items : List α) (atomRoom issueRoom : α → Nat)
    (bound : ∀ item ∈ items, (pass item).1.length ≤ atomRoom item ∧
      (pass item).2.length ≤ issueRoom item) :
    (collectPasses pass items).1.length ≤ (items.map atomRoom).sum ∧
      (collectPasses pass items).2.length ≤ (items.map issueRoom).sum := by
  simp only [collectPasses, List.length_flatMap]
  exact ⟨List.sum_le_sum fun item member => (bound item member).1,
    List.sum_le_sum fun item member => (bound item member).2⟩

theorem length_reportRepeatedConflict (indices : List ObservationRef) (kind : MetadataFieldKind)
    (context : String) : (reportRepeatedConflict indices kind context).2.length ≤ 1 :=
  length_raiseIf_le _ _

theorem length_uniqueTimestamps (indices : List ObservationRef) :
    (uniqueTimestamps indices).length ≤ indices.length :=
  OrderedMap.length_groupBySome_le _ _

theorem length_addSimpleAtomIndices (source : EvidenceSource) (simple : SimpleKind)
    (indices : List ObservationRef) :
    (addSimpleAtomIndices source simple indices).1.length ≤ indices.length ∧
      (addSimpleAtomIndices source simple indices).2.length ≤ 1 := by
  refine ⟨?_, length_reportRepeatedConflict _ _ _⟩
  rw [addSimpleAtomIndices, List.length_map]
  exact length_uniqueTimestamps indices

theorem length_processScopedFields (source : EvidenceSource)
    (dto offsets subseconds : List ObservationRef) :
    (processScopedFields source dto offsets subseconds).1.length ≤ dto.length ∧
      (processScopedFields source dto offsets subseconds).2.length ≤ 4 := by
  refine ⟨?_, ?_⟩
  · exact (List.length_filterMap_le _ _).trans (length_uniqueTimestamps dto)
  · simp only [processScopedFields, List.length_append]
    exact Nat.add_le_add (Nat.add_le_add (Nat.add_le_add (length_reportRepeatedConflict _ _ _)
      (length_reportRepeatedConflict _ _ _)) (length_reportRepeatedConflict _ _ _))
      (length_raiseIf_le _ _)

theorem length_addSimpleExifAtoms (source : EvidenceSource) (simple : SimpleKind)
    (range : List ObservationRef) :
    (addSimpleExifAtoms source simple range).1.length ≤
        (indicesOfKind range simple.fieldKind).length ∧
      (addSimpleExifAtoms source simple range).2.length ≤
        (indicesOfKind range simple.fieldKind).length := by
  have bound := length_collectPasses (addSimpleAtomIndices source simple)
    (indicesByExifScope (indicesOfKind range simple.fieldKind)).values List.length (fun _ => 1)
    fun indices _ => length_addSimpleAtomIndices source simple indices
  refine ⟨bound.1.trans ?_, bound.2.trans ?_⟩
  · rw [OrderedMap.values, List.map_map]
    exact OrderedMap.sum_length_groupBySome refScope _
  · rw [OrderedMap.values, List.map_map]
    simpa [Function.comp_def, indicesByExifScope] using OrderedMap.length_groupBySome_le refScope
      (indicesOfKind range simple.fieldKind)

/-- The kinds of timestamp fields pick disjoint parts of a range. -/
theorem sum_length_indicesOfKind (range : List ObservationRef) :
    (indicesOfKind range .exifDateTimeOriginal).length +
      (indicesOfKind range .exifCreateDate).length +
      (indicesOfKind range .exifModifyDate).length +
      (indicesOfKind range .quickTimeMetadataCreationDate).length +
      (indicesOfKind range .quickTimeMovieHeaderCreationTime).length ≤ range.length := by
  induction range with
  | nil => simp [indicesOfKind]
  | cons ref rest ih =>
      simp only [indicesOfKind, List.filter_cons, List.length_cons] at ih ⊢
      cases ref.kind <;> simp <;> omega

theorem length_processSourceFields (source : EvidenceSource) (range : List ObservationRef) :
    (processSourceFields source range).1.length ≤ range.length ∧
      (processSourceFields source range).2.length ≤ 4 * range.length + 3 := by
  have kinds := sum_length_indicesOfKind range
  have created := length_addSimpleExifAtoms source createDateKind range
  have modified := length_addSimpleExifAtoms source modifyDateKind range
  have quickTime := length_addSimpleAtomIndices source quickTimeCreationKind
    (indicesOfKind range quickTimeCreationKind.fieldKind)
  have movieHeader := length_addSimpleAtomIndices source movieHeaderKind
    (indicesOfKind range movieHeaderKind.fieldKind)
  have original := length_collectPasses
    (processOriginalScope source
      (indicesByExifScope (indicesOfKind range .exifOffsetTimeOriginal))
      (indicesByExifScope (indicesOfKind range .exifSubSecTimeOriginal)))
    (indicesByExifScope (indicesOfKind range .exifDateTimeOriginal)).entries
    (fun entry => entry.2.length) (fun _ => 4)
    fun entry _ => length_processScopedFields source _ _ _
  have groups := OrderedMap.sum_length_groupBySome refScope
    (indicesOfKind range .exifDateTimeOriginal)
  have scopes := OrderedMap.length_groupBySome_le refScope
    (indicesOfKind range .exifDateTimeOriginal)
  have originalIssues := original.2
  rw [List.map_const', List.sum_replicate, smul_eq_mul] at originalIssues
  have orphan : ∀ companions, (orphanIssues companions).length ≤ 1 :=
    fun companions => length_raiseIf_le _ _
  have orphaned := orphan (orphanCompanions
    (indicesByExifScope (indicesOfKind range .exifDateTimeOriginal))
    (indicesByExifScope (indicesOfKind range .exifOffsetTimeOriginal))
    (indicesByExifScope (indicesOfKind range .exifSubSecTimeOriginal)))
  simp only [processSourceFields, List.length_append, addSimpleAtoms]
  simp only [createDateKind, modifyDateKind, quickTimeCreationKind, movieHeaderKind,
    indicesByExifScope] at *
  omega

/-! ## Atoms and issues of all sources -/

theorem length_trustedFields (start : Nat) (source : EvidenceSource) :
    (trustedFields start source).1.length ≤ source.report.fields.length ∧
      (trustedFields start source).2.length ≤ 4 * source.report.fields.length + 3 := by
  unfold trustedFields
  split
  · have bound := length_processSourceFields source (sourceRefs start source)
    rwa [length_sourceRefs] at bound
  · exact ⟨Nat.zero_le _, Nat.zero_le _⟩

theorem length_fieldIssues (source : EvidenceSource) (ref : ObservationRef) :
    (fieldIssues source ref).length ≤ 5 := by
  simp only [fieldIssues, List.length_append]
  exact Nat.add_le_add (Nat.add_le_add (Nat.add_le_add (Nat.add_le_add (length_raiseIf_le _ _)
    (length_raiseIf_le _ _)) (length_raiseIf_le _ _)) (length_raiseIf_le _ _))
    (length_raiseIf_le _ _)

theorem length_sourceIssues (start : Nat) (duplicate : Bool) (source : EvidenceSource) :
    (sourceIssues start duplicate source).length ≤ 9 * source.report.fields.length + 8 := by
  have identity : (identityIssues duplicate source).length ≤ 3 := by
    simp only [identityIssues, List.length_append]
    exact Nat.add_le_add (Nat.add_le_add (length_raiseIf_le _ _) (length_raiseIf_le _ _))
      (length_raiseIf_le _ _)
  have status : (statusIssues source).length ≤ 2 := by
    simp only [statusIssues, List.length_append]
    exact Nat.add_le_add (length_raiseIf_le _ _) (length_raiseIf_le _ _)
  have fields : ((sourceRefs start source).flatMap (fieldIssues source)).length ≤
      source.report.fields.length * 5 := by
    rw [List.length_flatMap, ← length_sourceRefs start source]
    refine (List.sum_le_sum fun ref _ => length_fieldIssues source ref).trans ?_
    rw [List.map_const', List.sum_replicate, smul_eq_mul]
  have trusted := (length_trustedFields start source).2
  simp only [sourceIssues, List.length_append]
  omega

theorem length_visitedAtoms (start : Nat) (sources : List EvidenceSource) :
    (visitedAtoms start sources).length ≤ fieldTotal sources := by
  induction sources generalizing start with
  | nil => exact Nat.zero_le _
  | cons source rest ih =>
      have here := (length_trustedFields start source).1
      have later := ih (start + source.report.fields.length)
      simp only [visitedAtoms, List.length_append, fieldTotal, List.map_cons, List.sum_cons] at *
      omega

theorem length_visitedIssues (start : Nat) (seen : Finset SourceKey)
    (sources : List EvidenceSource) :
    (visitedIssues start seen sources).length ≤ 9 * fieldTotal sources + 8 * sources.length := by
  induction sources generalizing start seen with
  | nil => exact Nat.zero_le _
  | cons source rest ih =>
      have here := length_sourceIssues start (source.sourceKey ∈ seen) source
      have later := ih (start + source.report.fields.length) (insert source.sourceKey seen)
      simp only [visitedIssues, List.length_append, fieldTotal, List.map_cons, List.sum_cons,
        List.length_cons] at *
      omega

/-- The issues before candidates are built stay below the ceiling. -/
theorem length_conflictPasses_issues (sources : List EvidenceSource) (context : PolicyContext) :
    (conflictPasses (visitSources sources) context).2.length ≤
      10 * fieldTotal sources + 8 * sources.length + 2 := by
  obtain ⟨extra, appended, few, _⟩ := (conflictPasses_pass (visitSources sources) context).appended
  have atoms := length_visitedAtoms 0 sources
  have issues := length_visitedIssues 0 ∅ sources
  rw [visitSources_atoms] at few
  rw [← visitSources_issues] at issues
  rw [appended, List.length_append]
  dsimp only
  omega

theorem length_conflictPasses_atoms (sources : List EvidenceSource) (context : PolicyContext) :
    (conflictPasses (visitSources sources) context).1.length ≤ fieldTotal sources := by
  have same := congrArg List.length (conflictPasses_pass (visitSources sources) context).sameAtoms
  rw [List.length_map, List.length_map, visitSources_atoms] at same
  rw [same]
  exact length_visitedAtoms 0 sources

theorem length_deduplicateIssues (issues : List PolicyIssue) :
    (deduplicateIssues issues).length ≤ issues.length := by
  have shorter := (List.destutter_sublist (fun left right => ¬ sameIssue left right)
    ((issues.map canonicalIssue).insertionSort fun left right =>
      issueOrderKey left ≤ issueOrderKey right)).length_le
  rwa [List.length_insertionSort, List.length_map] at shorter

/-! ## Candidates -/

theorem length_mergeAtoms (atoms : List Atom) : (mergeAtoms atoms).values.length ≤ atoms.length := by
  have keys := OrderedMap.keys_collect (·.timestamp) mergeAtom atoms
  rw [OrderedMap.values, List.length_map, mergeAtoms,
    ← List.length_map Prod.fst]
  change (OrderedMap.collect _ mergeAtom atoms).keys.length ≤ _
  rw [keys]
  exact (length_sortDedup_le _).trans (List.length_map _).le

theorem length_finishCandidate_issues (context : PolicyContext) (sentinelIndex : SentinelIndex)
    (flags : AnalysisFlags) (merged : CandidateWork) :
    (finishCandidate context sentinelIndex flags merged).2.length ≤ 6 := by
  have anomalies : (candidateAnomalies (canonicalWork merged) context sentinelIndex ++
      raiseIf (canonicalWork merged).invalidCompanion
        CandidateAnomaly.invalidCompanion).length ≤ 6 := by
    simp only [candidateAnomalies, List.length_append]
    exact Nat.add_le_add (Nat.add_le_add (Nat.add_le_add (Nat.add_le_add (Nat.add_le_add
      (length_raiseIf_le _ _) (length_raiseIf_le _ _)) (length_raiseIf_le _ _))
      (length_raiseIf_le _ _)) (length_raiseIf_le _ _)) (length_raiseIf_le _ _)
  exact (List.length_filterMap_le _ _).trans ((length_sortDedup_le _).trans anomalies)

theorem length_buildCandidates (atoms : List Atom) (context : PolicyContext)
    (sentinelIndex : SentinelIndex) (flags : AnalysisFlags) :
    (buildCandidates atoms context sentinelIndex flags).1.length ≤ atoms.length ∧
      (buildCandidates atoms context sentinelIndex flags).2.length ≤ atoms.length * 6 := by
  have merged := length_mergeAtoms atoms
  refine ⟨by simpa [buildCandidates] using merged, ?_⟩
  simp only [buildCandidates, List.length_flatMap, List.map_map]
  refine (List.sum_le_sum (g := fun _ => 6)
    fun work _ => length_finishCandidate_issues context sentinelIndex flags work).trans ?_
  rw [List.map_const', List.sum_replicate, smul_eq_mul]
  exact Nat.mul_le_mul_right 6 merged

theorem length_nearPairs (tolerance : Int) (instants : List (Int × List HighCandidate)) :
    (nearPairs tolerance instants).length ≤ instants.length := by
  fun_induction nearPairs tolerance instants with
  | case1 leftValue left rightValue right rest near ih => simpa using ih
  | case2 leftValue left rightValue right rest far ih =>
      exact ih.trans (Nat.le_succ _)
  | case3 instants short => exact Nat.zero_le _

theorem length_ambiguousPairs (candidates : List TimeCandidate) (context : PolicyContext) :
    (ambiguousPairs candidates context).length ≤ candidates.length := by
  have high : (candidates.zipIdx.filterMap highCandidate).length ≤ candidates.length :=
    (List.length_filterMap_le _ _).trans List.length_zipIdx.le
  simp only [ambiguousPairs, List.length_flatMap]
  refine (List.sum_le_sum (g := List.length) fun group _ =>
    (length_nearPairs _ _).trans (OrderedMap.length_groupBy_le _ _)).trans ?_
  exact (OrderedMap.sum_length_groupBy _ _).trans high

/-! ## The stages of an analysis -/

section Stages

variable (sources : List EvidenceSource) (context : PolicyContext)

def settledAtoms : List Atom := (conflictPasses (visitSources sources) context).1

def settledIssues : List PolicyIssue :=
  deduplicateIssues (conflictPasses (visitSources sources) context).2

def settledFlags : AnalysisFlags :=
  analysisFlags (visitSources sources) (settledIssues sources context)

def builtCandidates : List TimeCandidate × List PolicyIssue :=
  buildCandidates (settledAtoms sources context) context (.fromRules context.sentinelRules)
    (settledFlags sources context)

def blockedCandidates : List TimeCandidate × List PolicyIssue :=
  blockEqualRankNearAmbiguity (builtCandidates sources context).1 context

def sortedCandidates : List TimeCandidate := sortCandidates (blockedCandidates sources context).1

def allIssues : List PolicyIssue :=
  settledIssues sources context ++ (builtCandidates sources context).2 ++
    (blockedCandidates sources context).2

/-- No analysis raises more issues than its fields and sources allow. -/
theorem length_allIssues :
    (allIssues sources context).length ≤ 17 * fieldTotal sources + 8 * sources.length + 2 := by
  have issues := length_conflictPasses_issues sources context
  have atoms : (settledAtoms sources context).length ≤ fieldTotal sources :=
    length_conflictPasses_atoms sources context
  have deduplicated : (settledIssues sources context).length ≤ _ := length_deduplicateIssues _
  have candidates : (builtCandidates sources context).1.length ≤ _ ∧
      (builtCandidates sources context).2.length ≤ _ := length_buildCandidates _ _ _ _
  have near : (blockedCandidates sources context).2.length ≤
      (builtCandidates sources context).1.length := by
    rw [blockedCandidates, blockEqualRankNearAmbiguity, List.length_map]
    exact length_ambiguousPairs _ _
  rw [allIssues, List.length_append, List.length_append]
  omega

end Stages

/-- Within the aggregate limits the analysis runs to its end. -/
theorem analyzeTimestampEvidence_eq {sources : List EvidenceSource} {context : PolicyContext}
    (within : aggregateWithinLimits sources context = true) :
    analyzeTimestampEvidence sources context =
      { policy := policyIdentity
        sourceReports := (visitSources sources).sourceReports.insertionSort fun left right =>
          toLex (left.lineageKey, left.sourceKey) ≤ toLex (right.lineageKey, right.sourceKey)
        extractionIssues := (visitSources sources).extractionIssues
        observations := (visitSources sources).observations
        candidates := sortedCandidates sources context
        issues := deduplicateIssues (allIssues sources context)
        decision := decideCandidates (sortedCandidates sources context)
          (settledFlags sources context).globalConflict } := by
  obtain ⟨fewSources, _, _, ⟨fewFields, _⟩, _⟩ := (aggregateWithinLimits_iff _ _).mp within
  rw [sum_sourceWeight_fields] at fewFields
  have early := length_conflictPasses_issues sources context
  have late := length_allIssues sources context
  simp only [maxAnalysisSources, maxAnalysisObservations] at fewSources fewFields
  have earlyFits : ¬ (conflictPasses (visitSources sources) context).2.length >
      maxAnalysisPolicyIssues := by
    simp only [maxAnalysisPolicyIssues]
    omega
  have lateFits : ¬ (allIssues sources context).length > maxAnalysisPolicyIssues := by
    simp only [maxAnalysisPolicyIssues]
    omega
  have reached : analyzeTimestampEvidence sources context =
      finishAnalysis context (visitSources sources) (settledAtoms sources context)
        (settledIssues sources context) := by
    unfold analyzeTimestampEvidence
    rw [if_neg (by simp [within])]
    exact if_neg earlyFits
  rw [reached]
  exact if_neg lateFits

end Guiying.Time.Policy
