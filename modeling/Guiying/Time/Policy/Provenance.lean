import Guiying.Time.Policy.StrongValue
import Guiying.Time.Policy.Unique

/-!
# Provenance

Every index an analysis reports points at an observation it reports, and a candidate names
exactly the sources and lineages of its observations. What is proved of one atom or one issue is
carried through every merge by the lists it is made from.
-/

namespace Guiying.Time.Policy

open Guiying.Foundation Guiying.Foundation.SortedSet Guiying.Metadata

/-- What the sources were observed to say, in order. -/
def observationsOf (sources : List EvidenceSource) : List EvidenceObservation :=
  sources.flatMap fun source => source.report.fields.map (observe source)

theorem length_observationsOf (sources : List EvidenceSource) :
    (observationsOf sources).length = fieldTotal sources := by
  simp [observationsOf, fieldTotal, List.length_flatMap]

theorem foldl_visitSource_observations (sources : List EvidenceSource) (pass : AnalysisPass) :
    (sources.foldl visitSource pass).observations = pass.observations ++ observationsOf sources := by
  induction sources generalizing pass with
  | nil => simp [observationsOf]
  | cons source rest ih =>
      rw [List.foldl_cons, ih]
      simp only [visitSource, sourceRefs_observations, observationsOf, List.flatMap_cons,
        List.append_assoc]

theorem visitSources_observations (sources : List EvidenceSource) :
    (visitSources sources).observations = observationsOf sources := by
  rw [visitSources, foldl_visitSource_observations]
  rfl

/-! ## References -/

variable {all : List EvidenceObservation} {source : EvidenceSource}

/-- A reference to an observation of the source, at its own place among all of them. -/
structure RefExact (all : List EvidenceObservation) (source : EvidenceSource)
    (ref : ObservationRef) : Prop where
  located : all[ref.index]? = some ref.observation
  sourceKey : ref.observation.sourceKey = source.sourceKey
  lineageKey : ref.observation.lineageKey = source.lineageKey

def RefsExact (all : List EvidenceObservation) (source : EvidenceSource)
    (refs : List ObservationRef) : Prop :=
  ∀ ref ∈ refs, RefExact all source ref

theorem RefsExact.subset {refs fewer : List ObservationRef} (exact_ : RefsExact all source refs)
    (subset : fewer ⊆ refs) : RefsExact all source fewer :=
  fun ref found => exact_ ref (subset found)

theorem RefsExact.append {first second : List ObservationRef}
    (firstExact : RefsExact all source first) (secondExact : RefsExact all source second) :
    RefsExact all source (first ++ second) := by
  intro ref found
  rcases List.mem_append.mp found with found | found
  · exact firstExact ref found
  · exact secondExact ref found

theorem RefExact.index_lt {ref : ObservationRef} (exact_ : RefExact all source ref) :
    ref.index < all.length :=
  (List.getElem?_eq_some_iff.mp exact_.located).1

theorem refsFrom_located (before observations after : List EvidenceObservation) :
    ∀ ref ∈ refsFrom before.length observations,
      (before ++ observations ++ after)[ref.index]? = some ref.observation := by
  induction observations generalizing before with
  | nil => simp [refsFrom]
  | cons observation rest ih =>
      intro ref found
      rcases List.mem_cons.mp found with rfl | later
      · simp
      · have shifted := ih (before ++ [observation]) ref (by simpa using later)
        simpa using shifted

theorem sourceRefs_exact (before after : List EvidenceObservation) (source : EvidenceSource) :
    RefsExact (before ++ source.report.fields.map (observe source) ++ after) source
      (sourceRefs before.length source) := by
  intro ref found
  obtain ⟨field, -, observed⟩ := mem_sourceRefs found
  refine ⟨refsFrom_located before _ after ref found, ?_, ?_⟩
  · rw [observed]
    rfl
  · rw [observed]
    rfl

/-! ## Atoms and issues -/

/-- Every index of an atom points at an observation of the atom's source. -/
structure AtomExact (all : List EvidenceObservation) (atom : Atom) : Prop where
  supported : atom.observationIndices ≠ []
  located : ∀ index ∈ atom.observationIndices, ∃ observation, all[index]? = some observation ∧
    observation.sourceKey = atom.sourceKey ∧ observation.lineageKey = atom.lineageKey

/-- An issue the policy raises about observations that exist. -/
structure IssueLocated (all : List EvidenceObservation) (issue : PolicyIssue) : Prop where
  located : ∀ index ∈ issue.observationIndices, index < all.length
  admitted : issue.code ≠ .analysisLimitExceeded

/-- Atoms and issues that a pass found. -/
structure FoundExact (all : List EvidenceObservation) (found : List Atom × List PolicyIssue) :
    Prop where
  atoms : ∀ atom ∈ found.1, AtomExact all atom
  issues : ∀ issue ∈ found.2, IssueLocated all issue

namespace FoundExact

theorem nil : FoundExact all ([], []) := by constructor <;> simp

theorem append {first second : List Atom × List PolicyIssue} (firstExact : FoundExact all first)
    (secondExact : FoundExact all second) :
    FoundExact all (first.1 ++ second.1, first.2 ++ second.2) where
  atoms atom found := (List.mem_append.mp found).elim (firstExact.atoms atom)
    (secondExact.atoms atom)
  issues issue found := (List.mem_append.mp found).elim (firstExact.issues issue)
    (secondExact.issues issue)

theorem collectPasses {α : Type*} {pass : α → List Atom × List PolicyIssue} {items : List α}
    (each : ∀ item ∈ items, FoundExact all (pass item)) :
    FoundExact all (Policy.collectPasses pass items) where
  atoms atom found := by
    obtain ⟨item, listed, here⟩ := List.mem_flatMap.mp found
    exact (each item listed).atoms atom here
  issues issue found := by
    obtain ⟨item, listed, here⟩ := List.mem_flatMap.mp found
    exact (each item listed).issues issue here

end FoundExact

theorem issueLocated_raiseIf {condition : Bool} {raised : PolicyIssue}
    (located : IssueLocated all raised) : ∀ issue ∈ raiseIf condition raised,
      IssueLocated all issue := by
  intro issue found
  obtain ⟨-, rfl⟩ := mem_raiseIf.mp found
  exact located

theorem issueLocated_forIndices {refs : List ObservationRef} (exact_ : RefsExact all source refs)
    {code : PolicyIssueCode} (admitted : code ≠ .analysisLimitExceeded)
    (fieldKind : Option MetadataFieldKind) (context : String) :
    IssueLocated all (issueForIndices code fieldKind refs context) where
  located index found := by
    obtain ⟨ref, listed, rfl⟩ := List.mem_map.mp (mem_sortDedup.mp found)
    exact (exact_ ref listed).index_lt
  admitted := admitted

theorem issueLocated_repeatedConflict {refs : List ObservationRef}
    (exact_ : RefsExact all source refs) (kind : MetadataFieldKind) (context : String) :
    ∀ issue ∈ (reportRepeatedConflict refs kind context).2, IssueLocated all issue :=
  issueLocated_raiseIf (issueLocated_forIndices exact_ (by decide) _ _)

/-- An atom whose indices are those of references of its source. -/
theorem atomExact_of_refs {refs : List ObservationRef} (exact_ : RefsExact all source refs)
    (supported : refs ≠ []) {atom : Atom} (sourceKey : atom.sourceKey = source.sourceKey)
    (lineageKey : atom.lineageKey = source.lineageKey)
    (indices : ∀ index, index ∈ atom.observationIndices ↔ index ∈ refs.map (·.index)) :
    AtomExact all atom where
  supported := by
    obtain ⟨ref, listed⟩ := List.exists_mem_of_ne_nil refs supported
    exact List.ne_nil_of_mem ((indices ref.index).mpr (List.mem_map_of_mem listed))
  located index found := by
    obtain ⟨ref, listed, rfl⟩ := List.mem_map.mp ((indices index).mp found)
    have here := exact_ ref listed
    exact ⟨ref.observation, here.located, here.sourceKey.trans sourceKey.symm,
      here.lineageKey.trans lineageKey.symm⟩

/-! ## One source -/

theorem uniqueTimestamps_exact {refs : List ObservationRef} (exact_ : RefsExact all source refs)
    {entry : NormalizedTimestamp × List ObservationRef} (found : entry ∈ uniqueTimestamps refs) :
    RefsExact all source entry.2 ∧ entry.2 ≠ [] := by
  obtain ⟨⟨ref, present, read⟩, group⟩ := mem_uniqueTimestamps.mp found
  rw [group]
  exact ⟨exact_.subset (fun _ found => (List.mem_filter.mp found).1), List.ne_nil_of_mem
    (List.mem_filter.mpr ⟨present, by simpa using read⟩)⟩

theorem addSimpleAtomIndices_exact (simple : SimpleKind) {refs : List ObservationRef}
    (exact_ : RefsExact all source refs) :
    FoundExact all (addSimpleAtomIndices source simple refs) where
  atoms atom found := by
    obtain ⟨entry, timed, rfl⟩ := mem_addSimpleAtomIndices found
    obtain ⟨entryExact, supported⟩ := uniqueTimestamps_exact exact_ timed
    exact atomExact_of_refs entryExact supported rfl rfl fun _ => Iff.rfl
  issues := issueLocated_repeatedConflict exact_ _ _

theorem processScopedFields_exact {dto offsets subseconds : List ObservationRef}
    (dtoExact : RefsExact all source dto) (offsetsExact : RefsExact all source offsets)
    (subsecondsExact : RefsExact all source subseconds) :
    FoundExact all (processScopedFields source dto offsets subseconds) where
  atoms atom found := by
    simp only [processScopedFields, addExifOriginalAtoms, List.mem_filterMap,
      Option.map_eq_some_iff] at found
    obtain ⟨entry, timed, timestamp, -, rfl⟩ := found
    obtain ⟨entryExact, supported⟩ := uniqueTimestamps_exact dtoExact timed
    refine atomExact_of_refs ((entryExact.append offsetsExact).append subsecondsExact) ?_ rfl rfl
      fun index => mem_sortDedup
    simp [supported]
  issues issue found := by
    simp only [processScopedFields, List.mem_append] at found
    rcases found with ((repeated | repeated) | repeated) | invalid
    · exact issueLocated_repeatedConflict dtoExact _ _ issue repeated
    · exact issueLocated_repeatedConflict offsetsExact _ _ issue repeated
    · exact issueLocated_repeatedConflict subsecondsExact _ _ issue repeated
    · exact issueLocated_raiseIf (issueLocated_forIndices (offsetsExact.append subsecondsExact)
        (by decide) _ _) issue invalid

section Fields

variable {range : List ObservationRef}

theorem indicesOfKind_exact (exact_ : RefsExact all source range) (kind : MetadataFieldKind) :
    RefsExact all source (indicesOfKind range kind) :=
  exact_.subset fun _ found => (mem_indicesOfKind.mp found).1

theorem inScope_exact (exact_ : RefsExact all source range) (kind : MetadataFieldKind)
    (scope : ExifScope) : RefsExact all source (inScope (indicesOfKind range kind) scope) :=
  (indicesOfKind_exact exact_ kind).subset fun _ found => (mem_inScope.mp found).1

theorem scopeEntry_exact (exact_ : RefsExact all source range) {kind : MetadataFieldKind}
    {entry : ExifScope × List ObservationRef}
    (found : entry ∈ (indicesByExifScope (indicesOfKind range kind)).entries) :
    RefsExact all source entry.2 := by
  rw [(mem_indicesByExifScope.mp found).2]
  exact inScope_exact exact_ kind entry.1

theorem addSimpleExifAtoms_exact (exact_ : RefsExact all source range) (simple : SimpleKind) :
    FoundExact all (addSimpleExifAtoms source simple range) := by
  refine .collectPasses fun refs grouped => addSimpleAtomIndices_exact simple ?_
  obtain ⟨entry, listed, rfl⟩ := List.mem_map.mp grouped
  exact scopeEntry_exact exact_ listed

theorem originalScopes_exact (exact_ : RefsExact all source range) :
    FoundExact all (collectPasses
      (processOriginalScope source
        (indicesByExifScope (indicesOfKind range .exifOffsetTimeOriginal))
        (indicesByExifScope (indicesOfKind range .exifSubSecTimeOriginal)))
      (indicesByExifScope (indicesOfKind range .exifDateTimeOriginal)).entries) := by
  refine .collectPasses fun entry grouped => ?_
  rw [processOriginalScope, getD_indicesByExifScope, getD_indicesByExifScope]
  exact processScopedFields_exact (scopeEntry_exact exact_ grouped) (inScope_exact exact_ _ _)
    (inScope_exact exact_ _ _)

theorem orphanCompanions_exact (exact_ : RefsExact all source range) :
    RefsExact all source (orphanCompanions
      (indicesByExifScope (indicesOfKind range .exifDateTimeOriginal))
      (indicesByExifScope (indicesOfKind range .exifOffsetTimeOriginal))
      (indicesByExifScope (indicesOfKind range .exifSubSecTimeOriginal))) := by
  intro ref found
  obtain ⟨entry, listed, here⟩ := List.mem_flatMap.mp found
  rcases List.mem_append.mp (List.mem_filter.mp listed).1 with offset | subsecond
  · exact scopeEntry_exact exact_ offset ref here
  · exact scopeEntry_exact exact_ subsecond ref here

theorem processSourceFields_exact (exact_ : RefsExact all source range) :
    FoundExact all (processSourceFields source range) := by
  have orphan : FoundExact all ([], orphanIssues (orphanCompanions
      (indicesByExifScope (indicesOfKind range .exifDateTimeOriginal))
      (indicesByExifScope (indicesOfKind range .exifOffsetTimeOriginal))
      (indicesByExifScope (indicesOfKind range .exifSubSecTimeOriginal)))) :=
    ⟨by simp, issueLocated_raiseIf
      (issueLocated_forIndices (orphanCompanions_exact exact_) (by decide) _ _)⟩
  exact ((((orphan.append (originalScopes_exact exact_)).append
    (addSimpleExifAtoms_exact exact_ createDateKind)).append
    (addSimpleExifAtoms_exact exact_ modifyDateKind)).append
    (addSimpleAtomIndices_exact quickTimeCreationKind (indicesOfKind_exact exact_ _))).append
    (addSimpleAtomIndices_exact movieHeaderKind (indicesOfKind_exact exact_ _))

theorem fieldIssues_located {ref : ObservationRef} (exact_ : RefExact all source ref) :
    ∀ issue ∈ fieldIssues source ref, IssueLocated all issue := by
  have single : ∀ code, code ≠ .analysisLimitExceeded → ∀ kind context,
      IssueLocated all (singleObservationIssue code kind ref.index source context) := by
    intro code admitted kind context
    refine ⟨fun index found => ?_, admitted⟩
    rw [List.mem_singleton.mp found]
    exact exact_.index_lt
  intro issue found
  simp only [fieldIssues, List.mem_append] at found
  rcases found with (((found | found) | found) | found) | found
  all_goals exact issueLocated_raiseIf (single _ (by decide) _ _) issue found

end Fields

theorem sourceIssue_located {code : PolicyIssueCode} (admitted : code ≠ .analysisLimitExceeded)
    (source : EvidenceSource) (context : String) :
    IssueLocated all (sourceIssue code source context) :=
  ⟨by simp [sourceIssue], admitted⟩

theorem identityIssues_located (duplicate : Bool) (source : EvidenceSource) :
    ∀ issue ∈ identityIssues duplicate source, IssueLocated all issue := by
  intro issue found
  simp only [identityIssues, List.mem_append] at found
  rcases found with (found | found) | found
  all_goals exact issueLocated_raiseIf (sourceIssue_located (by decide) _ _) issue found

theorem statusIssues_located (source : EvidenceSource) :
    ∀ issue ∈ statusIssues source, IssueLocated all issue := by
  intro issue found
  simp only [statusIssues, List.mem_append] at found
  rcases found with found | found
  all_goals exact issueLocated_raiseIf (sourceIssue_located (by decide) _ _) issue found

theorem trustedFields_exact {start : Nat} (exact_ : RefsExact all source (sourceRefs start source)) :
    FoundExact all (trustedFields start source) := by
  unfold trustedFields
  split
  · exact processSourceFields_exact exact_
  · exact .nil

theorem sourceIssues_located {start : Nat} (exact_ : RefsExact all source (sourceRefs start source))
    (duplicate : Bool) : ∀ issue ∈ sourceIssues start duplicate source, IssueLocated all issue := by
  intro issue found
  simp only [sourceIssues, List.mem_append] at found
  rcases found with ((found | found) | found) | found
  · exact identityIssues_located duplicate source issue found
  · obtain ⟨ref, listed, here⟩ := List.mem_flatMap.mp found
    exact fieldIssues_located (exact_ ref listed) issue here
  · exact statusIssues_located source issue found
  · exact (trustedFields_exact exact_).issues issue found

/-! ## All sources -/

/-- Visiting the sources that come after some observations. -/
theorem visited_exact (before : List EvidenceObservation) (seen : Finset SourceKey)
    (sources : List EvidenceSource) :
    FoundExact (before ++ observationsOf sources)
      (visitedAtoms before.length sources, visitedIssues before.length seen sources) := by
  induction sources generalizing before seen with
  | nil => exact .nil
  | cons source rest ih =>
      have own := sourceRefs_exact before (observationsOf rest) source
      have later := ih (before ++ source.report.fields.map (observe source))
        (insert source.sourceKey seen)
      rw [List.append_assoc] at own later
      rw [List.length_append, List.length_map] at later
      have here : FoundExact (before ++ observationsOf (source :: rest))
          ((trustedFields before.length source).1,
            sourceIssues before.length (source.sourceKey ∈ seen) source) :=
        ⟨(trustedFields_exact own).atoms, sourceIssues_located own _⟩
      exact here.append later

theorem visitSources_exact (sources : List EvidenceSource) :
    FoundExact (observationsOf sources)
      ((visitSources sources).atoms, (visitSources sources).issues) := by
  rw [visitSources_atoms, visitSources_issues]
  exact visited_exact [] ∅ sources

/-! ## Conflicts -/

theorem AtomExact.conflicted {atom : Atom} (exact_ : AtomExact all atom) :
    AtomExact all { atom with conflicted := true } :=
  ⟨exact_.supported, exact_.located⟩

theorem markConflicted_exact {atoms : List Atom} (exact_ : ∀ atom ∈ atoms, AtomExact all atom)
    (indices : List AtomRef) : ∀ atom ∈ markConflicted atoms indices, AtomExact all atom := by
  intro atom found
  obtain ⟨index, inside, rfl⟩ := List.mem_iff_getElem.mp found
  rw [markConflicted, List.length_mapIdx] at inside
  have before := exact_ atoms[index] (List.getElem_mem inside)
  simp only [markConflicted, List.getElem_mapIdx]
  split
  · exact before.conflicted
  · exact before

/-- References to atoms that are exact. -/
def AtomRefsExact (all : List EvidenceObservation) (refs : List AtomRef) : Prop :=
  ∀ ref ∈ refs, AtomExact all ref.1

theorem zipIdx_exact {atoms : List Atom} (exact_ : ∀ atom ∈ atoms, AtomExact all atom) :
    AtomRefsExact all atoms.zipIdx :=
  fun ref found => exact_ ref.1 (exists_zipIdx.mp ⟨ref.2, found⟩)

theorem issueForAtomIndices_located {refs : List AtomRef} (exact_ : AtomRefsExact all refs)
    {code : PolicyIssueCode} (admitted : code ≠ .analysisLimitExceeded) (context : String) :
    IssueLocated all (issueForAtomIndices code refs context) where
  located index found := by
    obtain ⟨ref, listed, here⟩ := List.mem_flatMap.mp (mem_sortDedup.mp found)
    obtain ⟨observation, located, -⟩ := (exact_ ref listed).located index here
    exact (List.getElem?_eq_some_iff.mp located).1
  admitted := admitted

theorem strongConflictIssue_located {refs : List AtomRef} (exact_ : AtomRefsExact all refs)
    (difference : Int) (context : PolicyContext) :
    IssueLocated all (strongConflictIssue refs difference context) := by
  unfold strongConflictIssue
  split
  · exact issueForAtomIndices_located exact_ (by decide) _
  · exact issueForAtomIndices_located exact_ (by decide) _

namespace FoundExact

variable {state : List Atom × List PolicyIssue}

theorem mark (found : FoundExact all state) (refs : List AtomRef) :
    FoundExact all (markConflicted state.1 refs, state.2) :=
  ⟨markConflicted_exact found.atoms refs, found.issues⟩

theorem report (found : FoundExact all state) (refs : List AtomRef) {issue : PolicyIssue}
    (located : IssueLocated all issue) :
    FoundExact all (markConflicted state.1 refs, state.2 ++ [issue]) := by
  refine ⟨markConflicted_exact found.atoms refs, fun other listed => ?_⟩
  rcases List.mem_append.mp listed with earlier | last
  · exact found.issues other earlier
  · rw [List.mem_singleton.mp last]
    exact located

theorem lineageGroup (found : FoundExact all state) {group : List AtomRef}
    (exact_ : AtomRefsExact all group) : FoundExact all (markLineageGroup state group) := by
  unfold markLineageGroup
  dsimp only
  split
  · exact found.report group (issueForAtomIndices_located exact_ (by decide) _)
  · exact found

theorem lineageGroups {groups : List (List AtomRef)}
    (exact_ : ∀ group ∈ groups, AtomRefsExact all group) (found : FoundExact all state) :
    FoundExact all (groups.foldl markLineageGroup state) := by
  induction groups generalizing state with
  | nil => exact found
  | cons group rest ih =>
      have here := found.lineageGroup (exact_ group List.mem_cons_self)
      exact ih (fun other listed => exact_ other (List.mem_cons_of_mem group listed)) here

theorem lineages {atoms : List Atom} {issues : List PolicyIssue}
    (found : FoundExact all (atoms, issues)) :
    FoundExact all (markLineageConflicts atoms issues) := by
  refine lineageGroups (fun group listed => ?_) found
  rw [OrderedMap.groupBy_values] at listed
  obtain ⟨key, -, rfl⟩ := List.mem_map.mp listed
  exact fun ref inside => zipIdx_exact found.atoms ref (List.mem_filter.mp inside).1

theorem explicitConflicts {refs : List AtomRef} (exact_ : AtomRefsExact all refs)
    (context : PolicyContext) (found : FoundExact all state) :
    FoundExact all (markExplicitConflicts refs context state) := by
  unfold markExplicitConflicts
  split
  · exact found
  · dsimp only
    split
    · exact found.report refs (strongConflictIssue_located exact_ _ context)
    · exact found

theorem floatingConflicts {refs : List AtomRef} (exact_ : AtomRefsExact all refs)
    (context : PolicyContext) (found : FoundExact all state) :
    FoundExact all (markFloatingConflicts refs context state) := by
  unfold markFloatingConflicts
  dsimp only
  split
  · exact found
  split
  · exact found.mark refs
  split
  · exact found
  · exact found.mark refs
  · exact found.report refs (strongConflictIssue_located exact_ _ context)

end FoundExact

/-- What the analysis holds when candidates are built. -/
theorem conflictPasses_exact (sources : List EvidenceSource) (context : PolicyContext) :
    FoundExact (observationsOf sources) (conflictPasses (visitSources sources) context) := by
  have lineages := (visitSources_exact sources).lineages
  have representatives : AtomRefsExact (observationsOf sources) (strongRepresentatives []
      (markLineageConflicts (visitSources sources).atoms (visitSources sources).issues).1.zipIdx) :=
    fun ref found => zipIdx_exact lineages.atoms ref (mem_strongRepresentatives found).1
  exact (lineages.explicitConflicts representatives context).floatingConflicts representatives
    context

theorem deduplicateIssues_located {issues : List PolicyIssue}
    (located : ∀ issue ∈ issues, IssueLocated all issue) :
    ∀ issue ∈ deduplicateIssues issues, IssueLocated all issue := by
  intro issue found
  have kept := (List.destutter_sublist (fun left right => ¬ sameIssue left right) _).subset found
  obtain ⟨original, listed, rfl⟩ := List.mem_map.mp ((List.mem_insertionSort _).mp kept)
  have before := located original listed
  exact ⟨fun index here => before.located index (mem_sortDedup.mp here), before.admitted⟩

/-! ## Candidates -/

/-- A candidate names its observations, and their sources and lineages, as sets. -/
structure CandidateExact (all : List EvidenceObservation) (candidate : TimeCandidate) : Prop where
  supported : candidate.observationIndices ≠ []
  ascending : candidate.observationIndices.Pairwise (· < ·)
  located : ∀ index ∈ candidate.observationIndices, index < all.length
  sources : candidate.supportingSources.Pairwise (· < ·) ∧
    ∀ key, key ∈ candidate.supportingSources ↔
      ∃ index ∈ candidate.observationIndices, ∃ observation,
        all[index]? = some observation ∧ observation.sourceKey = key
  lineages : candidate.supportingLineages.Pairwise (· < ·) ∧
    ∀ key, key ∈ candidate.supportingLineages ↔
      ∃ index ∈ candidate.observationIndices, ∃ observation,
        all[index]? = some observation ∧ observation.lineageKey = key

section Merged

variable {items : List Atom}

theorem mem_mergedObservations {index : Nat} :
    index ∈ sortDedup (items.flatMap (·.observationIndices)) ↔
      ∃ atom ∈ items, index ∈ atom.observationIndices := by
  rw [mem_sortDedup, List.mem_flatMap]

/-- A key every observation of an atom has in common with it is found through the observations. -/
theorem mem_mergedKeys {κ : Type*} [LinearOrder κ] {ofAtom : Atom → κ}
    {ofObservation : EvidenceObservation → κ} (exact_ : ∀ atom ∈ items, AtomExact all atom)
    (agree : ∀ atom ∈ items, ∀ index ∈ atom.observationIndices, ∀ observation,
      all[index]? = some observation → ofObservation observation = ofAtom atom) (key : κ) :
    key ∈ sortDedup (items.map ofAtom) ↔
      ∃ index ∈ sortDedup (items.flatMap (·.observationIndices)), ∃ observation,
        all[index]? = some observation ∧ ofObservation observation = key := by
  rw [mem_sortDedup, List.mem_map]
  constructor
  · rintro ⟨atom, listed, rfl⟩
    obtain ⟨index, here⟩ := List.exists_mem_of_ne_nil _ (exact_ atom listed).supported
    obtain ⟨observation, located, -⟩ := (exact_ atom listed).located index here
    exact ⟨index, mem_mergedObservations.mpr ⟨atom, listed, here⟩, observation, located,
      agree atom listed index here observation located⟩
  · rintro ⟨index, found, observation, located, rfl⟩
    obtain ⟨atom, listed, here⟩ := mem_mergedObservations.mp found
    exact ⟨atom, listed, (agree atom listed index here observation located).symm⟩

theorem AtomExact.sourceKey {atom : Atom} (exact_ : AtomExact all atom) {index : Nat}
    (here : index ∈ atom.observationIndices) {observation : EvidenceObservation}
    (located : all[index]? = some observation) : observation.sourceKey = atom.sourceKey := by
  obtain ⟨other, found, same, -⟩ := exact_.located index here
  cases located.symm.trans found
  exact same

theorem AtomExact.lineageKey {atom : Atom} (exact_ : AtomExact all atom) {index : Nat}
    (here : index ∈ atom.observationIndices) {observation : EvidenceObservation}
    (located : all[index]? = some observation) : observation.lineageKey = atom.lineageKey := by
  obtain ⟨other, found, -, same⟩ := exact_.located index here
  cases located.symm.trans found
  exact same

/-- A candidate made of exact atoms, and its issues. -/
theorem finishCandidate_exact (items : List Atom) (exact_ : ∀ atom ∈ items, AtomExact all atom)
    (inhabited : items ≠ []) (context : PolicyContext) (sentinelIndex : SentinelIndex)
    (flags : AnalysisFlags) (timestamp : NormalizedTimestamp) :
    CandidateExact all
        (finishCandidate context sentinelIndex flags (mergedWork timestamp items)).1 ∧
      ∀ issue ∈ (finishCandidate context sentinelIndex flags (mergedWork timestamp items)).2,
        IssueLocated all issue := by
  have located : ∀ index ∈ sortDedup (items.flatMap (·.observationIndices)),
      index < all.length := by
    intro index found
    obtain ⟨atom, listed, here⟩ := mem_mergedObservations.mp found
    obtain ⟨observation, located, -⟩ := (exact_ atom listed).located index here
    exact (List.getElem?_eq_some_iff.mp located).1
  constructor
  · refine ⟨?_, sortDedup_pairwise _, located, ⟨sortDedup_pairwise _, ?_⟩,
      ⟨sortDedup_pairwise _, ?_⟩⟩
    · obtain ⟨atom, listed⟩ := List.exists_mem_of_ne_nil items inhabited
      obtain ⟨index, here⟩ := List.exists_mem_of_ne_nil _ (exact_ atom listed).supported
      exact List.ne_nil_of_mem (mem_mergedObservations.mpr ⟨atom, listed, here⟩)
    · exact mem_mergedKeys exact_ fun atom listed index here observation =>
        (exact_ atom listed).sourceKey here
    · exact mem_mergedKeys exact_ fun atom listed index here observation =>
        (exact_ atom listed).lineageKey here
  · intro issue found
    obtain ⟨anomaly, -, raised⟩ := List.mem_filterMap.mp found
    obtain ⟨⟨code, message⟩, known, rfl⟩ := Option.map_eq_some_iff.mp raised
    refine ⟨located, ?_⟩
    rintro rfl
    cases anomaly <;> cases known

theorem filter_timestamp_ne_nil {atoms : List Atom} {atom : Atom} (member : atom ∈ atoms) :
    atoms.filter (fun other => atom.timestamp = other.timestamp) ≠ [] :=
  List.ne_nil_of_mem (List.mem_filter.mpr ⟨member, by simp⟩)

end Merged

theorem buildCandidates_exact {atoms : List Atom} (exact_ : ∀ atom ∈ atoms, AtomExact all atom)
    (context : PolicyContext) (sentinelIndex : SentinelIndex) (flags : AnalysisFlags) :
    (∀ candidate ∈ (buildCandidates atoms context sentinelIndex flags).1,
        CandidateExact all candidate) ∧
      ∀ issue ∈ (buildCandidates atoms context sentinelIndex flags).2, IssueLocated all issue := by
  have finished : ∀ atom ∈ atoms, _ := fun atom member =>
    finishCandidate_exact (atoms.filter fun other => atom.timestamp = other.timestamp)
      (fun other found => exact_ other (List.mem_filter.mp found).1)
      (filter_timestamp_ne_nil member) context sentinelIndex flags atom.timestamp
  constructor
  · intro candidate found
    obtain ⟨atom, member, rfl⟩ := mem_buildCandidates.mp found
    exact (finished atom member).1
  · intro issue found
    simp only [buildCandidates, mergeAtoms_values, List.map_map, List.mem_flatMap, List.mem_map,
      mem_sortDedup] at found
    obtain ⟨_, ⟨timestamp, ⟨atom, member, rfl⟩, rfl⟩, here⟩ := found
    exact (finished atom member).2 issue here

/-- Blocking changes a gate only. -/
theorem CandidateExact.of_onlyBlocks {before after : TimeCandidate}
    (exact_ : CandidateExact all before) (blocks : OnlyBlocks before after) :
    CandidateExact all after := by
  obtain ⟨gate, rfl, -⟩ := blocks
  exact ⟨exact_.supported, exact_.ascending, exact_.located, exact_.sources, exact_.lineages⟩

/-- The candidates an ambiguous pair joins are among those looked at. -/
theorem mem_ambiguousPair {candidates : List TimeCandidate} {context : PolicyContext}
    {pair : List HighCandidate} (found : pair ∈ ambiguousPairs candidates context)
    {high : HighCandidate} (inside : high ∈ pair) : high.candidate ∈ candidates := by
  obtain ⟨priority, -, near⟩ := mem_ambiguousPairs.mp found
  obtain ⟨left, right, sub, rfl⟩ := exists_of_mem_nearPairs near
  have listed : ∀ entry ∈ [left, right], high ∈ entry.2 → high.candidate ∈ candidates := by
    intro entry either here
    have grouped := sub.subset either
    rw [OrderedMap.groupBy_entries] at grouped
    obtain ⟨value, -, rfl⟩ := List.mem_map.mp grouped
    have kept := (List.mem_filter.mp (List.mem_filter.mp here).1).1
    obtain ⟨index, candidate, total, at', rfl⟩ := mem_highCandidates.mp kept
    exact List.mem_of_getElem? at'.located
  rcases List.mem_append.mp inside with here | here
  · exact listed left (by simp) here
  · exact listed right (by simp) here

theorem blockEqualRankNearAmbiguity_snd (candidates : List TimeCandidate)
    (context : PolicyContext) :
    (blockEqualRankNearAmbiguity candidates context).2 =
      (ambiguousPairs candidates context).map nearPairIssue := rfl

theorem nearPairIssue_located {candidates : List TimeCandidate} {context : PolicyContext}
    (exact_ : ∀ candidate ∈ candidates, CandidateExact all candidate) {pair : List HighCandidate}
    (found : pair ∈ ambiguousPairs candidates context) : IssueLocated all (nearPairIssue pair) where
  located index here := by
    obtain ⟨high, inside, listed⟩ := List.mem_flatMap.mp (mem_sortDedup.mp here)
    exact (exact_ high.candidate (mem_ambiguousPair found inside)).located index listed
  admitted := by simp [nearPairIssue]

/-! ## The analysis -/

theorem builtCandidates_exact (sources : List EvidenceSource) (context : PolicyContext) :
    (∀ candidate ∈ (builtCandidates sources context).1,
        CandidateExact (observationsOf sources) candidate) ∧
      ∀ issue ∈ (builtCandidates sources context).2,
        IssueLocated (observationsOf sources) issue :=
  buildCandidates_exact (conflictPasses_exact sources context).atoms _ _ _

theorem allIssues_located (sources : List EvidenceSource) (context : PolicyContext) :
    ∀ issue ∈ allIssues sources context, IssueLocated (observationsOf sources) issue := by
  have built := builtCandidates_exact sources context
  intro issue found
  simp only [allIssues, List.mem_append] at found
  rcases found with (settled | candidate) | near
  · exact deduplicateIssues_located (conflictPasses_exact sources context).issues issue settled
  · exact built.2 issue candidate
  · rw [blockedCandidates, blockEqualRankNearAmbiguity_snd] at near
    obtain ⟨pair, listed, rfl⟩ := List.mem_map.mp near
    exact nearPairIssue_located built.1 listed

/-- Within the aggregate limits the observations are the fields of the reports in source order,
every index of a candidate or an issue is one of theirs, and a candidate has observations, in
ascending order, whose sources and lineages are exactly those it names. -/
theorem analyzeTimestampEvidence_provenance (sources : List EvidenceSource)
    (context : PolicyContext) (within : aggregateWithinLimits sources context = true) :
    let analysis := analyzeTimestampEvidence sources context
    analysis.observations =
        sources.flatMap (fun source => source.report.fields.map (observe source)) ∧
      analysis.observations.map (·.field) =
        sources.flatMap (fun source => source.report.fields) ∧
      (∀ issue ∈ analysis.issues, ∀ index ∈ issue.observationIndices,
        index < analysis.observations.length) ∧
      ∀ candidate ∈ analysis.candidates, CandidateExact analysis.observations candidate := by
  intro analysis
  have observations : analysis.observations = observationsOf sources := by
    change (analyzeTimestampEvidence sources context).observations = _
    rw [analyzeTimestampEvidence_eq within]
    dsimp only
    exact visitSources_observations sources
  rw [observations]
  refine ⟨rfl, ?_, ?_, ?_⟩
  · simp [observationsOf, List.map_flatMap, Function.comp_def, observe]
  · intro issue found
    change issue ∈ (analyzeTimestampEvidence sources context).issues at found
    rw [analyzeTimestampEvidence_eq within] at found
    dsimp only at found
    exact (deduplicateIssues_located (allIssues_located sources context) issue found).located
  · intro candidate found
    obtain ⟨before, built, blocks⟩ := mem_sortedCandidates (mem_candidates found).2
    exact ((builtCandidates_exact sources context).1 before built).of_onlyBlocks blocks

theorem analyzeTimestampEvidence_provenance_sampleSource :
    let analysis := analyzeTimestampEvidence [sampleSource] sampleContext
    analysis.observations =
        [sampleSource].flatMap (fun source => source.report.fields.map (observe source)) ∧
      ∀ candidate ∈ analysis.candidates, CandidateExact analysis.observations candidate := by
  have provenance := analyzeTimestampEvidence_provenance [sampleSource] sampleContext (by decide)
  exact ⟨provenance.1, provenance.2.2.2⟩

end Guiying.Time.Policy
