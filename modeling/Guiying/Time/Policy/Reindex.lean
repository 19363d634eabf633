import Guiying.Time.Policy.Visit

/-!
# Observation indices carry no evidence

An observation index says where an observation stands in the analysis, and a key
says under which name a source was supplied. Nothing a source contributes depends
on them except where they are listed: a source at another place, under another
key, contributes the same atoms and the same issues, relabelled.
-/

namespace Guiying.Time.Policy

open Guiying.Foundation Guiying.Foundation.SortedSet Guiying.Metadata

/-- An atom with its indices erased. -/
def Atom.unindexed (atom : Atom) : Atom := { atom with observationIndices := [] }

/-- A reference with another index, observed under another source key. -/
def ObservationRef.relabel (number : Nat → Nat) (key : SourceKey → SourceKey)
    (ref : ObservationRef) : ObservationRef where
  index := number ref.index
  observation := { ref.observation with sourceKey := key ref.observation.sourceKey }

def Atom.relabel (number : Nat → Nat) (key : SourceKey → SourceKey) (atom : Atom) : Atom :=
  { atom with
    sourceKey := key atom.sourceKey
    observationIndices := atom.observationIndices.map number }

def relabelIssue (number : Nat → Nat) (key : SourceKey → SourceKey) (issue : PolicyIssue) :
    PolicyIssue :=
  { issue with
    observationIndices := issue.observationIndices.map number
    sourceKeys := sortDedup (issue.sourceKeys.map key) }

/-- What a pass found, relabelled. -/
def relabelFound (number : Nat → Nat) (key : SourceKey → SourceKey)
    (found : List Atom × List PolicyIssue) : List Atom × List PolicyIssue :=
  (found.1.map (Atom.relabel number key), found.2.map (relabelIssue number key))

def rekeySource (key : SourceKey → SourceKey) (source : EvidenceSource) : EvidenceSource :=
  { source with sourceKey := key source.sourceKey }

theorem rekeySource_id (source : EvidenceSource) : rekeySource id source = source := rfl

theorem strictMono_shift (start : Nat) : StrictMono (start + · : Nat → Nat) :=
  fun _ _ before => Nat.add_lt_add_left before start

/-! ## Groups of references -/

section References

variable (number : Nat → Nat) (key : SourceKey → SourceKey) (refs : List ObservationRef)

theorem indicesOfKind_relabel (kind : MetadataFieldKind) :
    indicesOfKind (refs.map (ObservationRef.relabel number key)) kind =
      (indicesOfKind refs kind).map (ObservationRef.relabel number key) := by
  rw [indicesOfKind, List.filter_map]
  rfl

theorem indicesByExifScope_relabel_entries :
    (indicesByExifScope (refs.map (ObservationRef.relabel number key))).entries =
      (indicesByExifScope refs).entries.map fun entry =>
        (entry.1, entry.2.map (ObservationRef.relabel number key)) :=
  OrderedMap.groupBySome_map_entries _ _ _

theorem indicesByExifScope_relabel_get? (scope : ExifScope) :
    (indicesByExifScope (refs.map (ObservationRef.relabel number key))).get? scope =
      ((indicesByExifScope refs).get? scope).map
        (List.map (ObservationRef.relabel number key)) :=
  OrderedMap.groupBySome_map_get? _ _ _ _

theorem uniqueTimestamps_relabel :
    uniqueTimestamps (refs.map (ObservationRef.relabel number key)) =
      (uniqueTimestamps refs).map fun entry =>
        (entry.1, entry.2.map (ObservationRef.relabel number key)) :=
  OrderedMap.groupBySome_map_entries _ _ _

theorem uniqueValue_map {α β γ : Type*} [LinearOrder γ] (rename : α → β) (value : β → Option γ)
    (items : List α) :
    uniqueValue value (items.map rename) = uniqueValue (fun item => value (rename item)) items := by
  rw [uniqueValue, List.mapM_map]
  rfl

theorem uniqueOffset_relabel :
    uniqueOffset (refs.map (ObservationRef.relabel number key)) = uniqueOffset refs :=
  uniqueValue_map _ _ _

theorem uniqueSubsecond_relabel :
    uniqueSubsecond (refs.map (ObservationRef.relabel number key)) = uniqueSubsecond refs :=
  uniqueValue_map _ _ _

theorem hasSemanticConflict_relabel :
    hasSemanticConflict (refs.map (ObservationRef.relabel number key)) =
      hasSemanticConflict refs := by
  cases refs with
  | nil => rfl
  | cons first rest =>
      rw [List.map_cons, hasSemanticConflict, List.any_map]
      rfl

theorem companionInvalid_relabel (subseconds : List ObservationRef) :
    companionInvalid (refs.map (ObservationRef.relabel number key))
        (subseconds.map (ObservationRef.relabel number key)) =
      companionInvalid refs subseconds := by
  simp only [companionInvalid, hasSemanticConflict_relabel, uniqueOffset_relabel,
    uniqueSubsecond_relabel, List.isEmpty_map]

theorem getD_map_relabel (found : Option (List ObservationRef)) :
    (found.map (List.map (ObservationRef.relabel number key))).getD [] =
      (found.getD []).map (ObservationRef.relabel number key) := by
  cases found <;> rfl

theorem orphanCompanions_relabel (dto offsets subseconds : List ObservationRef) :
    orphanCompanions (indicesByExifScope (dto.map (ObservationRef.relabel number key)))
        (indicesByExifScope (offsets.map (ObservationRef.relabel number key)))
        (indicesByExifScope (subseconds.map (ObservationRef.relabel number key))) =
      (orphanCompanions (indicesByExifScope dto) (indicesByExifScope offsets)
        (indicesByExifScope subseconds)).map (ObservationRef.relabel number key) := by
  simp only [orphanCompanions, indicesByExifScope_relabel_entries, ← List.map_append,
    List.filter_map, List.flatMap_map, List.map_flatMap, Function.comp_def,
    indicesByExifScope_relabel_get?, Option.isNone_map]

end References

/-! ## Issues -/

theorem raiseIf_relabel (number : Nat → Nat) (key : SourceKey → SourceKey) (condition : Bool)
    (issue : PolicyIssue) :
    (raiseIf condition issue).map (relabelIssue number key) =
      raiseIf condition (relabelIssue number key issue) := by
  cases condition <;> rfl

section Issues

variable {number : Nat → Nat} (key : SourceKey → SourceKey) (source : EvidenceSource)
  (refs : List ObservationRef)

theorem sourceIssue_relabel (code : PolicyIssueCode) (context : String) :
    sourceIssue code (rekeySource key source) context =
      relabelIssue number key (sourceIssue code source context) := by
  simp only [sourceIssue, relabelIssue, List.map_cons, List.map_nil, sortDedup_singleton]
  rfl

theorem singleObservationIssue_relabel (code : PolicyIssueCode)
    (fieldKind : Option MetadataFieldKind) (index : Nat) (context : String) :
    singleObservationIssue code fieldKind (number index) (rekeySource key source) context =
      relabelIssue number key (singleObservationIssue code fieldKind index source context) := by
  simp only [singleObservationIssue, relabelIssue, List.map_cons, List.map_nil,
    sortDedup_singleton]
  rfl

theorem fieldIssues_relabel (ref : ObservationRef) :
    fieldIssues (rekeySource key source) (ref.relabel number key) =
      (fieldIssues source ref).map (relabelIssue number key) := by
  simp only [fieldIssues, List.map_append, raiseIf_relabel, ← singleObservationIssue_relabel]
  rfl

theorem identityIssues_relabel (duplicate : Bool) :
    identityIssues duplicate (rekeySource key source) =
      (identityIssues duplicate source).map (relabelIssue number key) := by
  simp only [identityIssues, List.map_append, raiseIf_relabel, ← sourceIssue_relabel]
  rfl

theorem statusIssues_relabel :
    statusIssues (rekeySource key source) =
      (statusIssues source).map (relabelIssue number key) := by
  simp only [statusIssues, List.map_append, raiseIf_relabel, ← sourceIssue_relabel]
  rfl

/-- A pass whose finds are relabelled with its items finds the relabelled whole. -/
theorem collectPasses_relabel {α β : Type*} {first : β → List Atom × List PolicyIssue}
    {second : α → List Atom × List PolicyIssue} (rename : α → β)
    (same : ∀ item, first (rename item) = relabelFound number key (second item))
    (items : List α) :
    collectPasses first (items.map rename) = relabelFound number key (collectPasses second items) := by
  simp only [collectPasses, relabelFound, List.flatMap_map, List.map_flatMap, same]

variable (mono : StrictMono number)
include mono

theorem sortedIndices_relabel :
    sortDedup ((refs.map (ObservationRef.relabel number key)).map (·.index)) =
      (sortDedup (refs.map (·.index))).map number := by
  rw [← sortDedup_map mono, List.map_map, List.map_map]
  rfl

theorem issueForIndices_relabel (code : PolicyIssueCode) (fieldKind : Option MetadataFieldKind)
    (context : String) :
    issueForIndices code fieldKind (refs.map (ObservationRef.relabel number key)) context =
      relabelIssue number key (issueForIndices code fieldKind refs context) := by
  rw [issueForIndices, sortedIndices_relabel key refs mono]
  simp only [issueForIndices, relabelIssue, sortDedup_map_sortDedup, List.map_map]
  rfl

theorem reportRepeatedConflict_relabel (kind : MetadataFieldKind) (context : String) :
    reportRepeatedConflict (refs.map (ObservationRef.relabel number key)) kind context =
      ((reportRepeatedConflict refs kind context).1,
        (reportRepeatedConflict refs kind context).2.map (relabelIssue number key)) := by
  simp only [reportRepeatedConflict, hasSemanticConflict_relabel, raiseIf_relabel,
    issueForIndices_relabel key refs mono]

/-! ## Passes -/

theorem addSimpleAtomIndices_relabel (simple : SimpleKind) :
    addSimpleAtomIndices (rekeySource key source) simple
        (refs.map (ObservationRef.relabel number key)) =
      relabelFound number key (addSimpleAtomIndices source simple refs) := by
  have atom : ∀ (conflict : Bool) (entry : NormalizedTimestamp × List ObservationRef),
      simpleAtom (rekeySource key source) simple conflict
          (entry.2.map (ObservationRef.relabel number key)) entry.1 =
        (simpleAtom source simple conflict entry.2 entry.1).relabel number key := by
    intro conflict entry
    simp only [simpleAtom, Atom.relabel, List.map_map]
    rfl
  simp only [addSimpleAtomIndices, reportRepeatedConflict_relabel key refs mono, relabelFound,
    uniqueTimestamps_relabel, List.map_map, Function.comp_def, atom]

theorem addSimpleExifAtoms_relabel (simple : SimpleKind) :
    addSimpleExifAtoms (rekeySource key source) simple
        (refs.map (ObservationRef.relabel number key)) =
      relabelFound number key (addSimpleExifAtoms source simple refs) := by
  rw [addSimpleExifAtoms, indicesOfKind_relabel, OrderedMap.values,
    indicesByExifScope_relabel_entries, List.map_map]
  have values : (Prod.snd ∘ fun entry : ExifScope × List ObservationRef =>
      (entry.1, entry.2.map (ObservationRef.relabel number key))) =
        List.map (ObservationRef.relabel number key) ∘ Prod.snd := rfl
  rw [values, ← List.map_map]
  exact collectPasses_relabel key _
    (fun group => addSimpleAtomIndices_relabel key source group mono simple) _

theorem addExifOriginalAtoms_relabel (dto offsets subseconds : List ObservationRef)
    (offset : Option UtcOffset) (subsecond : Option (Nat ×ₗ TimePrecision))
    (evidenceConflict invalidCompanion : Bool) :
    addExifOriginalAtoms (rekeySource key source) (dto.map (ObservationRef.relabel number key))
        (offsets.map (ObservationRef.relabel number key))
        (subseconds.map (ObservationRef.relabel number key)) offset subsecond evidenceConflict
        invalidCompanion =
      (addExifOriginalAtoms source dto offsets subseconds offset subsecond evidenceConflict
        invalidCompanion).map (Atom.relabel number key) := by
  simp only [addExifOriginalAtoms, uniqueTimestamps_relabel, List.filterMap_map,
    List.map_filterMap]
  refine List.filterMap_congr fun entry _ => ?_
  simp only [Function.comp_apply, Option.map_map]
  congr 1
  funext timestamp
  simp only [exifOriginalAtom, Function.comp_apply, ← List.map_append,
    sortedIndices_relabel key _ mono, Atom.relabel]
  rfl

theorem processScopedFields_relabel (dto offsets subseconds : List ObservationRef) :
    processScopedFields (rekeySource key source)
        (dto.map (ObservationRef.relabel number key))
        (offsets.map (ObservationRef.relabel number key))
        (subseconds.map (ObservationRef.relabel number key)) =
      relabelFound number key (processScopedFields source dto offsets subseconds) := by
  simp only [processScopedFields, relabelFound, reportRepeatedConflict_relabel key _ mono,
    companionInvalid_relabel, uniqueOffset_relabel, uniqueSubsecond_relabel,
    addExifOriginalAtoms_relabel key source mono, ← List.map_append,
    issueForIndices_relabel key _ mono, ← raiseIf_relabel]

theorem processOriginalScope_relabel (offsets subseconds : List ObservationRef)
    (entry : ExifScope × List ObservationRef) :
    processOriginalScope (rekeySource key source)
        (indicesByExifScope (offsets.map (ObservationRef.relabel number key)))
        (indicesByExifScope (subseconds.map (ObservationRef.relabel number key)))
        (entry.1, entry.2.map (ObservationRef.relabel number key)) =
      relabelFound number key (processOriginalScope source (indicesByExifScope offsets)
        (indicesByExifScope subseconds) entry) := by
  simp only [processOriginalScope, indicesByExifScope_relabel_get?, getD_map_relabel,
    processScopedFields_relabel key source mono]

theorem orphanIssues_relabel :
    orphanIssues (refs.map (ObservationRef.relabel number key)) =
      (orphanIssues refs).map (relabelIssue number key) := by
  simp only [orphanIssues, List.isEmpty_map, raiseIf_relabel, issueForIndices_relabel key refs mono]

/-- What the fields of a source contribute is relabelled with them. -/
theorem processSourceFields_relabel :
    processSourceFields (rekeySource key source)
        (refs.map (ObservationRef.relabel number key)) =
      relabelFound number key (processSourceFields source refs) := by
  have original := collectPasses_relabel key _
    (processOriginalScope_relabel key source mono (indicesOfKind refs .exifOffsetTimeOriginal)
      (indicesOfKind refs .exifSubSecTimeOriginal))
    (indicesByExifScope (indicesOfKind refs .exifDateTimeOriginal)).entries
  simp only [processSourceFields, indicesOfKind_relabel, indicesByExifScope_relabel_entries,
    original, addSimpleExifAtoms_relabel key source refs mono, addSimpleAtoms,
    addSimpleAtomIndices_relabel key source _ mono, orphanCompanions_relabel,
    orphanIssues_relabel key _ mono, relabelFound, List.map_append]

end Issues

/-! ## Sources -/

theorem refsFrom_relabel (key : SourceKey → SourceKey) (start index : Nat)
    (observations : List EvidenceObservation) :
    refsFrom (start + index) (observations.map fun observation =>
        { observation with sourceKey := key observation.sourceKey }) =
      (refsFrom index observations).map (ObservationRef.relabel (start + ·) key) := by
  induction observations generalizing index with
  | nil => rfl
  | cons observation rest ih =>
      rw [List.map_cons, refsFrom, Nat.add_assoc, ih, refsFrom, List.map_cons]
      rfl

section Source

variable (start : Nat) (key : SourceKey → SourceKey) (source : EvidenceSource)

theorem sourceRefs_relabel :
    sourceRefs start (rekeySource key source) =
      (sourceRefs 0 source).map (ObservationRef.relabel (start + ·) key) := by
  rw [sourceRefs, sourceRefs, ← refsFrom_relabel, List.map_map]
  rfl

/-- A source at another place, under another key, contributes the same. -/
theorem trustedFields_relabel :
    trustedFields start (rekeySource key source) =
      relabelFound (start + ·) key (trustedFields 0 source) := by
  unfold trustedFields
  have sameReport : (rekeySource key source).report = source.report := rfl
  by_cases trusted : source.report.status = .extractedUnvalidated ∧
      reportContradicts source.report = false
  · rw [if_pos (sameReport ▸ trusted), if_pos trusted, sourceRefs_relabel,
      processSourceFields_relabel key source _ (strictMono_shift start)]
  · rw [if_neg (sameReport ▸ trusted), if_neg trusted]
    rfl

theorem sourceIssues_relabel (duplicate : Bool) :
    sourceIssues start duplicate (rekeySource key source) =
      (sourceIssues 0 duplicate source).map (relabelIssue (start + ·) key) := by
  simp only [sourceIssues, List.map_append, ← identityIssues_relabel, ← statusIssues_relabel,
    trustedFields_relabel, relabelFound, sourceRefs_relabel, List.flatMap_map, List.map_flatMap,
    fieldIssues_relabel]

end Source

/-! ## Lists of sources -/

theorem relabel_relabel (outer inner : Nat → Nat) (atom : Atom) :
    (atom.relabel inner id).relabel outer id = atom.relabel (outer ∘ inner) id := by
  simp only [Atom.relabel, List.map_map]
  rfl

theorem relabelIssue_relabelIssue (outer inner : Nat → Nat) (key : SourceKey → SourceKey)
    (issue : PolicyIssue) :
    relabelIssue outer id (relabelIssue inner key issue) =
      relabelIssue (outer ∘ inner) key issue := by
  simp only [relabelIssue, List.map_map, List.map_id, sortDedup_idem]

/-- Sources visited from a later index on find the same, shifted. -/
theorem visitedAtoms_shift (shift start : Nat) (sources : List EvidenceSource) :
    visitedAtoms (shift + start) sources =
      (visitedAtoms start sources).map (Atom.relabel (shift + ·) id) := by
  induction sources generalizing start with
  | nil => rfl
  | cons source rest ih =>
      have moved := trustedFields_relabel (shift + start) id source
      have here := trustedFields_relabel start id source
      rw [rekeySource_id] at moved here
      rw [visitedAtoms, visitedAtoms, List.map_append, Nat.add_assoc, ih, moved,
        here, relabelFound, relabelFound, List.map_map]
      congr 1
      refine List.map_congr_left fun atom _ => ?_
      rw [Function.comp_apply, relabel_relabel]
      congr 1
      exact funext fun index => Nat.add_assoc shift start index

theorem visitedIssues_shift (shift start : Nat) (seen : Finset SourceKey)
    (sources : List EvidenceSource) :
    visitedIssues (shift + start) seen sources =
      (visitedIssues start seen sources).map (relabelIssue (shift + ·) id) := by
  induction sources generalizing start seen with
  | nil => rfl
  | cons source rest ih =>
      have moved := sourceIssues_relabel (shift + start) id source (source.sourceKey ∈ seen)
      have here := sourceIssues_relabel start id source (source.sourceKey ∈ seen)
      rw [rekeySource_id] at moved here
      rw [visitedIssues, visitedIssues, List.map_append, Nat.add_assoc, ih, moved,
        here, List.map_map]
      congr 1
      refine List.map_congr_left fun issue _ => ?_
      rw [Function.comp_apply, relabelIssue_relabelIssue]
      congr 1
      exact funext fun index => Nat.add_assoc shift start index

/-- The atoms of the visit, source by source, as a view that reads no index sees them. -/
theorem map_view_visitedAtoms {β : Type*} {view : Atom → β}
    (unindexed : ∀ (start : Nat) (atom : Atom), view (atom.relabel (start + ·) id) = view atom)
    (start : Nat) (sources : List EvidenceSource) :
    (visitedAtoms start sources).map view =
      sources.flatMap fun source => (trustedFields 0 source).1.map view := by
  induction sources generalizing start with
  | nil => rfl
  | cons source rest ih =>
      rw [visitedAtoms, List.map_append, ih, List.flatMap_cons, ← rekeySource_id source,
        trustedFields_relabel, relabelFound, List.map_map]
      congr 1
      exact List.map_congr_left fun atom _ => unindexed start atom

end Guiying.Time.Policy
