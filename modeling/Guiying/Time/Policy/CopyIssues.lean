import Guiying.Time.Policy.Copies
import Guiying.Time.Policy.Provenance
import Guiying.Time.Policy.RaisedIssues

/-!
# The issues that come with a copy

A copy between two parts of the list renumbers the observations behind it. Up to
that, every issue of the analysis is found again with the copy, its sources and
observations grown by those of the copy at most. What is new besides is said of
the copy alone, and was said of its source before. An issue of the strong pass
names the first source of each lineage only, so a copy in front of its source may
be named there in place of sources of the lineage behind it.
-/

namespace Guiying.Time.Policy

open Guiying.Foundation Guiying.Foundation.SortedSet Guiying.Foundation.MachineInt
open Guiying.Metadata

section Insertion

variable (first second : List EvidenceSource) (source : EvidenceSource) (key : SourceKey)

/-- Where an observation stands once a copy of `source` follows `first`. -/
def place (index : Nat) : Nat :=
  if index < fieldTotal first then index else source.report.fields.length + index

/-- The observations of the copy itself. -/
def OfCopy (index : Nat) : Prop :=
  fieldTotal first ≤ index ∧ index < fieldTotal first + source.report.fields.length

/-- Indices that grew by observations of the copy at most. -/
structure IndicesGrown (before after : List Nat) : Prop where
  kept : before.map (place first source) ⊆ after
  added : ∀ index ∈ after, index ∈ before.map (place first source) ∨ OfCopy first source index

/-- An issue and the issue that stands in its place with the copy. -/
structure IssueGrown (before after : PolicyIssue) : Prop where
  code : after.code = before.code
  fieldKind : after.fieldKind = before.fieldKind
  lineageKeys : after.lineageKeys = before.lineageKeys
  sources : KeysGrown key before.sourceKeys after.sourceKeys
  observations : IndicesGrown first source before.observationIndices after.observationIndices

/-- An issue about one source, raised again about its copy and the same fields. -/
structure IssueRepeated (before after : PolicyIssue) : Prop where
  code : after.code = before.code
  fieldKind : after.fieldKind = before.fieldKind
  lineageKeys : after.lineageKeys = before.lineageKeys
  original : before.sourceKeys = [source.sourceKey]
  copied : after.sourceKeys = [key]
  observations : ∃ (start : Nat) (fields : List Nat),
    before.observationIndices = fields.map (start + ·) ∧
      after.observationIndices = fields.map (fieldTotal first + ·)
  inside : ∀ index ∈ after.observationIndices, OfCopy first source index

/-- The codes of the strong pass, which names the first atom of each lineage, kind and timestamp.
Where several floating times lie apart the first of them decides the code. -/
def NamesRepresentatives (code : PolicyIssueCode) : Prop :=
  code = .strongEvidenceConflict ∨ code = .possibleTimezoneConflict

/-- An issue of the strong pass in which the copy, in front of its source, stands for sources of
its lineage that come behind it. -/
structure IssueTaken (before after : PolicyIssue) : Prop where
  front : source ∉ first
  codes : NamesRepresentatives before.code ∧ NamesRepresentatives after.code
  fieldKind : after.fieldKind = before.fieldKind
  lineageKeys : after.lineageKeys = before.lineageKeys
  added : after.sourceKeys ⊆ key :: before.sourceKeys
  replaced : ∀ other ∈ before.sourceKeys, other ∈ after.sourceKeys ∨
    key ∈ after.sourceKeys ∧ ∃ origin ∈ second, origin.sourceKey = other ∧
      origin.lineageKey = source.lineageKey
  observed : ∀ index ∈ after.observationIndices,
    index ∈ before.observationIndices.map (place first source) ∨ OfCopy first source index
  unobserved : ∀ index ∈ before.observationIndices,
    place first source index ∈ after.observationIndices ∨ key ∈ after.sourceKeys

/-- Every issue is found again, and every issue is one found again or repeated for the copy. -/
structure IssuesFollow (before after : List PolicyIssue) : Prop where
  kept : ∀ issue ∈ before, ∃ later ∈ after, IssueGrown first source key issue later ∨
    IssueTaken first second source key issue later
  explained : ∀ later ∈ after, ∃ issue ∈ before, IssueGrown first source key issue later ∨
    IssueRepeated first source key issue later ∨ IssueTaken first second source key issue later

end Insertion

variable {first second : List EvidenceSource} {source : EvidenceSource} {key : SourceKey}

theorem place_of_lt {index : Nat} (inside : index < fieldTotal first) :
    place first source index = index := if_pos inside

theorem place_of_le {index : Nat} (behind : fieldTotal first ≤ index) :
    place first source index = source.report.fields.length + index :=
  if_neg (Nat.not_lt.mpr behind)

/-! ## Grown lists -/

namespace IndicesGrown

variable {before after : List Nat}

theorem of_map (moved : before.map (place first source) = after) :
    IndicesGrown first source before after := by
  subst moved
  exact ⟨fun _ found => found, fun _ found => Or.inl found⟩

theorem canonical (grown : IndicesGrown first source before after) :
    IndicesGrown first source (sortDedup before) (sortDedup after) := by
  constructor
  · intro index found
    obtain ⟨old, listed, rfl⟩ := List.mem_map.mp found
    exact mem_sortDedup.mpr (grown.kept (List.mem_map_of_mem (mem_sortDedup.mp listed)))
  · intro index found
    refine (grown.added index (mem_sortDedup.mp found)).imp_left fun old => ?_
    obtain ⟨earlier, listed, rfl⟩ := List.mem_map.mp old
    exact List.mem_map_of_mem (mem_sortDedup.mpr listed)

theorem flatMap {α : Type*} {related : α → α → Prop} {view : α → List Nat} {before after : List α}
    (follow : List.Forall₂ related before after)
    (each : ∀ left right, related left right → IndicesGrown first source (view left) (view right)) :
    IndicesGrown first source (before.flatMap view) (after.flatMap view) := by
  induction follow with
  | nil => exact .of_map rfl
  | cons head _ ih =>
      have here := each _ _ head
      simp only [List.flatMap_cons]
      constructor
      · rw [List.map_append]
        exact List.append_subset.mpr ⟨List.Subset.trans here.kept (List.subset_append_left _ _),
          List.Subset.trans ih.kept (List.subset_append_right _ _)⟩
      · intro index found
        rw [List.map_append, List.mem_append]
        rcases List.mem_append.mp found with found | found
        · exact (here.added index found).imp_left Or.inl
        · exact (ih.added index found).imp_left Or.inr

end IndicesGrown

namespace KeysGrown

variable {before after : List SourceKey}

theorem refl (keys : List SourceKey) : KeysGrown key keys keys :=
  ⟨fun _ found => found, List.subset_cons_self key keys⟩

theorem canonical (grown : KeysGrown key before after) :
    KeysGrown key (sortDedup before) (sortDedup after) := by
  constructor
  · intro other found
    exact mem_sortDedup.mpr (grown.kept (mem_sortDedup.mp found))
  · intro other found
    rw [List.mem_cons, mem_sortDedup]
    exact List.mem_cons.mp (grown.added (mem_sortDedup.mp found))

theorem flatMap {α : Type*} {related : α → α → Prop} {view : α → List SourceKey}
    {before after : List α} (follow : List.Forall₂ related before after)
    (each : ∀ left right, related left right → KeysGrown key (view left) (view right)) :
    KeysGrown key (before.flatMap view) (after.flatMap view) := by
  induction follow with
  | nil => exact .refl []
  | cons head _ ih =>
      have here := each _ _ head
      simp only [List.flatMap_cons]
      constructor
      · exact List.append_subset.mpr ⟨List.Subset.trans here.kept (List.subset_append_left _ _),
          List.Subset.trans ih.kept (List.subset_append_right _ _)⟩
      · intro other found
        rw [List.mem_cons, List.mem_append]
        rcases List.mem_append.mp found with found | found
        · exact (List.mem_cons.mp (here.added found)).imp_right Or.inl
        · exact (List.mem_cons.mp (ih.added found)).imp_right Or.inr

end KeysGrown

/-! ## Grown issues -/

namespace IssueGrown

variable {before after : PolicyIssue}

theorem canonical (grown : IssueGrown first source key before after) :
    IssueGrown first source key (withoutText (canonicalIssue before))
      (withoutText (canonicalIssue after)) where
  code := grown.code
  fieldKind := grown.fieldKind
  lineageKeys := congrArg sortDedup grown.lineageKeys
  sources := grown.sources.canonical
  observations := grown.observations.canonical

theorem withText (grown : IssueGrown first source key (withoutText before) (withoutText after)) :
    IssueGrown first source key before after :=
  ⟨grown.code, grown.fieldKind, grown.lineageKeys, grown.sources, grown.observations⟩

end IssueGrown

namespace IssueRepeated

variable {before after : PolicyIssue}

theorem canonical (again : IssueRepeated first source key before after) :
    IssueRepeated first source key (withoutText (canonicalIssue before))
      (withoutText (canonicalIssue after)) where
  code := again.code
  fieldKind := again.fieldKind
  lineageKeys := congrArg sortDedup again.lineageKeys
  original := by
    simp only [withoutText, canonicalIssue, again.original, sortDedup_singleton]
  copied := by
    simp only [withoutText, canonicalIssue, again.copied, sortDedup_singleton]
  observations := by
    obtain ⟨start, fields, old, new⟩ := again.observations
    refine ⟨start, sortDedup fields, ?_, ?_⟩
    · simp only [withoutText, canonicalIssue, old, sortDedup_map (strictMono_shift start)]
    · simp only [withoutText, canonicalIssue, new, sortDedup_map (strictMono_shift _)]
  inside index found := again.inside index (mem_sortDedup.mp found)

theorem withText (again : IssueRepeated first source key (withoutText before) (withoutText after)) :
    IssueRepeated first source key before after :=
  ⟨again.code, again.fieldKind, again.lineageKeys, again.original, again.copied,
    again.observations, again.inside⟩

end IssueRepeated

namespace IssueTaken

variable {before after : PolicyIssue}

theorem canonical (taken : IssueTaken first second source key before after) :
    IssueTaken first second source key (withoutText (canonicalIssue before))
      (withoutText (canonicalIssue after)) where
  front := taken.front
  codes := taken.codes
  fieldKind := taken.fieldKind
  lineageKeys := congrArg sortDedup taken.lineageKeys
  added other found := by
    rw [List.mem_cons]
    exact (List.mem_cons.mp (taken.added (mem_sortDedup.mp found))).imp_right mem_sortDedup.mpr
  replaced other found :=
    (taken.replaced other (mem_sortDedup.mp found)).imp mem_sortDedup.mpr
      (And.imp_left mem_sortDedup.mpr)
  observed index found := by
    refine (taken.observed index (mem_sortDedup.mp found)).imp_left fun old => ?_
    obtain ⟨earlier, listed, rfl⟩ := List.mem_map.mp old
    exact List.mem_map_of_mem (mem_sortDedup.mpr listed)
  unobserved index found :=
    (taken.unobserved index (mem_sortDedup.mp found)).imp mem_sortDedup.mpr mem_sortDedup.mpr

theorem withText
    (taken : IssueTaken first second source key (withoutText before) (withoutText after)) :
    IssueTaken first second source key before after :=
  ⟨taken.front, taken.codes, taken.fieldKind, taken.lineageKeys, taken.added, taken.replaced,
    taken.observed, taken.unobserved⟩

end IssueTaken

namespace IssuesFollow

variable {before after : List PolicyIssue}

theorem nil : IssuesFollow first second source key [] [] := by constructor <;> simp

theorem append {before' after' : List PolicyIssue}
    (left : IssuesFollow first second source key before after)
    (right : IssuesFollow first second source key before' after') :
    IssuesFollow first second source key (before ++ before') (after ++ after') := by
  constructor
  · intro issue found
    rcases List.mem_append.mp found with found | found
    · obtain ⟨later, listed, again⟩ := left.kept issue found
      exact ⟨later, List.mem_append_left _ listed, again⟩
    · obtain ⟨later, listed, again⟩ := right.kept issue found
      exact ⟨later, List.mem_append_right _ listed, again⟩
  · intro later found
    rcases List.mem_append.mp found with found | found
    · obtain ⟨issue, listed, from'⟩ := left.explained later found
      exact ⟨issue, List.mem_append_left _ listed, from'⟩
    · obtain ⟨issue, listed, from'⟩ := right.explained later found
      exact ⟨issue, List.mem_append_right _ listed, from'⟩

theorem flatMap {α β : Type*} {related : α → β → Prop} {old : α → List PolicyIssue}
    {new : β → List PolicyIssue} {items : List α} {others : List β}
    (follow : List.Forall₂ related items others)
    (each : ∀ left right, related left right →
      IssuesFollow first second source key (old left) (new right)) :
    IssuesFollow first second source key (items.flatMap old) (others.flatMap new) := by
  induction follow with
  | nil => exact .nil
  | cons head _ ih => exact (each _ _ head).append ih

theorem single {issue later : PolicyIssue} (grown : IssueGrown first source key issue later) :
    IssuesFollow first second source key [issue] [later] :=
  ⟨fun _ found => ⟨later, List.mem_cons_self, Or.inl (List.mem_singleton.mp found ▸ grown)⟩,
    fun _ found => ⟨issue, List.mem_cons_self, Or.inl (List.mem_singleton.mp found ▸ grown)⟩⟩

theorem map {α β : Type*} {related : α → β → Prop} {old : α → PolicyIssue} {new : β → PolicyIssue}
    {items : List α} {others : List β} (follow : List.Forall₂ related items others)
    (each : ∀ left right, related left right → IssueGrown first source key (old left) (new right)) :
    IssuesFollow first second source key (items.map old) (others.map new) := by
  induction follow with
  | nil => exact .nil
  | cons head _ ih => exact (single (each _ _ head)).append ih

theorem deduplicate (follow : IssuesFollow first second source key before after) :
    IssuesFollow first second source key (deduplicateIssues before) (deduplicateIssues after) := by
  constructor
  · intro issue found
    obtain ⟨raised, listed, same⟩ := mem_deduplicateIssues.mp (List.mem_map_of_mem found)
    obtain ⟨later, listedLater, again⟩ := follow.kept raised listed
    obtain ⟨kept, present, sameLater⟩ :=
      List.mem_map.mp (mem_deduplicateIssues.mpr ⟨later, listedLater, rfl⟩)
    refine ⟨kept, present, ?_⟩
    rcases again with grown | taken
    · have settled := grown.canonical
      rw [same, ← sameLater] at settled
      exact Or.inl settled.withText
    · have settled := taken.canonical
      rw [same, ← sameLater] at settled
      exact Or.inr settled.withText
  · intro later found
    obtain ⟨raised, listed, same⟩ := mem_deduplicateIssues.mp (List.mem_map_of_mem found)
    obtain ⟨issue, listedIssue, from'⟩ := follow.explained raised listed
    obtain ⟨kept, present, sameIssue'⟩ :=
      List.mem_map.mp (mem_deduplicateIssues.mpr ⟨issue, listedIssue, rfl⟩)
    refine ⟨kept, present, ?_⟩
    rcases from' with grown | again | taken
    · have settled := grown.canonical
      rw [same, ← sameIssue'] at settled
      exact Or.inl settled.withText
    · have settled := again.canonical
      rw [same, ← sameIssue'] at settled
      exact Or.inr (Or.inl settled.withText)
    · have settled := taken.canonical
      rw [same, ← sameIssue'] at settled
      exact Or.inr (Or.inr settled.withText)

end IssuesFollow

/-! ## The visit -/

theorem fieldTotal_cons (source : EvidenceSource) (rest : List EvidenceSource) :
    fieldTotal (source :: rest) = source.report.fields.length + fieldTotal rest := by
  simp [fieldTotal]

/-- Only the keys the sources have are looked up among those seen. -/
theorem visitedIssues_congr {seen other : Finset SourceKey} {sources : List EvidenceSource}
    (same : ∀ source ∈ sources, source.sourceKey ∈ seen ↔ source.sourceKey ∈ other) (start : Nat) :
    visitedIssues start seen sources = visitedIssues start other sources := by
  induction sources generalizing start seen other with
  | nil => rfl
  | cons head rest ih =>
      have here : decide (head.sourceKey ∈ seen) = decide (head.sourceKey ∈ other) :=
        decide_eq_decide.mpr (same head List.mem_cons_self)
      rw [visitedIssues, visitedIssues, here, ih]
      intro later member
      rw [Finset.mem_insert, Finset.mem_insert, same later (List.mem_cons_of_mem head member)]

theorem visitedIssues_append (start : Nat) (seen : Finset SourceKey)
    (before after : List EvidenceSource) :
    visitedIssues start seen (before ++ after) = visitedIssues start seen before ++
      visitedIssues (start + fieldTotal before) (seen ∪ (before.map (·.sourceKey)).toFinset)
        after := by
  induction before generalizing start seen with
  | nil => simp [visitedIssues, fieldTotal]
  | cons head rest ih =>
      have keys : insert head.sourceKey seen ∪ (rest.map (·.sourceKey)).toFinset =
          seen ∪ ((head :: rest).map (·.sourceKey)).toFinset := by
        simp
      rw [List.cons_append, visitedIssues, visitedIssues, ih, List.append_assoc, keys,
        fieldTotal_cons, Nat.add_assoc]

/-! ## Issues of one source -/

theorem sortDedup_map_const {α : Type*} (values : List α) (value : SourceKey)
    (inhabited : values ≠ []) : sortDedup (values.map fun _ => value) = [value] := by
  rw [← sortDedup_singleton value]
  refine sortDedup_congr fun other => ?_
  obtain ⟨witness, listed⟩ := List.exists_mem_of_ne_nil values inhabited
  simp only [List.mem_map, List.mem_singleton]
  exact ⟨fun ⟨_, _, same⟩ => same.symm, fun same => ⟨witness, listed, same.symm⟩⟩

theorem named_issueForIndices {refs : List ObservationRef} (inhabited : refs ≠ [])
    (code : PolicyIssueCode) (fieldKind : Option MetadataFieldKind) (context : String) :
    (issueForIndices code fieldKind refs context).sourceKeys ≠ [] := by
  rw [issueForIndices, ne_eq, sortDedup_eq_nil_iff, List.map_eq_nil_iff]
  exact inhabited

theorem named_repeatedConflict (refs : List ObservationRef) (kind : MetadataFieldKind)
    (context : String) :
    ∀ issue ∈ (reportRepeatedConflict refs kind context).2, issue.sourceKeys ≠ [] := by
  intro issue raised
  obtain ⟨conflict, rfl⟩ := mem_raiseIf.mp raised
  refine named_issueForIndices ?_ _ _ _
  rintro rfl
  cases conflict

theorem named_scopedFields (source : EvidenceSource) (dto offsets subseconds : List ObservationRef) :
    ∀ issue ∈ (processScopedFields source dto offsets subseconds).2, issue.sourceKeys ≠ [] := by
  intro issue raised
  simp only [processScopedFields, List.mem_append] at raised
  rcases raised with ((raised | raised) | raised) | raised
  · exact named_repeatedConflict _ _ _ issue raised
  · exact named_repeatedConflict _ _ _ issue raised
  · exact named_repeatedConflict _ _ _ issue raised
  · obtain ⟨invalid, rfl⟩ := mem_raiseIf.mp raised
    refine named_issueForIndices ?_ _ _ _
    intro empty
    obtain ⟨rfl, rfl⟩ := List.append_eq_nil_iff.mp empty
    cases invalid

theorem named_processSourceFields (source : EvidenceSource) (range : List ObservationRef) :
    ∀ issue ∈ (processSourceFields source range).2, issue.sourceKeys ≠ [] := by
  intro issue raised
  simp only [processSourceFields, addSimpleExifAtoms, collectPasses, addSimpleAtoms,
    List.mem_append, List.mem_flatMap] at raised
  rcases raised with ((((raised | ⟨_, _, raised⟩) | ⟨_, _, raised⟩) | ⟨_, _, raised⟩) | raised) |
    raised
  · obtain ⟨orphans, rfl⟩ := mem_raiseIf.mp raised
    refine named_issueForIndices ?_ _ _ _
    intro empty
    rw [empty] at orphans
    cases orphans
  · exact named_scopedFields _ _ _ _ issue raised
  · exact named_repeatedConflict _ _ _ issue raised
  · exact named_repeatedConflict _ _ _ issue raised
  · exact named_repeatedConflict _ _ _ issue raised
  · exact named_repeatedConflict _ _ _ issue raised

theorem named_sourceIssues (start : Nat) (duplicate : Bool) (source : EvidenceSource) :
    ∀ issue ∈ sourceIssues start duplicate source, issue.sourceKeys ≠ [] := by
  intro issue raised
  simp only [sourceIssues, identityIssues, statusIssues, fieldIssues, List.mem_append,
    List.mem_flatMap, mem_raiseIf] at raised
  rcases raised with ((((⟨_, rfl⟩ | ⟨_, rfl⟩) | ⟨_, rfl⟩) | ⟨ref, _, raised⟩) |
    (⟨_, rfl⟩ | ⟨_, rfl⟩)) | raised
  · exact List.cons_ne_nil _ _
  · exact List.cons_ne_nil _ _
  · exact List.cons_ne_nil _ _
  · rcases raised with (((⟨_, rfl⟩ | ⟨_, rfl⟩) | ⟨_, rfl⟩) | ⟨_, rfl⟩) | ⟨_, rfl⟩
    all_goals exact List.cons_ne_nil _ _
  · exact List.cons_ne_nil _ _
  · exact List.cons_ne_nil _ _
  · unfold trustedFields at raised
    split at raised
    · exact named_processSourceFields _ _ issue raised
    · cases raised

/-- The issues of a source name that source alone. -/
theorem sourceKeys_sourceIssues {start : Nat} {key : SourceKey} {duplicate : Bool}
    {issue : PolicyIssue} (raised : issue ∈ sourceIssues start duplicate (copyOf key source)) :
    issue.sourceKeys = [key] := by
  rw [copyOf_eq, sourceIssues_relabel] at raised
  obtain ⟨own, listed, rfl⟩ := List.mem_map.mp raised
  exact sortDedup_map_const own.sourceKeys key (named_sourceIssues 0 duplicate source own listed)

theorem sourceIssues_subset_duplicate (start : Nat) (duplicate : Bool) (source : EvidenceSource) :
    sourceIssues start false source ⊆ sourceIssues start duplicate source := by
  cases duplicate with
  | false => exact fun _ raised => raised
  | true =>
      intro issue raised
      simp only [sourceIssues, identityIssues, raiseIf_false, List.nil_append, List.mem_append]
        at raised ⊢
      tauto

/-- The fields of a source are numbered from its place on. -/
theorem index_lt_of_sourceIssues {duplicate : Bool} {issue : PolicyIssue}
    (raised : issue ∈ sourceIssues 0 duplicate source) :
    ∀ index ∈ issue.observationIndices, index < source.report.fields.length := by
  intro index listed
  have located := sourceIssues_located (sourceRefs_exact [] [] source) duplicate issue raised
  simpa using located.located index listed

theorem index_lt_of_trustedFields {atom : Atom} (found : atom ∈ (trustedFields 0 source).1) :
    ∀ index ∈ atom.observationIndices, index < source.report.fields.length := by
  intro index listed
  have exact_ := (trustedFields_exact (sourceRefs_exact [] [] source)).atoms atom found
  obtain ⟨observation, located, _⟩ := exact_.located index listed
  simpa using (List.getElem?_eq_some_iff.mp located).1

/-! ## The visit with a copy -/

theorem ofCopy_shift {index : Nat} (inside : index < source.report.fields.length) :
    OfCopy first source (fieldTotal first + index) :=
  ⟨Nat.le_add_right _ _, Nat.add_lt_add_left inside _⟩

/-- Observations before the copy keep their place. -/
theorem map_place_of_lt {indices : List Nat}
    (inside : ∀ index ∈ indices, index < fieldTotal first) :
    indices.map (place first source) = indices := by
  refine (List.map_congr_left fun index listed => ?_).trans (List.map_id indices)
  exact place_of_lt (inside index listed)

/-- Observations behind the copy move by its fields. -/
theorem map_place_shift (indices : List Nat) :
    (indices.map (fieldTotal first + ·)).map (place first source) =
      indices.map (fieldTotal first + source.report.fields.length + ·) := by
  rw [List.map_map]
  refine List.map_congr_left fun index _ => ?_
  rw [Function.comp_apply, place_of_le (Nat.le_add_right _ _)]
  omega

theorem visitedAtoms_before {atom : Atom} (found : atom ∈ visitedAtoms 0 first) :
    ∀ index ∈ atom.observationIndices, index < fieldTotal first := by
  intro index listed
  obtain ⟨observation, located, _⟩ :=
    ((visited_exact [] ∅ first).atoms atom found).located index listed
  have inside := (List.getElem?_eq_some_iff.mp located).1
  rwa [List.nil_append, length_observationsOf] at inside

theorem visitedIssues_before {issue : PolicyIssue} (found : issue ∈ visitedIssues 0 ∅ first) :
    ∀ index ∈ issue.observationIndices, index < fieldTotal first := by
  intro index listed
  have inside := ((visited_exact [] ∅ first).issues issue found).located index listed
  rwa [List.nil_append, length_observationsOf] at inside

theorem issuesFollow_before : IssuesFollow first second source key (visitedIssues 0 ∅ first)
    (visitedIssues 0 ∅ first) := by
  have still : ∀ issue ∈ visitedIssues 0 ∅ first, IssueGrown first source key issue issue := by
    intro issue found
    exact ⟨rfl, rfl, rfl, .refl _, .of_map (map_place_of_lt (visitedIssues_before found))⟩
  exact ⟨fun issue found => ⟨issue, found, Or.inl (still issue found)⟩,
    fun issue found => ⟨issue, found, Or.inl (still issue found)⟩⟩

theorem issuesFollow_behind (seen : Finset SourceKey) : IssuesFollow first second source key
    (visitedIssues (fieldTotal first) seen second)
    (visitedIssues (fieldTotal first + source.report.fields.length) seen second) := by
  have moved : ∀ issue : PolicyIssue, IssueGrown first source key
      (relabelIssue (fieldTotal first + ·) id issue)
      (relabelIssue (fieldTotal first + source.report.fields.length + ·) id issue) :=
    fun issue => ⟨rfl, rfl, rfl, .refl _, .of_map (map_place_shift issue.observationIndices)⟩
  have old := visitedIssues_shift (fieldTotal first) 0 seen second
  have new := visitedIssues_shift (fieldTotal first + source.report.fields.length) 0 seen second
  rw [Nat.add_zero] at old new
  rw [old, new]
  constructor
  · intro issue found
    obtain ⟨own, listed, rfl⟩ := List.mem_map.mp found
    exact ⟨_, List.mem_map_of_mem listed, Or.inl (moved own)⟩
  · intro later found
    obtain ⟨own, listed, rfl⟩ := List.mem_map.mp found
    exact ⟨_, List.mem_map_of_mem listed, Or.inl (moved own)⟩

/-- What is raised about the copy was raised about its source. -/
theorem exists_repeated {sources : List EvidenceSource} (member : source ∈ sources)
    {later : PolicyIssue}
    (raised : later ∈ sourceIssues (fieldTotal first) false (copyOf key source)) :
    ∃ issue ∈ visitedIssues 0 ∅ sources, IssueRepeated first source key issue later := by
  have copied := sourceKeys_sourceIssues raised
  rw [copyOf_eq, sourceIssues_relabel] at raised
  obtain ⟨own, listed, rfl⟩ := List.mem_map.mp raised
  obtain ⟨start, duplicate, _, issues⟩ := exists_visited_start member 0 ∅
  have here : relabelIssue (start + ·) id own ∈ sourceIssues start false source := by
    have moved := sourceIssues_relabel start id source false
    rw [rekeySource_id] at moved
    exact moved ▸ List.mem_map_of_mem listed
  refine ⟨_, issues (sourceIssues_subset_duplicate start duplicate source here), rfl, rfl, rfl,
    sourceKeys_sourceIssues here, copied, ⟨start, own.observationIndices, rfl, rfl⟩, ?_⟩
  intro index found
  obtain ⟨field, inside, rfl⟩ := List.mem_map.mp found
  exact ofCopy_shift (index_lt_of_sourceIssues listed field inside)

theorem visitedIssues_follow (member : source ∈ first ++ second)
    (fresh : key ∉ (first ++ second).map (·.sourceKey)) :
    IssuesFollow first second source key (visitedIssues 0 ∅ (first ++ second))
      (visitedIssues 0 ∅ (first ++ copyOf key source :: second)) := by
  rw [List.map_append, List.mem_append, not_or] at fresh
  have unseen : decide ((copyOf key source).sourceKey ∈
      ∅ ∪ (first.map (·.sourceKey)).toFinset) = false :=
    decide_eq_false (by simpa [copyOf] using fresh.1)
  have inserted : visitedIssues (fieldTotal first + source.report.fields.length)
        (insert key (∅ ∪ (first.map (·.sourceKey)).toFinset)) second =
      visitedIssues (fieldTotal first + source.report.fields.length)
        (∅ ∪ (first.map (·.sourceKey)).toFinset) second := by
    refine visitedIssues_congr (fun other listed => ?_) _
    rw [Finset.mem_insert]
    refine or_iff_right fun same => fresh.2 ?_
    exact same ▸ List.mem_map_of_mem listed
  have others : IssuesFollow first second source key
      (visitedIssues 0 ∅ first ++ visitedIssues (fieldTotal first)
        (∅ ∪ (first.map (·.sourceKey)).toFinset) second)
      (visitedIssues 0 ∅ first ++ visitedIssues (fieldTotal first + source.report.fields.length)
        (∅ ∪ (first.map (·.sourceKey)).toFinset) second) :=
    issuesFollow_before.append (issuesFollow_behind _)
  have old : visitedIssues 0 ∅ (first ++ second) = visitedIssues 0 ∅ first ++
      visitedIssues (fieldTotal first) (∅ ∪ (first.map (·.sourceKey)).toFinset) second := by
    rw [visitedIssues_append, Nat.zero_add]
  have new : visitedIssues 0 ∅ (first ++ copyOf key source :: second) =
      visitedIssues 0 ∅ first ++ (sourceIssues (fieldTotal first) false (copyOf key source) ++
        visitedIssues (fieldTotal first + source.report.fields.length)
          (∅ ∪ (first.map (·.sourceKey)).toFinset) second) := by
    rw [visitedIssues_append, visitedIssues, Nat.zero_add, unseen, ← inserted]
    rfl
  rw [← old] at others
  rw [new]
  constructor
  · intro issue found
    obtain ⟨later, listed, again⟩ := others.kept issue found
    refine ⟨later, ?_, again⟩
    rw [List.mem_append] at listed ⊢
    exact listed.imp_right (List.mem_append_right _)
  · intro later found
    rcases List.mem_append.mp found with here | found
    · exact others.explained later (List.mem_append_left _ here)
    rcases List.mem_append.mp found with here | here
    · obtain ⟨issue, listed, again⟩ := exists_repeated member here
      exact ⟨issue, listed, Or.inr (Or.inl again)⟩
    · exact others.explained later (List.mem_append_right _ here)

/-! ## Atoms with a copy -/

/-- An atom in its place once the copy is in the list. -/
def placed (first : List EvidenceSource) (source : EvidenceSource) (atom : Atom) : Atom :=
  atom.relabel (place first source) id

/-- The atoms of the copy itself. -/
def copiedAtoms (first : List EvidenceSource) (source : EvidenceSource) (key : SourceKey) :
    List Atom :=
  (trustedFields 0 source).1.map (Atom.relabel (fieldTotal first + ·) fun _ => key)

theorem visitedAtoms_copy : visitedAtoms 0 (first ++ copyOf key source :: second) =
    (visitedAtoms 0 first).map (placed first source) ++ (copiedAtoms first source key ++
      (visitedAtoms (fieldTotal first) second).map (placed first source)) := by
  have before : (visitedAtoms 0 first).map (placed first source) = visitedAtoms 0 first := by
    refine (List.map_congr_left fun atom found => ?_).trans (List.map_id _)
    rw [placed, Atom.relabel, map_place_of_lt (visitedAtoms_before found)]
    rfl
  have behind : (visitedAtoms (fieldTotal first) second).map (placed first source) =
      visitedAtoms (fieldTotal first + source.report.fields.length) second := by
    have old := visitedAtoms_shift (fieldTotal first) 0 second
    have new := visitedAtoms_shift (fieldTotal first + source.report.fields.length) 0 second
    rw [Nat.add_zero] at old new
    rw [old, new, List.map_map]
    refine List.map_congr_left fun atom _ => ?_
    simp only [Function.comp_apply, placed, Atom.relabel, map_place_shift]
    rfl
  rw [visitedAtoms_append, visitedAtoms, Nat.zero_add, copyOf_eq, trustedFields_relabel, before,
    behind]
  rfl

/-- The atoms of an analysis and those with the copy. -/
structure AtomsFollow (first : List EvidenceSource) (source : EvidenceSource) (key : SourceKey)
    (before after : List Atom) : Prop where
  kept : ∀ atom ∈ before, placed first source atom ∈ after
  explained : ∀ later ∈ after, (∃ atom ∈ before, later = placed first source atom) ∨
    ∃ atom ∈ before, ∃ number, later = atom.relabel number (fun _ => key) ∧
      ∀ index ∈ later.observationIndices, OfCopy first source index

theorem visitedAtoms_follow (member : source ∈ first ++ second) :
    AtomsFollow first source key (visitedAtoms 0 (first ++ second))
      (visitedAtoms 0 (first ++ copyOf key source :: second)) := by
  have old := visitedAtoms_append 0 first second
  rw [Nat.zero_add] at old
  rw [visitedAtoms_copy]
  constructor
  · intro atom found
    rw [old, List.mem_append] at found
    rw [List.mem_append, List.mem_append]
    exact found.imp List.mem_map_of_mem fun behind => Or.inr (List.mem_map_of_mem behind)
  · intro later found
    rcases List.mem_append.mp found with here | found
    · obtain ⟨atom, listed, rfl⟩ := List.mem_map.mp here
      exact Or.inl ⟨atom, old ▸ List.mem_append_left _ listed, rfl⟩
    rcases List.mem_append.mp found with here | here
    · obtain ⟨own, listed, rfl⟩ := List.mem_map.mp here
      obtain ⟨start, _, atoms, _⟩ := exists_visited_start member 0 ∅
      have moved := trustedFields_relabel start id source
      rw [rekeySource_id] at moved
      have present : own.relabel (start + ·) id ∈ (trustedFields start source).1 := by
        rw [moved]
        exact List.mem_map_of_mem listed
      refine Or.inr ⟨_, atoms present, fun index => fieldTotal first + (index - start), ?_, ?_⟩
      · simp only [Atom.relabel, List.map_map, Function.comp_def, Nat.add_sub_cancel_left]
      · intro index inside
        obtain ⟨field, here, rfl⟩ := List.mem_map.mp inside
        exact ofCopy_shift (index_lt_of_trustedFields listed field here)
    · obtain ⟨atom, listed, rfl⟩ := List.mem_map.mp here
      exact Or.inl ⟨atom, old ▸ List.mem_append_right _ listed, rfl⟩

end Guiying.Time.Policy
