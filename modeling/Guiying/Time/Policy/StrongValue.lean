import Guiying.Foundation.Outcome
import Guiying.Time.Policy.Merge

/-!
# Strong values

What the fields of one report say about the original time, stated without the
policy's bookkeeping: a `DateTimeOriginal` reading combined with companions of
its own scope, or a QuickTime creation date. Every strong value of a trusted
source becomes a strong atom, and only an original reading with an explicit
offset becomes a high one.
-/

namespace Guiying.Time.Policy

open Guiying.Foundation Guiying.Foundation.SortedSet Guiying.Foundation.Outcome Guiying.Metadata

/-! ## Readings of a report -/

/-- A companion value is read from a field of the same scope; it is absent only when that scope
has no such field. -/
inductive CompanionReading {α : Type*} (report : ExtractionReport) (scope : ExifScope)
    (kind : MetadataFieldKind) (read : MetadataField → Option α) : Option α → Prop
  | absent (missing : ∀ field ∈ report.fields, field.kind = kind → exifScope field ≠ some scope) :
      CompanionReading report scope kind read none
  | present {field : MetadataField} {value : α} (member : field ∈ report.fields)
      (hasKind : field.kind = kind) (inScope : exifScope field = some scope)
      (reading : read field = some value) : CompanionReading report scope kind read (some value)

def readOffset (field : MetadataField) : Option UtcOffset :=
  (Parse.parseOffset field.rawBytes).toOption

def readSubsecond (field : MetadataField) : Option (Nat ×ₗ TimePrecision) :=
  (Parse.parseSubsecond field.rawBytes).toOption.map fun (nanosecond, _, precision) =>
    toLex (nanosecond, precision)

/-- A value of the original time: one field, combined with companions of its scope. -/
inductive OriginalValue (report : ExtractionReport) (value : NormalizedTimestamp) : Prop
  | intro (field : MetadataField) (scope : ExifScope) (base : NormalizedTimestamp)
      (offset : Option UtcOffset) (subsecond : Option (Nat ×ₗ TimePrecision))
      (member : field ∈ report.fields) (hasKind : field.kind = .exifDateTimeOriginal)
      (inScope : exifScope field = some scope)
      (reading : Parse.parseExifTimestamp field.rawBytes none none = .ok base)
      (offsetReading : CompanionReading report scope .exifOffsetTimeOriginal readOffset offset)
      (subsecondReading :
        CompanionReading report scope .exifSubSecTimeOriginal readSubsecond subsecond)
      (combined : exifOriginalTimestamp base offset subsecond = .ok value)

/-- A strong value: of the original time, or a QuickTime creation date. -/
inductive StrongValue (report : ExtractionReport) (value : NormalizedTimestamp) : Prop
  | original (reading : OriginalValue report value)
  | quickTime (field : MetadataField) (member : field ∈ report.fields)
      (hasKind : field.kind = .quickTimeMetadataCreationDate)
      (reading : Parse.parseQuicktimeTimestamp field.rawBytes = .ok value)

/-! ## References and readings -/

section Reading

variable {source : EvidenceSource} {ref : ObservationRef} {field : MetadataField}

theorem refScope_observed (observed : ref.observation = observe source field) :
    refScope ref = exifScope field := by
  rw [refScope, observed]
  rfl

theorem kind_observed (observed : ref.observation = observe source field) :
    ref.kind = field.kind := by
  rw [ObservationRef.kind, observed]
  rfl

theorem refOffset_observed (observed : ref.observation = observe source field)
    (kind : field.kind = .exifOffsetTimeOriginal) : refOffset ref = readOffset field := by
  rw [refOffset, observed, observe, readOffset]
  simp only [interpretField, kind]
  cases Parse.parseOffset field.rawBytes <;> rfl

theorem refSubsecond_observed (observed : ref.observation = observe source field)
    (kind : field.kind = .exifSubSecTimeOriginal) : refSubsecond ref = readSubsecond field := by
  rw [refSubsecond, observed, observe, readSubsecond]
  simp only [interpretField, kind]
  cases Parse.parseSubsecond field.rawBytes <;> rfl

theorem refTimestamp_original (observed : ref.observation = observe source field)
    (kind : field.kind = .exifDateTimeOriginal) :
    refTimestamp ref = (Parse.parseExifTimestamp field.rawBytes none none).toOption := by
  rw [refTimestamp, observed, observe]
  simp only [interpretField, kind]
  cases Parse.parseExifTimestamp field.rawBytes none none <;> rfl

theorem refTimestamp_quickTime (observed : ref.observation = observe source field)
    (kind : field.kind = .quickTimeMetadataCreationDate) :
    refTimestamp ref = (Parse.parseQuicktimeTimestamp field.rawBytes).toOption := by
  rw [refTimestamp, observed, observe]
  simp only [interpretField, kind]
  cases Parse.parseQuicktimeTimestamp field.rawBytes <;> rfl

end Reading

/-! ## Groups -/

theorem mem_indicesOfKind {range : List ObservationRef} {kind : MetadataFieldKind}
    {ref : ObservationRef} : ref ∈ indicesOfKind range kind ↔ ref ∈ range ∧ ref.kind = kind := by
  simp [indicesOfKind]

def inScope (indices : List ObservationRef) (scope : ExifScope) : List ObservationRef :=
  indices.filter fun ref => refScope ref = some scope

theorem mem_inScope {indices : List ObservationRef} {scope : ExifScope} {ref : ObservationRef} :
    ref ∈ inScope indices scope ↔ ref ∈ indices ∧ refScope ref = some scope := by
  simp [inScope]

theorem getD_indicesByExifScope (indices : List ObservationRef) (scope : ExifScope) :
    ((indicesByExifScope indices).get? scope).getD [] = inScope indices scope := by
  rw [indicesByExifScope, OrderedMap.get?_groupBySome, inScope]
  split
  · rename_i empty
    exact empty.symm
  · rfl

theorem mem_indicesByExifScope {indices : List ObservationRef}
    {entry : ExifScope × List ObservationRef} :
    entry ∈ (indicesByExifScope indices).entries ↔
      (∃ ref ∈ indices, refScope ref = some entry.1) ∧ entry.2 = inScope indices entry.1 := by
  obtain ⟨scope, group⟩ := entry
  rw [indicesByExifScope, OrderedMap.groupBySome_entries]
  simp only [List.mem_map, mem_sortDedup, List.mem_filterMap, Prod.mk.injEq, inScope]
  constructor
  · rintro ⟨_, found, rfl, rfl⟩
    exact ⟨found, rfl⟩
  · rintro ⟨found, same⟩
    exact ⟨scope, found, rfl, same.symm⟩

theorem mem_uniqueTimestamps {indices : List ObservationRef}
    {entry : NormalizedTimestamp × List ObservationRef} :
    entry ∈ uniqueTimestamps indices ↔
      (∃ ref ∈ indices, refTimestamp ref = some entry.1) ∧
        entry.2 = indices.filter fun ref => refTimestamp ref = some entry.1 := by
  obtain ⟨timestamp, group⟩ := entry
  rw [uniqueTimestamps, OrderedMap.groupBySome_entries]
  simp only [List.mem_map, mem_sortDedup, List.mem_filterMap, Prod.mk.injEq]
  constructor
  · rintro ⟨_, found, rfl, rfl⟩
    exact ⟨found, rfl⟩
  · rintro ⟨found, same⟩
    exact ⟨timestamp, found, rfl, same.symm⟩

/-! ## Unique values -/

theorem mapM_eq_some {α β : Type*} {value : α → Option β} {items : List α} {values : List β} :
    items.mapM value = some values ↔ items.map value = values.map some := by
  induction items generalizing values with
  | nil => cases values <;> simp
  | cons item rest ih =>
      rw [List.mapM_cons]
      cases first : value item with
      | none => cases values <;> simp [first]
      | some found =>
          cases values with
          | nil => cases rest.mapM value <;> simp [first]
          | cons head tail =>
              cases later : rest.mapM value with
              | none =>
                  have missing : rest.map value ≠ tail.map some := fun same => by
                    rw [← ih, later] at same
                    cases same
                  simp [first, missing]
              | some others =>
                  have same : rest.map value = others.map some := ih.mp later
                  simp [first, same, (List.map_injective_iff.mpr (Option.some_injective β)).eq_iff]

theorem uniqueValue_eq_some {α β : Type*} [LinearOrder β] {value : α → Option β} {items : List α}
    {unique : β} (found : uniqueValue value items = some unique) :
    items ≠ [] ∧ ∀ item ∈ items, value item = some unique := by
  unfold uniqueValue at found
  rw [Option.bind_eq_bind, Option.bind_eq_some_iff] at found
  obtain ⟨values, collected, single⟩ := found
  have mapped := mapM_eq_some.mp collected
  split at single
  · rename_i only canonical
    cases single
    have members : ∀ other, other ∈ values ↔ other = unique := fun other => by
      rw [← mem_sortDedup, canonical, List.mem_singleton]
    refine ⟨?_, fun item member => ?_⟩
    · rintro rfl
      have empty : values = [] := List.map_eq_nil_iff.mp mapped.symm
      have present := (members unique).mpr rfl
      rw [empty] at present
      cases present
    · have image : value item ∈ values.map some := by
        rw [← mapped]
        exact List.mem_map_of_mem member
      obtain ⟨other, present, same⟩ := List.mem_map.mp image
      rw [← same, (members other).mp present]
  · cases single

theorem uniqueValue_nil {α β : Type*} [LinearOrder β] (value : α → Option β) :
    uniqueValue value [] = none := by
  simp [uniqueValue]

/-! ## Offsets -/

theorem offsetKind_of_explicit {wall : WallTime} {offset : UtcOffset} {precision : TimePrecision}
    {value : NormalizedTimestamp}
    (built : NormalizedTimestamp.explicit wall offset precision = .ok value) :
    value.offsetKind = .explicit := by
  obtain ⟨expected, same, _, _, kind, _⟩ :=
    NormalizedTimestamp.explicit_eq_ok wall offset precision
  rw [same, Except.ok.injEq] at built
  rw [← built, kind]

theorem offsetKind_of_combined {base : NormalizedTimestamp} {offset : Option UtcOffset}
    {subsecond : Option (Nat ×ₗ TimePrecision)} {value : NormalizedTimestamp}
    (combined : exifOriginalTimestamp base offset subsecond = .ok value) :
    value.offsetKind = if offset.isSome then .explicit else .missing := by
  unfold exifOriginalTimestamp at combined
  dsimp only at combined
  cases walled : base.wallTime.withNanosecond
      ((subsecond.map ofLex).getD (0, TimePrecision.seconds)).1 with
  | error error =>
      rw [walled] at combined
      cases combined
  | ok wall =>
      rw [walled] at combined
      cases offset with
      | none =>
          cases combined
          rfl
      | some minutes => exact offsetKind_of_explicit combined

/-! ## Atoms of a trusted source -/

/-- No `DateTimeOriginal` scope has a malformed or conflicting companion. -/
def CompanionsValid (issues : List PolicyIssue) : Prop :=
  ∀ issue ∈ issues, issue.code ≠ .invalidCompanion

section Source

variable {source : EvidenceSource} {start : Nat}

/-- A companion group of one scope, read off as a unique value or absent. -/
theorem companionReading_of_group {α : Type*} [LinearOrder α] {scope : ExifScope}
    {kind : MetadataFieldKind} {value : ObservationRef → Option α}
    {read : MetadataField → Option α}
    (agree : ∀ ref field, ref.observation = observe source field → field.kind = kind →
      value ref = read field)
    (valid : (uniqueValue value
        (inScope (indicesOfKind (sourceRefs start source) kind) scope)).isSome = true ∨
      inScope (indicesOfKind (sourceRefs start source) kind) scope = []) :
    CompanionReading source.report scope kind read
      (uniqueValue value (inScope (indicesOfKind (sourceRefs start source) kind) scope)) := by
  rcases valid with unique | empty
  · obtain ⟨found, same⟩ := Option.isSome_iff_exists.mp unique
    rw [same]
    obtain ⟨inhabited, all⟩ := uniqueValue_eq_some same
    obtain ⟨ref, member⟩ := List.exists_mem_of_ne_nil _ inhabited
    have valued := all ref member
    rw [mem_inScope, mem_indicesOfKind] at member
    obtain ⟨field, present, observed⟩ := mem_sourceRefs member.1.1
    have hasKind : field.kind = kind := (kind_observed observed).symm.trans member.1.2
    exact .present present hasKind ((refScope_observed observed).symm.trans member.2)
      ((agree ref field observed hasKind).symm.trans valued)
  · rw [empty, uniqueValue_nil]
    refine .absent fun field present hasKind located => ?_
    obtain ⟨ref, member, observed⟩ := exists_sourceRef start present
    have grouped : ref ∈ inScope (indicesOfKind (sourceRefs start source) kind) scope := by
      rw [mem_inScope, mem_indicesOfKind]
      exact ⟨⟨member, (kind_observed observed).trans hasKind⟩,
        (refScope_observed observed).trans located⟩
    rw [empty] at grouped
    cases grouped

/-- Every companion reading of a scope is the unique value of its group. -/
theorem group_of_companionReading {α : Type*} [LinearOrder α] {scope : ExifScope}
    {kind : MetadataFieldKind} {value : ObservationRef → Option α}
    {read : MetadataField → Option α} {companion : Option α}
    (agree : ∀ ref field, ref.observation = observe source field → field.kind = kind →
      value ref = read field)
    (valid : (uniqueValue value
        (inScope (indicesOfKind (sourceRefs start source) kind) scope)).isSome = true ∨
      inScope (indicesOfKind (sourceRefs start source) kind) scope = [])
    (reading : CompanionReading source.report scope kind read companion) :
    uniqueValue value (inScope (indicesOfKind (sourceRefs start source) kind) scope) =
      companion := by
  cases reading with
  | absent missing =>
      have empty : inScope (indicesOfKind (sourceRefs start source) kind) scope = [] := by
        refine List.eq_nil_iff_forall_not_mem.mpr fun ref member => ?_
        rw [mem_inScope, mem_indicesOfKind] at member
        obtain ⟨field, present, observed⟩ := mem_sourceRefs member.1.1
        exact missing field present ((kind_observed observed).symm.trans member.1.2)
          ((refScope_observed observed).symm.trans member.2)
      rw [empty, uniqueValue_nil]
  | @present field found present hasKind located valued =>
      obtain ⟨ref, member, observed⟩ := exists_sourceRef start present
      have grouped : ref ∈ inScope (indicesOfKind (sourceRefs start source) kind) scope := by
        rw [mem_inScope, mem_indicesOfKind]
        exact ⟨⟨member, (kind_observed observed).trans hasKind⟩,
          (refScope_observed observed).trans located⟩
      rcases valid with unique | empty
      · obtain ⟨other, same⟩ := Option.isSome_iff_exists.mp unique
        have all := (uniqueValue_eq_some same).2 ref grouped
        rw [agree ref field observed hasKind, valued] at all
        rw [same, all]
      · rw [empty] at grouped
        cases grouped

/-- A scope that passes its checks: each companion group is absent or has one value. -/
theorem uniqueCompanions {offsets subseconds : List ObservationRef}
    (valid : companionInvalid offsets subseconds = false) :
    ((uniqueOffset offsets).isSome = true ∨ offsets = []) ∧
      ((uniqueSubsecond subseconds).isSome = true ∨ subseconds = []) := by
  simp only [companionInvalid, Bool.or_eq_false_iff, Bool.and_eq_false_iff, Bool.not_eq_false',
    List.isEmpty_iff, Option.isNone_eq_false_iff] at valid
  exact ⟨valid.1.2, valid.2⟩

/-- The fields of one scope in a range. -/
def scopedFields (source : EvidenceSource) (range : List ObservationRef) (scope : ExifScope) :
    List Atom × List PolicyIssue :=
  processScopedFields source (inScope (indicesOfKind range .exifDateTimeOriginal) scope)
    (inScope (indicesOfKind range .exifOffsetTimeOriginal) scope)
    (inScope (indicesOfKind range .exifSubSecTimeOriginal) scope)

theorem processOriginalScope_eq {range : List ObservationRef}
    {entry : ExifScope × List ObservationRef}
    (member : entry ∈ (indicesByExifScope (indicesOfKind range .exifDateTimeOriginal)).entries) :
    processOriginalScope source
        (indicesByExifScope (indicesOfKind range .exifOffsetTimeOriginal))
        (indicesByExifScope (indicesOfKind range .exifSubSecTimeOriginal)) entry =
      scopedFields source range entry.1 := by
  rw [processOriginalScope, (mem_indicesByExifScope.mp member).2, getD_indicesByExifScope,
    getD_indicesByExifScope, scopedFields]

/-- The scopes of the original time are processed, each with its own companions. -/
theorem scopedFields_subset {range : List ObservationRef} {scope : ExifScope}
    (found : ∃ ref ∈ indicesOfKind range .exifDateTimeOriginal, refScope ref = some scope) :
    (scopedFields source range scope).1 ⊆ (processSourceFields source range).1 ∧
      (scopedFields source range scope).2 ⊆ (processSourceFields source range).2 := by
  have member : (scope, inScope (indicesOfKind range .exifDateTimeOriginal) scope) ∈
      (indicesByExifScope (indicesOfKind range .exifDateTimeOriginal)).entries :=
    mem_indicesByExifScope.mpr ⟨found, rfl⟩
  rw [← processOriginalScope_eq member]
  refine ⟨fun atom here => ?_, fun issue here => ?_⟩
  · simp only [processSourceFields, List.mem_append]
    exact Or.inl (Or.inl (Or.inl (Or.inl (List.mem_flatMap.mpr ⟨_, member, here⟩))))
  · simp only [processSourceFields, List.mem_append]
    exact Or.inl (Or.inl (Or.inl (Or.inl (Or.inr (List.mem_flatMap.mpr ⟨_, member, here⟩)))))

theorem companionInvalid_eq_false {range : List ObservationRef} {scope : ExifScope}
    (found : ∃ ref ∈ indicesOfKind range .exifDateTimeOriginal, refScope ref = some scope)
    (valid : CompanionsValid (processSourceFields source range).2) :
    companionInvalid (inScope (indicesOfKind range .exifOffsetTimeOriginal) scope)
      (inScope (indicesOfKind range .exifSubSecTimeOriginal) scope) = false := by
  by_contra invalid
  rw [Bool.not_eq_false] at invalid
  have raised : issueForIndices .invalidCompanion none
      (inScope (indicesOfKind range .exifOffsetTimeOriginal) scope ++
        inScope (indicesOfKind range .exifSubSecTimeOriginal) scope)
      "Exif companion is malformed or conflicting; automatic evidence is blocked" ∈
        (scopedFields source range scope).2 :=
    List.mem_append_right _ (mem_raiseIf.mpr ⟨invalid, rfl⟩)
  exact valid _ ((scopedFields_subset found).2 raised) rfl

/-- Atoms of the original time: a reading of the scope, combined with its companions. -/
theorem mem_scopedFields {range : List ObservationRef} {scope : ExifScope} {atom : Atom} :
    atom ∈ (scopedFields source range scope).1 →
      ∃ ref ∈ inScope (indicesOfKind range .exifDateTimeOriginal) scope, ∃ base,
        refTimestamp ref = some base ∧
        exifOriginalTimestamp base
          (uniqueOffset (inScope (indicesOfKind range .exifOffsetTimeOriginal) scope))
          (uniqueSubsecond (inScope (indicesOfKind range .exifSubSecTimeOriginal) scope)) =
            .ok atom.timestamp ∧
        (atom.baseConfidence = .high →
          (uniqueOffset (inScope (indicesOfKind range .exifOffsetTimeOriginal) scope)).isSome =
            true) ∧
        atom.kind = .exifDateTimeOriginal := by
  intro member
  simp only [scopedFields, processScopedFields, addExifOriginalAtoms, List.mem_filterMap,
    Option.map_eq_some_iff, toOption_eq_some] at member
  obtain ⟨entry, timed, timestamp, combined, rfl⟩ := member
  obtain ⟨⟨ref, present, read⟩, _⟩ := mem_uniqueTimestamps.mp timed
  refine ⟨ref, present, entry.1, read, combined, fun high => ?_, rfl⟩
  by_contra missing
  simp only [exifOriginalAtom, missing] at high
  cases high

/-- A timestamp of a scope that combines with its companions becomes a strong atom. -/
theorem exists_scopedAtom {range : List ObservationRef} {scope : ExifScope} {ref : ObservationRef}
    {base value : NormalizedTimestamp}
    (member : ref ∈ inScope (indicesOfKind range .exifDateTimeOriginal) scope)
    (read : refTimestamp ref = some base)
    (combined : exifOriginalTimestamp base
      (uniqueOffset (inScope (indicesOfKind range .exifOffsetTimeOriginal) scope))
      (uniqueSubsecond (inScope (indicesOfKind range .exifSubSecTimeOriginal) scope)) =
        .ok value) :
    ∃ atom ∈ (scopedFields source range scope).1, atom.timestamp = value ∧
      atom.strong = true ∧
      ((uniqueOffset (inScope (indicesOfKind range .exifOffsetTimeOriginal) scope)).isSome = true →
        atom.baseConfidence = .high) := by
  have timed : (base, (inScope (indicesOfKind range .exifDateTimeOriginal) scope).filter
      fun ref => refTimestamp ref = some base) ∈
        uniqueTimestamps (inScope (indicesOfKind range .exifDateTimeOriginal) scope) :=
    mem_uniqueTimestamps.mpr ⟨⟨ref, member, read⟩, rfl⟩
  simp only [scopedFields, processScopedFields, addExifOriginalAtoms, List.mem_filterMap,
    Option.map_eq_some_iff, toOption_eq_some]
  refine ⟨_, ⟨_, timed, value, combined, rfl⟩, rfl, rfl, fun explicit => ?_⟩
  rw [exifOriginalAtom, if_pos explicit]

def simpleKinds : List SimpleKind :=
  [createDateKind, modifyDateKind, quickTimeCreationKind, movieHeaderKind]

theorem mem_addSimpleAtomIndices {simple : SimpleKind} {indices : List ObservationRef}
    {atom : Atom} (member : atom ∈ (addSimpleAtomIndices source simple indices).1) :
    ∃ entry ∈ uniqueTimestamps indices,
      atom = simpleAtom source simple (hasSemanticConflict indices) entry.2 entry.1 := by
  simp only [addSimpleAtomIndices, List.mem_map] at member
  obtain ⟨entry, timed, rfl⟩ := member
  exact ⟨entry, timed, rfl⟩

/-- Every atom comes from a scope of the original time or from one simple kind, whose issues are
raised with it. -/
theorem mem_processSourceFields {range : List ObservationRef} {atom : Atom}
    (member : atom ∈ (processSourceFields source range).1) :
    (∃ scope, (∃ ref ∈ indicesOfKind range .exifDateTimeOriginal, refScope ref = some scope) ∧
        atom ∈ (scopedFields source range scope).1) ∨
      ∃ simple ∈ simpleKinds, ∃ indices, atom ∈ (addSimpleAtomIndices source simple indices).1 ∧
        (addSimpleAtomIndices source simple indices).2 ⊆ (processSourceFields source range).2 := by
  have raised : ∀ issue, (issue ∈ (addSimpleExifAtoms source createDateKind range).2 ∨
      issue ∈ (addSimpleExifAtoms source modifyDateKind range).2 ∨
      issue ∈ (addSimpleAtoms source quickTimeCreationKind range).2 ∨
      issue ∈ (addSimpleAtoms source movieHeaderKind range).2) →
        issue ∈ (processSourceFields source range).2 := by
    intro issue here
    simp only [processSourceFields, List.mem_append]
    tauto
  simp only [processSourceFields, List.mem_append] at member
  rcases member with (((original | created) | modified) | quickTime) | movieHeader
  · obtain ⟨entry, grouped, found⟩ := List.mem_flatMap.mp original
    rw [processOriginalScope_eq grouped] at found
    exact Or.inl ⟨entry.1, (mem_indicesByExifScope.mp grouped).1, found⟩
  · obtain ⟨indices, grouped, found⟩ := List.mem_flatMap.mp created
    exact Or.inr ⟨createDateKind, by simp [simpleKinds], indices, found, fun issue here =>
      raised issue (Or.inl (List.mem_flatMap.mpr ⟨indices, grouped, here⟩))⟩
  · obtain ⟨indices, grouped, found⟩ := List.mem_flatMap.mp modified
    exact Or.inr ⟨modifyDateKind, by simp [simpleKinds], indices, found, fun issue here =>
      raised issue (Or.inr (Or.inl (List.mem_flatMap.mpr ⟨indices, grouped, here⟩)))⟩
  · exact Or.inr ⟨quickTimeCreationKind, by simp [simpleKinds], _, quickTime, fun issue here =>
      raised issue (Or.inr (Or.inr (Or.inl here)))⟩
  · exact Or.inr ⟨movieHeaderKind, by simp [simpleKinds], _, movieHeader, fun issue here =>
      raised issue (Or.inr (Or.inr (Or.inr here)))⟩

/-- A conflict inside one source is reported as an issue. -/
theorem conflicted_reported {range : List ObservationRef} {atom : Atom}
    (member : atom ∈ (processSourceFields source range).1) (conflicted : atom.conflicted = true) :
    ∃ issue ∈ (processSourceFields source range).2,
      issue.code = .repeatedFieldConflict ∨ issue.code = .invalidCompanion := by
  rcases mem_processSourceFields member with
    ⟨scope, scopes, found⟩ | ⟨simple, _, indices, found, raised⟩
  · have raised : (scopedFields source range scope).2 ⊆ (processSourceFields source range).2 :=
      (scopedFields_subset scopes).2
    simp only [scopedFields, processScopedFields, addExifOriginalAtoms, List.mem_filterMap,
      Option.map_eq_some_iff] at found
    obtain ⟨entry, _, timestamp, _, rfl⟩ := found
    simp only [exifOriginalAtom, Bool.or_eq_true] at conflicted
    simp only [scopedFields, processScopedFields, reportRepeatedConflict] at raised
    rcases conflicted with repeated | invalid
    · refine ⟨_, raised (List.mem_append_left _ (List.mem_append_left _
        (List.mem_append_left _ (mem_raiseIf.mpr ⟨repeated, rfl⟩)))), Or.inl rfl⟩
    · refine ⟨_, raised (List.mem_append_right _ (mem_raiseIf.mpr ⟨invalid, rfl⟩)), Or.inr rfl⟩
  · simp only [addSimpleAtomIndices, reportRepeatedConflict, List.mem_map] at found raised
    obtain ⟨entry, _, rfl⟩ := found
    exact ⟨_, raised (mem_raiseIf.mpr ⟨conflicted, rfl⟩), Or.inl rfl⟩

/-- An atom carries the identity and the binding of its source. -/
theorem processSourceFields_source {range : List ObservationRef} {atom : Atom}
    (member : atom ∈ (processSourceFields source range).1) :
    atom.sourceKey = source.sourceKey ∧ atom.sourceVerified = sourceVerified source := by
  rcases mem_processSourceFields member with ⟨scope, _, found⟩ | ⟨simple, _, indices, found, _⟩
  · simp only [scopedFields, processScopedFields, addExifOriginalAtoms, List.mem_filterMap,
      Option.map_eq_some_iff] at found
    obtain ⟨_, _, _, _, rfl⟩ := found
    exact ⟨rfl, rfl⟩
  · obtain ⟨entry, _, rfl⟩ := mem_addSimpleAtomIndices found
    exact ⟨rfl, rfl⟩

theorem simpleAtom_not_high {simple : SimpleKind} (listed : simple ∈ simpleKinds)
    (conflict : Bool) (indices : List ObservationRef) (timestamp : NormalizedTimestamp) :
    (simpleAtom source simple conflict indices timestamp).baseConfidence ≠ .high := by
  simp only [simpleKinds, List.mem_cons, List.not_mem_nil, or_false] at listed
  simp only [simpleAtom]
  rcases listed with rfl | rfl | rfl | rfl <;> split <;>
    simp [createDateKind, modifyDateKind, quickTimeCreationKind, movieHeaderKind, lowerConfidence]

/-- Every field supports its value with some confidence. -/
theorem baseConfidence_ne_conflict {range : List ObservationRef} {atom : Atom}
    (member : atom ∈ (processSourceFields source range).1) :
    atom.baseConfidence ≠ .conflict := by
  rcases mem_processSourceFields member with ⟨scope, _, found⟩ | ⟨simple, listed, _, found, _⟩
  · simp only [scopedFields, processScopedFields, addExifOriginalAtoms, List.mem_filterMap,
      Option.map_eq_some_iff] at found
    obtain ⟨_, _, _, _, rfl⟩ := found
    simp only [exifOriginalAtom]
    split <;> simp
  · obtain ⟨entry, _, rfl⟩ := mem_addSimpleAtomIndices found
    simp only [simpleKinds, List.mem_cons, List.not_mem_nil, or_false] at listed
    simp only [simpleAtom]
    rcases listed with rfl | rfl | rfl | rfl <;> split <;>
      simp [createDateKind, modifyDateKind, quickTimeCreationKind, movieHeaderKind, lowerConfidence]

/-! ## Readings and atoms -/

section Readings

variable (valid : CompanionsValid (processSourceFields source (sourceRefs start source)).2)
include valid

/-- Every value of the original time becomes a strong atom, a high one with an offset. -/
theorem exists_atom_of_originalValue {value : NormalizedTimestamp}
    (reading : OriginalValue source.report value) :
    ∃ atom ∈ (processSourceFields source (sourceRefs start source)).1,
      atom.timestamp = value ∧ atom.strong = true ∧
        (value.offsetKind = .explicit → atom.baseConfidence = .high) := by
  obtain ⟨field, scope, base, offset, subsecond, member, hasKind, located, read, offsetReading,
    subsecondReading, combined⟩ := reading
  obtain ⟨ref, present, observed⟩ := exists_sourceRef start member
  have timed : refTimestamp ref = some base := by
    rw [refTimestamp_original observed hasKind, read]
    rfl
  have ofKind : ref ∈ indicesOfKind (sourceRefs start source) .exifDateTimeOriginal :=
    mem_indicesOfKind.mpr ⟨present, (kind_observed observed).trans hasKind⟩
  have refLocated : refScope ref = some scope := (refScope_observed observed).trans located
  have scopes : ∃ ref ∈ indicesOfKind (sourceRefs start source) .exifDateTimeOriginal,
      refScope ref = some scope := ⟨ref, ofKind, refLocated⟩
  obtain ⟨offsetUnique, subsecondUnique⟩ :=
    uniqueCompanions (companionInvalid_eq_false scopes valid)
  have sameOffset := group_of_companionReading
    (fun ref field observed kind => refOffset_observed observed kind) offsetUnique offsetReading
  have sameSubsecond := group_of_companionReading
    (fun ref field observed kind => refSubsecond_observed observed kind) subsecondUnique
    subsecondReading
  have recombined : exifOriginalTimestamp base
      (uniqueOffset (inScope (indicesOfKind (sourceRefs start source) .exifOffsetTimeOriginal) scope))
      (uniqueSubsecond (inScope (indicesOfKind (sourceRefs start source) .exifSubSecTimeOriginal)
        scope)) = .ok value := by
    rw [uniqueOffset, uniqueSubsecond, sameOffset, sameSubsecond]
    exact combined
  obtain ⟨atom, found, sameTime, strong, level⟩ := exists_scopedAtom
    (mem_inScope.mpr ⟨ofKind, refLocated⟩) timed recombined
  refine ⟨atom, (scopedFields_subset scopes).1 found, sameTime, strong, fun explicit => level ?_⟩
  rw [offsetKind_of_combined recombined] at explicit
  by_contra missing
  rw [if_neg missing] at explicit
  cases explicit

/-- A high atom is a value of the original time with an explicit offset. -/
theorem originalValue_of_high {atom : Atom}
    (member : atom ∈ (processSourceFields source (sourceRefs start source)).1)
    (high : atom.baseConfidence = .high) :
    OriginalValue source.report atom.timestamp ∧ atom.kind = .exifDateTimeOriginal ∧
      ∃ base offset subsecond,
        exifOriginalTimestamp base (some offset) subsecond = .ok atom.timestamp := by
  rcases mem_processSourceFields member with
    ⟨scope, scopes, found⟩ | ⟨simple, listed, indices, found, _⟩
  · obtain ⟨ref, grouped, base, timed, combined, explicit, kind⟩ := mem_scopedFields found
    obtain ⟨offsetUnique, subsecondUnique⟩ :=
      uniqueCompanions (companionInvalid_eq_false scopes valid)
    rw [mem_inScope, mem_indicesOfKind] at grouped
    obtain ⟨field, present, observed⟩ := mem_sourceRefs grouped.1.1
    have hasKind := (kind_observed observed).symm.trans grouped.1.2
    rw [refTimestamp_original observed hasKind, toOption_eq_some] at timed
    obtain ⟨offset, sameOffset⟩ := Option.isSome_iff_exists.mp (explicit high)
    refine ⟨⟨field, scope, base, _, _, present, hasKind,
      (refScope_observed observed).symm.trans grouped.2, timed,
      companionReading_of_group (fun ref field observed kind => refOffset_observed observed kind)
        offsetUnique,
      companionReading_of_group
        (fun ref field observed kind => refSubsecond_observed observed kind) subsecondUnique,
      combined⟩, kind, base, offset, _, sameOffset ▸ combined⟩
  · obtain ⟨entry, _, rfl⟩ := mem_addSimpleAtomIndices found
    exact absurd high (simpleAtom_not_high listed _ _ _)

end Readings

/-- Every QuickTime creation date becomes a strong atom. -/
theorem exists_atom_of_quickTime {field : MetadataField} {value : NormalizedTimestamp}
    (member : field ∈ source.report.fields) (hasKind : field.kind = .quickTimeMetadataCreationDate)
    (reading : Parse.parseQuicktimeTimestamp field.rawBytes = .ok value) :
    ∃ atom ∈ (processSourceFields source (sourceRefs start source)).1,
      atom.timestamp = value ∧ atom.strong = true := by
  obtain ⟨ref, present, observed⟩ := exists_sourceRef start member
  have timed : refTimestamp ref = some value := by
    rw [refTimestamp_quickTime observed hasKind, reading]
    rfl
  have ofKind : ref ∈ indicesOfKind (sourceRefs start source) .quickTimeMetadataCreationDate :=
    mem_indicesOfKind.mpr ⟨present, (kind_observed observed).trans hasKind⟩
  have entry : (value, (indicesOfKind (sourceRefs start source)
      .quickTimeMetadataCreationDate).filter fun ref => refTimestamp ref = some value) ∈
        uniqueTimestamps (indicesOfKind (sourceRefs start source)
          .quickTimeMetadataCreationDate) :=
    mem_uniqueTimestamps.mpr ⟨⟨ref, ofKind, timed⟩, rfl⟩
  have subset : (addSimpleAtoms source quickTimeCreationKind (sourceRefs start source)).1 ⊆
      (processSourceFields source (sourceRefs start source)).1 := fun atom here => by
    simp only [processSourceFields, List.mem_append]
    exact Or.inl (Or.inr here)
  exact ⟨_, subset (List.mem_map.mpr ⟨_, entry, rfl⟩), rfl, rfl⟩

end Source

/-! ## Offsets of strong values -/

theorem offsetKind_of_quickTime {raw : List UInt8} {value : NormalizedTimestamp}
    (parsed : Parse.parseQuicktimeTimestamp raw = .ok value) :
    value.offsetKind = .missing ∨ value.offsetKind = .explicit := by
  unfold Parse.parseQuicktimeTimestamp at parsed
  obtain ⟨text, _, parsed⟩ := bind_eq_ok.mp parsed
  split at parsed
  · cases parsed
  obtain ⟨⟨cursor, nanosecond, precision⟩, _, parsed⟩ := bind_eq_ok.mp parsed
  obtain ⟨wall, _, parsed⟩ := bind_eq_ok.mp parsed
  dsimp only at parsed
  split at parsed
  · cases parsed
    exact Or.inl rfl
  split at parsed
  · obtain ⟨utc, _, parsed⟩ := bind_eq_ok.mp parsed
    exact Or.inr (offsetKind_of_explicit parsed)
  · obtain ⟨utc, _, parsed⟩ := bind_eq_ok.mp parsed
    exact Or.inr (offsetKind_of_explicit parsed)

/-- A strong value floats or has an explicit offset; it is never an assumed epoch. -/
theorem StrongValue.offsetKind {report : ExtractionReport} {value : NormalizedTimestamp}
    (strong : StrongValue report value) :
    value.offsetKind = .missing ∨ value.offsetKind = .explicit := by
  cases strong with
  | original reading =>
      obtain ⟨_, _, _, offset, _, _, _, _, _, _, _, combined⟩ := reading
      rw [offsetKind_of_combined combined]
      cases offset
      · exact Or.inl rfl
      · exact Or.inr rfl
  | quickTime field member hasKind reading => exact offsetKind_of_quickTime reading

/-- The instant of a strong value is on the scale instants are compared on. -/
theorem StrongValue.utcTotal {report : ExtractionReport} {value : NormalizedTimestamp}
    {instant : UtcInstant} (strong : StrongValue report value)
    (found : value.utcInstant = some instant) :
    utcTotalNanoseconds value = some instant.exactNanoseconds := by
  have agree := value.consistent
  rcases strong.offsetKind with missing | explicit
  · rw [missing] at agree
    rw [agree.2] at found
    cases found
  · rw [utcTotalNanoseconds, found, Option.bind_some]
    exact NormalizedTimestamp.explicit_total explicit found

end Guiying.Time.Policy
