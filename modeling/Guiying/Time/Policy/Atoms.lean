import Guiying.Foundation.OrderedMap
import Guiying.Time.Policy.Checks
import Mathlib.Data.Prod.Lex

/-!
# Atoms of one source

The fields of one trusted source become atoms: one per distinct timestamp value
in a metadata scope. An index of the source travels with the observation it
points at, so no lookup can miss.
-/

namespace Guiying.Time.Policy

open Guiying.Foundation Guiying.Foundation.SortedSet Guiying.Metadata

/-- One timestamp value with the evidence that supports it. -/
structure Atom where
  timestamp : NormalizedTimestamp
  kind : TimeEvidenceKind
  sourceKey : SourceKey
  lineageKey : LineageKey
  observationIndices : List Nat
  baseConfidence : Confidence
  strong : Bool
  conflicted : Bool
  invalidCompanion : Bool
  sourceVerified : Bool

inductive ExifScope where
  | tiff (headerOffset ifdOffset : Nat)
  | jpegExif (app1Offset headerOffset ifdOffset : Nat)

namespace ExifScope

def orderKey : ExifScope → List Nat
  | tiff headerOffset ifdOffset => [0, headerOffset, ifdOffset]
  | jpegExif app1Offset headerOffset ifdOffset => [1, app1Offset, headerOffset, ifdOffset]

theorem orderKey_injective : Function.Injective orderKey := by
  intro left right same
  cases left <;> cases right <;> simp_all [orderKey]

instance : LinearOrder ExifScope := LinearOrder.lift' orderKey orderKey_injective

end ExifScope

/-- An observation together with its index in the analysis. -/
structure ObservationRef where
  index : Nat
  observation : EvidenceObservation

namespace ObservationRef

def kind (ref : ObservationRef) : MetadataFieldKind := ref.observation.field.kind

end ObservationRef

/-- The references of the observations that were appended from index `start` on. -/
def refsFrom : Nat → List EvidenceObservation → List ObservationRef
  | _, [] => []
  | start, observation :: rest => ⟨start, observation⟩ :: refsFrom (start + 1) rest

def exifScope (field : MetadataField) : Option ExifScope :=
  match field.locator.container with
  | .tiff headerOffset ifdOffset _ _ => some (.tiff headerOffset ifdOffset)
  | .jpegExif app1Offset headerOffset ifdOffset _ _ =>
      some (.jpegExif app1Offset headerOffset ifdOffset)
  | .isoBmff .. => none

def indicesOfKind (range : List ObservationRef) (kind : MetadataFieldKind) : List ObservationRef :=
  range.filter fun ref => ref.kind == kind

def refScope (ref : ObservationRef) : Option ExifScope := exifScope ref.observation.field

def indicesByExifScope (indices : List ObservationRef) :
    OrderedMap ExifScope (List ObservationRef) :=
  .groupBySome refScope indices

def refTimestamp (ref : ObservationRef) : Option NormalizedTimestamp :=
  match ref.observation.interpretation with
  | .timestamp value => some value
  | _ => none

def uniqueTimestamps (indices : List ObservationRef) :
    List (NormalizedTimestamp × List ObservationRef) :=
  (OrderedMap.groupBySome refTimestamp indices).entries

/-- The one value all items have, read by `value`; `none` when an item has none. -/
def uniqueValue {α β : Type*} [LinearOrder β] (value : α → Option β) (items : List α) :
    Option β := do
  let values ← items.mapM value
  match sortDedup values with
  | [single] => some single
  | _ => none

def refOffset (ref : ObservationRef) : Option UtcOffset :=
  match ref.observation.interpretation with
  | .offset value => some value
  | _ => none

def uniqueOffset (indices : List ObservationRef) : Option UtcOffset := uniqueValue refOffset indices

def refSubsecond (ref : ObservationRef) : Option (Nat ×ₗ TimePrecision) :=
  match ref.observation.interpretation with
  | .subsecond nanosecond _ precision => some (toLex (nanosecond, precision))
  | _ => none

def uniqueSubsecond (indices : List ObservationRef) : Option (Nat ×ₗ TimePrecision) :=
  uniqueValue refSubsecond indices

/-- Two observations of one field disagree: rejected values are compared with their bytes. -/
def disagree (first current : EvidenceObservation) : Bool :=
  match first.interpretation, current.interpretation with
  | .rejected firstError, .rejected currentError =>
      firstError != currentError || first.field.rawBytes != current.field.rawBytes
  | firstValue, currentValue => firstValue != currentValue

def hasSemanticConflict : List ObservationRef → Bool
  | [] => false
  | first :: rest => rest.any fun current => disagree first.observation current.observation

/-! ## Diagnostics -/

def raiseIf {α : Type*} (condition : Bool) (issue : α) : List α := if condition then [issue] else []

def singleObservationIssue (code : PolicyIssueCode) (fieldKind : Option MetadataFieldKind)
    (observationIndex : Nat) (source : EvidenceSource) (context : String) : PolicyIssue where
  code := code
  fieldKind := fieldKind
  observationIndices := [observationIndex]
  sourceKeys := [source.sourceKey]
  lineageKeys := [source.lineageKey]
  context := context

def sourceIssue (code : PolicyIssueCode) (source : EvidenceSource) (context : String) :
    PolicyIssue where
  code := code
  fieldKind := none
  observationIndices := []
  sourceKeys := [source.sourceKey]
  lineageKeys := [source.lineageKey]
  context := context

def issueForIndices (code : PolicyIssueCode) (fieldKind : Option MetadataFieldKind)
    (indices : List ObservationRef) (context : String) : PolicyIssue where
  code := code
  fieldKind := fieldKind
  observationIndices := sortDedup (indices.map (·.index))
  sourceKeys := sortDedup (indices.map (·.observation.sourceKey))
  lineageKeys := sortDedup (indices.map (·.observation.lineageKey))
  context := context

def reportRepeatedConflict (indices : List ObservationRef) (fieldKind : MetadataFieldKind)
    (context : String) : Bool × List PolicyIssue :=
  let conflict := hasSemanticConflict indices
  (conflict,
    raiseIf conflict (issueForIndices .repeatedFieldConflict (some fieldKind) indices context))

/-! ## Atoms -/

def lowerConfidence : Confidence → Confidence
  | .high => .medium
  | .medium | .low | .conflict => .low

def sourceVerified (source : EvidenceSource) : Bool :=
  source.binding == .reextractedFromPinnedSource

/-- `DateTimeOriginal` with the subsecond and offset of its scope. -/
def exifOriginalTimestamp (base : NormalizedTimestamp) (offset : Option UtcOffset)
    (subsecond : Option (Nat ×ₗ TimePrecision)) :
    Except TimestampParseError NormalizedTimestamp := do
  let (nanosecond, precision) := (subsecond.map ofLex).getD (0, TimePrecision.seconds)
  let wall ← base.wallTime.withNanosecond nanosecond
  match offset with
  | none => .ok (NormalizedTimestamp.floating wall precision)
  | some value => NormalizedTimestamp.explicit wall value precision

def exifOriginalAtom (source : EvidenceSource) (indices : List ObservationRef)
    (offset : Option UtcOffset) (evidenceConflict invalidCompanion : Bool)
    (timestamp : NormalizedTimestamp) : Atom where
  timestamp := timestamp
  kind := .exifDateTimeOriginal
  sourceKey := source.sourceKey
  lineageKey := source.lineageKey
  observationIndices := sortDedup (indices.map (·.index))
  baseConfidence := if offset.isSome then .high else .medium
  strong := true
  conflicted := evidenceConflict
  invalidCompanion := invalidCompanion
  sourceVerified := sourceVerified source

/-- A value that does not combine with its companions is skipped. -/
def addExifOriginalAtoms (source : EvidenceSource)
    (dto offsets subseconds : List ObservationRef) (offset : Option UtcOffset)
    (subsecond : Option (Nat ×ₗ TimePrecision)) (evidenceConflict invalidCompanion : Bool) :
    List Atom :=
  (uniqueTimestamps dto).filterMap fun (base, matchingIndices) =>
    (exifOriginalTimestamp base offset subsecond).toOption.map
      (exifOriginalAtom source (matchingIndices ++ offsets ++ subseconds) offset evidenceConflict
        invalidCompanion)

/-- Semantics shared by every field of one simple kind. -/
structure SimpleKind where
  fieldKind : MetadataFieldKind
  evidenceKind : TimeEvidenceKind
  baseConfidence : Confidence
  strong : Bool

def simpleAtom (source : EvidenceSource) (simple : SimpleKind) (repeatedConflict : Bool)
    (indices : List ObservationRef) (timestamp : NormalizedTimestamp) : Atom where
  timestamp := timestamp
  kind := simple.evidenceKind
  sourceKey := source.sourceKey
  lineageKey := source.lineageKey
  observationIndices := indices.map (·.index)
  baseConfidence :=
    if timestamp.utcInstant.isSome then simple.baseConfidence
    else lowerConfidence simple.baseConfidence
  strong := simple.strong
  conflicted := repeatedConflict
  invalidCompanion := false
  sourceVerified := sourceVerified source

def addSimpleAtomIndices (source : EvidenceSource) (simple : SimpleKind)
    (indices : List ObservationRef) : List Atom × List PolicyIssue :=
  let (repeatedConflict, issues) := reportRepeatedConflict indices simple.fieldKind
    "repeated timestamp values of one kind disagree inside one metadata scope"
  ((uniqueTimestamps indices).map fun (timestamp, matchingIndices) =>
    simpleAtom source simple repeatedConflict matchingIndices timestamp, issues)

/-- Run a pass that appends atoms and issues over every element of a list. -/
def collectPasses {α : Type*} (pass : α → List Atom × List PolicyIssue) (items : List α) :
    List Atom × List PolicyIssue :=
  (items.flatMap fun item => (pass item).1, items.flatMap fun item => (pass item).2)

def addSimpleExifAtoms (source : EvidenceSource) (simple : SimpleKind)
    (range : List ObservationRef) : List Atom × List PolicyIssue :=
  collectPasses (addSimpleAtomIndices source simple)
    (indicesByExifScope (indicesOfKind range simple.fieldKind)).values

def addSimpleAtoms (source : EvidenceSource) (simple : SimpleKind)
    (range : List ObservationRef) : List Atom × List PolicyIssue :=
  addSimpleAtomIndices source simple (indicesOfKind range simple.fieldKind)

def createDateKind : SimpleKind := ⟨.exifCreateDate, .exifCreateDate, .medium, false⟩

def modifyDateKind : SimpleKind := ⟨.exifModifyDate, .exifModifyDate, .low, false⟩

def quickTimeCreationKind : SimpleKind :=
  ⟨.quickTimeMetadataCreationDate, .quickTimeMetadataCreationDate, .medium, true⟩

def movieHeaderKind : SimpleKind :=
  ⟨.quickTimeMovieHeaderCreationTime, .quickTimeMovieHeaderCreationTime, .low, false⟩

/-- The companions of a scope are malformed, or disagree among themselves. -/
def companionInvalid (offsets subseconds : List ObservationRef) : Bool :=
  hasSemanticConflict offsets || hasSemanticConflict subseconds ||
    ((uniqueOffset offsets).isNone && !offsets.isEmpty) ||
    ((uniqueSubsecond subseconds).isNone && !subseconds.isEmpty)

/-- The atoms and issues of one `DateTimeOriginal` scope with its companions. -/
def processScopedFields (source : EvidenceSource)
    (scopedDto scopedOffsets scopedSubseconds : List ObservationRef) :
    List Atom × List PolicyIssue :=
  let (dtoConflict, dtoIssues) := reportRepeatedConflict scopedDto .exifDateTimeOriginal
    "repeated DateTimeOriginal values disagree inside one IFD scope"
  let (_, offsetIssues) := reportRepeatedConflict scopedOffsets .exifOffsetTimeOriginal
    "repeated OffsetTimeOriginal values disagree inside one IFD scope"
  let (_, subsecondIssues) := reportRepeatedConflict scopedSubseconds .exifSubSecTimeOriginal
    "repeated SubSecTimeOriginal values disagree inside one IFD scope"
  let invalid := companionInvalid scopedOffsets scopedSubseconds
  let companionIssues := raiseIf invalid
    (issueForIndices .invalidCompanion none (scopedOffsets ++ scopedSubseconds)
      "Exif companion is malformed or conflicting; automatic evidence is blocked")
  (addExifOriginalAtoms source scopedDto scopedOffsets scopedSubseconds
    (uniqueOffset scopedOffsets) (uniqueSubsecond scopedSubseconds)
    (dtoConflict || invalid) invalid,
    dtoIssues ++ offsetIssues ++ subsecondIssues ++ companionIssues)

def processOriginalScope (source : EvidenceSource)
    (offsetsByScope subsecondsByScope : OrderedMap ExifScope (List ObservationRef))
    (entry : ExifScope × List ObservationRef) : List Atom × List PolicyIssue :=
  processScopedFields source entry.2 ((offsetsByScope.get? entry.1).getD [])
    ((subsecondsByScope.get? entry.1).getD [])

/-- Companions outside every `DateTimeOriginal` scope. -/
def orphanCompanions (dtoByScope offsetsByScope subsecondsByScope :
    OrderedMap ExifScope (List ObservationRef)) : List ObservationRef :=
  ((offsetsByScope.entries ++ subsecondsByScope.entries).filter
    fun (scope, _) => (dtoByScope.get? scope).isNone).flatMap Prod.snd

def orphanIssues (companions : List ObservationRef) : List PolicyIssue :=
  raiseIf (!companions.isEmpty)
    (issueForIndices .orphanExifCompanion none companions
      "Exif companion is outside every DateTimeOriginal IFD scope")

def processSourceFields (source : EvidenceSource) (range : List ObservationRef) :
    List Atom × List PolicyIssue :=
  let dtoByScope := indicesByExifScope (indicesOfKind range .exifDateTimeOriginal)
  let offsetsByScope := indicesByExifScope (indicesOfKind range .exifOffsetTimeOriginal)
  let subsecondsByScope := indicesByExifScope (indicesOfKind range .exifSubSecTimeOriginal)
  let orphans := orphanCompanions dtoByScope offsetsByScope subsecondsByScope
  let original := collectPasses (processOriginalScope source offsetsByScope subsecondsByScope)
    dtoByScope.entries
  let created := addSimpleExifAtoms source createDateKind range
  let modified := addSimpleExifAtoms source modifyDateKind range
  let quickTime := addSimpleAtoms source quickTimeCreationKind range
  let movieHeader := addSimpleAtoms source movieHeaderKind range
  (original.1 ++ created.1 ++ modified.1 ++ quickTime.1 ++ movieHeader.1,
    orphanIssues orphans ++ original.2 ++ created.2 ++ modified.2 ++ quickTime.2 ++ movieHeader.2)

end Guiying.Time.Policy
