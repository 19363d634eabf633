import Guiying.Time.Policy.Atoms

/-!
# Conflicts between sources

Two passes over the atoms of all sources. Atoms of one lineage and kind must
denote one value; strong atoms must agree within the tolerance, on the UTC scale
when both carry an offset and on the wall-clock scale when one floats. A pass
only ever raises the `conflicted` flag of an atom.
-/

namespace Guiying.Time.Policy

open Guiying.Foundation Guiying.Foundation.SortedSet Guiying.Foundation.MachineInt
open Guiying.Metadata

/-- An atom together with its index in the list of all atoms. -/
abbrev AtomRef := Atom × Nat

/-- The value two atoms are compared by: the instant, or the floating wall time. -/
inductive SemanticTimestamp where
  | utc (instant : UtcInstant)
  | floating (wall : WallTime) (precision : TimePrecision)

namespace SemanticTimestamp

def orderKey : SemanticTimestamp → List Int
  | utc instant => 0 :: instant.orderKey
  | floating wall precision => 1 :: wall.orderKey ++ [(precision.nanoseconds : Int)]

theorem orderKey_injective : Function.Injective orderKey := by
  intro left right same
  cases left with
  | utc instant =>
      cases right with
      | utc other =>
          exact congrArg utc (UtcInstant.orderKey_injective (List.cons.inj same).2)
      | floating wall precision => simp [orderKey] at same
  | floating wall precision =>
      cases right with
      | utc other => simp [orderKey] at same
      | floating other otherPrecision =>
          obtain ⟨walls, precisions⟩ := List.append_inj (List.cons.inj same).2 rfl
          rw [List.cons.injEq, Int.natCast_inj] at precisions
          rw [WallTime.orderKey_injective walls,
            TimePrecision.nanoseconds_injective precisions.1]

instance : LinearOrder SemanticTimestamp := LinearOrder.lift' orderKey orderKey_injective

end SemanticTimestamp

def semanticTimestamp (timestamp : NormalizedTimestamp) : SemanticTimestamp :=
  match timestamp.utcInstant with
  | none => .floating timestamp.wallTime timestamp.precision
  | some instant => .utc instant

def markConflicted (atoms : List Atom) (indices : List AtomRef) : List Atom :=
  atoms.mapIdx fun index atom =>
    if index ∈ indices.map Prod.snd then { atom with conflicted := true } else atom

def issueForAtomIndices (code : PolicyIssueCode) (indices : List AtomRef) (context : String) :
    PolicyIssue where
  code := code
  fieldKind := none
  observationIndices := sortDedup (indices.flatMap (·.1.observationIndices))
  sourceKeys := sortDedup (indices.map (·.1.sourceKey))
  lineageKeys := sortDedup (indices.map (·.1.lineageKey))
  context := context

/-! ## Lineages -/

def lineageGroupKey (atom : Atom) : LineageKey ×ₗ TimeEvidenceKind :=
  toLex (atom.lineageKey, atom.kind)

def markLineageGroup (state : List Atom × List PolicyIssue) (group : List AtomRef) :
    List Atom × List PolicyIssue :=
  let values := sortDedup (group.map fun ref => semanticTimestamp ref.1.timestamp)
  if values.length > 1 then
    (markConflicted state.1 group,
      state.2 ++ [issueForAtomIndices .lineageConflict group
        "copy-derived sources in one lineage disagree; copy count cannot vote"])
  else state

def markLineageConflicts (atoms : List Atom) (issues : List PolicyIssue) :
    List Atom × List PolicyIssue :=
  (OrderedMap.groupBy (fun ref : AtomRef => lineageGroupKey ref.1) atoms.zipIdx).values.foldl
    markLineageGroup (atoms, issues)

/-! ## Strong values -/

/-- What makes two strong atoms one representative. -/
def representativeKey (atom : Atom) : LineageKey × TimeEvidenceKind × NormalizedTimestamp :=
  (atom.lineageKey, atom.kind, atom.timestamp)

/-- The first strong atom of each lineage, kind and timestamp not seen before. -/
def strongRepresentatives (seen : List (LineageKey × TimeEvidenceKind × NormalizedTimestamp)) :
    List AtomRef → List AtomRef
  | [] => []
  | ref :: rest =>
      if ref.1.strong = true ∧ representativeKey ref.1 ∉ seen then
        ref :: strongRepresentatives (representativeKey ref.1 :: seen) rest
      else strongRepresentatives seen rest

def wallTotalNanoseconds (timestamp : NormalizedTimestamp) : Option Int := do
  let whole ← checkedI128 (timestamp.wallTime.naiveUnixSeconds * nanosPerSecond)
  checkedI128 (whole + timestamp.wallTime.nanosecond)

def secondsToNanoseconds (seconds : Nat) : Int := seconds * nanosPerSecond

def effectiveStrongTolerance (context : PolicyContext) : Nat :=
  min context.strongEvidenceToleranceSeconds maxStrongEvidenceToleranceSeconds

def isSuspectedIntegerHour (difference : Int) (context : PolicyContext) : Bool :=
  let residualTolerance := secondsToNanoseconds
    (min context.integerHourResidualToleranceSeconds maxIntegerHourResidualToleranceSeconds)
  let hour : Int := 3600 * nanosPerSecond
  (List.range (min context.maximumSuspectedOffsetHours maxSuspectedOffsetHours)).any fun index =>
    |difference - (index + 1) * hour| ≤ residualTolerance

def strongConflictIssue (representatives : List AtomRef) (difference : Int)
    (context : PolicyContext) : PolicyIssue :=
  if isSuspectedIntegerHour difference context then
    issueForAtomIndices .possibleTimezoneConflict representatives
      "strong evidence differs by an integer hour; timezone inference is forbidden"
  else
    issueForAtomIndices .strongEvidenceConflict representatives
      "strong evidence differs beyond the configured tolerance"

/-- Values with the indices of their atoms, in ascending order. -/
def sortedValues (value : NormalizedTimestamp → Option Int) (refs : List AtomRef) :
    List (Int ×ₗ Nat) :=
  (refs.filterMap fun ref => (value ref.1.timestamp).map fun total => toLex (total, ref.2))
    |>.insertionSort (· ≤ ·)

/-- The least and the greatest value, when there is one. -/
def extremes (values : List (Int ×ₗ Nat)) : Option (Int × Int) :=
  match values.head?, values.getLast? with
  | some minimum, some maximum => some ((ofLex minimum).1, (ofLex maximum).1)
  | _, _ => none

def utcTotalNanoseconds (timestamp : NormalizedTimestamp) : Option Int :=
  timestamp.utcInstant.bind UtcInstant.totalNanoseconds

def saturatingSub (left right : Int) : Int := saturateI128 (left - right)

def isFloating (ref : AtomRef) : Bool := ref.1.timestamp.utcInstant.isNone

/-- Outcome of comparing the floating values with the extremes, in order. -/
inductive FloatingCheck where
  | agree
  | unmeasurable
  | apart (difference : Int)

/-- How far a floating value lies outside the tolerance, looking down first. -/
def floatingDifference (tolerance minimum maximum value : Int) : Option Int :=
  if saturatingSub value minimum > tolerance then some (saturatingSub value minimum)
  else if saturatingSub maximum value > tolerance then some (saturatingSub maximum value)
  else none

/-- The loop over the wall totals of the floating values. -/
def checkFloating (tolerance minimum maximum : Int) : List (Option Int) → FloatingCheck
  | [] => .agree
  | none :: _ => .unmeasurable
  | some value :: rest =>
      match floatingDifference tolerance minimum maximum value with
      | some difference => .apart difference
      | none => checkFloating tolerance minimum maximum rest

/-- The pass over the strong values that carry an offset. -/
def markExplicitConflicts (representatives : List AtomRef) (context : PolicyContext)
    (state : List Atom × List PolicyIssue) : List Atom × List PolicyIssue :=
  match extremes (sortedValues utcTotalNanoseconds representatives) with
  | none => state
  | some (minimum, maximum) =>
      let difference := saturatingSub maximum minimum
      if difference > secondsToNanoseconds (effectiveStrongTolerance context) then
        (markConflicted state.1 representatives,
          state.2 ++ [strongConflictIssue representatives difference context])
      else state

/-- The pass over the floating strong values, compared on the wall-clock scale. -/
def markFloatingConflicts (representatives : List AtomRef) (context : PolicyContext)
    (state : List Atom × List PolicyIssue) : List Atom × List PolicyIssue :=
  let floating := representatives.filter isFloating
  if floating = [] then state
  else
    match extremes (sortedValues wallTotalNanoseconds representatives) with
    | none => (markConflicted state.1 representatives, state.2)
    | some (minimum, maximum) =>
        match checkFloating (secondsToNanoseconds (effectiveStrongTolerance context))
            minimum maximum (floating.map fun ref => wallTotalNanoseconds ref.1.timestamp) with
        | .agree => state
        | .unmeasurable => (markConflicted state.1 representatives, state.2)
        | .apart difference =>
            (markConflicted state.1 representatives,
              state.2 ++ [strongConflictIssue representatives difference context])

def markStrongConflicts (atoms : List Atom) (context : PolicyContext)
    (issues : List PolicyIssue) : List Atom × List PolicyIssue :=
  let representatives := strongRepresentatives [] atoms.zipIdx
  markFloatingConflicts representatives context
    (markExplicitConflicts representatives context (atoms, issues))

end Guiying.Time.Policy
