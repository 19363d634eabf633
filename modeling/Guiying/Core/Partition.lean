import Mathlib.Algebra.Order.BigOperators.Group.List
import Mathlib.Algebra.Order.Ring.Nat
import Mathlib.Data.Finset.Lattice.Lemmas
import Mathlib.Data.List.Nodup

/-!
# Partition into equivalence classes

`partition_equivalence_classes` asks a callback about pairs of indices and sorts
the candidates into classes. A class is compared through its first surviving
member; the callback may exclude either index, the candidate, or both, and an
excluded index leaves every class it has joined.
-/

namespace Guiying.Core

inductive PairRelation where
  | equal
  | different
  | excludeLeft
  | excludeRight
  | excludeBoth
  | cancelled
  deriving DecidableEq

inductive ExactBuildError where
  | cancelled
  deriving DecidableEq

/-- One question put to the callback, with the class it was put for as it stood. The run keeps
these as a history; no branch reads them. -/
structure Comparison where
  representative : Nat
  others : List Nat
  candidate : Nat
  answer : PairRelation
  deriving DecidableEq

namespace Comparison

/-- The class the candidate was compared with, its representative first. -/
def members (comparison : Comparison) : List Nat :=
  comparison.representative :: comparison.others

/-- The indices an answer excludes. -/
def excludes (comparison : Comparison) : Finset Nat :=
  match comparison.answer with
  | .excludeLeft => {comparison.representative}
  | .excludeRight => {comparison.candidate}
  | .excludeBoth => {comparison.representative, comparison.candidate}
  | .equal | .different | .cancelled => ∅

theorem eq_of_mem_excludes {comparison : Comparison} {index : Nat}
    (member : index ∈ comparison.excludes) :
    index = comparison.representative ∨ index = comparison.candidate := by
  unfold excludes at member
  split at member <;> simp_all

end Comparison

/-- The callback: a question answered from a state of its own. -/
abbrev Relation (σ : Type*) := σ → Nat → Nat → PairRelation × σ

/-- The classes around the loop's `class_index`: those before it, and those from it on. -/
structure Cursor (σ : Type*) where
  passed : List (List Nat)
  ahead : List (List Nat)
  excluded : Finset Nat
  callback : σ
  history : List Comparison

/-- How one turn of the inner loop ends. -/
inductive Turn (σ : Type*) where
  | again (cursor : Cursor σ)
  | placed (cursor : Cursor σ)
  | finished (cursor : Cursor σ)
  | cancelled (cursor : Cursor σ)

variable {σ : Type*}

def survivors (excluded : Finset Nat) (members : List Nat) : List Nat :=
  members.filter fun index => index ∉ excluded

namespace Cursor

def classes (cursor : Cursor σ) : List (List Nat) := cursor.passed ++ cursor.ahead

/-- Back to `class_index = 0`. -/
def restart (cursor : Cursor σ) : Cursor σ :=
  { cursor with
    passed := []
    ahead := cursor.classes }

/-- The class at the index was retained and its representative compared with the candidate. -/
def asked (cursor : Cursor σ) (rest : List (List Nat)) (comparison : Comparison) (callback : σ) :
    Cursor σ :=
  { cursor with
    ahead := comparison.members :: rest
    excluded := cursor.excluded ∪ comparison.excludes
    callback := callback
    history := cursor.history ++ [comparison] }

/-- The candidate joins the class at the index. -/
def join (cursor : Cursor σ) (comparison : Comparison) (rest : List (List Nat)) : Cursor σ :=
  { cursor with ahead := (comparison.members ++ [comparison.candidate]) :: rest }

/-- `class_index += 1`. -/
def pass (cursor : Cursor σ) (comparison : Comparison) (rest : List (List Nat)) : Cursor σ :=
  { cursor with
    passed := cursor.passed ++ [comparison.members]
    ahead := rest }

end Cursor

/-! ## The loops -/

/-- One turn of the inner loop. -/
def advance (relation : Relation σ) (candidate : Nat) (cursor : Cursor σ) : Turn σ :=
  match cursor.ahead with
  | [] => .finished cursor
  | members :: rest =>
      if candidate ∈ cursor.excluded then .finished cursor
      else
        match survivors cursor.excluded members with
        | [] => .again { cursor with ahead := rest }
        | representative :: others =>
            let answered := relation cursor.callback representative candidate
            let comparison : Comparison := ⟨representative, others, candidate, answered.1⟩
            let asked := cursor.asked rest comparison answered.2
            match answered.1 with
            | .equal => .placed (asked.join comparison rest)
            | .different => .again (asked.pass comparison rest)
            | .excludeLeft | .excludeRight | .excludeBoth => .again asked
            | .cancelled => .cancelled asked

/-- The question of a turn: the surviving class at the index, and the candidate. -/
structure Asks (candidate : Nat) (cursor : Cursor σ) (members : List Nat) (rest : List (List Nat))
    (comparison : Comparison) : Prop where
  ahead : cursor.ahead = members :: rest
  present : candidate ∉ cursor.excluded
  members_eq : comparison.members = survivors cursor.excluded members
  candidate_eq : comparison.candidate = candidate

/-- Everything one turn can do. -/
inductive Advances (candidate : Nat) (cursor : Cursor σ) : Turn σ → Prop where
  | exhausted (nothing : cursor.ahead = []) : Advances candidate cursor (.finished cursor)
  | dropped (gone : candidate ∈ cursor.excluded) : Advances candidate cursor (.finished cursor)
  | emptied {members : List Nat} {rest : List (List Nat)} (ahead : cursor.ahead = members :: rest)
      (nobody : survivors cursor.excluded members = []) :
      Advances candidate cursor (.again { cursor with ahead := rest })
  | joined {members rest comparison} {callback : σ}
      (asks : Asks candidate cursor members rest comparison) (equal : comparison.answer = .equal) :
      Advances candidate cursor
        (.placed ((cursor.asked rest comparison callback).join comparison rest))
  | differed {members rest comparison} {callback : σ}
      (asks : Asks candidate cursor members rest comparison)
      (different : comparison.answer = .different) :
      Advances candidate cursor
        (.again ((cursor.asked rest comparison callback).pass comparison rest))
  | excluded {members rest comparison} {callback : σ}
      (asks : Asks candidate cursor members rest comparison)
      (excludes : comparison.excludes ≠ ∅) (goesOn : comparison.answer ≠ .cancelled) :
      Advances candidate cursor (.again (cursor.asked rest comparison callback))
  | cancelled {members rest comparison} {callback : σ}
      (asks : Asks candidate cursor members rest comparison)
      (cancelled : comparison.answer = .cancelled) :
      Advances candidate cursor (.cancelled (cursor.asked rest comparison callback))

theorem advance_spec (relation : Relation σ) (candidate : Nat) (cursor : Cursor σ) :
    Advances candidate cursor (advance relation candidate cursor) := by
  unfold advance
  split
  · exact .exhausted ‹_›
  rename_i members rest ahead
  split
  · exact .dropped ‹_›
  rename_i present
  split
  · exact .emptied ahead ‹_›
  rename_i representative others remaining
  have asks : ∀ answer, Asks candidate cursor members rest
      ⟨representative, others, candidate, answer⟩ :=
    fun answer => ⟨ahead, present, remaining.symm, rfl⟩
  dsimp only
  generalize relation cursor.callback representative candidate = answered
  obtain ⟨answer, callback⟩ := answered
  cases answer with
  | equal => exact .joined (asks _) rfl
  | different => exact .differed (asks _) rfl
  | excludeLeft => exact .excluded (asks _) (Finset.singleton_ne_empty _) (by simp)
  | excludeRight => exact .excluded (asks _) (Finset.singleton_ne_empty _) (by simp)
  | excludeBoth => exact .excluded (asks _) (Finset.insert_ne_empty _ _) (by simp)
  | cancelled => exact .cancelled (asks _) rfl

/-! ## Survivors -/

theorem mem_survivors {excluded : Finset Nat} {members : List Nat} {index : Nat} :
    index ∈ survivors excluded members ↔ index ∈ members ∧ index ∉ excluded := by
  simp [survivors]

theorem survivors_subset (excluded : Finset Nat) (members : List Nat) :
    survivors excluded members ⊆ members := List.filter_subset_self _

theorem survivors_survivors {excluded larger : Finset Nat} (subset : excluded ⊆ larger)
    (members : List Nat) :
    survivors larger (survivors excluded members) = survivors larger members := by
  unfold survivors
  rw [List.filter_filter]
  refine List.filter_congr fun index _ => ?_
  by_cases gone : index ∈ excluded
  · simp [subset gone]
  · simp [gone]

theorem length_survivors_le {excluded larger : Finset Nat} (subset : excluded ⊆ larger)
    (members : List Nat) :
    (survivors larger members).length ≤ (survivors excluded members).length := by
  rw [← survivors_survivors subset]
  exact List.length_filter_le _ _

/-- What is left to do for a candidate: members that survive, classes, and the candidate. -/
def remaining (candidate : Nat) (cursor : Cursor σ) : Nat :=
  (cursor.ahead.map fun members => (survivors cursor.excluded members).length + 1).sum +
    if candidate ∈ cursor.excluded then 0 else 1

/-- An answer that excludes an index leaves less to do. -/
theorem remaining_asked_lt {candidate : Nat} {cursor : Cursor σ} {members rest comparison}
    {callback : σ} (asks : Asks candidate cursor members rest comparison)
    (excludes : comparison.excludes ≠ ∅) :
    remaining candidate (cursor.asked rest comparison callback) < remaining candidate cursor := by
  obtain ⟨index, member⟩ := Finset.nonempty_of_ne_empty excludes
  have grown : cursor.excluded ⊆ cursor.excluded ∪ comparison.excludes :=
    Finset.subset_union_left
  have others : (rest.map fun class' =>
        (survivors (cursor.excluded ∪ comparison.excludes) class').length + 1).sum ≤
      (rest.map fun class' => (survivors cursor.excluded class').length + 1).sum :=
    List.sum_le_sum fun class' _ => Nat.succ_le_succ (length_survivors_le grown class')
  have own := length_survivors_le grown comparison.members
  rw [asks.members_eq, survivors_survivors (Finset.Subset.refl _)] at own
  simp only [remaining, Cursor.asked, asks.ahead, List.map_cons, List.sum_cons,
    asks.members_eq, if_neg asks.present]
  rcases Comparison.eq_of_mem_excludes member with rfl | rfl
  · -- the representative leaves its class
    have shorter : (survivors (cursor.excluded ∪ comparison.excludes)
        (survivors cursor.excluded members)).length <
          (survivors cursor.excluded members).length := by
      refine List.length_filter_lt_length_iff_exists.mpr ⟨comparison.representative, ?_, ?_⟩
      · rw [← asks.members_eq]
        exact List.mem_cons_self
      · simp [member]
    split <;> omega
  · -- the candidate is out
    rw [if_pos (Finset.mem_union_right _ (asks.candidate_eq ▸ member))]
    omega

theorem advance_decreases {candidate : Nat} {cursor next : Cursor σ}
    (turn : Advances candidate cursor (.again next)) :
    remaining candidate next < remaining candidate cursor := by
  cases turn with
  | emptied ahead nobody =>
      simp only [remaining, ahead, List.map_cons, List.sum_cons]
      omega
  | @differed members rest comparison callback asks different =>
      have nothing : comparison.excludes = ∅ := by rw [Comparison.excludes, different]
      simp only [remaining, Cursor.pass, Cursor.asked, asks.ahead, List.map_cons, List.sum_cons,
        nothing, Finset.union_empty]
      omega
  | excluded asks excludes => exact remaining_asked_lt asks excludes

/-- How the search for a class ends. -/
inductive Placement (σ : Type*) where
  | placed (cursor : Cursor σ)
  | unplaced (cursor : Cursor σ)
  | cancelled (cursor : Cursor σ)

/-- The inner loop: look for the class of a candidate. -/
def placeCandidate (relation : Relation σ) (candidate : Nat) (cursor : Cursor σ) : Placement σ :=
  match _turn : advance relation candidate cursor with
  | .again next => placeCandidate relation candidate next
  | .placed next => .placed next
  | .finished next => .unplaced next
  | .cancelled last => .cancelled last
termination_by remaining candidate cursor
decreasing_by exact advance_decreases (_turn ▸ advance_spec relation candidate cursor)

/-- A candidate that no class took opens its own. -/
def Cursor.found (cursor : Cursor σ) (candidate : Nat) : Cursor σ :=
  if candidate ∈ cursor.excluded then cursor
  else { cursor with ahead := cursor.ahead ++ [[candidate]] }

/-- The outer loop; a cancelled run ends where it stands. -/
def placeAll (relation : Relation σ) : List Nat → Cursor σ → Except (Cursor σ) (Cursor σ)
  | [], cursor => .ok cursor
  | candidate :: rest, cursor =>
      if candidate ∈ cursor.excluded then placeAll relation rest cursor
      else
        match placeCandidate relation candidate cursor.restart with
        | .placed next => placeAll relation rest next
        | .unplaced next => placeAll relation rest (next.found candidate)
        | .cancelled last => .error last

/-- A finished run: its result and the questions it put. -/
structure PartitionRun where
  outcome : Except ExactBuildError (List (List Nat))
  history : List Comparison

def partitionEquivalenceClasses (relation : Relation σ) (callback : σ) (indices : List Nat) :
    PartitionRun :=
  match placeAll relation indices ⟨[], [], ∅, callback, []⟩ with
  | .ok cursor =>
      { outcome := .ok ((cursor.classes.map (survivors cursor.excluded)).filter (· ≠ []))
        history := cursor.history }
  | .error cursor => ⟨.error .cancelled, cursor.history⟩

/-! ## Rules of the loops -/

/-- What a turn must establish: the invariant to go on, or the fact of its exit. -/
def Turn.Establishes (inv placed unplaced cancelled : Cursor σ → Prop) : Turn σ → Prop
  | .again cursor => inv cursor
  | .placed cursor => placed cursor
  | .finished cursor => unplaced cursor
  | .cancelled cursor => cancelled cursor

def Placement.Establishes (placed unplaced cancelled : Cursor σ → Prop) : Placement σ → Prop
  | .placed cursor => placed cursor
  | .unplaced cursor => unplaced cursor
  | .cancelled cursor => cancelled cursor

/-- An invariant of every turn holds when the search ends. -/
theorem placeCandidate_rule {relation : Relation σ} {candidate : Nat}
    {inv placed unplaced cancelled : Cursor σ → Prop}
    (step : ∀ cursor turn, inv cursor → Advances candidate cursor turn →
      turn.Establishes inv placed unplaced cancelled)
    (cursor : Cursor σ) (start : inv cursor) :
    (placeCandidate relation candidate cursor).Establishes placed unplaced cancelled := by
  fun_induction placeCandidate relation candidate cursor with
  | case1 cursor next turn ih =>
      exact ih (step cursor (.again next) start (turn ▸ advance_spec relation candidate cursor))
  | case2 cursor next turn =>
      exact step cursor (.placed next) start (turn ▸ advance_spec relation candidate cursor)
  | case3 cursor next turn =>
      exact step cursor (.finished next) start (turn ▸ advance_spec relation candidate cursor)
  | case4 cursor last turn =>
      exact step cursor (.cancelled last) start (turn ▸ advance_spec relation candidate cursor)

/-- An invariant that every candidate extends holds of the whole run, or of the state in which
it was cancelled. -/
theorem placeAll_rule {relation : Relation σ} {inv : List Nat → Cursor σ → Prop}
    {cancelled : Cursor σ → Prop}
    (skip : ∀ seen candidate cursor, inv seen cursor → candidate ∈ cursor.excluded →
      inv (candidate :: seen) cursor)
    (place : ∀ seen candidate cursor, inv seen cursor → candidate ∉ seen →
      (placeCandidate relation candidate cursor.restart).Establishes (inv (candidate :: seen))
        (fun next => inv (candidate :: seen) (next.found candidate)) cancelled)
    {indices seen : List Nat} (distinct : indices.Nodup) (fresh : indices.Disjoint seen)
    {cursor : Cursor σ} (start : inv seen cursor) :
    (∀ last, placeAll relation indices cursor = .ok last → inv (indices.reverse ++ seen) last) ∧
      ∀ last, placeAll relation indices cursor = .error last → cancelled last := by
  induction indices generalizing seen cursor with
  | nil =>
      refine ⟨fun last ended => ?_, fun last ended => by cases ended⟩
      cases ended
      exact start
  | cons candidate rest ih =>
      obtain ⟨unseen, disjoint⟩ := List.disjoint_cons_left.mp fresh
      obtain ⟨other, tailDistinct⟩ := List.nodup_cons.mp distinct
      have tailFresh : rest.Disjoint (candidate :: seen) :=
        List.disjoint_cons_right.mpr ⟨other, disjoint⟩
      rw [List.reverse_cons, List.append_assoc, List.singleton_append, placeAll]
      by_cases gone : candidate ∈ cursor.excluded
      · rw [if_pos gone]
        exact ih tailDistinct tailFresh (skip seen candidate cursor start gone)
      · rw [if_neg gone]
        have settled := place seen candidate cursor start unseen
        cases found : placeCandidate relation candidate cursor.restart with
        | placed next =>
            rw [found] at settled
            exact ih tailDistinct tailFresh settled
        | unplaced next =>
            rw [found] at settled
            exact ih tailDistinct tailFresh settled
        | cancelled last =>
            rw [found] at settled
            constructor
            · intro other ended
              cases ended
            · intro other ended
              cases ended
              exact settled

end Guiying.Core
