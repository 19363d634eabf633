import Mathlib.Data.List.Destutter
import Mathlib.Data.List.Sort

/-!
# Sorted, duplicate-free lists

`sortDedup` is the canonical form of a list as a set over a linear order: sort,
then drop adjacent repetitions. Two lists have the same canonical form exactly
when they have the same members, so a result that passes through `sortDedup`
depends neither on the order nor on the multiplicity of its inputs.
-/

namespace Guiying.Foundation.SortedSet

variable {α β : Type*} [LinearOrder α] [LinearOrder β]

/-- Sort ascending, then keep the first element of every run of equal elements. -/
def sortDedup (values : List α) : List α :=
  (values.insertionSort (· ≤ ·)).destutter (· ≠ ·)

theorem mem_destutter'_ne (first value : α) (rest : List α) :
    value ∈ rest.destutter' (· ≠ ·) first ↔ value = first ∨ value ∈ rest := by
  induction rest generalizing first with
  | nil => simp
  | cons next rest ih =>
      by_cases same : first = next
      · subst next
        rw [List.destutter'_cons_neg (h := fun distinct => distinct rfl), ih]
        simp
      · rw [List.destutter'_cons_pos (h := same), List.mem_cons, ih, List.mem_cons]

theorem mem_destutter_ne (value : α) (values : List α) :
    value ∈ values.destutter (· ≠ ·) ↔ value ∈ values := by
  cases values with
  | nil => simp
  | cons first rest =>
      rw [List.destutter_cons', mem_destutter'_ne, List.mem_cons]

@[simp] theorem mem_sortDedup {value : α} {values : List α} :
    value ∈ sortDedup values ↔ value ∈ values := by
  rw [sortDedup, mem_destutter_ne, List.mem_insertionSort]

theorem isChain_lt {values : List α} (ascending : values.IsChain (· ≤ ·))
    (distinct : values.IsChain (· ≠ ·)) : values.IsChain (· < ·) := by
  induction values with
  | nil => exact .nil
  | cons first rest ih =>
      cases rest with
      | nil => exact .singleton first
      | cons second rest =>
          rw [List.isChain_cons_cons] at ascending distinct ⊢
          exact ⟨lt_of_le_of_ne ascending.1 distinct.1, ih ascending.2 distinct.2⟩

/-- The canonical form is strictly ascending. -/
theorem sortDedup_pairwise (values : List α) : (sortDedup values).Pairwise (· < ·) := by
  have sorted : (values.insertionSort (· ≤ ·)).Pairwise (· ≤ ·) :=
    List.pairwise_insertionSort _ _
  have ascending : (sortDedup values).Pairwise (· ≤ ·) :=
    sorted.sublist (List.destutter_sublist _ _)
  have distinct : (sortDedup values).IsChain (· ≠ ·) := List.isChain_destutter _ _
  exact List.isChain_iff_pairwise.mp (isChain_lt ascending.isChain distinct)

theorem sortDedup_nodup (values : List α) : (sortDedup values).Nodup :=
  (sortDedup_pairwise values).imp fun h => ne_of_lt h

/-- A strictly ascending list is determined by its members. -/
theorem eq_of_mem_iff {left right : List α} (hleft : left.Pairwise (· < ·))
    (hright : right.Pairwise (· < ·)) (same : ∀ value, value ∈ left ↔ value ∈ right) :
    left = right :=
  List.Pairwise.eq_of_mem_iff hleft hright (fun {value} => same value)

theorem sortDedup_eq_iff {left right : List α} :
    sortDedup left = sortDedup right ↔ ∀ value, value ∈ left ↔ value ∈ right := by
  constructor
  · intro same value
    rw [← mem_sortDedup, same, mem_sortDedup]
  · intro same
    exact eq_of_mem_iff (sortDedup_pairwise left) (sortDedup_pairwise right)
      (fun value => by rw [mem_sortDedup, mem_sortDedup, same])

theorem sortDedup_congr {left right : List α}
    (same : ∀ value, value ∈ left ↔ value ∈ right) : sortDedup left = sortDedup right :=
  sortDedup_eq_iff.mpr same

theorem sortDedup_of_pairwise {values : List α} (sorted : values.Pairwise (· < ·)) :
    sortDedup values = values :=
  eq_of_mem_iff (sortDedup_pairwise values) sorted fun _ => mem_sortDedup

@[simp] theorem sortDedup_nil : sortDedup ([] : List α) = [] := rfl

@[simp] theorem sortDedup_eq_nil_iff {values : List α} : sortDedup values = [] ↔ values = [] := by
  simp only [List.eq_nil_iff_forall_not_mem, mem_sortDedup]

theorem sortDedup_idem (values : List α) : sortDedup (sortDedup values) = sortDedup values :=
  sortDedup_of_pairwise (sortDedup_pairwise values)

@[simp] theorem sortDedup_singleton (value : α) : sortDedup [value] = [value] :=
  sortDedup_of_pairwise (List.pairwise_singleton _ _)

/-- A strictly increasing renaming keeps the canonical form. -/
theorem sortDedup_map {rename : α → β} (mono : StrictMono rename) (values : List α) :
    sortDedup (values.map rename) = (sortDedup values).map rename := by
  refine eq_of_mem_iff (sortDedup_pairwise _) ?_ fun value => ?_
  · exact (sortDedup_pairwise values).map _ fun _ _ before => mono before
  · simp only [mem_sortDedup, List.mem_map]

/-- Any renaming can be applied before or after the list is made canonical. -/
theorem sortDedup_map_sortDedup (rename : α → β) (values : List α) :
    sortDedup ((sortDedup values).map rename) = sortDedup (values.map rename) :=
  sortDedup_congr fun value => by simp only [List.mem_map, mem_sortDedup]

theorem length_sortDedup_le (values : List α) : (sortDedup values).length ≤ values.length := by
  have shorter := (List.destutter_sublist (· ≠ ·) (values.insertionSort (· ≤ ·))).length_le
  rwa [List.length_insertionSort] at shorter

/-- More than one canonical member means two members that differ. -/
theorem one_lt_length_sortDedup_iff {values : List α} :
    1 < (sortDedup values).length ↔ ∃ left ∈ values, ∃ right ∈ values, left ≠ right := by
  have sorted := sortDedup_pairwise values
  have members : ∀ value, value ∈ sortDedup values ↔ value ∈ values := fun _ => mem_sortDedup
  cases canonical : sortDedup values with
  | nil =>
      rw [sortDedup_eq_nil_iff] at canonical
      simp [canonical]
  | cons first rest =>
      rw [canonical] at sorted members
      cases rest with
      | nil =>
          simp only [List.mem_singleton] at members
          refine iff_of_false (lt_irrefl 1) ?_
          rintro ⟨left, hleft, right, hright, distinct⟩
          rw [← members] at hleft hright
          exact distinct (hleft.trans hright.symm)
      | cons second rest =>
          refine iff_of_true (by simp) ⟨first, ?_, second, ?_, ?_⟩
          · exact (members first).mp List.mem_cons_self
          · exact (members second).mp (List.mem_cons_of_mem first List.mem_cons_self)
          · exact (List.rel_of_pairwise_cons sorted List.mem_cons_self).ne

/-- Dropping repetitions that a view cannot tell apart keeps every view. -/
theorem mem_map_destutter' {γ δ : Type*} {R : δ → δ → Prop} [DecidableRel R] {view : δ → γ}
    (blind : ∀ left right, ¬ R left right → view left = view right) (seen : γ) (first : δ)
    (rest : List δ) :
    seen ∈ (rest.destutter' R first).map view ↔ seen = view first ∨ seen ∈ rest.map view := by
  induction rest generalizing first with
  | nil => simp
  | cons next rest ih =>
      by_cases kept : R first next
      · rw [List.destutter'_cons_pos (h := kept), List.map_cons, List.mem_cons, ih, List.map_cons,
          List.mem_cons]
      · rw [List.destutter'_cons_neg (h := kept), ih, List.map_cons, List.mem_cons,
          ← blind first next kept]
        tauto

theorem mem_map_destutter {γ δ : Type*} {R : δ → δ → Prop} [DecidableRel R] {view : δ → γ}
    (blind : ∀ left right, ¬ R left right → view left = view right) (seen : γ) (values : List δ) :
    seen ∈ (values.destutter R).map view ↔ seen ∈ values.map view := by
  cases values with
  | nil => simp
  | cons first rest => rw [List.destutter_cons', mem_map_destutter' blind, List.map_cons,
      List.mem_cons]

/-- A rank is injective when some list has every value at its rank. -/
theorem injective_of_listed {γ : Type*} {rank : γ → Nat} (listed : List γ)
    (found : ∀ value, listed[rank value]? = some value) : Function.Injective rank := by
  intro left right same
  have hleft := found left
  rw [same, found right, Option.some.injEq] at hleft
  exact hleft.symm

end Guiying.Foundation.SortedSet
