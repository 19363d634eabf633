import Guiying.Foundation.Table
import Mathlib.Data.List.Induction

/-!
# Numbered rows

Rows that carry the numbers one, two, three and so on, in the order in which they
were added.
-/

namespace Guiying.Foundation

variable {ρ : Type*} {column : ρ → Int} {rows : List ρ} {row other : ρ}

/-- The column counts the rows from one. -/
def Numbered (column : ρ → Int) (rows : List ρ) : Prop :=
  ∀ (index : Nat) (row : ρ), rows[index]? = some row → column row = (index : Int) + 1

namespace Numbered

theorem nil : Numbered column [] := by
  intro index row found
  cases found

theorem append (numbered : Numbered column rows) (next : column row = (rows.length : Int) + 1) :
    Numbered column (rows ++ [row]) := by
  intro index found inside
  rcases Nat.lt_or_ge index rows.length with before | after
  · rw [List.getElem?_append_left before] at inside
    exact numbered index found inside
  · rw [List.getElem?_append_right after] at inside
    cases offset : index - rows.length with
    | zero =>
        rw [offset] at inside
        cases inside
        have last : index = rows.length := by omega
        rw [last, next]
    | succ _ =>
        rw [offset] at inside
        cases inside

theorem map {change : ρ → ρ} (numbered : Numbered column rows)
    (keeps : ∀ row, column (change row) = column row) : Numbered column (rows.map change) := by
  intro index found inside
  rw [List.getElem?_map] at inside
  obtain ⟨old, present, rfl⟩ := Option.map_eq_some_iff.mp inside
  rw [keeps, numbered index old present]

theorem prefix_ {more : List ρ} (numbered : Numbered column (rows ++ more)) :
    Numbered column rows := by
  intro index found inside
  have within : index < rows.length := (List.getElem?_eq_some_iff.mp inside).1
  refine numbered index found ?_
  rw [List.getElem?_append_left within]
  exact inside

theorem bounds (numbered : Numbered column rows) (inside : row ∈ rows) :
    1 ≤ column row ∧ column row ≤ rows.length := by
  obtain ⟨index, within, rfl⟩ := List.mem_iff_getElem.mp inside
  have number := numbered index _ (List.getElem?_eq_getElem within)
  omega

/-- Two rows with one number are the same row. -/
theorem injective (numbered : Numbered column rows) (inside : row ∈ rows) (present : other ∈ rows)
    (same : column row = column other) : row = other := by
  obtain ⟨index, within, rfl⟩ := List.mem_iff_getElem.mp inside
  obtain ⟨place, there, rfl⟩ := List.mem_iff_getElem.mp present
  have first := numbered index _ (List.getElem?_eq_getElem within)
  have second := numbered place _ (List.getElem?_eq_getElem there)
  have positions : index = place := by omega
  subst positions
  rfl

/-- The highest number is the number of rows. -/
theorem foldl_max (numbered : Numbered column rows) :
    (rows.map column).foldl max 0 = (rows.length : Int) := by
  induction rows using List.reverseRecOn with
  | nil => rfl
  | append_singleton rows row ih =>
      have last : column row = (rows.length : Int) + 1 := by
        refine numbered rows.length row ?_
        rw [List.getElem?_append_right (Nat.le_refl _), Nat.sub_self]
        rfl
      rw [List.map_append, List.foldl_append, ih numbered.prefix_]
      change max (rows.length : Int) (column row) = _
      rw [last, List.length_append, List.length_singleton]
      push_cast
      omega

/-- The last row has the highest number. -/
theorem highest (numbered : Numbered column rows) (last : rows.getLast? = some row) :
    highest column rows = some row := by
  have inside : row ∈ rows := List.mem_of_getLast? last
  have number : column row = rows.length := by
    rw [List.getLast?_eq_getElem?] at last
    have counted := numbered _ _ last
    have nonempty : 0 < rows.length := List.length_pos_of_mem inside
    omega
  cases found : Foundation.highest column rows with
  | none =>
      rw [highest_eq_none.mp found] at inside
      cases inside
  | some best =>
      obtain ⟨present, above⟩ := highest_spec found
      have upper := (numbered.bounds present).2
      have lower := above row inside
      rw [numbered.injective present inside (by omega)]

end Numbered

end Guiying.Foundation
