import Mathlib.Data.List.Basic
import Mathlib.Tactic.TypeStar

/-!
# The first difference of two lists

Where two lists first differ, as far as both go. It can be sought part by part.
-/

namespace Guiying.Foundation

variable {α : Type*} [DecidableEq α]

/-- The first place where both lists have an item and not the same one. -/
def firstDifference (left right : List α) : Option Nat :=
  (left.zip right).findIdx? fun pair => pair.1 ≠ pair.2

theorem firstDifference_cons (first second : α) (left right : List α) :
    firstDifference (first :: left) (second :: right) =
      if first ≠ second then some 0 else (firstDifference left right).map (· + 1) := by
  unfold firstDifference
  rw [List.zip_cons_cons, List.findIdx?_cons]
  simp

/-- Parts of one length first, then what follows them. -/
theorem firstDifference_append {left right : List α} (same : left.length = right.length)
    (later later' : List α) :
    firstDifference (left ++ later) (right ++ later') =
      (firstDifference left right).or
        ((firstDifference later later').map (· + left.length)) := by
  have size : (left.zip right).length = left.length := by simp [same]
  unfold firstDifference
  rw [List.zip_append same, List.findIdx?_append, size]

theorem firstDifference_eq_none {left right : List α} (same : left.length = right.length) :
    firstDifference left right = none ↔ left = right := by
  induction left generalizing right with
  | nil =>
      obtain rfl := List.length_eq_zero_iff.mp same.symm
      simp [firstDifference]
  | cons first left ih =>
      cases right with
      | nil => exact nomatch same
      | cons second right =>
          rw [firstDifference_cons]
          by_cases differ : first = second
          · simp [differ, ih (Nat.succ.inj same)]
          · simp [differ]

/-- Where equal beginnings end, the search for the first difference may start. -/
theorem firstDifference_drop {left right : List α} {position : Nat}
    (reaches : position ≤ left.length) (same : left.take position = right.take position) :
    firstDifference left right =
      (firstDifference (left.drop position) (right.drop position)).map (· + position) := by
  have size : (left.take position).length = position := List.length_take_of_le reaches
  have none : firstDifference (left.take position) (left.take position) = none :=
    (firstDifference_eq_none rfl).mpr rfl
  conv_lhs => rw [← List.take_append_drop position left, ← List.take_append_drop position right]
  rw [← same, firstDifference_append rfl, none, size]
  rfl

theorem firstDifference_lt {left right : List α} {position : Nat}
    (found : firstDifference left right = some position) : position < left.length := by
  unfold firstDifference at found
  obtain ⟨inside, _⟩ := List.findIdx?_eq_some_iff_getElem.mp found
  exact Nat.lt_of_lt_of_le inside (List.length_zip ▸ Nat.min_le_left _ _)

end Guiying.Foundation
