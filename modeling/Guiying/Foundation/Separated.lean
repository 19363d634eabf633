import Mathlib.Data.List.Basic

/-!
# Separated text

Text that is empty or made of non-empty pieces with one separator between neighbours is
determined by its pieces, and joining two such texts appends their pieces.
-/

namespace Guiying.Foundation.Separated

variable {α : Type*} {separator : α} {left right text : List α}

/-- Two texts with a separator between them when neither is empty. -/
def join (separator : α) (left right : List α) : List α :=
  left ++ (if left ≠ [] ∧ right ≠ [] then [separator] else []) ++ right

@[simp] theorem join_nil_left : join separator [] right = right := by simp [join]

@[simp] theorem join_nil_right : join separator left [] = left := by simp [join]

theorem join_of_ne (before : left ≠ []) (after : right ≠ []) :
    join separator left right = left ++ separator :: right := by
  simp [join, before, after]

theorem mem_join {item : α} :
    item ∈ join separator left right → item = separator ∨ item ∈ left ∨ item ∈ right := by
  unfold join
  split <;> simp only [List.mem_append, List.mem_singleton, List.not_mem_nil, or_false] <;> tauto

variable [DecidableEq α]

/-- The non-empty pieces between separators. -/
def pieces (separator : α) (text : List α) : List (List α) :=
  (text.splitOn separator).filter (· ≠ [])

/-- No separator at either end, and no two in a row. -/
def Tight (separator : α) (text : List α) : Prop :=
  text = [] ∨ ∀ piece ∈ text.splitOn separator, piece ≠ []

@[simp] theorem pieces_nil : pieces separator [] = [] := by
  simp [pieces, List.splitOn_nil]

theorem pieces_of_named (named : ∀ piece ∈ text.splitOn separator, piece ≠ []) :
    pieces separator text = text.splitOn separator :=
  List.filter_eq_self.mpr fun piece listed => by simpa using named piece listed

/-- Tight text is its pieces with separators between them. -/
theorem intercalate_pieces (tight : Tight separator text) :
    [separator].intercalate (pieces separator text) = text := by
  rcases tight with rfl | named
  · rw [pieces_nil]
    exact List.intercalate_nil
  · rw [pieces_of_named named]
    exact List.intercalate_splitOn separator

/-- Tight texts are the same when their pieces are. -/
theorem eq_of_pieces (leftTight : Tight separator left) (rightTight : Tight separator right)
    (same : pieces separator left = pieces separator right) : left = right := by
  rw [← intercalate_pieces leftTight, same, intercalate_pieces rightTight]

theorem splitOn_join (before : left ≠ []) (after : right ≠ []) :
    (join separator left right).splitOn separator =
      left.splitOn separator ++ right.splitOn separator := by
  rw [join_of_ne before after]
  exact List.splitOn_append_cons_self left right

theorem pieces_join (left right : List α) :
    pieces separator (join separator left right) =
      pieces separator left ++ pieces separator right := by
  by_cases before : left = []
  · rw [before, join_nil_left, pieces_nil, List.nil_append]
  · by_cases after : right = []
    · rw [after, join_nil_right, pieces_nil, List.append_nil]
    · unfold pieces
      rw [splitOn_join before after, List.filter_append]

theorem tight_join (leftTight : Tight separator left) (rightTight : Tight separator right) :
    Tight separator (join separator left right) := by
  by_cases before : left = []
  · rwa [before, join_nil_left]
  · by_cases after : right = []
    · rwa [after, join_nil_right]
    · refine .inr fun piece listed => ?_
      rw [splitOn_join before after, List.mem_append] at listed
      rcases listed with listed | listed
      · exact leftTight.resolve_left before piece listed
      · exact rightTight.resolve_left after piece listed

end Guiying.Foundation.Separated
