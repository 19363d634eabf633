import Mathlib.Data.List.Sort

/-!
# Keyset pages

A table is read page by page: each page holds the first rows after a cursor in
the order of a key, and the key of its last row is the next cursor. Rows with
distinct keys are all read, each once and in order, whatever the page sizes are.
-/

namespace Guiying.Foundation.Keyset

variable {Row Key : Type*} [LinearOrder Key]

/-- `ORDER BY key` -/
def ordered (key : Row → Key) (rows : List Row) : List Row :=
  rows.insertionSort fun left right => key left ≤ key right

/-- `WHERE key > cursor ORDER BY key` -/
def after (key : Row → Key) (rows : List Row) (cursor : Key) : List Row :=
  ordered key (rows.filter fun row => decide (cursor < key row))

/-- `WHERE key > cursor ORDER BY key LIMIT size` -/
def page (key : Row → Key) (rows : List Row) (cursor : Key) (size : Nat) : List Row :=
  (after key rows cursor).take size

/-- The key of the last row of a page, and the cursor itself after an empty page. -/
def advance (key : Row → Key) (cursor : Key) (rows : List Row) : Key :=
  (rows.getLast?.map key).getD cursor

/-- Each row stands before the later ones in the order of the key. -/
def Ascending (key : Row → Key) (rows : List Row) : Prop :=
  rows.Pairwise fun left right => key left < key right

variable {key : Row → Key} {rows : List Row}

/-! ## The order of the rows -/

theorem ordered_perm (key : Row → Key) (rows : List Row) : (ordered key rows).Perm rows :=
  List.perm_insertionSort _ _

theorem mem_ordered {row : Row} : row ∈ ordered key rows ↔ row ∈ rows :=
  (ordered_perm key rows).mem_iff

theorem length_ordered (key : Row → Key) (rows : List Row) :
    (ordered key rows).length = rows.length :=
  (ordered_perm key rows).length_eq

theorem ordered_ascending (distinct : (rows.map key).Nodup) : Ascending key (ordered key rows) := by
  have : Std.Total fun left right : Row => key left ≤ key right := ⟨fun _ _ => le_total _ _⟩
  have : IsTrans Row fun left right => key left ≤ key right := ⟨fun _ _ _ => le_trans⟩
  have weak := rows.pairwise_insertionSort fun left right => key left ≤ key right
  have apart : (ordered key rows).Pairwise fun left right => key left ≠ key right := by
    have distinct := ((ordered_perm key rows).map key).nodup_iff.mpr distinct
    exact List.pairwise_map.mp distinct
  exact weak.imp₂ (fun _ _ below different => lt_of_le_of_ne below different) apart

/-- Two lists of the same rows in ascending order are the same list. -/
theorem Ascending.eq_of_perm {others : List Row} (first : Ascending key rows)
    (second : Ascending key others) (same : rows.Perm others) : rows = others :=
  List.Perm.eq_of_pairwise (fun _ _ _ _ below above => absurd below above.asymm) first second same

theorem ordered_filter (distinct : (rows.map key).Nodup) (kept : Row → Bool) :
    ordered key (rows.filter kept) = (ordered key rows).filter kept := by
  have some_ : ((rows.filter kept).map key).Nodup :=
    distinct.sublist (List.filter_sublist.map key)
  have all := ordered_ascending distinct
  refine (ordered_ascending some_).eq_of_perm (all.sublist List.filter_sublist) ?_
  exact (ordered_perm key _).trans ((ordered_perm key rows).symm.filter kept)

/-- Sorting and a change of the rows that keeps the keys can be exchanged. -/
theorem map_ordered {Other : Type*} {otherKey : Other → Key} (change : Row → Other)
    (keeps : ∀ row, otherKey (change row) = key row) (rows : List Row) :
    (ordered key rows).map change = ordered otherKey (rows.map change) := by
  refine List.map_insertionSort _ _ _ _ fun left _ right _ => ?_
  rw [keeps, keeps]

theorem map_after {Other : Type*} {otherKey : Other → Key} (change : Row → Other)
    (keeps : ∀ row, otherKey (change row) = key row) (rows : List Row) (cursor : Key) :
    (after key rows cursor).map change = after otherKey (rows.map change) cursor := by
  unfold after
  rw [map_ordered change keeps, List.filter_map]
  congr 2
  refine List.filter_congr fun row _ => ?_
  rw [Function.comp_apply, keeps]

omit [LinearOrder Key] in
theorem advance_map {Other : Type*} {otherKey : Other → Key} (change : Row → Other)
    (keeps : ∀ row, otherKey (change row) = key row) (cursor : Key) (rows : List Row) :
    advance otherKey cursor (rows.map change) = advance key cursor rows := by
  unfold advance
  rw [List.getLast?_map, Option.map_map]
  congr 2
  funext row
  exact keeps row

/-! ## The rows after a cursor -/

theorem after_ascending (distinct : (rows.map key).Nodup) (cursor : Key) :
    Ascending key (after key rows cursor) :=
  ordered_ascending (distinct.sublist (List.filter_sublist.map key))

theorem lt_of_mem_after {cursor : Key} {row : Row} (member : row ∈ after key rows cursor) :
    cursor < key row :=
  of_decide_eq_true (List.mem_filter.mp (mem_ordered.mp member)).2

/-- A cursor below every key stands before the whole table. -/
theorem after_of_below {cursor : Key} (below : ∀ row ∈ rows, cursor < key row) :
    after key rows cursor = ordered key rows := by
  unfold after
  rw [List.filter_eq_self.mpr fun row member => decide_eq_true (below row member)]

/-- From a later cursor, the rows after it are among those after the earlier one. -/
theorem after_of_le (distinct : (rows.map key).Nodup) {cursor later : Key} (le : cursor ≤ later) :
    after key rows later = (after key rows cursor).filter fun row => decide (later < key row) := by
  unfold after
  rw [← ordered_filter (distinct.sublist (List.filter_sublist.map key)), List.filter_filter]
  congr 1
  refine List.filter_congr fun row _ => ?_
  by_cases beyond : later < key row
  · simp [beyond, le.trans_lt beyond]
  · simp [beyond]

/-- In ascending rows, those beyond the last row of a first part are the second part. -/
theorem Ascending.filter_append {seen rest : List Row} {last : Row}
    (ascending : Ascending key (seen ++ [last] ++ rest)) :
    (seen ++ [last] ++ rest).filter (fun row => decide (key last < key row)) = rest := by
  have split := List.pairwise_append.mp ascending
  have early := List.pairwise_append.mp split.1
  have before : (seen ++ [last]).filter (fun row => decide (key last < key row)) = [] := by
    rw [List.filter_eq_nil_iff]
    intro row member
    rw [decide_eq_true_eq, not_lt]
    rcases List.mem_append.mp member with inside | same
    · exact (early.2.2 row inside last List.mem_cons_self).le
    · rw [List.mem_singleton.mp same]
  have beyond : rest.filter (fun row => decide (key last < key row)) = rest := by
    rw [List.filter_eq_self]
    intro row member
    exact decide_eq_true (split.2.2 last (List.mem_append_right _ List.mem_cons_self) row member)
  rw [List.filter_append, before, beyond, List.nil_append]

/-- After a page the cursor stands before the rows that the page left. -/
theorem after_advance (distinct : (rows.map key).Nodup) (cursor : Key) (size : Nat) :
    after key rows (advance key cursor (page key rows cursor size)) =
      (after key rows cursor).drop size := by
  unfold page
  rcases List.eq_nil_or_concat ((after key rows cursor).take size) with empty | ⟨seen, last, parts⟩
  · have rest := List.take_append_drop size (after key rows cursor)
    rw [empty, List.nil_append] at rest
    rw [empty, rest]
    rfl
  · rw [List.concat_eq_append] at parts
    have whole := List.take_append_drop size (after key rows cursor)
    rw [parts] at whole
    have inside : last ∈ after key rows cursor := by
      rw [← whole]
      simp
    have next : advance key cursor (seen ++ [last]) = key last := by
      unfold advance
      rw [List.getLast?_concat]
      rfl
    have ascending := after_ascending distinct cursor
    rw [← whole] at ascending
    rw [parts, next, after_of_le distinct (lt_of_mem_after inside).le]
    conv_lhs => rw [← whole]
    exact ascending.filter_append

theorem page_eq_nil_iff {cursor : Key} {size : Nat} (positive : 0 < size) :
    page key rows cursor size = [] ↔ after key rows cursor = [] := by
  unfold page
  rw [List.take_eq_nil_iff]
  exact ⟨fun empty => empty.resolve_left (Nat.ne_of_gt positive), .inr⟩

end Guiying.Foundation.Keyset
