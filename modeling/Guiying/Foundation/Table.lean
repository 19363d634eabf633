import Mathlib.Data.List.Nodup

/-!
# Tables

Rows in the order they were inserted, no two with the same key. A row is found by
its key, inserted when its key is free, and changed without touching its key.
-/

namespace Guiying.Foundation

/-- The row with the highest value of a column. -/
def highest {ρ : Type*} (column : ρ → Int) : List ρ → Option ρ
  | [] => none
  | row :: rows =>
      match highest column rows with
      | some best => if column row ≤ column best then some best else some row
      | none => some row

section Highest

variable {ρ : Type*} {column : ρ → Int} {rows : List ρ} {row : ρ}

theorem highest_eq_none : highest column rows = none ↔ rows = [] := by
  cases rows with
  | nil => exact ⟨fun _ => rfl, fun _ => rfl⟩
  | cons row rows =>
      unfold highest
      split
      · split
        · exact ⟨nofun, nofun⟩
        · exact ⟨nofun, nofun⟩
      · exact ⟨nofun, nofun⟩

theorem highest_spec (found : highest column rows = some row) :
    row ∈ rows ∧ ∀ other ∈ rows, column other ≤ column row := by
  induction rows generalizing row with
  | nil => cases found
  | cons first rows ih =>
      unfold highest at found
      split at found
      · rename_i best rest
        obtain ⟨inside, above⟩ := ih rest
        split at found
        · rename_i le
          cases found
          refine ⟨List.mem_cons_of_mem _ inside, ?_⟩
          intro other there
          rcases List.mem_cons.mp there with rfl | there
          · exact le
          · exact above other there
        · rename_i lt
          cases found
          refine ⟨List.mem_cons_self, ?_⟩
          intro other there
          rcases List.mem_cons.mp there with rfl | there
          · exact Int.le_refl _
          · have below := above other there
            omega
      · rename_i rest
        cases found
        rw [highest_eq_none] at rest
        subst rest
        refine ⟨List.mem_cons_self, ?_⟩
        intro other there
        exact Int.le_of_eq (congrArg column (List.mem_singleton.mp there))

end Highest

/-- Rows with a primary key. -/
structure Table {κ ρ : Type*} (key : ρ → κ) where
  rows : List ρ
  distinct : (rows.map key).Nodup

namespace Table

variable {κ ρ : Type*} {key : ρ → κ}

def empty : Table key := ⟨[], List.nodup_nil⟩

/-- The row of a key. -/
def get? [DecidableEq κ] (table : Table key) (id : κ) : Option ρ :=
  table.rows.find? fun row => key row = id

/-- The table with one more row, when the key of the row is free. -/
def insert [DecidableEq κ] (table : Table key) (row : ρ) : Option (Table key) :=
  if fresh : key row ∉ table.rows.map key then
    some ⟨table.rows ++ [row], by
      rw [List.map_append, List.map_singleton]
      exact List.nodup_append.mpr ⟨table.distinct, List.nodup_singleton _, by
        rintro id inside _ (_ | ⟨_, ⟨⟩⟩) rfl
        exact fresh inside⟩⟩
  else none

/-- Every row changed by a function that keeps its key. -/
def update (table : Table key) (change : ρ → ρ) (keeps : ∀ row, key (change row) = key row) :
    Table key where
  rows := table.rows.map change
  distinct := by
    rw [List.map_map, show key ∘ change = key from funext keeps]
    exact table.distinct

/-- The row of a key changed by a function that keeps the key. -/
def modify [DecidableEq κ] (table : Table key) (id : κ) (change : ρ → ρ)
    (keeps : ∀ row, key (change row) = key row) : Table key :=
  table.update (fun row => if key row = id then change row else row) fun row => by
    split
    · exact keeps row
    · rfl

theorem mem_update {table : Table key} {change : ρ → ρ} {keeps : ∀ row, key (change row) = key row}
    {row : ρ} : row ∈ (table.update change keeps).rows ↔ ∃ old ∈ table.rows, change old = row :=
  List.mem_map

/-- Two rows with one key are the same row. -/
theorem eq_of_key {table : Table key} {row other : ρ} (inside : row ∈ table.rows)
    (otherInside : other ∈ table.rows) (same : key row = key other) : row = other :=
  List.inj_on_of_nodup_map table.distinct inside otherInside same

section Find

variable [DecidableEq κ] {table : Table key} {id : κ} {row : ρ}

theorem get?_eq_some : table.get? id = some row ↔ row ∈ table.rows ∧ key row = id := by
  unfold get?
  constructor
  · intro found
    have same := List.find?_some found
    exact ⟨List.mem_of_find?_eq_some found, by simpa using same⟩
  · rintro ⟨inside, same⟩
    cases found : table.rows.find? fun row => decide (key row = id) with
    | none =>
        rw [List.find?_eq_none] at found
        exact absurd same (by simpa using found row inside)
    | some other =>
        have other_mem := List.mem_of_find?_eq_some found
        have other_key : key other = id := by simpa using List.find?_some found
        rw [List.inj_on_of_nodup_map table.distinct other_mem inside (other_key.trans same.symm)]

theorem get?_eq_none : table.get? id = none ↔ ∀ row ∈ table.rows, key row ≠ id := by
  unfold get?
  rw [List.find?_eq_none]
  simp

theorem insert_eq_some {next : Table key} : table.insert row = some next ↔
    key row ∉ table.rows.map key ∧ next.rows = table.rows ++ [row] := by
  unfold insert
  split
  · rename_i fresh
    constructor
    · rintro ⟨rfl⟩
      exact ⟨fresh, rfl⟩
    · rintro ⟨-, same⟩
      cases next
      cases same
      rfl
  · rename_i taken
    constructor
    · nofun
    · intro both
      exact absurd both.1 taken

theorem exists_insert (fresh : key row ∉ table.rows.map key) :
    ∃ next, table.insert row = some next := by
  unfold insert
  rw [dif_pos fresh]
  exact ⟨_, rfl⟩

theorem get?_insert {next : Table key} (inserted : table.insert row = some next) (id : κ) :
    next.get? id = if key row = id then some row else table.get? id := by
  obtain ⟨fresh, rows⟩ := insert_eq_some.mp inserted
  split
  · rename_i same
    rw [get?_eq_some, rows]
    exact ⟨List.mem_append_right _ (List.mem_singleton_self row), same⟩
  · rename_i other
    unfold get?
    rw [rows, List.find?_append]
    cases table.rows.find? fun row => decide (key row = id) with
    | none => simp [other]
    | some _ => rfl

theorem get?_update {change : ρ → ρ} {keeps : ∀ row, key (change row) = key row} :
    (table.update change keeps).get? id = (table.get? id).map change := by
  unfold get? update
  rw [List.find?_map]
  congr 2
  funext row
  simp [keeps]

theorem get?_modify {target : κ} {change : ρ → ρ} {keeps : ∀ row, key (change row) = key row} :
    (table.modify target change keeps).get? id =
      if id = target then (table.get? id).map change else table.get? id := by
  unfold modify
  rw [get?_update]
  cases found : table.get? id with
  | none => simp
  | some row =>
      obtain ⟨-, rfl⟩ := get?_eq_some.mp found
      by_cases hit : key row = target
      · simp [hit]
      · simp [hit]

/-- The row of the changed key, once it is known. -/
theorem get?_modify_self (change : ρ → ρ) (keeps : ∀ row, key (change row) = key row)
    (found : table.get? id = some row) :
    (table.modify id change keeps).get? id = some (change row) := by
  rw [get?_modify, if_pos rfl, found]
  rfl

theorem get?_modify_other {target : κ} {change : ρ → ρ} (keeps : ∀ row, key (change row) = key row)
    (different : id ≠ target) : (table.modify target change keeps).get? id = table.get? id := by
  rw [get?_modify, if_neg different]

theorem mem_modify {target : κ} {change : ρ → ρ} {keeps : ∀ row, key (change row) = key row}
    (inside : row ∈ (table.modify target change keeps).rows) :
    (row ∈ table.rows ∧ key row ≠ target) ∨
      ∃ old ∈ table.rows, key old = target ∧ row = change old := by
  obtain ⟨old, present, rfl⟩ := mem_update.mp inside
  split
  · rename_i hit
    exact .inr ⟨old, present, hit, rfl⟩
  · rename_i other
    exact .inl ⟨present, other⟩

/-- A property of every row, after the row of a key was changed. -/
theorem forall_modify {holds : ρ → Prop} {change : ρ → ρ}
    (keeps : ∀ row, key (change row) = key row) (found : table.get? id = some row)
    (all : ∀ row ∈ table.rows, holds row) (changed : holds (change row)) :
    ∀ row ∈ (table.modify id change keeps).rows, holds row := by
  intro other inside
  rcases mem_modify inside with ⟨present, -⟩ | ⟨old, present, same, rfl⟩
  · exact all other present
  · obtain ⟨there, own⟩ := get?_eq_some.mp found
    rw [eq_of_key present there (same.trans own.symm)]
    exact changed

theorem forall_insert {holds : ρ → Prop} {next : Table key} (inserted : table.insert row = some next)
    (all : ∀ row ∈ table.rows, holds row) (new : holds row) : ∀ row ∈ next.rows, holds row := by
  intro other inside
  rw [(insert_eq_some.mp inserted).2, List.mem_append, List.mem_singleton] at inside
  rcases inside with inside | rfl
  · exact all other inside
  · exact new

end Find

/-! ## Tables that keep their rows -/

/-- Every row of the first table is in the second under its key, changed as the relation allows. -/
def Kept [DecidableEq κ] (relation : ρ → ρ → Prop) (before after : Table key) : Prop :=
  ∀ id row, before.get? id = some row → ∃ row', after.get? id = some row' ∧ relation row row'

section Kept

variable [DecidableEq κ] {relation : ρ → ρ → Prop} {first second third : Table key}

theorem Kept.refl (reflexive : ∀ row, relation row row) (table : Table key) :
    Kept relation table table :=
  fun _ row found => ⟨row, found, reflexive row⟩

theorem Kept.trans (transitive : ∀ a b c, relation a b → relation b c → relation a c)
    (left : Kept relation first second) (right : Kept relation second third) :
    Kept relation first third := by
  intro id row found
  obtain ⟨row', found', step⟩ := left id row found
  obtain ⟨row'', found'', step'⟩ := right id row' found'
  exact ⟨row'', found'', transitive _ _ _ step step'⟩

theorem kept_update {table : Table key} {change : ρ → ρ}
    (keeps : ∀ row, key (change row) = key row)
    (changes : ∀ row ∈ table.rows, relation row (change row)) :
    Kept relation table (table.update change keeps) := by
  intro id row found
  refine ⟨change row, ?_, changes row (get?_eq_some.mp found).1⟩
  rw [get?_update, found]
  rfl

theorem kept_modify (reflexive : ∀ row, relation row row) {table : Table key} {id : κ} {row : ρ}
    {change : ρ → ρ} (keeps : ∀ row, key (change row) = key row)
    (found : table.get? id = some row) (changes : relation row (change row)) :
    Kept relation table (table.modify id change keeps) := by
  apply kept_update
  intro other inside
  split
  · rename_i same
    obtain ⟨present, own⟩ := get?_eq_some.mp found
    rw [eq_of_key inside present (same.trans own.symm)]
    exact changes
  · exact reflexive other

theorem kept_insert (reflexive : ∀ row, relation row row) {table next : Table key} {row : ρ}
    (inserted : table.insert row = some next) : Kept relation table next := by
  intro id old there
  refine ⟨old, ?_, reflexive old⟩
  obtain ⟨fresh, rows⟩ := insert_eq_some.mp inserted
  obtain ⟨inside, own⟩ := get?_eq_some.mp there
  rw [get?_eq_some, rows]
  exact ⟨List.mem_append_left _ inside, own⟩

end Kept

/-! ## Tables that differ in a few columns -/

/-- The rows of two tables are related in their order. -/
def Alike (relation : ρ → ρ → Prop) (first second : Table key) : Prop :=
  List.Forall₂ relation first.rows second.rows

section Alike

variable {relation : ρ → ρ → Prop} {first second : Table key}

theorem Alike.refl (reflexive : ∀ row, relation row row) (table : Table key) :
    Alike relation table table :=
  List.forall₂_same.mpr fun row _ => reflexive row

theorem any_of_forall₂ {rows others : List ρ} (alike : List.Forall₂ relation rows others)
    {condition other : ρ → Bool} (same : ∀ a b, relation a b → condition a = other b) :
    rows.any condition = others.any other := by
  induction alike with
  | nil => rfl
  | cons related _ ih => rw [List.any_cons, List.any_cons, same _ _ related, ih]

theorem all_of_forall₂ {rows others : List ρ} (alike : List.Forall₂ relation rows others)
    {condition other : ρ → Bool} (same : ∀ a b, relation a b → condition a = other b) :
    rows.all condition = others.all other := by
  induction alike with
  | nil => rfl
  | cons related _ ih => rw [List.all_cons, List.all_cons, same _ _ related, ih]

theorem filter_of_forall₂ {rows others : List ρ} (alike : List.Forall₂ relation rows others)
    {condition other : ρ → Bool} (same : ∀ a b, relation a b → condition a = other b) :
    List.Forall₂ relation (rows.filter condition) (others.filter other) := by
  induction alike with
  | nil => exact .nil
  | @cons a b _ _ related _ ih =>
      rw [List.filter_cons, List.filter_cons, same _ _ related]
      cases other b with
      | true => exact .cons related ih
      | false => exact ih

theorem map_of_forall₂ {α : Type*} {rows others : List ρ}
    (alike : List.Forall₂ relation rows others) {column other : ρ → α}
    (same : ∀ a b, relation a b → column a = other b) : rows.map column = others.map other := by
  induction alike with
  | nil => rfl
  | cons related _ ih => rw [List.map_cons, List.map_cons, same _ _ related, ih]

theorem find?_of_forall₂ {rows others : List ρ} (alike : List.Forall₂ relation rows others)
    {condition other : ρ → Bool} (same : ∀ a b, relation a b → condition a = other b) :
    Option.Rel relation (rows.find? condition) (others.find? other) := by
  induction alike with
  | nil => exact .none
  | @cons a b _ _ related _ ih =>
      rw [List.find?_cons, List.find?_cons, same _ _ related]
      cases other b with
      | true => exact .some related
      | false => exact ih

theorem Alike.update (alike : Alike relation first second) {change other : ρ → ρ}
    (keeps : ∀ row, key (change row) = key row) (keepsOther : ∀ row, key (other row) = key row)
    (changes : ∀ a b, relation a b → relation (change a) (other b)) :
    Alike relation (first.update change keeps) (second.update other keepsOther) := by
  unfold Alike Table.update
  rw [List.forall₂_map_left_iff, List.forall₂_map_right_iff]
  exact List.Forall₂.imp changes alike

variable [DecidableEq κ]

/-- Related rows are found under the same key. -/
theorem Alike.get? (alike : Alike relation first second)
    (keyed : ∀ a b, relation a b → key a = key b) (id : κ) :
    Option.Rel relation (first.get? id) (second.get? id) :=
  find?_of_forall₂ alike fun a b related => by rw [keyed a b related]

theorem Alike.modify (alike : Alike relation first second)
    (keyed : ∀ a b, relation a b → key a = key b) {id : κ} {change other : ρ → ρ}
    (keeps : ∀ row, key (change row) = key row) (keepsOther : ∀ row, key (other row) = key row)
    (changes : ∀ a b, relation a b → relation (change a) (other b)) :
    Alike relation (first.modify id change keeps) (second.modify id other keepsOther) := by
  apply alike.update
  intro a b related
  rw [keyed a b related]
  split
  · exact changes a b related
  · exact related

omit [DecidableEq κ] in
theorem any_of_rel {a b : Option ρ} (related : Option.Rel relation a b)
    {condition other : ρ → Bool} (same : ∀ a b, relation a b → condition a = other b) :
    a.any condition = b.any other := by
  cases related with
  | none => rfl
  | some related => exact same _ _ related

omit [DecidableEq κ] in
theorem isNone_of_rel {a b : Option ρ} (related : Option.Rel relation a b) :
    a.isNone = b.isNone := by
  cases related with
  | none => rfl
  | some _ => rfl

end Alike

end Table

end Guiying.Foundation
