import Guiying.Foundation.SortedSet
import Mathlib.Algebra.GroupWithZero.Nat

/-!
# Ordered maps

A map over a linear order, kept as its list of entries in strictly ascending key
order. The one update is `upsert`, which reads the old value of a key and stores
a new one. Building a map by folding `upsert` over a list is described by
`collect_entries`: the keys are the canonical form of the keys seen, and the
value of a key is the fold over the elements that carry it, in list order.
-/

namespace Guiying.Foundation

open SortedSet

/-- Entries in strictly ascending key order. -/
structure OrderedMap (κ ν : Type*) [LinearOrder κ] where
  entries : List (κ × ν)
  sorted : (entries.map Prod.fst).Pairwise (· < ·)

namespace OrderedMap

variable {κ ν α : Type*} [LinearOrder κ]

def empty : OrderedMap κ ν := ⟨[], .nil⟩

def keys (map : OrderedMap κ ν) : List κ := map.entries.map Prod.fst

def values (map : OrderedMap κ ν) : List ν := map.entries.map Prod.snd

def lookupIn (key : κ) : List (κ × ν) → Option ν
  | [] => none
  | (stored, value) :: rest => if key = stored then some value else lookupIn key rest

def get? (map : OrderedMap κ ν) (key : κ) : Option ν := lookupIn key map.entries

def upsertIn (key : κ) (update : Option ν → ν) : List (κ × ν) → List (κ × ν)
  | [] => [(key, update none)]
  | (stored, value) :: rest =>
      if key = stored then (stored, update (some value)) :: rest
      else if key < stored then (key, update none) :: (stored, value) :: rest
      else (stored, value) :: upsertIn key update rest

theorem mem_keys_upsertIn (key other : κ) (update : Option ν → ν) (entries : List (κ × ν)) :
    other ∈ (upsertIn key update entries).map Prod.fst ↔
      other = key ∨ other ∈ entries.map Prod.fst := by
  induction entries with
  | nil => simp [upsertIn]
  | cons entry rest ih =>
      obtain ⟨stored, value⟩ := entry
      by_cases same : key = stored
      · subst stored
        simp [upsertIn]
      · by_cases before : key < stored
        · simp [upsertIn, same, before]
        · simp only [upsertIn, same, before, if_false, List.map_cons, List.mem_cons, ih]
          tauto

theorem upsertIn_sorted (key : κ) (update : Option ν → ν) {entries : List (κ × ν)}
    (sorted : (entries.map Prod.fst).Pairwise (· < ·)) :
    ((upsertIn key update entries).map Prod.fst).Pairwise (· < ·) := by
  induction entries with
  | nil => simp [upsertIn]
  | cons entry rest ih =>
      obtain ⟨stored, value⟩ := entry
      rw [List.map_cons, List.pairwise_cons] at sorted
      by_cases same : key = stored
      · subst stored
        simpa [upsertIn] using sorted
      by_cases before : key < stored
      · simp only [upsertIn, same, before, if_true, if_false, List.map_cons, List.pairwise_cons,
          List.mem_cons]
        refine ⟨?_, sorted⟩
        rintro other (rfl | later)
        · exact before
        · exact before.trans (sorted.1 other later)
      · simp only [upsertIn, same, before, if_false, List.map_cons, List.pairwise_cons]
        refine ⟨fun other member => ?_, ih sorted.2⟩
        rcases (mem_keys_upsertIn key other update rest).mp member with rfl | later
        · exact lt_of_le_of_ne (not_lt.mp before) (Ne.symm same)
        · exact sorted.1 other later

/-- Store `update old` at `key`, where `old` is the value stored there before. -/
def upsert (map : OrderedMap κ ν) (key : κ) (update : Option ν → ν) : OrderedMap κ ν :=
  ⟨upsertIn key update map.entries, upsertIn_sorted key update map.sorted⟩

theorem lookupIn_eq_none {key : κ} {entries : List (κ × ν)}
    (absent : key ∉ entries.map Prod.fst) : lookupIn key entries = none := by
  induction entries with
  | nil => rfl
  | cons entry rest ih =>
      obtain ⟨stored, value⟩ := entry
      rw [List.map_cons, List.mem_cons, not_or] at absent
      simp [lookupIn, absent.1, ih absent.2]

theorem lookupIn_upsertIn (key other : κ) (update : Option ν → ν) {entries : List (κ × ν)}
    (sorted : (entries.map Prod.fst).Pairwise (· < ·)) :
    lookupIn other (upsertIn key update entries) =
      if other = key then some (update (lookupIn key entries)) else lookupIn other entries := by
  induction entries with
  | nil => simp [upsertIn, lookupIn]
  | cons entry rest ih =>
      obtain ⟨stored, value⟩ := entry
      rw [List.map_cons, List.pairwise_cons] at sorted
      by_cases same : key = stored
      · subst stored
        by_cases hit : other = key <;> simp [upsertIn, lookupIn, hit]
      by_cases before : key < stored
      · have absent : key ∉ rest.map Prod.fst := fun member =>
          absurd (sorted.1 key member) (not_lt.mpr before.le)
        simp only [upsertIn, same, before, if_true, if_false, lookupIn, lookupIn_eq_none absent]
      · by_cases hit : other = key
        · subst other
          simp [upsertIn, lookupIn, same, before, ih sorted.2]
        · simp [upsertIn, lookupIn, same, before, ih sorted.2, hit]

theorem get?_upsert (map : OrderedMap κ ν) (key other : κ) (update : Option ν → ν) :
    (map.upsert key update).get? other =
      if other = key then some (update (map.get? key)) else map.get? other :=
  lookupIn_upsertIn key other update map.sorted

theorem mem_keys_upsert (map : OrderedMap κ ν) (key other : κ) (update : Option ν → ν) :
    other ∈ (map.upsert key update).keys ↔ other = key ∨ other ∈ map.keys :=
  mem_keys_upsertIn key other update map.entries

theorem mem_keys_iff (map : OrderedMap κ ν) (key : κ) : key ∈ map.keys ↔ (map.get? key).isSome := by
  unfold keys get?
  induction map.entries with
  | nil => simp [lookupIn]
  | cons entry rest ih =>
      obtain ⟨stored, value⟩ := entry
      by_cases same : key = stored
      · simp [lookupIn, same]
      · rw [List.map_cons, List.mem_cons, ih]
        simp [lookupIn, same]

/-- The entries are the keys in order, each with the value stored under it. -/
theorem entries_eq_filterMap (map : OrderedMap κ ν) :
    map.entries = map.keys.filterMap fun key => (map.get? key).map (Prod.mk key) := by
  obtain ⟨entries, sorted⟩ := map
  unfold keys get?
  change entries = (entries.map Prod.fst).filterMap fun key => (lookupIn key entries).map (Prod.mk key)
  induction entries with
  | nil => rfl
  | cons entry rest ih =>
      obtain ⟨stored, value⟩ := entry
      rw [List.map_cons, List.pairwise_cons] at sorted
      have tail : rest = (rest.map Prod.fst).filterMap fun key =>
          (lookupIn key ((stored, value) :: rest)).map (Prod.mk key) := by
        refine (ih sorted.2).trans (List.filterMap_congr fun key member => ?_)
        have later : key ≠ stored := (ne_of_lt (sorted.1 key member)).symm
        simp [lookupIn, later]
      simpa [lookupIn] using tail

/-- Fold a list into a map: each element updates the value stored under its key. -/
def collect (key : α → κ) (step : α → Option ν → ν) (items : List α) : OrderedMap κ ν :=
  items.foldl (fun map item => map.upsert (key item) (step item)) empty

theorem get?_foldl_upsert (key : α → κ) (step : α → Option ν → ν) (items : List α)
    (map : OrderedMap κ ν) (target : κ) :
    (items.foldl (fun map item => map.upsert (key item) (step item)) map).get? target =
      (items.filter (fun item => target = key item)).foldl
        (fun old item => some (step item old)) (map.get? target) := by
  induction items generalizing map with
  | nil => rfl
  | cons item rest ih =>
      rw [List.foldl_cons, ih, get?_upsert]
      by_cases hit : target = key item
      · simp [hit]
      · simp [hit]

theorem get?_collect (key : α → κ) (step : α → Option ν → ν) (items : List α) (target : κ) :
    (collect key step items).get? target =
      (items.filter (fun item => target = key item)).foldl
        (fun old item => some (step item old)) none :=
  get?_foldl_upsert key step items empty target

theorem mem_keys_foldl_upsert (key : α → κ) (step : α → Option ν → ν) (items : List α)
    (map : OrderedMap κ ν) (target : κ) :
    target ∈ (items.foldl (fun map item => map.upsert (key item) (step item)) map).keys ↔
      target ∈ map.keys ∨ target ∈ items.map key := by
  induction items generalizing map with
  | nil => simp
  | cons item rest ih =>
      rw [List.foldl_cons, ih, mem_keys_upsert, List.map_cons, List.mem_cons]
      tauto

theorem keys_collect (key : α → κ) (step : α → Option ν → ν) (items : List α) :
    (collect key step items).keys = sortDedup (items.map key) :=
  eq_of_mem_iff (collect key step items).sorted (sortDedup_pairwise _) fun target => by
    rw [collect, mem_keys_foldl_upsert, mem_sortDedup]
    simp [empty, keys]

/-- The entry stored under a key is the fold over the items that carry it. -/
theorem collect_entries (key : α → κ) (step : α → Option ν → ν) (items : List α) :
    (collect key step items).entries =
      (sortDedup (items.map key)).filterMap fun target =>
        ((items.filter (fun item => target = key item)).foldl
          (fun old item => some (step item old)) none).map (Prod.mk target) := by
  rw [entries_eq_filterMap, keys_collect]
  simp only [get?_collect]

/-- Append an item to the group already collected under its key. -/
def push (value : α) : Option (List α) → List α
  | none => [value]
  | some group => group ++ [value]

theorem foldl_push_some (items group : List α) :
    items.foldl (fun old item => some (push item old)) (some group) = some (group ++ items) := by
  induction items generalizing group with
  | nil => simp
  | cons item rest ih => rw [List.foldl_cons, push, ih, List.append_assoc, List.singleton_append]

theorem foldl_push (items : List α) :
    items.foldl (fun old item => some (push item old)) none =
      if items = [] then none else some items := by
  cases items with
  | nil => rfl
  | cons item rest => rw [List.foldl_cons, push, foldl_push_some]; simp

/-- Group a list by key, each group in list order. -/
def groupBy (key : α → κ) (items : List α) : OrderedMap κ (List α) :=
  collect key push items

theorem get?_groupBy (key : α → κ) (items : List α) (target : κ) :
    (groupBy key items).get? target =
      if items.filter (fun item => target = key item) = [] then none
      else some (items.filter fun item => target = key item) := by
  rw [groupBy, get?_collect, foldl_push]

theorem groupBy_entries (key : α → κ) (items : List α) :
    (groupBy key items).entries =
      (sortDedup (items.map key)).map fun target =>
        (target, items.filter fun item => target = key item) := by
  rw [entries_eq_filterMap, ← List.filterMap_eq_map]
  change (collect key push items).keys.filterMap _ = _
  rw [keys_collect]
  refine List.filterMap_congr fun target member => ?_
  rw [mem_sortDedup, List.mem_map] at member
  obtain ⟨item, present, rfl⟩ := member
  have inhabited : items.filter (fun other => key item = key other) ≠ [] :=
    List.ne_nil_of_mem (List.mem_filter.mpr ⟨present, by simp⟩)
  rw [get?_groupBy, if_neg inhabited]
  rfl

/-- Group the items that have a key, each group in list order. -/
def groupBySome (key : α → Option κ) (items : List α) : OrderedMap κ (List α) :=
  items.foldl
    (fun map item =>
      match key item with
      | some found => map.upsert found (push item)
      | none => map)
    empty

theorem get?_foldl_groupBySome (key : α → Option κ) (items : List α)
    (map : OrderedMap κ (List α)) (target : κ) :
    (items.foldl
      (fun map item =>
        match key item with
        | some found => map.upsert found (push item)
        | none => map)
      map).get? target =
      (items.filter (fun item => key item = some target)).foldl
        (fun old item => some (push item old)) (map.get? target) := by
  induction items generalizing map with
  | nil => rfl
  | cons item rest ih =>
      rw [List.foldl_cons, ih]
      cases found : key item with
      | none => simp [found]
      | some stored =>
          by_cases hit : target = stored
          · subst stored
            simp [found, get?_upsert]
          · have other : ¬ stored = target := fun same => hit same.symm
            simp [found, get?_upsert, hit, other]

theorem get?_groupBySome (key : α → Option κ) (items : List α) (target : κ) :
    (groupBySome key items).get? target =
      if items.filter (fun item => key item = some target) = [] then none
      else some (items.filter fun item => key item = some target) := by
  rw [groupBySome, get?_foldl_groupBySome]
  exact foldl_push _

theorem groupBySome_entries (key : α → Option κ) (items : List α) :
    (groupBySome key items).entries =
      (sortDedup (items.filterMap key)).map fun target =>
        (target, items.filter fun item => key item = some target) := by
  have keys : (groupBySome key items).keys = sortDedup (items.filterMap key) :=
    eq_of_mem_iff (groupBySome key items).sorted (sortDedup_pairwise _) fun target => by
      rw [mem_keys_iff, get?_groupBySome, mem_sortDedup, List.mem_filterMap]
      simp [List.filter_eq_nil_iff]
  rw [entries_eq_filterMap, keys, ← List.filterMap_eq_map]
  refine List.filterMap_congr fun target member => ?_
  rw [mem_sortDedup, List.mem_filterMap] at member
  obtain ⟨item, present, found⟩ := member
  have inhabited : items.filter (fun other => key other = some target) ≠ [] :=
    List.ne_nil_of_mem (List.mem_filter.mpr ⟨present, by simp [found]⟩)
  rw [get?_groupBySome, if_neg inhabited]
  rfl

/-- Distinct keys pick disjoint parts of a list. -/
theorem sum_length_filter_le (key : α → Option κ) {targets : List κ} (distinct : targets.Nodup)
    (items : List α) :
    (targets.map fun target => (items.filter fun item => key item = some target).length).sum ≤
      items.length := by
  induction targets generalizing items with
  | nil => simp
  | cons target rest ih =>
      obtain ⟨fresh, distinctRest⟩ := List.nodup_cons.mp distinct
      have tail := ih distinctRest (items.filter fun item => key item ≠ some target)
      have sameTail : rest.map (fun other =>
          ((items.filter fun item => key item ≠ some target).filter
            fun item => key item = some other).length) =
          rest.map fun other => (items.filter fun item => key item = some other).length := by
        refine List.map_congr_left fun other member => ?_
        rw [List.filter_filter]
        congr 1
        refine List.filter_congr fun item _ => ?_
        have apart : other ≠ target := fun same => fresh (same ▸ member)
        by_cases hit : key item = some other <;> simp [hit, apart]
      rw [sameTail] at tail
      have whole := List.length_eq_length_filter_add (l := items)
        (fun item => decide (key item = some target))
      simp only [ne_eq, decide_not] at tail
      rw [List.map_cons, List.sum_cons]
      omega

/-- The groups of a list have at most its length together. -/
theorem sum_length_groupBySome (key : α → Option κ) (items : List α) :
    ((groupBySome key items).entries.map fun entry => entry.2.length).sum ≤ items.length := by
  rw [groupBySome_entries, List.map_map]
  exact sum_length_filter_le key (sortDedup_nodup _) items

theorem length_groupBySome_le (key : α → Option κ) (items : List α) :
    (groupBySome key items).entries.length ≤ items.length := by
  rw [groupBySome_entries, List.length_map]
  exact (length_sortDedup_le _).trans (List.length_filterMap_le _ _)

theorem length_groupBy_le (key : α → κ) (items : List α) :
    (groupBy key items).entries.length ≤ items.length := by
  rw [groupBy_entries, List.length_map]
  exact (length_sortDedup_le _).trans (List.length_map _).le

theorem sum_length_groupBy (key : α → κ) (items : List α) :
    ((groupBy key items).values.map List.length).sum ≤ items.length := by
  rw [values, groupBy_entries, List.map_map, List.map_map]
  have parts := sum_length_filter_le (fun item => some (key item))
    (sortDedup_nodup (items.map key)) items
  simpa [Function.comp_def, eq_comm] using parts

theorem groupBy_values (key : α → κ) (items : List α) :
    (groupBy key items).values =
      (sortDedup (items.map key)).map fun target =>
        items.filter fun item => target = key item := by
  rw [values, groupBy_entries, List.map_map]
  rfl

/-! ## Renaming items -/

variable {β : Type*}

/-- Grouping renamed items renames the groups. -/
theorem groupBySome_map_entries (rename : β → α) (key : α → Option κ) (items : List β) :
    (groupBySome key (items.map rename)).entries =
      (groupBySome (fun item => key (rename item)) items).entries.map fun entry =>
        (entry.1, entry.2.map rename) := by
  rw [groupBySome_entries, groupBySome_entries, List.filterMap_map, List.map_map]
  refine List.map_congr_left fun target _ => ?_
  simp only [Function.comp_apply, List.filter_map, Function.comp_def]

theorem groupBySome_map_get? (rename : β → α) (key : α → Option κ) (items : List β)
    (target : κ) :
    (groupBySome key (items.map rename)).get? target =
      ((groupBySome (fun item => key (rename item)) items).get? target).map
        (List.map rename) := by
  rw [get?_groupBySome, get?_groupBySome, List.filter_map, Function.comp_def]
  simp only [List.map_eq_nil_iff]
  split <;> rfl

theorem groupBy_map_entries (rename : β → α) (key : α → κ) (items : List β) :
    (groupBy key (items.map rename)).entries =
      (groupBy (fun item => key (rename item)) items).entries.map fun entry =>
        (entry.1, entry.2.map rename) := by
  rw [groupBy_entries, groupBy_entries, List.map_map, List.map_map]
  refine List.map_congr_left fun target _ => ?_
  simp only [Function.comp_apply, List.filter_map, Function.comp_def]

end OrderedMap

end Guiying.Foundation
