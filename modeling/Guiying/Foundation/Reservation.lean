import Mathlib.Data.Finset.Card

/-!
# Reservations with replacement

A pool gives each key at most one slot. A key is first admitted, and is then
pending until it is granted its slot, in place of the one it may already hold.
An admission counts the slots that are held and promised without the one that
its own grant gives back; a grant counts in the same way. The two agree as long
as no slot is counted as given back before those that are pending need it.
-/

namespace Guiying.Foundation.Reservation

variable {K : Type*} [DecidableEq K]

/-- Held and pending keys fit in, or they exceed the limit by one and every
pending key gives a slot back. -/
def Room (limit : Nat) (held pending : Finset K) : Prop :=
  held.card + pending.card ≤ limit ∨
    (held.card + pending.card ≤ limit + 1 ∧ pending ⊆ held)

namespace Room

variable {limit : Nat} {held pending : Finset K} {key : K}

omit [DecidableEq K] in
/-- Slots that are given up and promises that are dropped leave the room there was. -/
theorem mono {fewer dropped : Finset K} (room : Room limit held pending)
    (slots : fewer ⊆ held) (promises : dropped ⊆ pending) : Room limit fewer dropped := by
  have slotCount := Finset.card_le_card slots
  have promiseCount := Finset.card_le_card promises
  rcases room with fits | ⟨exceeds, reopens⟩
  · left
    omega
  · by_cases fits : fewer.card + dropped.card ≤ limit
    · exact .inl fits
    · -- Nothing was given up, since the limit is still exceeded.
      have sameSlots := Finset.eq_of_subset_of_card_le slots (by omega)
      have samePromises := Finset.eq_of_subset_of_card_le promises (by omega)
      subst sameSlots samePromises
      exact .inr ⟨exceeds, reopens⟩

/-- A pending key can be granted: the count its grant makes is below the limit. -/
theorem grantable (room : Room limit held pending) (promised : key ∈ pending) :
    (held.erase key).card + (pending.erase key).card < limit := by
  have others := Finset.card_erase_add_one promised
  rcases room with fits | ⟨exceeds, reopens⟩
  · have kept := Finset.card_le_card (Finset.erase_subset key held)
    omega
  · have givenBack := Finset.card_erase_add_one (reopens promised)
    omega

/-- A grant uses up the promise it was made from. -/
theorem grant (room : Room limit held pending) (promised : key ∈ pending) :
    Room limit (insert key (held.erase key)) (pending.erase key) := by
  have below := room.grantable promised
  have added := Finset.card_insert_le key (held.erase key)
  left
  omega

end Room

variable {limit : Nat} {held pending : Finset K} {key : K}

/-- An admission keeps the room unless it counts on a slot that a pending key needs: the pool is
full, and not every pending key gives a slot back. -/
theorem room_insert_iff (unpromised : key ∉ pending)
    (admitted : (held.erase key).card + pending.card < limit) :
    Room limit held (insert key pending) ↔
      (key ∈ held → held.card + pending.card = limit → pending ⊆ held) := by
  have promises := Finset.card_insert_of_notMem unpromised
  constructor
  · intro room holds full
    rcases room with fits | ⟨-, reopens⟩
    · omega
    · exact (Finset.subset_insert key pending).trans reopens
  · intro leaves
    by_cases holds : key ∈ held
    · have givenBack := Finset.card_erase_add_one holds
      by_cases full : held.card + pending.card = limit
      · exact .inr ⟨by omega, Finset.insert_subset holds (leaves holds full)⟩
      · left
        omega
    · rw [Finset.erase_eq_of_notMem holds] at admitted
      left
      omega

/-- Without the room some pending key is refused at once. -/
theorem refused_of_not_room (unpromised : key ∉ pending)
    (admitted : (held.erase key).card + pending.card < limit)
    (noRoom : ¬ Room limit held (insert key pending)) :
    ∃ refused ∈ pending,
      limit ≤ (held.erase refused).card + ((insert key pending).erase refused).card := by
  have promises := Finset.card_insert_of_notMem unpromised
  rw [room_insert_iff unpromised admitted] at noRoom
  push Not at noRoom
  obtain ⟨-, full, open_⟩ := noRoom
  obtain ⟨refused, isPending, fresh⟩ := Finset.not_subset.mp open_
  refine ⟨refused, isPending, ?_⟩
  have others := Finset.card_erase_add_one (Finset.mem_insert_of_mem (b := key) isPending)
  rw [Finset.erase_eq_of_notMem fresh]
  omega

/-! ## Keys of the entries of a list -/

/-- Entries with distinct keys are counted by their keys. -/
theorem length_filter_eq_card {A : Type*} {entries : List A} {keyOf : A → K}
    (distinct : (entries.map keyOf).Nodup) (chosen : K → Prop) [DecidablePred chosen] :
    (entries.filter fun entry => decide (chosen (keyOf entry))).length =
      ((entries.map keyOf).toFinset.filter chosen).card := by
  have asKeys : (entries.filter fun entry => decide (chosen (keyOf entry))).map keyOf =
      (entries.map keyOf).filter fun key => decide (chosen key) := by
    rw [List.filter_map]
    rfl
  rw [← List.length_map keyOf, asKeys, ← List.toFinset_card_of_nodup (distinct.filter _),
    List.toFinset_filter]
  simp

end Guiying.Foundation.Reservation
