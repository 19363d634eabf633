import Mathlib.Data.List.Destutter
import Mathlib.Data.Set.Lattice
import Mathlib.Order.CompletePartialOrder
import Mathlib.Order.Interval.Set.Disjoint

/-!
# Windows of one size

A window is the half-open range of positions of one size that starts at an offset. Offsets
that lie apart, each at least the size after every earlier one, cut disjoint windows, and as
many of them fit a range as their sizes together allow.
-/

namespace Guiying.Foundation.Windows

/-- The positions of the window at `offset`. -/
def window (size offset : Nat) : Set Nat := Set.Ico offset (offset + size)

/-- Every offset lies at least `size` after every earlier one. -/
def Apart (size : Nat) (offsets : List Nat) : Prop :=
  offsets.Pairwise fun left right => left + size ≤ right

/-- Every window ends by `length`. -/
def Within (size length : Nat) (offsets : List Nat) : Prop :=
  ∀ offset ∈ offsets, offset + size ≤ length

theorem window_disjoint {size left right : Nat} (apart : left + size ≤ right) :
    Disjoint (window size left) (window size right) :=
  Set.Ico_disjoint_Ico.mpr (le_trans (min_le_left _ _) (le_trans apart (le_max_right _ _)))

theorem Apart.disjoint {size : Nat} {offsets : List Nat} (apart : Apart size offsets) :
    offsets.Pairwise fun left right => Disjoint (window size left) (window size right) :=
  List.Pairwise.imp window_disjoint apart

theorem Apart.increasing {size : Nat} {offsets : List Nat} (apart : Apart size offsets)
    (positive : 0 < size) : offsets.Pairwise (· < ·) :=
  List.Pairwise.imp (fun bound => by omega) apart

theorem Within.subset {size length : Nat} {offsets : List Nat} (within : Within size length offsets)
    {offset : Nat} (listed : offset ∈ offsets) : window size offset ⊆ Set.Iio length :=
  fun _ inside => lt_of_lt_of_le inside.2 (within offset listed)

/-- The windows together are no longer than what lies after the start. -/
theorem Apart.total_le {size length : Nat} {offsets : List Nat} (apart : Apart size offsets)
    (within : Within size length offsets) (start : Nat) (after : ∀ offset ∈ offsets, start ≤ offset)
    (starts : start ≤ length) : start + size * offsets.length ≤ length := by
  induction offsets generalizing start with
  | nil => simpa using starts
  | cons offset rest ih =>
      have ⟨ahead, restApart⟩ := List.pairwise_cons.mp apart
      have ends : offset + size ≤ length := within offset List.mem_cons_self
      have total : offset + size + size * rest.length ≤ length :=
        ih restApart (fun next listed => within next (List.mem_cons_of_mem _ listed)) _ ahead ends
      have here : start ≤ offset := after offset List.mem_cons_self
      rw [List.length_cons, Nat.mul_succ]
      omega

theorem Apart.size_le {size length : Nat} {offsets : List Nat} (apart : Apart size offsets)
    (within : Within size length offsets) : size * offsets.length ≤ length := by
  have total := apart.total_le within 0 (fun _ _ => Nat.zero_le _) (Nat.zero_le _)
  omega

theorem isTrans_apart (size : Nat) : IsTrans Nat fun left right => left + size ≤ right :=
  ⟨fun _ _ _ first second => by omega⟩

/-- Of offsets that are equal or apart in order, one of each run of equal ones is kept apart. -/
theorem apart_destutter {size : Nat} {offsets : List Nat}
    (spread : offsets.Pairwise fun left right => left = right ∨ left + size ≤ right) :
    Apart size (offsets.destutter (· ≠ ·)) := by
  have kept : (offsets.destutter (· ≠ ·)).Pairwise
      (fun left right => left = right ∨ left + size ≤ right) :=
    spread.sublist (List.destutter_sublist _ _)
  have distinct : (offsets.destutter (· ≠ ·)).IsChain (· ≠ ·) := List.isChain_destutter _ _
  have _ := isTrans_apart size
  refine List.isChain_iff_pairwise.mp ?_
  refine (List.isChain_iff_getElem.mpr ?_)
  intro index bound
  have differ := List.isChain_iff_getElem.mp distinct index bound
  have near := List.pairwise_iff_getElem.mp kept index (index + 1) (by omega) bound (by omega)
  exact near.resolve_left differ

end Guiying.Foundation.Windows
