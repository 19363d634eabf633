import Guiying.Foundation.MachineInt
import Guiying.Foundation.SortedSet
import Guiying.Foundation.Windows

/-!
# Sample windows

Where the sampled hash reads: the whole file when it is no longer than the configured size of
a window, otherwise windows at its start, middle and end. `usize` has the width of the
platform, so a cast may cut a number off; a subtraction that would go below zero has no result.
-/

namespace Guiying.Core

open Guiying.Foundation Guiying.Foundation.MachineInt Guiying.Foundation.SortedSet
open Guiying.Foundation.Windows

/-- The pointer widths of the platforms the language has. -/
inductive PointerWidth where
  | bits16
  | bits32
  | bits64
  deriving DecidableEq

namespace PointerWidth

def usizeBound : PointerWidth → Nat
  | bits16 => 2 ^ 16
  | bits32 => 2 ^ 32
  | bits64 => 2 ^ 64

/-- The casts `as usize` and `as u64`. -/
def asUsize (width : PointerWidth) (value : Nat) : Nat := value % width.usizeBound

theorem usizeBound_le (width : PointerWidth) : width.usizeBound ≤ u64Bound := by
  cases width <;> decide

theorem asUsize_of_lt {width : PointerWidth} {value : Nat} (fits : value < width.usizeBound) :
    width.asUsize value = value :=
  Nat.mod_eq_of_lt fits

end PointerWidth

def asU64 (value : Nat) : Nat := value % u64Bound

theorem asU64_of_lt {value : Nat} (fits : value < u64Bound) : asU64 value = value :=
  Nat.mod_eq_of_lt fits

/-- The size of a window and the offsets of the windows. -/
def sampleLayout (width : PointerWidth) (length sampleBytes : Nat) : Option (Nat × List Nat) := do
  let target := asU64 sampleBytes
  if length ≤ target then
    return (width.asUsize length, [0])
  let chunk := min target (max (length / 3) 1)
  let middle ← checkedSub length chunk
  let last ← checkedSub length chunk
  return (width.asUsize chunk, sortDedup [0, middle / 2, last])

/-! ## What a layout is -/

/-- A layout that samples a file of `length` bytes without reading a byte twice. -/
structure Samples (length sampleBytes chunk : Nat) (offsets : List Nat) : Prop where
  atMostThree : offsets.length ≤ 3
  apart : Apart chunk offsets
  increasing : offsets.Pairwise (· < ·)
  within : Within chunk length offsets
  first : offsets.head? = some 0
  last : offsets.getLast?.map (· + chunk) = some length
  whole : length ≤ sampleBytes → chunk = length ∧ offsets = [0]
  chunkBound : chunk ≤ sampleBytes

theorem samples_whole {length sampleBytes : Nat} (short : length ≤ sampleBytes) :
    Samples length sampleBytes length [0] where
  atMostThree := by simp
  apart := List.pairwise_singleton _ _
  increasing := List.pairwise_singleton _ _
  within := by simp [Within]
  first := rfl
  last := by simp
  whole := fun _ => ⟨rfl, rfl⟩
  chunkBound := short

theorem sortDedup_of_le {first second third : Nat} (lower : first ≤ second)
    (upper : second ≤ third) :
    sortDedup [first, second, third] = [first, second, third].destutter (· ≠ ·) := by
  have sorted : [first, second, third].Pairwise (· ≤ ·) := by
    simp [lower, upper, le_trans lower upper]
  unfold sortDedup
  rw [sorted.insertionSort_eq]

/-- Three windows in order, the middle one clear of the last and either clear of the first or
the same. -/
theorem samples_split {length sampleBytes chunk middle last : Nat} (positive : 0 < chunk)
    (ends : last + chunk = length) (before : middle + chunk ≤ last)
    (clear : middle = 0 ∨ chunk ≤ middle) (long : sampleBytes < length)
    (bounded : chunk ≤ sampleBytes) :
    Samples length sampleBytes chunk ([0, middle, last].destutter (· ≠ ·)) := by
  have apart : Apart chunk ([0, middle, last].destutter (· ≠ ·)) := by
    apply apart_destutter
    simp only [List.pairwise_cons, List.mem_cons, List.not_mem_nil, or_false, forall_eq_or_imp,
      forall_eq, zero_add, IsEmpty.forall_iff, implies_true, List.Pairwise.nil, and_true]
    omega
  have sublist := List.destutter_sublist (· ≠ ·) [0, middle, last]
  -- the first two offsets meet only when the middle window is the first one
  have listed : [0, middle, last].destutter (· ≠ ·) =
      if middle = 0 then [0, last] else [0, middle, last] := by
    have differ : middle ≠ last := by omega
    rcases Nat.eq_zero_or_pos middle with rfl | inner
    · simp [List.destutter_cons', List.destutter', differ]
    · simp [List.destutter_cons', List.destutter', differ, inner.ne, inner.ne']
  refine ⟨sublist.length_le, apart, apart.increasing positive, ?_, ?_, ?_, ?_, bounded⟩
  · intro offset inside
    have named := sublist.subset inside
    simp only [List.mem_cons, List.not_mem_nil, or_false] at named
    omega
  · rw [listed]
    split <;> rfl
  · rw [listed]
    split <;> simp [ends]
  · intro short
    omega

/-- Every file has a layout, for every window size of at least one byte. -/
theorem sampleLayout_samples (width : PointerWidth) (length : Nat) {sampleBytes : Nat}
    (sampleFits : sampleBytes < width.usizeBound) (positive : 1 ≤ sampleBytes) :
    ∃ chunk offsets, sampleLayout width length sampleBytes = some (chunk, offsets) ∧
      Samples length sampleBytes chunk offsets := by
  have target : asU64 sampleBytes = sampleBytes :=
    asU64_of_lt (lt_of_lt_of_le sampleFits width.usizeBound_le)
  unfold sampleLayout
  rw [target]
  by_cases short : length ≤ sampleBytes
  · have cast : width.asUsize length = length :=
      PointerWidth.asUsize_of_lt (lt_of_le_of_lt short sampleFits)
    exact ⟨length, [0], by simp [short, cast], samples_whole short⟩
  · have long : sampleBytes < length := not_le.mp short
    generalize chunkEq : min sampleBytes (max (length / 3) 1) = chunk
    have chunkPositive : 0 < chunk := by omega
    have bounded : chunk ≤ sampleBytes := by omega
    have third : chunk ≤ max (length / 3) 1 := by omega
    have below : chunk ≤ length := by omega
    have cast : width.asUsize chunk = chunk :=
      PointerWidth.asUsize_of_lt (lt_of_le_of_lt bounded sampleFits)
    have difference : checkedSub length chunk = some (length - chunk) := if_pos below
    have sorted := sortDedup_of_le (Nat.zero_le ((length - chunk) / 2))
      (Nat.div_le_self (length - chunk) 2)
    have before : (length - chunk) / 2 + chunk ≤ length - chunk := by omega
    have clear : (length - chunk) / 2 = 0 ∨ chunk ≤ (length - chunk) / 2 := by omega
    refine ⟨chunk, _, ?_, samples_split chunkPositive (Nat.sub_add_cancel below) before clear
      long bounded⟩
    simp [short, chunkEq, cast, difference, sorted]

/-! ## The windows of a layout -/

/-- For every file there are at most three windows, disjoint and inside it, from its first
byte to its last; together they are no longer than the file. -/
theorem sampleLayout_windows (width : PointerWidth) (length sampleBytes : Nat)
    (lengthFits : length < u64Bound) (sampleFits : sampleBytes < width.usizeBound)
    (positive : 1 ≤ sampleBytes) :
    ∃ chunk offsets, sampleLayout width length sampleBytes = some (chunk, offsets) ∧
      offsets.length ≤ 3 ∧ offsets.Pairwise (· < ·) ∧
      offsets.Pairwise (fun left right => Disjoint (window chunk left) (window chunk right)) ∧
      (∀ offset ∈ offsets, window chunk offset ⊆ Set.Iio length ∧ offset + chunk ≤ length ∧
        offset + chunk < u64Bound) ∧
      offsets.head? = some 0 ∧
      (∃ offset, offsets.getLast? = some offset ∧ offset + chunk = length) ∧
      (length ≤ sampleBytes → chunk = length ∧ offsets = [0]) ∧
      chunk * offsets.length ≤ length ∧ chunk ≤ sampleBytes := by
  obtain ⟨chunk, offsets, result, samples⟩ := sampleLayout_samples width length sampleFits positive
  have lastEnds : ∃ offset, offsets.getLast? = some offset ∧ offset + chunk = length :=
    Option.map_eq_some_iff.mp samples.last
  refine ⟨chunk, offsets, result, samples.atMostThree, samples.increasing, samples.apart.disjoint,
    ?_, samples.first, lastEnds, samples.whole, samples.apart.size_le samples.within,
    samples.chunkBound⟩
  intro offset listed
  have inside := samples.within offset listed
  exact ⟨samples.within.subset listed, inside, lt_of_le_of_lt inside lengthFits⟩

/-- Two bytes and windows of one: the middle window is the first. -/
theorem sampleLayout_windows_two :
    ∃ chunk offsets, sampleLayout .bits64 2 1 = some (chunk, offsets) ∧
      offsets.length ≤ 3 ∧ offsets.Pairwise (· < ·) ∧
      offsets.Pairwise (fun left right => Disjoint (window chunk left) (window chunk right)) ∧
      (∀ offset ∈ offsets, window chunk offset ⊆ Set.Iio 2 ∧ offset + chunk ≤ 2 ∧
        offset + chunk < u64Bound) ∧
      offsets.head? = some 0 ∧
      (∃ offset, offsets.getLast? = some offset ∧ offset + chunk = 2) ∧
      (2 ≤ 1 → chunk = 2 ∧ offsets = [0]) ∧
      chunk * offsets.length ≤ 2 ∧ chunk ≤ 1 :=
  sampleLayout_windows .bits64 2 1 (by decide) (by decide) (le_refl 1)

end Guiying.Core
