import Mathlib.Data.Set.Function
import Mathlib.Data.List.Basic
import Mathlib.Tactic.TypeStar

/-!
# Codes that can be told apart

An encoding that is no proper beginning of another one can be followed by
anything: the value and what follows are both determined by the whole. Such codes
are put together field by field, and a list of them is determined as soon as its
end is.
-/

namespace Guiying.Foundation

variable {α β σ : Type*}

/-- The encodings of the valid values are told apart, whatever follows them. -/
def PrefixFree (valid : Set α) (encode : α → List σ) : Prop :=
  ∀ ⦃x y⦄, x ∈ valid → y ∈ valid → ∀ ⦃s t⦄, encode x ++ s = encode y ++ t → x = y ∧ s = t

namespace PrefixFree

variable {valid : Set α} {encode : α → List σ} {s t : List σ} {xs ys : List α}

theorem injOn (free : PrefixFree valid encode) : Set.InjOn encode valid := by
  intro x isX y isY same
  have ends : encode x ++ [] = encode y ++ [] := by rw [same]
  exact (free isX isY ends).1

theorem of_length {width : Nat} (length : ∀ x ∈ valid, (encode x).length = width)
    (injective : Set.InjOn encode valid) : PrefixFree valid encode := by
  intro x y isX isY s t same
  have widths : (encode x).length = (encode y).length :=
    (length x isX).trans (length y isY).symm
  obtain ⟨encoded, follows⟩ := List.append_inj same widths
  exact ⟨injective isX isY encoded, follows⟩

/-- A code for a value is one for what the value can be recovered from. -/
theorem comap (free : PrefixFree valid encode) {view : β → α} {source : Set β}
    (maps : Set.MapsTo view source valid) (injective : Set.InjOn view source) :
    PrefixFree source fun x => encode (view x) := by
  intro x y isX isY s t same
  obtain ⟨views, follows⟩ := free (maps isX) (maps isY) same
  exact ⟨injective isX isY views, follows⟩

/-- A length in front makes any string a code. -/
theorem header {length : Nat → List σ} {bound : Nat}
    (free : PrefixFree {count | count < bound} length) :
    PrefixFree {text : List σ | text.length < bound} fun text => length text.length ++ text := by
  intro x y isX isY s t same
  rw [List.append_assoc, List.append_assoc] at same
  obtain ⟨lengths, same⟩ := free isX isY same
  exact List.append_inj same lengths

/-- A symbol that does not occur inside ends a string. -/
theorem terminated (last : σ) :
    PrefixFree {text : List σ | last ∉ text} fun text => text ++ [last] := by
  intro x
  induction x with
  | nil =>
      intro y _ isY s t same
      cases y with
      | nil => exact ⟨rfl, List.cons_inj_right last |>.mp same⟩
      | cons first rest =>
          injection same with same
          exact absurd (same ▸ List.mem_cons_self) isY
  | cons first rest ih =>
      intro y isX isY s t same
      cases y with
      | nil =>
          injection same with same
          exact absurd (same ▸ List.mem_cons_self) isX
      | cons other others =>
          injection same with same later
          have isX : last ∉ rest := fun found => isX (List.mem_cons_of_mem first found)
          have isY : last ∉ others := fun found => isY (List.mem_cons_of_mem other found)
          obtain ⟨rests, follows⟩ := ih isX isY later
          exact ⟨by rw [same, rests], follows⟩

/-! ## Lists -/

/-- Of two lists that are encoded alike up to what follows, one continues the other. -/
theorem flatMap_cases (free : PrefixFree valid encode) (validX : ∀ x ∈ xs, x ∈ valid)
    (validY : ∀ y ∈ ys, y ∈ valid) (same : xs.flatMap encode ++ s = ys.flatMap encode ++ t) :
    (∃ rest, ys = xs ++ rest ∧ s = rest.flatMap encode ++ t) ∨
      ∃ rest, xs = ys ++ rest ∧ t = rest.flatMap encode ++ s := by
  induction xs generalizing ys with
  | nil => exact .inl ⟨ys, rfl, same⟩
  | cons x xs ih =>
      cases ys with
      | nil => exact .inr ⟨x :: xs, rfl, same.symm⟩
      | cons y ys =>
          rw [List.flatMap_cons, List.flatMap_cons, List.append_assoc, List.append_assoc] at same
          obtain ⟨rfl, later⟩ := free (validX x List.mem_cons_self) (validY y List.mem_cons_self) same
          have validX : ∀ z ∈ xs, z ∈ valid := fun z found => validX z (List.mem_cons_of_mem x found)
          have validY : ∀ z ∈ ys, z ∈ valid := fun z found => validY z (List.mem_cons_of_mem x found)
          rcases ih validX validY later with ⟨rest, rfl, follows⟩ | ⟨rest, rfl, follows⟩
          · exact .inl ⟨rest, rfl, follows⟩
          · exact .inr ⟨rest, rfl, follows⟩

/-- A list is determined when no end can be taken for one more element. -/
theorem flatMap_of_ends (free : PrefixFree valid encode) (validX : ∀ x ∈ xs, x ∈ valid)
    (validY : ∀ y ∈ ys, y ∈ valid)
    (endX : ∀ y rest, y :: rest <:+ ys → s ≠ encode y ++ (rest.flatMap encode ++ t))
    (endY : ∀ x rest, x :: rest <:+ xs → t ≠ encode x ++ (rest.flatMap encode ++ s))
    (same : xs.flatMap encode ++ s = ys.flatMap encode ++ t) : xs = ys ∧ s = t := by
  rcases free.flatMap_cases validX validY same with ⟨rest, rfl, follows⟩ | ⟨rest, rfl, follows⟩
  · cases rest with
    | nil => exact ⟨(List.append_nil xs).symm, follows⟩
    | cons y rest =>
        rw [List.flatMap_cons, List.append_assoc] at follows
        exact absurd follows (endX y rest (List.suffix_append xs (y :: rest)))
  · cases rest with
    | nil => exact ⟨List.append_nil ys, follows.symm⟩
    | cons x rest =>
        rw [List.flatMap_cons, List.append_assoc] at follows
        exact absurd follows (endY x rest (List.suffix_append ys (x :: rest)))

theorem flatMap_of_length (free : PrefixFree valid encode) (validX : ∀ x ∈ xs, x ∈ valid)
    (validY : ∀ y ∈ ys, y ∈ valid) (lengths : xs.length = ys.length)
    (same : xs.flatMap encode ++ s = ys.flatMap encode ++ t) : xs = ys ∧ s = t := by
  rcases free.flatMap_cases validX validY same with ⟨rest, rfl, follows⟩ | ⟨rest, rfl, follows⟩
  · have none : rest = [] := by simpa using lengths
    subst none
    exact ⟨(List.append_nil xs).symm, follows⟩
  · have none : rest = [] := by simpa using lengths
    subst none
    exact ⟨List.append_nil ys, follows.symm⟩

/-- Elements that open with a mark are told from an end that does not. -/
theorem flatMap_of_mark (free : PrefixFree valid encode) {mark : σ}
    (marked : ∀ x ∈ valid, (encode x).head? = some mark) (validX : ∀ x ∈ xs, x ∈ valid)
    (validY : ∀ y ∈ ys, y ∈ valid) (endX : s.head? ≠ some mark) (endY : t.head? ≠ some mark)
    (same : xs.flatMap encode ++ s = ys.flatMap encode ++ t) : xs = ys ∧ s = t := by
  have opens : ∀ x ∈ valid, ∀ follows, (encode x ++ follows).head? = some mark := by
    intro x isValid follows
    rw [List.head?_append, marked x isValid]
    rfl
  refine free.flatMap_of_ends validX validY ?_ ?_ same
  · intro y rest isLast ends
    have found : y ∈ ys := isLast.subset List.mem_cons_self
    exact endX (by rw [ends]; exact opens y (validY y found) _)
  · intro x rest isLast ends
    have found : x ∈ xs := isLast.subset List.mem_cons_self
    exact endY (by rw [ends]; exact opens x (validX x found) _)

/-- Elements longer than the ends can differ by are told from them. -/
theorem flatMap_of_longer (free : PrefixFree valid encode) {width : Nat}
    (long : ∀ x ∈ valid, width ≤ (encode x).length) (validX : ∀ x ∈ xs, x ∈ valid)
    (validY : ∀ y ∈ ys, y ∈ valid) (endX : s.length < width + t.length)
    (endY : t.length < width + s.length)
    (same : xs.flatMap encode ++ s = ys.flatMap encode ++ t) : xs = ys ∧ s = t := by
  refine free.flatMap_of_ends validX validY ?_ ?_ same
  · intro y rest isLast ends
    have found := long y (validY y (isLast.subset List.mem_cons_self))
    have length := congrArg List.length ends
    simp only [List.length_append] at length
    omega
  · intro x rest isLast ends
    have found := long x (validX x (isLast.subset List.mem_cons_self))
    have length := congrArg List.length ends
    simp only [List.length_append] at length
    omega

end PrefixFree

/-! ## Optional values -/

/-- A value behind a mark that it is there. -/
def optionCode (absent present : σ) (encode : α → List σ) : Option α → List σ
  | none => [absent]
  | some value => present :: encode value

theorem PrefixFree.option {valid : Set α} {encode : α → List σ} (free : PrefixFree valid encode)
    {absent present : σ} (apart : absent ≠ present) :
    PrefixFree {value | ∀ x ∈ value, x ∈ valid} (optionCode absent present encode) := by
  intro x y isX isY s t same
  cases x with
  | none =>
      cases y with
      | none => exact ⟨rfl, (List.cons_inj_right absent).mp same⟩
      | some y =>
          injection same with same
          exact absurd same apart
  | some x =>
      cases y with
      | none =>
          injection same with same
          exact absurd same.symm apart
      | some y =>
          injection same with _ same
          obtain ⟨rfl, follows⟩ := free (isX x rfl) (isY y rfl) same
          exact ⟨rfl, follows⟩

end Guiying.Foundation
