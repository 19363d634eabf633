import Mathlib.Data.List.Induction
import Mathlib.Data.Set.Function
import Mathlib.Tactic.TypeStar

/-!
# Chains of digests

A chain hashes its start, and then every item together with the digest before it.
As long as no two of the texts that were hashed collide, the last digest
determines the start and all items in their order.
-/

namespace Guiying.Foundation.HashChain

variable {Item Digest Text : Type*} (hash : Text → Digest) (step : Digest → Item → Text)

def extend (digest : Digest) (items : List Item) : Digest :=
  items.foldl (fun digest item => hash (step digest item)) digest

def chain (start : Text) (items : List Item) : Digest := extend hash step (hash start) items

/-- The texts that are hashed after a digest. -/
def links (digest : Digest) : List Item → List Text
  | [] => []
  | item :: rest => step digest item :: links (hash (step digest item)) rest

/-- All texts that a chain hashes. -/
def hashed (start : Text) (items : List Item) : List Text :=
  start :: links hash step (hash start) items

variable {hash step}

theorem extend_append_singleton (digest : Digest) (items : List Item) (item : Item) :
    extend hash step digest (items ++ [item]) =
      hash (step (extend hash step digest items) item) := by
  rw [extend, List.foldl_append]
  rfl

theorem chain_append_singleton (start : Text) (items : List Item) (item : Item) :
    chain hash step start (items ++ [item]) = hash (step (chain hash step start items) item) :=
  extend_append_singleton (hash start) items item

theorem links_append_singleton (digest : Digest) (items : List Item) (item : Item) :
    links hash step digest (items ++ [item]) =
      links hash step digest items ++ [step (extend hash step digest items) item] := by
  induction items generalizing digest with
  | nil => rfl
  | cons first rest ih => exact congrArg (step digest first :: ·) (ih _)

theorem hashed_append_singleton (start : Text) (items : List Item) (item : Item) :
    hashed hash step start (items ++ [item]) =
      hashed hash step start items ++ [step (chain hash step start items) item] := by
  rw [hashed, links_append_singleton]
  rfl

/-- Without a collision the digest of a chain determines the chain. -/
theorem chain_injective {valid : Set Item} {leftStart rightStart : Text} {left right : List Item}
    (unique : ∀ first item second other, item ∈ valid → other ∈ valid →
      step first item = step second other → first = second ∧ item = other)
    (apart : ∀ digest item, step digest item ≠ leftStart ∧ step digest item ≠ rightStart)
    (validLeft : ∀ item ∈ left, item ∈ valid) (validRight : ∀ item ∈ right, item ∈ valid)
    (free : Set.InjOn hash {text | text ∈ hashed hash step leftStart left ∨
      text ∈ hashed hash step rightStart right})
    (same : chain hash step leftStart left = chain hash step rightStart right) :
    leftStart = rightStart ∧ left = right := by
  induction left using List.reverseRecOn generalizing right with
  | nil =>
      rcases List.eq_nil_or_concat right with rfl | ⟨before, last, rfl⟩
      · exact ⟨free (.inl List.mem_cons_self) (.inr List.mem_cons_self) same, rfl⟩
      · rw [List.concat_eq_append] at same free
        rw [hashed_append_singleton] at free
        rw [chain_append_singleton] at same
        have texts := free (.inl List.mem_cons_self)
          (.inr (List.mem_append_right _ List.mem_cons_self)) same
        exact absurd texts.symm (apart _ last).1
  | append_singleton items item ih =>
      rw [hashed_append_singleton] at free
      rw [chain_append_singleton] at same
      have isHashed : step (chain hash step leftStart items) item ∈
          hashed hash step leftStart items ++ [step (chain hash step leftStart items) item] :=
        List.mem_append_right _ List.mem_cons_self
      rcases List.eq_nil_or_concat right with rfl | ⟨before, last, rfl⟩
      · have texts := free (.inl isHashed) (.inr List.mem_cons_self) same
        exact absurd texts (apart _ item).2
      · rw [List.concat_eq_append] at same free validRight ⊢
        rw [hashed_append_singleton] at free
        rw [chain_append_singleton] at same
        have texts := free (.inl isHashed) (.inr (List.mem_append_right _ List.mem_cons_self)) same
        obtain ⟨digests, items'⟩ := unique _ _ _ _
          (validLeft item (List.mem_append_right _ List.mem_cons_self))
          (validRight last (List.mem_append_right _ List.mem_cons_self)) texts
        have shorter : Set.InjOn hash {text | text ∈ hashed hash step leftStart items ∨
            text ∈ hashed hash step rightStart before} := free.mono fun text found =>
          Or.imp (List.mem_append_left _) (List.mem_append_left _) found
        obtain ⟨starts, rests⟩ := ih
          (fun entry found => validLeft entry (List.mem_append_left _ found))
          (fun entry found => validRight entry (List.mem_append_left _ found)) shorter digests
        exact ⟨starts, by rw [rests, items']⟩

end Guiying.Foundation.HashChain
