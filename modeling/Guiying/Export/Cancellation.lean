import Mathlib.Data.List.Basic

/-!
# Cancelling an export

A cancel request and the commit of the hard link exclude each other through one
mutex. The log keeps the answers of the cancel calls and the link, in order.
-/

namespace Guiying.Export

inductive CommitState where
  | openToCancel
  | committed
  deriving DecidableEq, Repr

structure ExportCancellation where
  cancelled : Bool
  commitState : CommitState
  deriving DecidableEq, Repr

/-- What happens to one export at the cells of its cancellation. -/
inductive Event where
  | cancel (answer : Bool)
  | link
  deriving DecidableEq, Repr

/-- The cells and what has happened at them so far, oldest first. -/
structure CancelHistory where
  cells : ExportCancellation
  log : List Event
  deriving DecidableEq, Repr

namespace ExportCancellation

def new : ExportCancellation := ⟨false, .openToCancel⟩

/-- The answer is true when this call sets the flag. -/
def cancel (cells : ExportCancellation) : Bool × ExportCancellation :=
  if cells.commitState = .committed then (false, cells)
  else (!cells.cancelled, { cells with cancelled := true })

def isCancelled (cells : ExportCancellation) : Bool := cells.cancelled

end ExportCancellation

namespace CancelHistory

def new : CancelHistory := ⟨.new, []⟩

/-- One cancel call. -/
def cancel (history : CancelHistory) : CancelHistory :=
  ⟨history.cells.cancel.2, history.log ++ [.cancel history.cells.cancel.1]⟩

/-- A number of cancel calls, one after the other. -/
def cancels : Nat → CancelHistory → CancelHistory
  | 0, history => history
  | count + 1, history => cancels count history.cancel

@[simp] theorem cancel_commitState (history : CancelHistory) :
    history.cancel.cells.commitState = history.cells.commitState := by
  unfold cancel ExportCancellation.cancel
  split
  · rfl
  · rfl

@[simp] theorem cancels_commitState (history : CancelHistory) (count : Nat) :
    (history.cancels count).cells.commitState = history.cells.commitState := by
  induction count generalizing history with
  | zero => rfl
  | succ count ih => rw [cancels, ih, cancel_commitState]

theorem cancels_cancelled {history : CancelHistory}
    (uncommitted : history.cells.commitState = .openToCancel) (count : Nat) :
    (history.cancels count).cells.cancelled = (history.cells.cancelled || count != 0) := by
  induction count generalizing history with
  | zero => simp [cancels]
  | succ count ih =>
      have flagged : history.cancel.cells.cancelled = true := by
        unfold cancel ExportCancellation.cancel
        rw [uncommitted]
        rfl
      rw [cancels, ih ((cancel_commitState history).trans uncommitted), flagged]
      simp

def logLink (history : CancelHistory) : CancelHistory :=
  { history with log := history.log ++ [.link] }

def commit (history : CancelHistory) : CancelHistory :=
  { history with cells := { history.cells with commitState := .committed } }

/-! ## Cancel and commit agree -/

/-- An accepted cancel has no link after it, and a link no accepted cancel. -/
def Compatible (earlier later : Event) : Prop :=
  (earlier = .cancel true → later ≠ .link) ∧ (earlier = .link → later ≠ .cancel true)

instance : DecidableRel Compatible := fun _ _ => inferInstanceAs (Decidable (_ ∧ _))

/-- The log agrees, and the cells remember an accepted cancel and a link. -/
structure Consistent (history : CancelHistory) : Prop where
  agrees : history.log.Pairwise Compatible
  flagged : .cancel true ∈ history.log → history.cells.cancelled = true
  closed : .link ∈ history.log → history.cells.commitState = .committed

theorem consistent_new : Consistent new := by
  constructor
  · exact List.Pairwise.nil
  · intro absent
    cases absent
  · intro absent
    cases absent

theorem Consistent.append {history : CancelHistory} (consistent : history.Consistent)
    {event : Event} {cells : ExportCancellation}
    (fits : ∀ earlier ∈ history.log, Compatible earlier event)
    (flag : history.cells.cancelled = true ∨ event = .cancel true → cells.cancelled = true)
    (state : history.cells.commitState = .committed ∨ event = .link →
      cells.commitState = .committed) :
    Consistent ⟨cells, history.log ++ [event]⟩ := by
  constructor
  · rw [List.pairwise_append]
    refine ⟨consistent.agrees, List.pairwise_singleton _ _, ?_⟩
    intro earlier member later last
    rw [List.mem_singleton] at last
    exact last ▸ fits earlier member
  · intro member
    rcases List.mem_append.mp member with before | last
    · exact flag (.inl (consistent.flagged before))
    · exact flag (.inr (List.mem_singleton.mp last).symm)
  · intro member
    rcases List.mem_append.mp member with before | last
    · exact state (.inl (consistent.closed before))
    · exact state (.inr (List.mem_singleton.mp last).symm)

theorem Consistent.cancel {history : CancelHistory} (consistent : history.Consistent) :
    history.cancel.Consistent := by
  unfold CancelHistory.cancel ExportCancellation.cancel
  by_cases committed : history.cells.commitState = .committed
  · rw [if_pos committed]
    apply consistent.append
    · intro earlier _
      exact ⟨fun _ => by simp, fun _ => by simp⟩
    · rintro (flagged | impossible)
      · exact flagged
      · cases impossible
    · intro _
      exact committed
  · rw [if_neg committed]
    apply consistent.append
    · intro earlier member
      constructor
      · intro _
        simp
      · rintro rfl
        exact absurd (consistent.closed member) committed
    · intro _
      rfl
    · rintro (state | impossible)
      · exact state
      · cases impossible

theorem Consistent.cancels {history : CancelHistory} (consistent : history.Consistent)
    (count : Nat) : (history.cancels count).Consistent := by
  induction count generalizing history with
  | zero => exact consistent
  | succ count ih => exact ih consistent.cancel

/-- The link and its commit happen under one lock: nobody sees the log between them. -/
theorem Consistent.commitLink {history : CancelHistory} (consistent : history.Consistent)
    (clear : history.cells.cancelled = false) : history.logLink.commit.Consistent := by
  apply consistent.append
  · intro earlier member
    constructor
    · rintro rfl
      have flagged := consistent.flagged member
      rw [clear] at flagged
      cases flagged
    · intro _
      simp
  · rintro (flagged | impossible)
    · exact flagged
    · cases impossible
  · intro _
    rfl

end CancelHistory

end Guiying.Export
