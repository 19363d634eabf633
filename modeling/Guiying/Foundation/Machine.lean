import Mathlib.Tactic.TypeStar

/-!
# State machines

A machine takes actions one after the other; an action that is not possible in a
state has no next state. A run may be confined to the steps a condition allows.
An invariant of the allowed steps holds in every state such a run reaches.
-/

namespace Guiying.Foundation

universe u v

structure Machine (σ : Type u) (α : Type v) where
  init : σ
  step : σ → α → Option σ

namespace Machine

variable {σ : Type u} {α : Type v}

/-- The state after a list of actions, when each is possible in its turn. -/
def after (machine : Machine σ α) : σ → List α → Option σ
  | state, [] => some state
  | state, action :: rest => (machine.step state action).bind fun next => machine.after next rest

/-- The states of the runs whose steps all meet `allowed`. -/
inductive Reaches (machine : Machine σ α) (allowed : σ → α → Prop) : σ → Prop
  | init : Reaches machine allowed machine.init
  | step {state next : σ} {action : α} (reached : Reaches machine allowed state)
      (meets : allowed state action) (stepped : machine.step state action = some next) :
      Reaches machine allowed next

/-- Every state of every run. -/
abbrev Reachable (machine : Machine σ α) : σ → Prop := machine.Reaches fun _ _ => True

variable {machine : Machine σ α} {allowed : σ → α → Prop}

theorem Reaches.invariant {inv : σ → Prop} (start : inv machine.init)
    (keeps : ∀ state action next, inv state → allowed state action →
      machine.step state action = some next → inv next)
    {state : σ} (reached : machine.Reaches allowed state) : inv state := by
  induction reached with
  | init => exact start
  | step _ meets stepped ih => exact keeps _ _ _ ih meets stepped

/-- A run given by its actions, each of them allowed where it is taken. -/
theorem Reaches.after {state : σ} (reached : machine.Reaches allowed state) {actions : List α}
    {last : σ} (ran : machine.after state actions = some last)
    (meets : ∀ state action, action ∈ actions → allowed state action) :
    machine.Reaches allowed last := by
  induction actions generalizing state with
  | nil =>
      cases ran
      exact reached
  | cons action rest ih =>
      obtain ⟨next, stepped, ran⟩ := Option.bind_eq_some_iff.mp ran
      have first := meets state action List.mem_cons_self
      exact ih (.step reached first stepped) ran fun state other member =>
        meets state other (List.mem_cons_of_mem _ member)

theorem after_append (machine : Machine σ α) (state : σ) (first second : List α) :
    machine.after state (first ++ second) =
      (machine.after state first).bind fun next => machine.after next second := by
  induction first generalizing state with
  | nil => rfl
  | cons action rest ih =>
      simp only [List.cons_append, after]
      cases machine.step state action with
      | none => rfl
      | some next => exact ih next

/-- An invariant of the steps holds at the end of a run that starts with it. -/
theorem after_invariant {inv : σ → Prop}
    (keeps : ∀ state action next, inv state → machine.step state action = some next → inv next)
    {state last : σ} (start : inv state) {actions : List α}
    (ran : machine.after state actions = some last) : inv last := by
  induction actions generalizing state with
  | nil =>
      cases ran
      exact start
  | cons action rest ih =>
      obtain ⟨next, stepped, ran⟩ := Option.bind_eq_some_iff.mp ran
      exact ih (keeps state action next start stepped) ran

/-! ## What a run shows -/

variable {τ : Type u} {ε : Type v}

/-- What an observer sees of a run, step after step. -/
def shown (machine : Machine σ α) (see : σ → σ → List ε) : σ → List α → List ε
  | _, [] => []
  | state, action :: rest =>
      match machine.step state action with
      | none => []
      | some next => see state next ++ machine.shown see next rest

/-- When each step shows what takes one abstract state to the next, so does each run. -/
theorem after_shown {spec : Machine τ ε} {abstraction : σ → τ} {see : σ → σ → List ε}
    {inv : σ → Prop}
    (keeps : ∀ state action next, inv state → machine.step state action = some next → inv next)
    (agrees : ∀ state action next, inv state → machine.step state action = some next →
      spec.after (abstraction state) (see state next) = some (abstraction next))
    {state last : σ} (start : inv state) {actions : List α}
    (ran : machine.after state actions = some last) :
    spec.after (abstraction state) (machine.shown see state actions) =
      some (abstraction last) := by
  induction actions generalizing state with
  | nil =>
      cases ran
      rfl
  | cons action rest ih =>
      obtain ⟨next, stepped, ran⟩ := Option.bind_eq_some_iff.mp ran
      have later := ih (keeps state action next start stepped) ran
      have now := agrees state action next start stepped
      simp only [shown, stepped]
      rw [after_append, now]
      exact later

end Machine

end Guiying.Foundation
