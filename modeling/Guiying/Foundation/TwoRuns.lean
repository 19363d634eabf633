import Guiying.Foundation.Program

/-!
# Two runs side by side

A program follows another when, from related states, both return related values or stop with
related errors, and leave related states. Some errors of the followed run are out of comparison:
they say that the run was cut short.
-/

namespace Guiying.Foundation

universe u u' v v' w w'

/-- What relates the runs of two programs. -/
structure Lockstep (σ : Type u) (ε : Type v) (τ : Type u') (ε' : Type v') where
  state : σ → τ → Prop
  error : ε → ε' → Prop
  cut : ε' → Prop

namespace Lockstep

variable {σ : Type u} {ε : Type v} {τ : Type u'} {ε' : Type v'} {α γ : Type w} {β δ : Type w'}

/-- The end of one run next to the end of the run it follows. -/
def Ends (lock : Lockstep σ ε τ ε') (same : α → β → Prop) :
    Except ε α × σ → Except ε' β × τ → Prop
  | (.ok left, s), (.ok right, t) => same left right ∧ lock.state s t
  | (.error left, s), (.error right, t) => lock.cut right ∨ lock.error left right ∧ lock.state s t
  | (.ok _, _), (.error right, _) => lock.cut right
  | (.error _, _), (.ok _, _) => False

/-- `left` follows `right`. -/
def Follows (lock : Lockstep σ ε τ ε') (same : α → β → Prop) (left : Program σ ε α)
    (right : Program τ ε' β) : Prop :=
  ∀ s t, lock.state s t → lock.Ends same (left s) (right t)

variable {lock : Lockstep σ ε τ ε'} {same : α → β → Prop} {also : γ → δ → Prop}
  {left : Program σ ε α} {right : Program τ ε' β}

theorem ends_cut {ended : Except ε α × σ} {error : ε'} {after : τ} (cut : lock.cut error) :
    lock.Ends same ended (.error error, after) := by
  obtain ⟨outcome, state⟩ := ended
  cases outcome with
  | ok _ => exact cut
  | error _ => exact .inl cut

theorem follows_pure {first : α} {second : β} (related : same first second) :
    lock.Follows same (pure first) (pure second) :=
  fun _ _ states => ⟨related, states⟩

theorem follows_fail {first : ε} {second : ε'} (related : lock.error first second) :
    lock.Follows same (Program.fail first) (Program.fail second) :=
  fun _ _ states => .inr ⟨related, states⟩

/-- Nothing is asked of a run that follows one cut short. -/
theorem follows_cut {error : ε'} (cut : lock.cut error) :
    lock.Follows same left (Program.fail error) :=
  fun _ _ _ => ends_cut cut

theorem Follows.bind {next : α → Program σ ε γ} {next' : β → Program τ ε' δ}
    (first : lock.Follows same left right)
    (rest : ∀ value value', same value value' → lock.Follows also (next value) (next' value')) :
    lock.Follows also (left >>= next) (right >>= next') := by
  intro s t states
  have ends := first s t states
  rw [Program.bind_run, Program.bind_run]
  generalize left s = ended at ends ⊢
  generalize right t = ended' at ends ⊢
  obtain ⟨outcome, s'⟩ := ended
  obtain ⟨outcome', t'⟩ := ended'
  cases outcome' with
  | error error' =>
      cases outcome with
      | error error => exact ends
      | ok value => exact ends_cut ends
  | ok value' =>
      cases outcome with
      | error error => exact ends.elim
      | ok value => exact rest value value' ends.1 s' t' ends.2

/-- Guards that agree, and errors that do. -/
theorem follows_ensure {condition condition' : Prop} [Decidable condition] [Decidable condition']
    {first : ε} {second : ε'} (agree : condition ↔ condition')
    (related : lock.error first second) :
    lock.Follows (fun _ _ => condition) (Program.ensure condition first)
      (Program.ensure condition' second) := by
  by_cases holds : condition
  · rw [decide_eq_true holds, decide_eq_true (agree.mp holds)]
    exact follows_pure holds
  · rw [decide_eq_false holds, decide_eq_false fun other => holds (agree.mpr other)]
    exact follows_fail related

theorem follows_orFail {found : Option α} {found' : Option β} {first : ε} {second : ε'}
    (agree : Option.Rel same found found') (related : lock.error first second) :
    lock.Follows same (Program.orFail first found) (Program.orFail second found') := by
  cases agree with
  | none => exact follows_fail related
  | some values => exact follows_pure values

theorem follows_update {change : σ → σ} {change' : τ → τ}
    (keeps : ∀ s t, lock.state s t → lock.state (change s) (change' t)) :
    lock.Follows (fun _ _ => True) (Program.update change) (Program.update change') :=
  fun s t states => ⟨trivial, keeps s t states⟩

theorem Follows.mono {wider : α → β → Prop} (follows : lock.Follows same left right)
    (weaker : ∀ first second, same first second → wider first second) :
    lock.Follows wider left right := by
  intro s t states
  have ends := follows s t states
  generalize left s = ended at ends ⊢
  generalize right t = ended' at ends ⊢
  obtain ⟨outcome, s'⟩ := ended
  obtain ⟨outcome', t'⟩ := ended'
  cases outcome' with
  | error error' => cases outcome <;> exact ends
  | ok value' =>
      cases outcome with
      | error error => exact ends
      | ok value => exact ⟨weaker _ _ ends.1, ends.2⟩

end Lockstep

end Guiying.Foundation
