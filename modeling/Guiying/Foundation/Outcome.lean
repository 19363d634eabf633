import Mathlib.Tactic.TypeStar

/-!
# Outcomes of fallible code

A computation that can fail returns `Except`. A successful composite splits into
its successful parts.
-/

namespace Guiying.Foundation.Outcome

universe u v

theorem bind_eq_ok {ε : Type u} {α β : Type v} {first : Except ε α} {next : α → Except ε β}
    {result : β} :
    first >>= next = .ok result ↔ ∃ value, first = .ok value ∧ next value = .ok result := by
  cases first <;> simp [bind, Except.bind]

@[simp] theorem ok_bind {ε : Type u} {α β : Type v} (value : α) (next : α → Except ε β) :
    (Except.ok value >>= next) = next value := rfl

@[simp] theorem error_bind {ε : Type u} {α β : Type v} (error : ε) (next : α → Except ε β) :
    (Except.error error >>= next) = .error error := rfl

/-- A missing value as an error. -/
def orError {ε : Type u} {α : Type v} (error : ε) : Option α → Except ε α
  | some value => .ok value
  | none => .error error

theorem orError_eq_ok {ε : Type u} {α : Type v} {error : ε} {found : Option α} {value : α} :
    orError error found = .ok value ↔ found = some value := by
  cases found <;> simp [orError]

/-- Stop with `error` when the condition holds. -/
def refuse {ε : Type u} (condition : Bool) (error : ε) : Except ε Unit :=
  if condition then .error error else .ok ()

theorem refuse_eq_ok {ε : Type u} {condition : Bool} {error : ε} {done : Unit} :
    refuse condition error = .ok done ↔ condition = false := by
  cases condition <;> simp [refuse]

/-- A renamed error does not change the success. -/
theorem mapError_eq_ok {ε ε' : Type u} {α : Type v} {change : ε → ε'} {result : Except ε α}
    {value : α} : result.mapError change = .ok value ↔ result = .ok value := by
  cases result with
  | error error =>
      constructor
      · intro renamed
        cases renamed
      · intro found
        cases found
  | ok found =>
      constructor
      · intro renamed
        cases renamed
        rfl
      · intro same
        cases same
        rfl

theorem toOption_eq_some {ε : Type u} {α : Type v} {result : Except ε α} {value : α} :
    result.toOption = some value ↔ result = .ok value := by
  cases result <;> simp [Except.toOption]

end Guiying.Foundation.Outcome
