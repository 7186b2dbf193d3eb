/-
This file takes results apart that come from other results.
-/

namespace DeskScript

variable {fault α β : Type}

/-- A result that comes from another one is there only if the other one is. -/
theorem okOfBind {first : Except fault α} {next : α → Except fault β} {value : β}
    (done : first >>= next = .ok value) :
    ∃ middle, first = .ok middle ∧ next middle = .ok value := by
  cases first with
  | error reason => cases done
  | ok middle => exact ⟨middle, rfl, done⟩

theorem okOfIf {condition : Prop} [Decidable condition] {first second : Except fault α} {value : α}
    (done : (if condition then first else second) = .ok value) :
    first = .ok value ∨ second = .ok value := by
  by_cases holds : condition
  · exact .inl (by rwa [if_pos holds] at done)
  · exact .inr (by rwa [if_neg holds] at done)

theorem valueOfToBool {outcome : Except fault α} (isOk : outcome.toBool = true) :
    ∃ value, outcome = .ok value := by
  cases outcome with
  | error reason => cases isOk
  | ok value => exact ⟨value, rfl⟩

theorem okOfToBool {outcome : Except fault Unit} (isOk : outcome.toBool = true) :
    outcome = .ok () := by
  obtain ⟨_, isValue⟩ := valueOfToBool isOk
  exact isValue

theorem errorOfBind {first : Except fault α} {next : α → Except fault β} {reason : fault}
    (failed : first >>= next = .error reason) :
    first = .error reason ∨ ∃ middle, first = .ok middle ∧ next middle = .error reason := by
  cases first with
  | error cause => exact .inl (by rw [Except.error.inj failed])
  | ok middle => exact .inr ⟨middle, rfl, failed⟩

theorem okOfMap {first : Except fault α} {change : α → β} {value : β}
    (done : first.map change = .ok value) :
    ∃ middle, first = .ok middle ∧ change middle = value := by
  cases first with
  | error reason => cases done
  | ok middle =>
      cases done
      exact ⟨middle, rfl, rfl⟩

theorem okOfMapError {reason : Type} {first : Except fault α} {change : fault → reason} {value : α}
    (done : first.mapError change = .ok value) : first = .ok value := by
  cases first with
  | error reason => cases done
  | ok middle => rw [Except.ok.inj done]

end DeskScript
