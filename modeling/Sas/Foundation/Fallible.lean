import Mathlib.Logic.Function.Basic

/-! # Computations that may fail

What a successful `Except` computation says about its parts: the inversions of `map` and `bind`.
-/

namespace Foundation

variable {Error α β : Type*}

/-- A mapped computation succeeds where the computation does. -/
theorem map_eq_ok {computation : Except Error α} {f : α → β} {result : β}
    (done : computation.map f = .ok result) :
    ∃ value, computation = .ok value ∧ f value = result := by
  cases computation with
  | error => cases done
  | ok value => exact ⟨value, rfl, Except.ok.inj done⟩

/-- A sequence of two computations succeeds where both do. -/
theorem bind_eq_ok {computation : Except Error α} {next : α → Except Error β} {result : β}
    (done : computation.bind next = .ok result) :
    ∃ value, computation = .ok value ∧ next value = .ok result := by
  cases computation with
  | error => cases done
  | ok value => exact ⟨value, rfl, done⟩

/-- A sequence of two computations fails where one of them does. -/
theorem bind_eq_error {computation : Except Error α} {next : α → Except Error β} {error : Error}
    (failed : computation.bind next = .error error) :
    computation = .error error ∨ ∃ value, computation = .ok value ∧ next value = .error error := by
  cases computation with
  | error => exact .inl (congrArg Except.error (Except.error.inj failed))
  | ok value => exact .inr ⟨value, rfl, failed⟩

/-- A computation that succeeds is its result. -/
theorem eq_ok_getD {computation : Except Error α} (fine : computation.isOk = true) (other : α) :
    computation = .ok (computation.toOption.getD other) := by
  cases computation with
  | error => cases fine
  | ok value => rfl

end Foundation
