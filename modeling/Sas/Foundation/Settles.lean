import Mathlib.Logic.Function.Basic

/-! # Computations that settle

A computation over some fuel that gives the same good result whenever the fuel is enough, whatever
else it depends on: total correctness for definitions that would run out of fuel otherwise.
-/

namespace Foundation

universe u

variable {Error α β : Type*} {Other : Type u} {Other' : Type*}

/-- With enough fuel the computation has one result, and the result is good. -/
def Settles (computation : Nat → Other → Except Error α) (good : α → Prop) : Prop :=
  ∃ enough result, (∀ more other, computation (enough + more) other = .ok result) ∧ good result

namespace Settles

variable {computation : Nat → Other → Except Error α} {good : α → Prop}

theorem pure {result : α} (holds : good result) :
    Settles (fun _ (_ : Other) => (.ok result : Except Error α)) good :=
  ⟨0, result, fun _ _ => rfl, holds⟩

/-- A computation that settles in a good result settles in whatever is weaker. -/
theorem mono (settles : Settles computation good) {weaker : α → Prop}
    (weakens : ∀ result, good result → weaker result) : Settles computation weaker := by
  obtain ⟨enough, result, done, holds⟩ := settles
  exact ⟨enough, result, done, weakens result holds⟩

/-- A computation that goes on once another has settled. -/
theorem bind (settles : Settles computation good) {next : Nat → Other → α → Except Error β}
    {better : β → Prop}
    (later : ∀ result, good result → Settles (fun fuel other => next fuel other result) better) :
    Settles (fun fuel other => (computation fuel other).bind (next fuel other)) better := by
  obtain ⟨first, middle, done, holds⟩ := settles
  obtain ⟨second, result, done', holds'⟩ := later middle holds
  refine ⟨first + second, result, fun more other => ?_, holds'⟩
  have before : computation (first + second + more) other = .ok middle := by
    rw [Nat.add_assoc]
    exact done (second + more) other
  have after : next (first + second + more) other middle = .ok result := by
    rw [Nat.add_comm first, Nat.add_assoc]
    exact done' (first + more) other
  dsimp only
  rw [before]
  exact after

/-- What is made of the result settles where the result does. -/
theorem map (settles : Settles computation good) (f : α → β) {better : β → Prop}
    (carries : ∀ result, good result → better (f result)) :
    Settles (fun fuel other => (computation fuel other).map f) better := by
  obtain ⟨enough, result, done, holds⟩ := settles
  refine ⟨enough, f result, fun more other => ?_, carries result holds⟩
  dsimp only
  rw [done more other]
  rfl

/-- A computation that uses up one unit of fuel first. -/
theorem succ (settles : Settles (fun fuel other => computation (fuel + 1) other) good) :
    Settles computation good := by
  obtain ⟨enough, result, done, holds⟩ := settles
  refine ⟨enough + 1, result, fun more other => ?_, holds⟩
  rw [Nat.add_right_comm]
  exact done more other

/-- What else a computation depends on may come from elsewhere, the fuel included. -/
theorem reindex (settles : Settles computation good) (index : Nat → Other' → Other) :
    Settles (fun fuel other => computation fuel (index fuel other)) good := by
  obtain ⟨enough, result, done, holds⟩ := settles
  exact ⟨enough, result, fun more _ => done more _, holds⟩

/-- Computations that are the same settle alike. -/
theorem congr {other : Nat → Other → Except Error α} (settles : Settles computation good)
    (same : ∀ fuel index, other fuel index = computation fuel index) : Settles other good := by
  obtain ⟨enough, result, done, holds⟩ := settles
  exact ⟨enough, result, fun more index => (same _ _).trans (done more index), holds⟩

end Settles

end Foundation
