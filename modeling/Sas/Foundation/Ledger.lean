import Mathlib.Data.List.Perm.Basic
import Mathlib.Data.List.Count

/-! # Ledgers

A log of calls opens and closes numbered things, and a number may be opened again once it has been
closed. What is held under a number is a balance that every call moves by a known amount, so what is
true of a log follows from its parts.
-/

namespace Foundation

/-- The calls of a log that open and close something under a number. -/
class Ledger (Call : Type*) where
  opened? : Call → Option Int
  closed? : Call → Option Int

namespace Ledger

variable {Call : Type*} [Ledger Call]

/-- The numbers opened, in order. -/
def opened (calls : List Call) : List Int := calls.filterMap opened?

/-- The numbers closed, in order. -/
def closed (calls : List Call) : List Int := calls.filterMap closed?

/-- How often a number has been opened more than closed. -/
def held (calls : List Call) (number : Int) : Int :=
  (opened calls).count number - (closed calls).count number

/-- Every number has been closed as often as it has been opened. -/
def Released (calls : List Call) : Prop := (closed calls).Perm (opened calls)

/-- Nothing is held but this number, and nothing at all if it is negative. -/
def Only (calls : List Call) (number : Int) : Prop :=
  ∀ other, held calls other = if other = number ∧ 0 ≤ number then 1 else 0

@[simp] theorem opened_append (first second : List Call) :
    opened (first ++ second) = opened first ++ opened second := List.filterMap_append

@[simp] theorem closed_append (first second : List Call) :
    closed (first ++ second) = closed first ++ closed second := List.filterMap_append

@[simp] theorem held_append (first second : List Call) (number : Int) :
    held (first ++ second) number = held first number + held second number := by
  unfold held
  rw [opened_append, closed_append, List.count_append, List.count_append]
  omega

variable {calls more : List Call} {number : Int}

/-- Calls that open and close nothing leave the balance. -/
theorem held_of_neutral (opens : opened calls = []) (closes : closed calls = []) (number : Int) :
    held calls number = 0 := by
  rw [held, opens, closes]
  rfl

/-- One call counts for its own descriptor and for no other. -/
theorem count_singleton_eq (number other : Int) :
    ([number].count other : Int) = if other = number then 1 else 0 := by
  rw [List.count_singleton]
  by_cases same : other = number
  · rw [if_pos (beq_iff_eq.mpr same.symm), if_pos same]
    rfl
  · rw [if_neg fun equal => same (beq_iff_eq.mp equal).symm, if_neg same]
    rfl

/-- Calls that close one number and open nothing. -/
theorem held_of_closed (opens : opened calls = []) (closes : closed calls = [number]) (other : Int) :
    held calls other = if other = number then -1 else 0 := by
  have count := count_singleton_eq number other
  rw [held, opens, closes, List.count_nil, count]
  split <;> rfl

/-- Calls that open one number and close nothing. -/
theorem held_of_opened (opens : opened calls = [number]) (closes : closed calls = []) (other : Int) :
    held calls other = if other = number then 1 else 0 := by
  have count := count_singleton_eq number other
  rw [held, opens, closes, List.count_nil, count]
  split <;> rfl

/-- Calls that close what they open leave the balance. -/
theorem held_of_eq (same : opened calls = closed calls) (number : Int) : held calls number = 0 := by
  rw [held, same]
  exact Int.sub_self _

/-- A ledger is released exactly if its balance is zero for every number. -/
theorem released_iff : Released calls ↔ ∀ number, held calls number = 0 := by
  unfold Released held
  rw [List.perm_iff_count]
  exact forall_congr' fun number => by omega

theorem only_nil {number : Int} (negative : number < 0) : Only ([] : List Call) number := fun _ =>
  (if_neg fun both => absurd both.2 (Int.not_le.mpr negative)).symm

/-- Where nothing but one number is held, closing it releases everything. -/
theorem Only.released (only : Only calls number) (nonneg : 0 ≤ number) (opens : opened more = [])
    (closes : closed more = [number]) : Released (calls ++ more) := by
  rw [released_iff]
  intro other
  rw [held_append, only, held_of_closed opens closes]
  by_cases same : other = number
  · rw [if_pos ⟨same, nonneg⟩, if_pos same]
    rfl
  · rw [if_neg fun both => same both.1, if_neg same]
    rfl

/-- Where nothing is held, everything has been released. -/
theorem Only.released_of_neg (only : Only calls number) (negative : number < 0) : Released calls := by
  rw [released_iff]
  intro other
  rw [only, if_neg fun both => absurd both.2 (Int.not_le.mpr negative)]

/-- Where everything has been released, nothing but a negative number is held. -/
theorem only_of_released (released : Released calls) {number : Int} (negative : number < 0) :
    Only calls number := by
  intro other
  rw [released_iff.mp released, if_neg fun both => absurd both.2 (Int.not_le.mpr negative)]

/-- Behind calls that hold nothing, a log holds what it holds by itself. -/
theorem Only.append (only : Only calls number) (negative : number < 0) {other : Int}
    (rest : Only more other) : Only (calls ++ more) other := by
  intro third
  rw [held_append, only, rest, if_neg fun both => absurd both.2 (Int.not_le.mpr negative),
    Int.zero_add]

/-- Something is held beside this number. -/
def Exceeds (calls : List Call) (number : Int) : Prop :=
  ∃ other, (if other = number ∧ 0 ≤ number then 1 else 0) < held calls other

/-- What is held beside a number stays held when this number is closed. -/
theorem Exceeds.close (exceeds : Exceeds calls number) (nonneg : 0 ≤ number)
    (opens : opened more = []) (closes : closed more = [number]) {other : Int}
    (negative : other < 0) : Exceeds (calls ++ more) other := by
  obtain ⟨kept, held⟩ := exceeds
  refine ⟨kept, ?_⟩
  rw [held_append, held_of_closed opens closes,
    if_neg fun both => absurd both.2 (Int.not_le.mpr negative)]
  by_cases same : kept = number
  · rw [if_pos ⟨same, nonneg⟩] at held
    rw [if_pos same]
    omega
  · rw [if_neg fun both => same both.1] at held
    rw [if_neg same]
    omega

/-- What is held stays held when another number is opened. -/
theorem Exceeds.append (exceeds : Exceeds calls number) (negative : number < 0) {other : Int}
    (rest : Only more other) : Exceeds (calls ++ more) other := by
  obtain ⟨kept, held⟩ := exceeds
  rw [if_neg fun both => absurd both.2 (Int.not_le.mpr negative)] at held
  refine ⟨kept, ?_⟩
  rw [held_append, rest]
  omega

/-- A log that holds something is not released. -/
theorem Exceeds.not_released (exceeds : Exceeds calls number) : ¬ Released calls := by
  intro released
  obtain ⟨kept, held⟩ := exceeds
  rw [released_iff.mp released] at held
  split at held <;> omega

/-- A number that is forgotten is held beside any other. -/
theorem Only.exceeds (only : Only calls number) (nonneg : 0 ≤ number) {other : Int}
    (negative : other < 0) : Exceeds calls other := by
  refine ⟨number, ?_⟩
  rw [only, if_neg fun both => absurd both.2 (Int.not_le.mpr negative), if_pos ⟨rfl, nonneg⟩]
  decide

/-- A log that exceeds a negative number exceeds every negative number. -/
theorem Exceeds.of_neg (exceeds : Exceeds calls number) {other : Int} (negative : other < 0) :
    Exceeds calls other := by
  obtain ⟨kept, held⟩ := exceeds
  refine ⟨kept, ?_⟩
  rw [if_neg fun both => absurd both.2 (Int.not_le.mpr negative)]
  split at held <;> omega

end Ledger

end Foundation
