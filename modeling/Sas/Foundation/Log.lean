import Mathlib.Data.List.Basic

/-! # Logs of several parties

A log records what happens together with the party it happens to. The share of a party is its part
of the log, in order.
-/

namespace Foundation

variable {Party Event : Type*} [DecidableEq Party]

/-- What a log records of one party. -/
def shareOf (party : Party) (log : List (Party × Event)) : List Event :=
  (log.filter fun entry => entry.1 = party).map Prod.snd

variable {party other : Party}

@[simp] theorem shareOf_append (first second : List (Party × Event)) :
    shareOf party (first ++ second) = shareOf party first ++ shareOf party second := by
  rw [shareOf, List.filter_append, List.map_append]
  rfl

/-- All events of a party are its share. -/
theorem shareOf_self (events : List Event) :
    shareOf party (events.map fun event => (party, event)) = events := by
  induction events with
  | nil => rfl
  | cons event events ih =>
      rw [List.map_cons, ← List.singleton_append, shareOf_append, ih]
      simp only [shareOf, decide_true, List.filter_cons_of_pos, List.filter_nil, List.map_cons,
        List.map_nil, List.singleton_append]

/-- The events of one party are no share of another. -/
theorem shareOf_other (differ : other ≠ party) (events : List Event) :
    shareOf other (events.map fun event => (party, event)) = [] := by
  induction events with
  | nil => rfl
  | cons event events ih =>
      rw [List.map_cons, ← List.singleton_append, shareOf_append, ih]
      simp only [shareOf, differ.symm, decide_false, Bool.false_eq_true, not_false_eq_true,
        List.filter_cons_of_neg, List.filter_nil, List.map_nil, List.append_nil]

/-- A party the log does not mention has no share. -/
theorem shareOf_eq_nil {log : List (Party × Event)} (absent : ∀ entry ∈ log, entry.1 ≠ party) :
    shareOf party log = [] := by
  have none : log.filter (fun entry => entry.1 = party) = [] := by
    apply List.filter_eq_nil_iff.mpr
    intro entry member
    simpa using absent entry member
  rw [shareOf, none, List.map_nil]

end Foundation
