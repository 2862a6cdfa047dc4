import Mathlib.Data.List.Induction

/-! # Properties of an entry and what comes before it

A log satisfies `Each holds` when every entry satisfies `holds` together with the entries before
it. Appending to the log is then checked at the new entry alone.
-/

namespace Foundation

variable {Entry : Type*}

/-- Every entry of the log satisfies `holds` with the entries before it. -/
def Each (holds : List Entry → Entry → Prop) (log : List Entry) : Prop :=
  ∀ before entry after, log = before ++ entry :: after → holds before entry

namespace Each

variable {holds : List Entry → Entry → Prop} {log : List Entry} {entry : Entry}

theorem nil : Each holds [] := by
  intro before entry after split
  exact (List.append_ne_nil_of_right_ne_nil _ (List.cons_ne_nil _ _) split.symm).elim

/-- A property of every entry passes to the log without its last entry, and to this entry. -/
theorem snoc_iff : Each holds (log ++ [entry]) ↔ Each holds log ∧ holds log entry := by
  constructor
  · intro each
    refine ⟨fun before first after split => ?_, each log entry [] rfl⟩
    refine each before first (after ++ [entry]) ?_
    rw [split, List.append_assoc, List.cons_append]
  · rintro ⟨each, last⟩ before first after split
    induction after using List.reverseRecOn with
    | nil =>
        obtain ⟨rfl, equal⟩ := List.append_inj' split rfl
        cases equal
        exact last
    | append_singleton after final _ =>
        rw [← List.cons_append, ← List.append_assoc] at split
        obtain ⟨shorter, _⟩ := List.append_inj' split rfl
        exact each before first after shorter

theorem snoc (each : Each holds log) (last : holds log entry) : Each holds (log ++ [entry]) :=
  snoc_iff.mpr ⟨each, last⟩

end Each

end Foundation
