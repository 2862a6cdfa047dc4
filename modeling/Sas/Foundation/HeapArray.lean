import Mathlib.Data.Multiset.MapFold
import Mathlib.Data.Multiset.Range
import Mathlib.Logic.Equiv.Basic

/-! # Heaps in arrays

A binary heap that is kept in the first entries of an array: the children of an index are twice the
index plus one and plus two. Rearranging the array by exchanges keeps the entries as a multiset.
-/

namespace Foundation

variable {Entry : Type*}

/-- The entries of an array below a count. -/
def entriesOf (array : Nat → Entry) (count : Nat) : Multiset Entry :=
  (Multiset.range count).map array

/-- The array with two of its entries exchanged. -/
def exchanged (array : Nat → Entry) (first second : Nat) : Nat → Entry :=
  Function.update (Function.update array first (array second)) second (array first)

section

variable {array array' : Nat → Entry} {count first second : Nat} {entry : Entry}

@[simp] theorem entriesOf_zero (array : Nat → Entry) : entriesOf array 0 = 0 := rfl

/-- One slot more adds its entry. -/
theorem entriesOf_succ (array : Nat → Entry) (count : Nat) :
    entriesOf array (count + 1) = array count ::ₘ entriesOf array count := by
  rw [entriesOf, Multiset.range_succ, Multiset.map_cons]
  rfl

theorem mem_entriesOf : entry ∈ entriesOf array count ↔ ∃ index < count, array index = entry := by
  simp only [entriesOf, Multiset.mem_map, Multiset.mem_range]

theorem card_entriesOf (array : Nat → Entry) (count : Nat) :
    (entriesOf array count).card = count := by
  rw [entriesOf, Multiset.card_map, Multiset.card_range]

/-- The entries are distinct exactly if no two slots hold the same one. -/
theorem nodup_entriesOf : (entriesOf array count).Nodup ↔
    ∀ first < count, ∀ second < count, array first = array second → first = second := by
  rw [entriesOf, Multiset.nodup_map_iff_inj_on (Multiset.nodup_range count)]
  simp only [Multiset.mem_range]

/-- The entries below a count depend on nothing above it. -/
theorem entriesOf_congr (same : ∀ index < count, array' index = array index) :
    entriesOf array' count = entriesOf array count :=
  Multiset.map_congr rfl fun index member => same index (Multiset.mem_range.mp member)

/-- Writing behind the last entry adds one. -/
theorem entriesOf_push (array : Nat → Entry) (count : Nat) (entry : Entry) :
    entriesOf (Function.update array count entry) (count + 1) = entry ::ₘ entriesOf array count := by
  rw [entriesOf_succ, Function.update_self, entriesOf_congr]
  intro index below
  exact Function.update_of_ne (Nat.ne_of_lt below) _ _

/-- An exchange is a permutation of the indices. -/
theorem exchanged_eq (array : Nat → Entry) (first second : Nat) :
    exchanged array first second = array ∘ Equiv.swap first second := by
  funext index
  unfold exchanged
  rw [Function.comp_apply, Equiv.swap_apply_def, Function.update_apply, Function.update_apply]
  by_cases isSecond : index = second
  · rw [if_pos isSecond]
    by_cases isFirst : index = first
    · rw [if_pos isFirst, ← isSecond, isFirst]
    · rw [if_neg isFirst, if_pos isSecond]
  · rw [if_neg isSecond]
    by_cases isFirst : index = first
    · rw [if_pos isFirst, if_pos isFirst]
    · rw [if_neg isFirst, if_neg isFirst, if_neg isSecond]

/-- Exchanging two entries keeps them all. -/
theorem entriesOf_exchanged (array : Nat → Entry) (below : first < count) (below' : second < count) :
    entriesOf (exchanged array first second) count = entriesOf array count := by
  have indices : (Multiset.range count).map (Equiv.swap first second) = Multiset.range count := by
    refine Multiset.Nodup.ext
      (Multiset.Nodup.map (Equiv.injective _) (Multiset.nodup_range count))
      (Multiset.nodup_range count) |>.mpr fun index => ?_
    rw [Multiset.mem_map, Multiset.mem_range]
    constructor
    · rintro ⟨other, member, rfl⟩
      rw [Multiset.mem_range] at member
      rw [Equiv.swap_apply_def]
      split
      · exact below'
      · split
        · exact below
        · exact member
    · intro inside
      refine ⟨Equiv.swap first second index, ?_, Equiv.swap_apply_self first second index⟩
      rw [Multiset.mem_range, Equiv.swap_apply_def]
      split
      · exact below'
      · split
        · exact below
        · exact inside
  rw [entriesOf, exchanged_eq, ← Multiset.map_map, indices]
  rfl

/-- Moving the last entry to the front takes the first one out. -/
theorem entriesOf_pop (array : Nat → Entry) (count : Nat) :
    entriesOf array (count + 1) =
      array 0 ::ₘ entriesOf (Function.update array 0 (array count)) count := by
  cases count with
  | zero => rfl
  | succ count =>
      have whole := entriesOf_exchanged array (Nat.succ_pos (count + 1))
        (Nat.lt_succ_self (count + 1))
      rw [← whole, entriesOf_succ]
      congr 1
      · exact Function.update_self _ _ _
      · refine entriesOf_congr fun index below => ?_
        exact Function.update_of_ne (Nat.ne_of_lt below) _ _

end

end Foundation
