import Sas.Foundation.HeapArray
import Mathlib.Order.Defs.LinearOrder

/-! # The order of heaps in arrays

In an ordered heap no entry is less than its parent, the entry at half its index. Adding and removing
an entry leave a hole in the order, which exchanges move up or down until it closes. The order also
survives that one entry becomes greater, as long as its children are not less than it then.
-/

namespace Foundation

variable {Entry Key : Type*} [LinearOrder Key]

/-- No entry below the count is less than its parent. -/
def HeapOrdered (key : Entry → Key) (array : Nat → Entry) (count : Nat) : Prop :=
  ∀ index, index + 1 < count → key (array (index / 2)) ≤ key (array (index + 1))

/-- Only the entry at the hole may be less than its parent, and its children are not less than
that. -/
structure Rising (key : Entry → Key) (array : Nat → Entry) (count hole : Nat) : Prop where
  off : ∀ index, index + 1 < count → index + 1 ≠ hole →
    key (array (index / 2)) ≤ key (array (index + 1))
  across : ∀ index, index + 1 < count → index / 2 = hole → 0 < hole →
    key (array ((hole - 1) / 2)) ≤ key (array (index + 1))

/-- Only the children of the entry at the hole may be less than it, but not less than its
parent. -/
structure Sinking (key : Entry → Key) (array : Nat → Entry) (count hole : Nat) : Prop where
  off : ∀ index, index + 1 < count → index / 2 ≠ hole →
    key (array (index / 2)) ≤ key (array (index + 1))
  across : ∀ index, index + 1 < count → index / 2 = hole → 0 < hole →
    key (array ((hole - 1) / 2)) ≤ key (array (index + 1))

section

variable {key key' : Entry → Key} {array : Nat → Entry} {count first second hole index : Nat}
  {entry : Entry}

@[simp] theorem exchanged_second : exchanged array first second second = array first :=
  Function.update_self _ _ _

@[simp] theorem exchanged_first : exchanged array first second first = array second := by
  by_cases same : first = second
  · subst same
    exact exchanged_second
  · exact (Function.update_of_ne same _ _).trans (Function.update_self _ _ _)

theorem exchanged_other (notFirst : index ≠ first) (notSecond : index ≠ second) :
    exchanged array first second index = array index :=
  (Function.update_of_ne notSecond _ _).trans (Function.update_of_ne notFirst _ _)

/-- The first entry is the least. -/
theorem HeapOrdered.root_le (ordered : HeapOrdered key array count) (below : index < count) :
    key (array 0) ≤ key (array index) := by
  induction index using Nat.strongRecOn with
  | ind index ih =>
      cases index with
      | zero => exact le_refl _
      | succ index =>
          have half : index / 2 < index + 1 := Nat.lt_succ_of_le (Nat.div_le_self index 2)
          exact (ih _ half (half.trans below)).trans (ordered index below)

/-- The order looks at the keys of the entries in the array only. -/
theorem HeapOrdered.congr (ordered : HeapOrdered key array count)
    (same : ∀ index < count, key' (array index) = key (array index)) :
    HeapOrdered key' array count := by
  intro index below
  rw [same _ below, same (index / 2) (by omega)]
  exact ordered index below

/-- The order lasts if one entry becomes greater, but not greater than its children. -/
theorem HeapOrdered.raise (ordered : HeapOrdered key array count)
    (greater : ∀ index < count, array index = entry → key entry ≤ key' entry)
    (others : ∀ other, other ≠ entry → key' other = key other)
    (children : ∀ index, index + 1 < count → array (index / 2) = entry → array (index + 1) ≠ entry →
      key' entry ≤ key (array (index + 1))) : HeapOrdered key' array count := by
  intro index below
  by_cases child : array (index + 1) = entry
  · by_cases parent : array (index / 2) = entry
    · rw [child, parent]
    · rw [others _ parent]
      refine (ordered index below).trans ?_
      rw [child]
      exact greater (index + 1) below child
  · rw [others _ child]
    by_cases parent : array (index / 2) = entry
    · rw [parent]
      exact children index below parent child
    · rw [others _ parent]
      exact ordered index below

/-! ## Rising -/

/-- A new entry behind the last one rises. -/
theorem HeapOrdered.push (ordered : HeapOrdered key array count) (entry : Entry) :
    Rising key (Function.update array count entry) (count + 1) count where
  off index below notHole := by
    have inside : index + 1 < count := by omega
    rw [Function.update_of_ne notHole, Function.update_of_ne (by omega)]
    exact ordered index inside
  across index below child positive := by omega

/-- An entry that has risen to the root leaves the array in order. -/
theorem Rising.ordered_root (rising : Rising key array count 0) : HeapOrdered key array count :=
  fun index below => rising.off index below (Nat.succ_ne_zero index)

/-- The hole closes where the entry is not less than its parent. -/
theorem Rising.ordered (rising : Rising key array count (hole + 1))
    (above : key (array (hole / 2)) ≤ key (array (hole + 1))) : HeapOrdered key array count := by
  intro index below
  by_cases same : index = hole
  · rw [same]
    exact above
  · exact rising.off index below fun equal => same (Nat.succ.inj equal)

/-- An entry that is not greater than its parent takes its place. -/
theorem Rising.step (rising : Rising key array count (hole + 1)) (inside : hole + 1 < count)
    (lower : key (array (hole + 1)) ≤ key (array (hole / 2))) :
    Rising key (exchanged array (hole + 1) (hole / 2)) count (hole / 2) where
  off index below notHole := by
    by_cases child : index = hole
    · rw [child, exchanged_first, exchanged_second]
      exact lower
    have notFirst : index + 1 ≠ hole + 1 := fun equal => child (Nat.succ.inj equal)
    rw [exchanged_other notFirst notHole]
    by_cases under : index / 2 = hole + 1
    · rw [under, exchanged_first]
      exact rising.across index below under (Nat.succ_pos hole)
    by_cases sibling : index / 2 = hole / 2
    · rw [sibling, exchanged_second]
      refine lower.trans ?_
      rw [← sibling]
      exact rising.off index below notFirst
    · rw [exchanged_other under sibling]
      exact rising.off index below notFirst
  across index below child positive := by
    have grand : key (array ((hole / 2 - 1) / 2)) ≤ key (array (hole / 2)) := by
      have parent := rising.off (hole / 2 - 1) (by omega) (by omega)
      rwa [Nat.sub_add_cancel positive] at parent
    have grandFirst : (hole / 2 - 1) / 2 ≠ hole + 1 := by omega
    have grandSecond : (hole / 2 - 1) / 2 ≠ hole / 2 := by omega
    rw [exchanged_other grandFirst grandSecond]
    by_cases own : index = hole
    · rw [own, exchanged_first]
      exact grand
    · have notFirst : index + 1 ≠ hole + 1 := fun equal => own (Nat.succ.inj equal)
      rw [exchanged_other notFirst (by omega)]
      refine grand.trans ?_
      rw [← child]
      exact rising.off index below notFirst

/-! ## Sinking -/

/-- The last entry sinks from the front. -/
theorem HeapOrdered.pop (ordered : HeapOrdered key array (count + 1)) :
    Sinking key (Function.update array 0 (array count)) count 0 where
  off index below notRoot := by
    rw [Function.update_of_ne (Nat.succ_ne_zero index), Function.update_of_ne notRoot]
    exact ordered index (by omega)
  across index below child positive := (Nat.lt_irrefl 0 positive).elim

/-- The hole closes where the entry is not greater than its children. -/
theorem Sinking.ordered (sinking : Sinking key array count hole)
    (children : ∀ index, index + 1 < count → index / 2 = hole →
      key (array hole) ≤ key (array (index + 1))) : HeapOrdered key array count := by
  intro index below
  by_cases child : index / 2 = hole
  · rw [child]
    exact children index below child
  · exact sinking.off index below child

/-- The least of the children takes the place of an entry that is greater. -/
theorem Sinking.step {child : Nat} (sinking : Sinking key array count hole)
    (inside : child + 1 < count) (parent : child / 2 = hole)
    (lower : key (array (child + 1)) ≤ key (array hole))
    (least : ∀ index, index + 1 < count → index / 2 = hole →
      key (array (child + 1)) ≤ key (array (index + 1))) :
    Sinking key (exchanged array (child + 1) hole) count (child + 1) where
  off index below notHole := by
    by_cases own : index = child
    · rw [own, parent, exchanged_first, exchanged_second]
      exact lower
    have notFirst : index + 1 ≠ child + 1 := fun equal => own (Nat.succ.inj equal)
    by_cases above : index + 1 = hole
    · rw [above, exchanged_second, exchanged_other notHole (by omega)]
      have step := sinking.across child inside parent (by omega)
      rwa [← above, Nat.add_sub_cancel] at step
    rw [exchanged_other notFirst above]
    by_cases sibling : index / 2 = hole
    · rw [sibling, exchanged_second]
      exact least index below sibling
    · rw [exchanged_other notHole sibling]
      exact sinking.off index below sibling
  across index below under positive := by
    rw [Nat.add_sub_cancel, parent, exchanged_second, exchanged_other (by omega) (by omega), ← under]
    exact sinking.off index below (by omega)

end

end Foundation
