import Mathlib.Data.List.Basic

/-! # Byte memory seen from an address

A pointer into memory is the function giving the byte at every offset from it. Writing a byte
string replaces the bytes at the offsets it covers; moving the pointer shifts the offsets.
-/

namespace Foundation

/-- The bytes of memory at the offsets from one address. -/
abbrev Memory := Nat → UInt8

namespace Memory

/-- The same memory seen from a later address. -/
def shift (memory : Memory) (offset : Nat) : Memory := fun index => memory (offset + index)

/-- The first `size` bytes. -/
def read (memory : Memory) (size : Nat) : List UInt8 := (List.range size).map memory

/-- Overwrite the leading bytes by a byte string. -/
def write (memory : Memory) (bytes : List UInt8) : Memory := fun index =>
  bytes.getD index (memory index)

/-- The bytes before the first zero byte, at most `limit` of them. -/
def cstring : Nat → Memory → List UInt8
  | 0, _ => []
  | limit + 1, memory =>
      if memory 0 = 0 then [] else memory 0 :: cstring limit (memory.shift 1)

variable (memory : Memory) (bytes : List UInt8)

@[simp] theorem shift_apply (offset index : Nat) :
    memory.shift offset index = memory (offset + index) := rfl

@[simp] theorem shift_zero : memory.shift 0 = memory := by
  funext index
  simp only [shift, Nat.zero_add]

@[simp] theorem shift_shift (first second : Nat) :
    (memory.shift first).shift second = memory.shift (first + second) := by
  funext index
  simp only [shift, Nat.add_assoc]

@[simp] theorem length_read (size : Nat) : (memory.read size).length = size := by
  simp only [read, List.length_map, List.length_range]

@[simp] theorem read_zero : memory.read 0 = [] := rfl

theorem getElem_read (size index : Nat) (below : index < (memory.read size).length) :
    (memory.read size)[index] = memory index := by
  simp only [read, List.getElem_map, List.getElem_range]

theorem write_of_lt {index : Nat} (below : index < bytes.length) :
    memory.write bytes index = bytes[index] := by
  simp only [write, List.getD_eq_getElem?_getD, List.getElem?_eq_getElem below, Option.getD_some]

theorem write_of_le {index : Nat} (above : bytes.length ≤ index) :
    memory.write bytes index = memory index := by
  simp only [write, List.getD_eq_getElem?_getD, List.getElem?_eq_none above, Option.getD_none]

/-- Behind the leading bytes, a write of a longer byte string is a write of its rest. -/
theorem shift_write (offset : Nat) :
    (memory.write bytes).shift offset = (memory.shift offset).write (bytes.drop offset) := by
  funext index
  simp only [shift, write, List.getD_eq_getElem?_getD, List.getElem?_drop]

/-- Reading inside a written byte string gives its leading bytes. -/
theorem read_write {size : Nat} (inside : size ≤ bytes.length) :
    (memory.write bytes).read size = bytes.take size := by
  apply List.ext_getElem
  · simp only [length_read, List.length_take]
    omega
  · intro index below _
    rw [length_read] at below
    rw [getElem_read, List.getElem_take, write_of_lt memory bytes (by omega)]

theorem read_write_self : (memory.write bytes).read bytes.length = bytes := by
  rw [read_write memory bytes (Nat.le_refl _), List.take_length]

/-- A read across two regions is the read of one followed by the read of the other. -/
theorem read_add (first second : Nat) :
    memory.read (first + second) = memory.read first ++ (memory.shift first).read second := by
  simp only [read, List.range_add, List.map_append, List.map_map]
  rfl

/-- A C string is no longer than its limit. -/
theorem length_cstring_le (limit : Nat) : (cstring limit memory).length ≤ limit := by
  induction limit generalizing memory with
  | zero => exact Nat.le_refl 0
  | succ limit ih =>
      unfold cstring
      split
      · exact Nat.zero_le _
      · exact Nat.succ_le_succ (ih _)

/-- A read depends on the bytes it covers only. -/
theorem read_congr {first second : Memory} {size : Nat}
    (same : ∀ index < size, first index = second index) : first.read size = second.read size :=
  List.map_congr_left fun index member => same index (List.mem_range.mp member)

/-- A C string is known where its limit or its end lies among the known bytes. -/
theorem cstring_congr {first second : Memory} {limit known : Nat}
    (same : ∀ index < known, first index = second index)
    (ends : limit ≤ known ∨ ∃ index < known, first index = 0) :
    cstring limit first = cstring limit second := by
  induction limit generalizing first second known with
  | zero => rfl
  | succ limit ih =>
      cases known with
      | zero =>
          rcases ends with short | ⟨index, below, _⟩
          · exact (Nat.not_succ_le_zero _ short).elim
          · exact (Nat.not_lt_zero _ below).elim
      | succ known =>
          have leading := same 0 (Nat.succ_pos known)
          unfold cstring
          rw [← leading]
          by_cases zero : first 0 = 0
          · rw [if_pos zero, if_pos zero]
          · rw [if_neg zero, if_neg zero]
            congr 1
            refine @ih _ _ known (fun index below => ?_) ?_
            · exact same (1 + index) (by omega)
            · rcases ends with short | ⟨index, below, terminal⟩
              · exact .inl (Nat.le_of_succ_le_succ short)
              · cases index with
                | zero => exact (zero terminal).elim
                | succ index =>
                    refine .inr ⟨index, Nat.lt_of_succ_lt_succ below, ?_⟩
                    rw [shift_apply, Nat.add_comm]
                    exact terminal

/-- Without a zero byte among the known ones, a C string reaches behind them. -/
theorem le_length_cstring {memory : Memory} {limit known : Nat}
    (clear : ∀ index < known, memory index ≠ 0) (enough : known ≤ limit) :
    known ≤ (cstring limit memory).length := by
  induction limit generalizing memory known with
  | zero => exact Nat.le_trans enough (Nat.zero_le _)
  | succ limit ih =>
      cases known with
      | zero => exact Nat.zero_le _
      | succ known =>
          rw [cstring, if_neg (clear 0 (Nat.succ_pos known)), List.length_cons]
          apply Nat.succ_le_succ
          exact ih (fun index below => clear (1 + index) (by omega)) (Nat.le_of_succ_le_succ enough)

/-- A C string ends before a zero byte. -/
theorem length_cstring_le_of_zero {memory : Memory} (limit : Nat) {index : Nat}
    (zero : memory index = 0) : (cstring limit memory).length ≤ index := by
  induction limit generalizing memory index with
  | zero => exact Nat.zero_le _
  | succ limit ih =>
      unfold cstring
      split
      · exact Nat.zero_le _
      · cases index with
        | zero => contradiction
        | succ index =>
            apply Nat.succ_le_succ
            refine ih ?_
            rw [shift_apply, Nat.add_comm]
            exact zero

/-- A byte string without a zero byte is read back as a C string of its length. -/
theorem cstring_write {bytes : List UInt8} (clear : 0 ∉ bytes) (memory : Memory) :
    cstring bytes.length (memory.write bytes) = bytes := by
  induction bytes generalizing memory with
  | nil => rfl
  | cons byte bytes ih =>
      rw [List.mem_cons, not_or] at clear
      have leading : memory.write (byte :: bytes) 0 = byte := rfl
      have rest : (memory.write (byte :: bytes)).shift 1 = (memory.shift 1).write bytes :=
        shift_write memory (byte :: bytes) 1
      rw [List.length_cons, cstring, leading, if_neg (Ne.symm clear.1), rest, ih clear.2]

end Memory

end Foundation
