import Mathlib.Data.Nat.ModEq
import Mathlib.Tactic.Ring

/-! # Big-endian byte strings

A number cut into a fixed count of bytes, most significant byte first, and the number a byte
string denotes. Reading back what was written gives the number modulo the width.
-/

namespace Foundation.BigEndian

/-- The `width` low bytes of a number, most significant first. -/
def bytes : Nat → Nat → List UInt8
  | 0, _ => []
  | width + 1, number => UInt8.ofNat (number / 256 ^ width) :: bytes width number

/-- The number a byte string denotes, most significant byte first. -/
def value : List UInt8 → Nat
  | [] => 0
  | byte :: rest => byte.toNat * 256 ^ rest.length + value rest

@[simp] theorem length_bytes (width number : Nat) : (bytes width number).length = width := by
  induction width with
  | zero => rfl
  | succ width ih => simp only [bytes, List.length_cons, ih]

/-- A byte string written at some width denotes the number modulo that width. -/
theorem value_bytes (width number : Nat) :
    value (bytes width number) = number % 256 ^ width := by
  induction width with
  | zero => simp only [bytes, value, Nat.pow_zero, Nat.mod_one]
  | succ width ih =>
      have digit : (UInt8.ofNat (number / 256 ^ width)).toNat = number / 256 ^ width % 256 :=
        UInt8.toNat_ofNat'
      rw [bytes, value, length_bytes, ih, digit, Nat.mod_pow_succ]
      ring

theorem value_bytes_of_lt {width number : Nat} (small : number < 256 ^ width) :
    value (bytes width number) = number := by
  rw [value_bytes, Nat.mod_eq_of_lt small]

/-- The value of a string of bytes fits into as many bytes. -/
theorem value_lt (string : List UInt8) : value string < 256 ^ string.length := by
  induction string with
  | nil => exact Nat.one_pos
  | cons byte rest ih =>
      have digit : byte.toNat + 1 ≤ 256 := byte.toNat_lt
      calc value (byte :: rest)
          < byte.toNat * 256 ^ rest.length + 256 ^ rest.length := Nat.add_lt_add_left ih _
        _ = (byte.toNat + 1) * 256 ^ rest.length := (Nat.succ_mul _ _).symm
        _ ≤ 256 * 256 ^ rest.length := Nat.mul_le_mul_right _ digit
        _ = 256 ^ (byte :: rest).length := (Nat.pow_succ').symm

/-- What lies above the width of a byte string is not written. -/
theorem bytes_mul_add (width high number : Nat) :
    bytes width (high * 256 ^ width + number) = bytes width number := by
  induction width generalizing high with
  | zero => rfl
  | succ width ih =>
      have split : high * 256 ^ (width + 1) = high * 256 * 256 ^ width := by
        rw [Nat.pow_succ', Nat.mul_assoc]
      have digit : UInt8.ofNat (high * 256 + number / 256 ^ width) =
          UInt8.ofNat (number / 256 ^ width) := by
        apply UInt8.toNat.inj
        rw [UInt8.toNat_ofNat', UInt8.toNat_ofNat']
        exact Nat.mul_add_mod_self_right high 256 _
      rw [bytes, bytes, split, ih, Nat.mul_comm, Nat.mul_add_div (Nat.pow_pos (by decide)), digit]

/-- The number a byte string denotes, written at its width, is the string. -/
theorem bytes_value (string : List UInt8) : bytes string.length (value string) = string := by
  induction string with
  | nil => rfl
  | cons byte rest ih =>
      have high : (byte.toNat * 256 ^ rest.length + value rest) / 256 ^ rest.length =
          byte.toNat := by
        rw [Nat.mul_comm, Nat.mul_add_div (Nat.pow_pos (by decide)), Nat.div_eq_of_lt (value_lt rest),
          Nat.add_zero]
      rw [List.length_cons, bytes, value, high, bytes_mul_add, ih, UInt8.ofNat_toNat]

end Foundation.BigEndian
