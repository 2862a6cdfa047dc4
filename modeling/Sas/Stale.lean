import Sas.Packet

/-! # Datagrams over stale bytes

A receive buffer keeps what it held behind the bytes of the datagram it receives. Each field of a
packet lies among the bytes of the datagram once the datagram is long enough.
-/

namespace Sas.Transport

open Foundation

/-- Two memories hold the same bytes below a bound. -/
def Agree (count : Nat) (first second : Memory) : Prop :=
  ∀ index < count, first index = second index

section

variable {count : Nat} {first second old old' : Memory} {datagram : List UInt8} {index : Nat}

theorem Agree.mono {fewer : Nat} (agree : Agree count first second) (less : fewer ≤ count) :
    Agree fewer first second := fun index below => agree index (Nat.lt_of_lt_of_le below less)

/-- Memories that agree still do behind an offset. -/
theorem Agree.shift (agree : Agree count first second) (offset : Nat) :
    Agree (count - offset) (first.shift offset) (second.shift offset) :=
  fun index below => agree (offset + index) (by omega)

/-- What is received does not depend on what was in the buffer before. -/
theorem receiveInto_of_lt (below : index < receivedCount datagram) :
    receiveInto old datagram index = receiveInto old' datagram index := by
  rw [receiveInto, receiveInto, Memory.write_of_lt _ _ below, Memory.write_of_lt _ _ below]

/-- Behind the datagram the buffer is as before. -/
theorem receiveInto_of_le (above : receivedCount datagram ≤ index) :
    receiveInto old datagram index = old index := Memory.write_of_le _ _ above

/-- What a buffer has held before does not reach into the datagram. -/
theorem agree_received (old old' : Memory) (datagram : List UInt8) :
    Agree (receivedCount datagram) (receiveInto old datagram) (receiveInto old' datagram) :=
  fun _ below => receiveInto_of_lt below

/-- Buffers that have agreed before agree after they have received one datagram. -/
theorem Agree.received (agree : Agree count old old') (datagram : List UInt8) :
    Agree count (receiveInto old datagram) (receiveInto old' datagram) := by
  intro index below
  rcases Nat.lt_or_ge index (receivedCount datagram) with inside | behind
  · exact receiveInto_of_lt inside
  · rw [receiveInto_of_le behind, receiveInto_of_le behind]
    exact agree index below

/-! ## Fields -/

theorem Agree.seq_eq (agree : Agree count first second) (enough : 4 ≤ count) :
    (packetHeaderDecode first).seq = (packetHeaderDecode second).seq := by
  simp only [packetHeaderDecode, Memory.read_congr (agree.mono enough)]

theorem Agree.flags_eq (agree : Agree count first second) (enough : 10 ≤ count) :
    (packetHeaderDecode first).flags = (packetHeaderDecode second).flags :=
  agree 9 (by omega)

/-- The header depends on its fourteen bytes. -/
theorem Agree.header_eq (agree : Agree count first second) (enough : 14 ≤ count) :
    packetHeaderDecode first = packetHeaderDecode second := by
  have seq : first.read 4 = second.read 4 :=
    Memory.read_congr fun index below => agree index (by omega)
  have ack : (first.shift 4).read 4 = (second.shift 4).read 4 :=
    Memory.read_congr fun index below => agree (4 + index) (by omega)
  have window : (first.shift 10).read 2 = (second.shift 10).read 2 :=
    Memory.read_congr fun index below => agree (10 + index) (by omega)
  have length : (first.shift 12).read 2 = (second.shift 12).read 2 :=
    Memory.read_congr fun index below => agree (12 + index) (by omega)
  simp only [packetHeaderDecode, seq, ack, window, length, agree 8 (by omega), agree 9 (by omega)]

theorem Agree.cfg_eq (agree : Agree count first second) (enough : 1 ≤ count) :
    packetCfgDecode first = packetCfgDecode second := by
  simp only [packetCfgDecode, agree 0 enough]

theorem Agree.cfgAck_eq (agree : Agree count first second) (enough : 7 ≤ count) :
    packetCfgAckDecode first = packetCfgAckDecode second := by
  simp only [packetCfgAckDecode,
    Memory.read_congr (agree.mono (Nat.le_trans (by omega : 4 ≤ 7) enough)),
    agree 4 (by omega), agree 5 (by omega), agree 6 (by omega)]

theorem Agree.err_eq (agree : Agree count first second) (enough : 4 ≤ count) :
    packetErrDecode first = packetErrDecode second := by
  simp only [packetErrDecode, Memory.read_congr (agree.mono enough)]

theorem value_read_two (memory : Memory) :
    BigEndian.value (memory.read 2) = (memory 0).toNat * 256 + (memory 1).toNat := by
  have bytes : memory.read 2 = [memory 0, memory 1] := rfl
  simp only [bytes, BigEndian.value, List.length_cons, List.length_nil, Nat.reduceAdd, Nat.reducePow]
  omega

theorem value_read_four (memory : Memory) : BigEndian.value (memory.read 4) =
    (memory 0).toNat * 16777216 + (memory 1).toNat * 65536 + (memory 2).toNat * 256 +
      (memory 3).toNat := by
  have bytes : memory.read 4 = [memory 0, memory 1, memory 2, memory 3] := rfl
  simp only [bytes, BigEndian.value, List.length_cons, List.length_nil, Nat.reduceAdd, Nat.reducePow]
  omega

theorem value_read_four_lt (memory : Memory) : BigEndian.value (memory.read 4) < UInt32.size := by
  have first := (memory 0).toNat_lt
  have second := (memory 1).toNat_lt
  have third := (memory 2).toNat_lt
  have fourth := (memory 3).toNat_lt
  rw [value_read_four, UInt32.size]
  omega

/-- The sequence number is in the first four bytes. -/
theorem toNat_seq (memory : Memory) :
    (packetHeaderDecode memory).seq.toNat = BigEndian.value (memory.read 4) :=
  UInt32.toNat_ofNat_of_lt' (value_read_four_lt memory)

/-- The length is in the bytes twelve and thirteen. -/
theorem toNat_length (memory : Memory) : (packetHeaderDecode memory).length.toNat =
    (memory 12).toNat * 256 + (memory 13).toNat := by
  have first := (memory 12).toNat_lt
  have second := (memory 13).toNat_lt
  have bytes : BigEndian.value ((memory.shift 12).read 2) =
      (memory 12).toNat * 256 + (memory 13).toNat := value_read_two (memory.shift 12)
  have small : BigEndian.value ((memory.shift 12).read 2) < UInt16.size := by
    rw [bytes, UInt16.size]
    omega
  rw [packetHeaderDecode, UInt16.toNat_ofNat_of_lt' small, bytes]

/-- The buffer that makes the most of every byte it is not given. -/
def stale : Memory := fun _ => 255

/-- No stale bytes make a sequence number higher. -/
theorem seq_le_stale (old : Memory) (datagram : List UInt8) :
    (packetHeaderDecode (receiveInto old datagram)).seq ≤
      (packetHeaderDecode (receiveInto stale datagram)).seq := by
  have byte : ∀ index, (receiveInto old datagram index).toNat ≤
      (receiveInto stale datagram index).toNat := by
    intro index
    rcases Nat.lt_or_ge index (receivedCount datagram) with inside | behind
    · rw [receiveInto_of_lt inside]
    · rw [receiveInto_of_le behind, receiveInto_of_le behind]
      exact Nat.le_of_lt_succ (old index).toNat_lt
  have first := byte 0
  have second := byte 1
  have third := byte 2
  have fourth := byte 3
  rw [UInt32.le_iff_toNat_le, toNat_seq, toNat_seq, value_read_four, value_read_four]
  omega

/-- Bytes of the buffer that are not given can be anything. -/
theorem patched_received {index : Nat} (behind : receivedCount datagram ≤ index) (byte : UInt8)
    (memory : Memory) :
    receiveInto (Function.update memory index byte) datagram index = byte := by
  rw [receiveInto_of_le behind, Function.update_self]

theorem agree_patched (memory : Memory) (index : Nat) (byte : UInt8) :
    Agree index (Function.update memory index byte) memory :=
  fun _ below => Function.update_of_ne (Nat.ne_of_lt below) _ _

/-- The lengths a buffer shows with one of two bytes in the last place take different spans. -/
theorem span_apart {first second : Memory} (same : first 12 = second 12) (two : first 13 = 2)
    (three : second 13 = 3) :
    span (packetHeaderDecode first).length ≠ span (packetHeaderDecode second).length := by
  have length := toNat_length first
  have length' := toNat_length second
  rw [same, two] at length
  rw [three] at length'
  intro equal
  have positive : (packetHeaderDecode first).length > 0 := by
    rw [gt_iff_lt, UInt16.lt_iff_toNat_lt, length]
    exact Nat.lt_of_lt_of_le (by decide) (Nat.le_add_left _ _)
  have positive' : (packetHeaderDecode second).length > 0 := by
    rw [gt_iff_lt, UInt16.lt_iff_toNat_lt, length']
    exact Nat.lt_of_lt_of_le (by decide) (Nat.le_add_left _ _)
  rw [span, span, if_pos positive, if_pos positive'] at equal
  have numbers := congrArg UInt32.toNat equal
  rw [UInt16.toNat_toUInt32, UInt16.toNat_toUInt32, length, length'] at numbers
  have apart : (2 : UInt8).toNat ≠ (3 : UInt8).toNat := by decide
  omega

end

end Sas.Transport
