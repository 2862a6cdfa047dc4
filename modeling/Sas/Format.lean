import Sas.Packet

/-! # The packet format backwards

What is decoded and encoded again is what has been received. A header takes every value of its
fourteen bytes, so it can always be decoded; whether the datagram is a packet is decided by its length
alone.
-/

namespace Sas.Transport

open Foundation

section

variable {string : List UInt8}

/-- Encoding the value of four bytes gives them back. -/
theorem bytes_four_ofNat_value (length : string.length = 4) :
    BigEndian.bytes 4 (UInt32.ofNat (BigEndian.value string)).toNat = string := by
  have small : BigEndian.value string < 2 ^ 32 :=
    Nat.lt_of_lt_of_eq (BigEndian.value_lt string) (by rw [length]; rfl)
  rw [UInt32.toNat_ofNat_of_lt' small, ← length, BigEndian.bytes_value]

/-- Encoding the value of two bytes gives them back. -/
theorem bytes_two_ofNat_value (length : string.length = 2) :
    BigEndian.bytes 2 (UInt16.ofNat (BigEndian.value string)).toNat = string := by
  have small : BigEndian.value string < 2 ^ 16 :=
    Nat.lt_of_lt_of_eq (BigEndian.value_lt string) (by rw [length]; rfl)
  rw [UInt16.toNat_ofNat_of_lt' small, ← length, BigEndian.bytes_value]

/-- Encoding the header decoded from memory gives the bytes it was decoded from. -/
theorem packetHeaderEncode_packetHeaderDecode (memory : Memory) :
    packetHeaderEncode (packetHeaderDecode memory) = memory.read 14 := by
  have fields : memory.read 14 = memory.read 4 ++ (memory.shift 4).read 4 ++ [memory 8, memory 9] ++
      (memory.shift 10).read 2 ++ (memory.shift 12).read 2 := by
    rw [memory.read_add 12 2, memory.read_add 10 2, memory.read_add 8 2, memory.read_add 4 4]
    rfl
  have field (offset size : Nat) : ((memory.shift offset).read size).length = size :=
    Memory.length_read _ _
  rw [fields, packetHeaderEncode, packetHeaderDecode, bytes_four_ofNat_value (field 4 4),
    bytes_two_ofNat_value (field 10 2), bytes_two_ofNat_value (field 12 2),
    bytes_four_ofNat_value (Memory.length_read memory 4)]

/-- Sending the packet that lies in memory sends as many bytes of it as its header says. -/
theorem packetDatagram_packetHeaderDecode (memory : Memory) :
    packetDatagram (packetHeaderDecode memory) memory (memory.shift packetHeaderSize) =
      memory.read (packetHeaderSize + (packetHeaderDecode memory).length.toNat) := by
  have padding : memory.read packetHeaderSize = memory.read 14 ++ [memory 14, memory 15] :=
    memory.read_add 14 2
  rw [packetDatagram, packetHeaderEncode_packetHeaderDecode, Memory.read_add, padding]

/-- **When a datagram is a packet.** Whatever lies in the receive buffer, encoding the header a
receiver has decoded, with the bytes behind it, gives exactly what has been received if and only if
the length the header announces is the number of bytes received behind it. -/
theorem received_round_trip_iff (buffer : Memory) (datagram : List UInt8) :
    packetDatagram (packetHeaderDecode (receiveInto buffer datagram)) (receiveInto buffer datagram)
        ((receiveInto buffer datagram).shift packetHeaderSize) = datagram.take bufferSize ↔
      receivedCount datagram =
        packetHeaderSize + (packetHeaderDecode (receiveInto buffer datagram)).length.toNat := by
  rw [packetDatagram_packetHeaderDecode]
  constructor
  · intro same
    rw [receivedCount, ← same, Memory.length_read]
  · intro count
    rw [← count, receivedCount, receiveInto, Memory.read_write_self]

end

end Sas.Transport
