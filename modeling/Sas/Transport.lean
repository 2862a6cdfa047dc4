import Sas.Foundation.BigEndian
import Sas.Platform
import Mathlib.Tactic.Common

/-! # The packet format

The structs of `transport.h` with their in-memory layout (four-byte alignment, so the header
takes sixteen bytes, two of them padding), the flag bits, the session states, and the encoding
and decoding between host and network byte order.
-/

namespace Sas.Transport

open Foundation

/-- `SAS_TRANSPORT_PACKET_FLAG_FIN`. -/
def packetFlagFin : UInt8 := 1

/-- `SAS_TRANSPORT_PACKET_FLAG_SYN`. -/
def packetFlagSyn : UInt8 := 2

/-- `SAS_TRANSPORT_PACKET_FLAG_RST`. -/
def packetFlagRst : UInt8 := 4

/-- `SAS_TRANSPORT_PACKET_FLAG_ACK`. -/
def packetFlagAck : UInt8 := 8

/-- `SAS_TRANSPORT_PACKET_FLAG_ERR`. -/
def packetFlagErr : UInt8 := 16

/-- `sas_transport_packet_flag_isset`. -/
def packetFlagIsset (flags flag : UInt8) : Bool := flags &&& flag == flag

/-- The `SAS_TRANSPORT_STATE_*` constants. -/
inductive State where
  | initial
  | synRcvd
  | synSent
  | sackSent
  | establsh
  | finished
  deriving DecidableEq, Repr

/-- `struct sas_transport_packet_header`. -/
structure PacketHeader where
  seq : UInt32
  ack : UInt32
  reserved : UInt8
  flags : UInt8
  window : UInt16
  length : UInt16
  deriving DecidableEq, Repr

/-- `sizeof(struct sas_transport_packet_header)`. -/
def packetHeaderSize : Nat := 16

/-- The sequence numbers a packet of this length takes: `length > 0 ? length : 1`. -/
def span (length : UInt16) : UInt32 := if length > 0 then length.toUInt32 else 1

/-- The fourteen bytes of the fields after `sas_transport_packet_header_encode`. -/
def packetHeaderEncode (header : PacketHeader) : List UInt8 :=
  BigEndian.bytes 4 header.seq.toNat ++ BigEndian.bytes 4 header.ack.toNat ++
    [header.reserved, header.flags] ++
    BigEndian.bytes 2 header.window.toNat ++ BigEndian.bytes 2 header.length.toNat

/-- The fields of a header in memory after `sas_transport_packet_header_decode`. -/
def packetHeaderDecode (memory : Memory) : PacketHeader where
  seq := UInt32.ofNat (BigEndian.value (memory.read 4))
  ack := UInt32.ofNat (BigEndian.value ((memory.shift 4).read 4))
  reserved := memory 8
  flags := memory 9
  window := UInt16.ofNat (BigEndian.value ((memory.shift 10).read 2))
  length := UInt16.ofNat (BigEndian.value ((memory.shift 12).read 2))

/-- The memory after `sas_transport_packet_header_decode`, which works in place: on a
little-endian machine the bytes of every wider field change their order. -/
def packetHeaderDecoded (memory : Memory) : Memory :=
  memory.write ((memory.read 4).reverse ++ ((memory.shift 4).read 4).reverse ++
    [memory 8, memory 9] ++
    ((memory.shift 10).read 2).reverse ++ ((memory.shift 12).read 2).reverse)

/-- The datagram of a packet whose header lies in previously used memory and is followed by
`body`: the encoded fields, the two padding bytes, and `length` bytes behind the header. -/
def packetDatagram (header : PacketHeader) (garbage body : Memory) : List UInt8 :=
  packetHeaderEncode header ++ [garbage 14, garbage 15] ++ body.read header.length.toNat

/-- `struct sas_transport_packet_cfg`. -/
structure PacketCfg where
  codec : UInt8
  deriving DecidableEq, Repr

/-- `sizeof(struct sas_transport_packet_cfg)`. -/
def packetCfgSize : Nat := 1

/-- The bytes after `sas_transport_packet_cfg_encode`, which changes nothing. -/
def packetCfgEncode (packet : PacketCfg) : List UInt8 := [packet.codec]

/-- The struct in memory after `sas_transport_packet_cfg_decode`, which changes nothing. -/
def packetCfgDecode (memory : Memory) : PacketCfg := ⟨memory 0⟩

/-- `struct sas_transport_packet_cfg_ack`. -/
structure PacketCfgAck where
  sampleRate : Int32
  sampleSize : Int8
  channels : Int8
  codec : UInt8
  deriving DecidableEq, Repr

/-- `sizeof(struct sas_transport_packet_cfg_ack)`: seven bytes of fields and one of padding. -/
def packetCfgAckSize : Nat := 8

/-- The seven bytes of the fields after `sas_transport_packet_cfg_ack_encode`. -/
def packetCfgAckEncode (packet : PacketCfgAck) : List UInt8 :=
  BigEndian.bytes 4 packet.sampleRate.toUInt32.toNat ++
    [packet.sampleSize.toUInt8, packet.channels.toUInt8, packet.codec]

/-- The fields in memory after `sas_transport_packet_cfg_ack_decode`. -/
def packetCfgAckDecode (memory : Memory) : PacketCfgAck where
  sampleRate := (UInt32.ofNat (BigEndian.value (memory.read 4))).toInt32
  sampleSize := (memory 4).toInt8
  channels := (memory 5).toInt8
  codec := memory 6

/-- `struct sas_transport_packet_err`. -/
structure PacketErr where
  err : Int32
  deriving DecidableEq, Repr

/-- `sizeof(struct sas_transport_packet_err)`. -/
def packetErrSize : Nat := 4

/-- The bytes after `sas_transport_packet_err_encode`. -/
def packetErrEncode (packet : PacketErr) : List UInt8 :=
  BigEndian.bytes 4 packet.err.toUInt32.toNat

/-- The field in memory after `sas_transport_packet_err_decode`. -/
def packetErrDecode (memory : Memory) : PacketErr :=
  ⟨(UInt32.ofNat (BigEndian.value (memory.read 4))).toInt32⟩

/-- The length of the receive buffers of both programs. -/
def bufferSize : Nat := 4096

/-- `recvfrom` and `recv` into a receive buffer: the datagram is cut to the size of the buffer,
and the buffer keeps what it held behind the received bytes. -/
def receiveInto (buffer : Memory) (datagram : List UInt8) : Memory :=
  buffer.write (datagram.take bufferSize)

/-- The number of bytes `recvfrom` and `recv` report. -/
def receivedCount (datagram : List UInt8) : Nat := (datagram.take bufferSize).length

/-! ## Reading back what was written -/

@[simp] theorem length_packetHeaderEncode (header : PacketHeader) :
    (packetHeaderEncode header).length = 14 := by
  simp only [packetHeaderEncode, List.length_append, BigEndian.length_bytes, List.length_cons,
    List.length_nil]

theorem ofNat_value_bytes_four (word : UInt32) :
    UInt32.ofNat (BigEndian.value (BigEndian.bytes 4 word.toNat)) = word := by
  rw [BigEndian.value_bytes_of_lt (by simpa using word.toNat_lt), UInt32.ofNat_toNat]

theorem ofNat_value_bytes_two (word : UInt16) :
    UInt16.ofNat (BigEndian.value (BigEndian.bytes 2 word.toNat)) = word := by
  rw [BigEndian.value_bytes_of_lt (by simpa using word.toNat_lt), UInt16.ofNat_toNat]

/-- A field written behind the first `offset` bytes is read back there. -/
theorem read_field (memory : Memory) (before field after : List UInt8) :
    ((memory.write (before ++ (field ++ after))).shift before.length).read field.length = field := by
  rw [Memory.shift_write, List.drop_left, Memory.read_write _ _ (by simp), List.take_left]

/-- Decoding the bytes of an encoded header gives the header back, whatever follows it. -/
theorem packetHeaderDecode_write (memory : Memory) (header : PacketHeader) (after : List UInt8) :
    packetHeaderDecode (memory.write (packetHeaderEncode header ++ after)) = header := by
  have seq := read_field memory [] (BigEndian.bytes 4 header.seq.toNat)
    (BigEndian.bytes 4 header.ack.toNat ++ [header.reserved, header.flags] ++
      BigEndian.bytes 2 header.window.toNat ++ BigEndian.bytes 2 header.length.toNat ++ after)
  have ack := read_field memory (BigEndian.bytes 4 header.seq.toNat)
    (BigEndian.bytes 4 header.ack.toNat)
    ([header.reserved, header.flags] ++ BigEndian.bytes 2 header.window.toNat ++
      BigEndian.bytes 2 header.length.toNat ++ after)
  have window := read_field memory
    (BigEndian.bytes 4 header.seq.toNat ++ BigEndian.bytes 4 header.ack.toNat ++
      [header.reserved, header.flags])
    (BigEndian.bytes 2 header.window.toNat) (BigEndian.bytes 2 header.length.toNat ++ after)
  have length := read_field memory
    (BigEndian.bytes 4 header.seq.toNat ++ BigEndian.bytes 4 header.ack.toNat ++
      [header.reserved, header.flags] ++ BigEndian.bytes 2 header.window.toNat)
    (BigEndian.bytes 2 header.length.toNat) after
  simp only [List.append_assoc, List.length_append, BigEndian.length_bytes, List.length_cons,
    List.length_nil, List.nil_append, Memory.shift_zero, Nat.reduceAdd] at seq ack window length
  cases header
  simp only [packetHeaderDecode, packetHeaderEncode, List.append_assoc, seq, ack, window, length,
    ofNat_value_bytes_four, ofNat_value_bytes_two, PacketHeader.mk.injEq, true_and, and_true]
  exact ⟨rfl, rfl⟩

/-- Decoding the bytes of an encoded configuration gives it back, whatever follows it. -/
theorem packetCfgAckDecode_write (memory : Memory) (packet : PacketCfgAck) (after : List UInt8) :
    packetCfgAckDecode (memory.write (packetCfgAckEncode packet ++ after)) = packet := by
  have rate := read_field memory [] (BigEndian.bytes 4 packet.sampleRate.toUInt32.toNat)
    ([packet.sampleSize.toUInt8, packet.channels.toUInt8, packet.codec] ++ after)
  rw [BigEndian.length_bytes, List.length_nil, Memory.shift_zero, List.nil_append,
    ← List.append_assoc, ← packetCfgAckEncode] at rate
  rw [packetCfgAckDecode, rate, ofNat_value_bytes_four, Int32.toInt32_toUInt32]
  rfl

/-- Reading back what `packetErrEncode` has written. -/
theorem packetErrDecode_write (memory : Memory) (packet : PacketErr) :
    packetErrDecode (memory.write (packetErrEncode packet)) = packet := by
  have code := read_field memory [] (BigEndian.bytes 4 packet.err.toUInt32.toNat) []
  rw [BigEndian.length_bytes, List.length_nil, Memory.shift_zero, List.nil_append,
    List.append_nil, ← packetErrEncode] at code
  rw [packetErrDecode, code, packetErrEncode, ofNat_value_bytes_four, Int32.toInt32_toUInt32]

end Sas.Transport
