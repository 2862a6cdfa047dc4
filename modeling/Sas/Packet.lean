import Sas.Transport

/-! # Packets seen from outside

What a datagram says: the header at its start and the payload behind it. Both programs build
their datagrams so that they can be read back from any receive buffer.
-/

namespace Sas.Transport

open Foundation

/-- The header at the start of a datagram. -/
def headerOf (datagram : List UInt8) : PacketHeader :=
  packetHeaderDecode (Memory.write (fun _ => 0) datagram)

/-- The bytes of a datagram behind its header. -/
def payloadOf (datagram : List UInt8) : List UInt8 := datagram.drop packetHeaderSize

/-- A data packet is one with neither SYN nor RST. -/
def isData (datagram : List UInt8) : Bool :=
  !packetFlagIsset (headerOf datagram).flags packetFlagSyn &&
    !packetFlagIsset (headerOf datagram).flags packetFlagRst

/-- The packet sets SYN. -/
def isSyn (datagram : List UInt8) : Bool := packetFlagIsset (headerOf datagram).flags packetFlagSyn

/-- The packet sets RST and FIN. -/
def isFin (datagram : List UInt8) : Bool :=
  packetFlagIsset (headerOf datagram).flags packetFlagRst &&
    packetFlagIsset (headerOf datagram).flags packetFlagFin

/-- The packet sets RST and ERR. -/
def isErr (datagram : List UInt8) : Bool :=
  packetFlagIsset (headerOf datagram).flags packetFlagRst &&
    packetFlagIsset (headerOf datagram).flags packetFlagErr

/-- The packet sets RST. -/
def isRst (datagram : List UInt8) : Bool := packetFlagIsset (headerOf datagram).flags packetFlagRst

theorem packetFlagIsset_self (flag : UInt8) : packetFlagIsset flag flag = true := by
  simp only [packetFlagIsset, UInt8.and_self, beq_self_eq_true]

/-- The packet sets ACK. -/
def isAck (datagram : List UInt8) : Bool := packetFlagIsset (headerOf datagram).flags packetFlagAck

/-- The payload bytes of the data packets among some datagrams, in order. -/
def streamOf (datagrams : List (List UInt8)) : List UInt8 :=
  (datagrams.filter isData).flatMap payloadOf

@[simp] theorem streamOf_append (first second : List (List UInt8)) :
    streamOf (first ++ second) = streamOf first ++ streamOf second := by
  simp only [streamOf, List.filter_append, List.flatMap_append]

/-- A data packet streams its payload. -/
theorem streamOf_singleton {datagram : List UInt8} (data : isData datagram = true) :
    streamOf [datagram] = payloadOf datagram := by
  simp only [streamOf, List.filter_cons, data, ↓reduceIte, List.filter_nil, List.flatMap_cons,
    List.flatMap_nil, List.append_nil]

/-- Any other packet streams nothing. -/
theorem streamOf_singleton_eq_nil {datagram : List UInt8} (other : isData datagram = false) :
    streamOf [datagram] = [] := by
  simp only [streamOf, List.filter_cons, other, Bool.false_eq_true, ↓reduceIte, List.filter_nil,
    List.flatMap_nil]

/-- Packets without data stream nothing. -/
theorem streamOf_eq_nil {datagrams : List (List UInt8)}
    (others : ∀ datagram ∈ datagrams, isData datagram = false) : streamOf datagrams = [] := by
  rw [streamOf, List.filter_eq_nil_iff.mpr fun datagram member => by simp [others datagram member],
    List.flatMap_nil]

/-- A packet is accepted by a session whose `ack` it does not fall behind. -/
def Accepted (header : PacketHeader) (ack : UInt32) : Prop := ¬ header.seq < ack

instance (header : PacketHeader) (ack : UInt32) : Decidable (Accepted header ack) :=
  inferInstanceAs (Decidable (¬ header.seq < ack))

/-- The datagrams take the sequence numbers from `first` to `next` without gap, modulo the width
of a sequence number. -/
def SeqChain : UInt32 → List (List UInt8) → UInt32 → Prop
  | first, [], next => first = next
  | first, datagram :: datagrams, next =>
      (headerOf datagram).seq = first ∧
        SeqChain (first + span (headerOf datagram).length) datagrams next

namespace SeqChain

variable {first middle next : UInt32} {datagram : List UInt8} {earlier later : List (List UInt8)}

/-- Two lists of packets are numbered on from one another. -/
theorem append_iff : SeqChain first (earlier ++ later) next ↔
    ∃ middle, SeqChain first earlier middle ∧ SeqChain middle later next := by
  induction earlier generalizing first with
  | nil => simp only [List.nil_append, SeqChain, exists_eq_left']
  | cons datagram earlier ih => simp only [List.cons_append, SeqChain, ih, and_assoc,
      exists_and_left]

theorem append (left : SeqChain first earlier middle) (right : SeqChain middle later next) :
    SeqChain first (earlier ++ later) next :=
  append_iff.mpr ⟨middle, left, right⟩

theorem singleton (seq : (headerOf datagram).seq = first)
    (taken : first + span (headerOf datagram).length = next) :
    SeqChain first [datagram] next := ⟨seq, taken⟩

end SeqChain

/-- The datagram is a packet with this header and this payload. -/
def Carries (datagram : List UInt8) (header : PacketHeader) (payload : List UInt8) : Prop :=
  payload.length = header.length.toNat ∧
    ∃ padding : UInt8 × UInt8,
      datagram = packetHeaderEncode header ++ [padding.1, padding.2] ++ payload

/-- What `packetDatagram` builds is a packet with the bytes behind its header as payload. -/
theorem carries_packetDatagram (header : PacketHeader) (garbage body : Memory) :
    Carries (packetDatagram header garbage body) header (body.read header.length.toNat) :=
  ⟨Memory.length_read body _, (garbage 14, garbage 15), rfl⟩

namespace Carries

variable {datagram payload : List UInt8} {header : PacketHeader}

/-- A datagram consists of its header and its payload. -/
theorem length_eq (carries : Carries datagram header payload) :
    datagram.length = packetHeaderSize + payload.length := by
  obtain ⟨_, padding, rfl⟩ := carries
  simp only [List.length_append, length_packetHeaderEncode, List.length_cons, List.length_nil,
    packetHeaderSize]

/-- Wherever the datagram is written, its header is read back. -/
theorem decode_write (carries : Carries datagram header payload) (memory : Memory) :
    packetHeaderDecode (memory.write datagram) = header := by
  obtain ⟨_, padding, rfl⟩ := carries
  rw [List.append_assoc, packetHeaderDecode_write]

theorem headerOf_eq (carries : Carries datagram header payload) : headerOf datagram = header :=
  carries.decode_write _

/-- The payload of a datagram is what it carries. -/
theorem payloadOf_eq (carries : Carries datagram header payload) :
    payloadOf datagram = payload := by
  obtain ⟨_, padding, rfl⟩ := carries
  exact List.drop_left' (by
    simp only [List.length_append, length_packetHeaderEncode, List.length_cons, List.length_nil,
      packetHeaderSize])

/-- Behind the header the receive buffer holds the payload. -/
theorem payload_receiveInto (carries : Carries datagram header payload)
    (fits : datagram.length ≤ bufferSize) (buffer : Memory) :
    (receiveInto buffer datagram).shift packetHeaderSize =
      (buffer.shift packetHeaderSize).write payload := by
  rw [receiveInto, List.take_of_length_le fits, Memory.shift_write, ← carries.payloadOf_eq,
    payloadOf]

end Carries

/-! ## The flags the programs set -/


/-- What a packet is follows from the flags of its header. -/
theorem Carries.kind {datagram payload : List UInt8} {header : PacketHeader}
    (carries : Carries datagram header payload) :
    isData datagram = (!packetFlagIsset header.flags packetFlagSyn &&
        !packetFlagIsset header.flags packetFlagRst) ∧
      isSyn datagram = packetFlagIsset header.flags packetFlagSyn ∧
      isFin datagram = (packetFlagIsset header.flags packetFlagRst &&
        packetFlagIsset header.flags packetFlagFin) ∧
      isErr datagram = (packetFlagIsset header.flags packetFlagRst &&
        packetFlagIsset header.flags packetFlagErr) := by
  simp only [isData, isSyn, isFin, isErr, carries.headerOf_eq, and_self]

end Sas.Transport
