import Sas.System.Handshake
import Sas.Server.Answer

/-! # Packets on the wire

What the two programs hand to `send` and `sendto`, beside the layout `PROTOCOL.txt` gives a packet.
The header of the document takes fourteen bytes; the struct that is sent in its place takes sixteen,
and the last two are never written.
-/

namespace Sas.System

open Foundation Transport Server

/-- The layout of a packet: two numbers of 32 bits, eleven zero bits and five control bits, the
window and the length with 16 bits each, and the payload. -/
def layout (seq ack : UInt32) (control : Nat) (window length : UInt16) (payload : List UInt8) :
    List UInt8 :=
  BigEndian.bytes 4 seq.toNat ++ BigEndian.bytes 4 ack.toNat ++ BigEndian.bytes 2 control ++
    BigEndian.bytes 2 window.toNat ++ BigEndian.bytes 2 length.toNat ++ payload

/-- The datagram has the layout of the document, with as many payload bytes as it announces. -/
def Documented (datagram : List UInt8) : Prop :=
  ∃ seq ack control window length payload, control < 2 ^ 5 ∧
    payload.length = UInt16.toNat length ∧
    datagram = layout seq ack control window length payload

/-- A packet that one of the programs sends, with the state it is sent from. -/
inductive Packet where
  /-- `sas_client_session_syn`. -/
  | syn (name : List UInt8) (world : Client.World)
  /-- `sas_client_session_ack`. -/
  | ack (world : Client.World)
  /-- `sas_server_session_send_chunk`. -/
  | data (chunk : Chunk) (session : Session) (kernel : Kernel)
  /-- `sas_server_session_reset`. -/
  | reset (fin : Bool) (session : Session) (kernel : Kernel)
  /-- `sas_server_session_error`. -/
  | error (code : Int32) (session : Session) (kernel : Kernel)
  /-- `sas_server_session_syn_ack`. -/
  | synAck (session : Session) (kernel : Kernel)

namespace Packet

/-- The kernel once the packet has been sent. -/
def sentWith : Packet → Except Fault Kernel
  | .syn name world => (Client.sessionSyn name world).map fun result => result.2.kernel
  | .ack world => .ok (Client.sessionAck world).2.kernel
  | .data chunk session kernel => .ok (sessionSendChunk chunk session kernel).2.2
  | .reset fin session kernel => .ok (sessionReset fin session kernel).2.2
  | .error code session kernel => .ok (sessionError code session kernel).2.2
  | .synAck session kernel => .ok (sessionSynAck session kernel).2.2

/-- The datagram of the last call of a kernel. -/
def lastSent (kernel : Kernel) : Option (List UInt8) :=
  kernel.calls.getLast?.bind Syscall.datagram?

/-- The datagram that is handed over. -/
def datagram? (packet : Packet) : Option (List UInt8) :=
  packet.sentWith.toOption.bind lastSent

/-- The fields of the session the packet is sent from, with its flags and its length. -/
def header : Packet → PacketHeader
  | .syn name world => Client.sessionHeader world.session packetFlagSyn
      (UInt16.ofNat (packetCfgSize + (Int16.ofNat name.length).toInt.toNat))
  | .ack world => Client.sessionHeader world.session packetFlagAck 0
  | .data chunk session _ => sessionHeader session 0 (UInt16.ofNat chunk.size)
  | .reset fin session _ =>
      sessionHeader session (if fin then packetFlagRst ||| packetFlagFin else packetFlagRst) 0
  | .error _ session _ =>
      sessionHeader session (packetFlagRst ||| packetFlagErr) (UInt16.ofNat packetErrSize)
  | .synAck session _ =>
      sessionHeader session (packetFlagSyn ||| packetFlagAck) (UInt16.ofNat packetCfgAckSize)

/-- The kernel with other contents of the memory that is not initialized. -/
def kernelAbove (memory : Memory) (kernel : Kernel) : Kernel :=
  { kernel with env := { kernel.env with uninitialized := fun _ => memory } }

/-- The same packet, sent over other contents of the memory that is not initialized. -/
def withGarbage (memory : Memory) : Packet → Packet
  | .syn name world => .syn name { world with kernel := kernelAbove memory world.kernel }
  | .ack world => .ack { world with kernel := kernelAbove memory world.kernel }
  | .data chunk session kernel => .data chunk session (kernelAbove memory kernel)
  | .reset fin session kernel => .reset fin session (kernelAbove memory kernel)
  | .error code session kernel => .error code session (kernelAbove memory kernel)
  | .synAck session kernel => .synAck session (kernelAbove memory kernel)

section

variable {packet : Packet} {datagram : List UInt8}

/-- The datagram sent last stands at the end of the calls. -/
theorem lastSent_snoc (env : Env) (errno : Int32) (calls : List Syscall)
    (destination : Option SockaddrIn6) (datagram : List UInt8) (failure : Option Int32) :
    lastSent ⟨env, errno, calls ++ [.send destination datagram failure]⟩ = some datagram := by
  simp only [lastSent, List.getLast?_append, List.getLast?_singleton, Option.some_or,
    Option.bind_some, Syscall.datagram?]

/-- What the client has sent last. -/
theorem lastSent_client (flags : UInt8) (length : UInt16) (body : Memory) (world : Client.World) :
    lastSent (Client.sessionSend flags length body world).2.kernel =
      some (packetDatagram (Client.sessionHeader world.session flags length) world.kernel.garbage
        body) := lastSent_snoc _ _ _ _ _ _

/-- What the server has sent last. -/
theorem lastSent_server (flags : UInt8) (length : UInt16) (body : Memory) (session : Session)
    (kernel : Kernel) : lastSent (sessionSend flags length body session kernel).2.2 =
      some (packetDatagram (sessionHeader session flags length) kernel.garbage body) :=
  lastSent_snoc _ _ _ _ _ _

/-- The SYN of a name whose length is not taken for a negative one. -/
theorem datagram?_syn (name : List UInt8) (world : Client.World)
    (positive : ¬ (Int16.ofNat name.length).toInt < 0) :
    (Packet.syn name world).datagram? = some (packetDatagram (Packet.syn name world).header
      world.kernel.garbage ((world.kernel.garbage.shift packetHeaderSize).write
        (packetCfgEncode ⟨0⟩ ++ name.take (Int16.ofNat name.length).toInt.toNat))) := by
  unfold datagram? sentWith Client.sessionSyn
  simp only [if_neg positive]
  exact lastSent_client _ _ _ _

/-- Every packet is built by `packetDatagram` from the fields of its session, over any contents of the
memory that is not initialized. -/
theorem datagram?_eq (sends : packet.datagram? = some datagram) :
    (∃ garbage body, datagram = packetDatagram packet.header garbage body) ∧
      ∀ memory, ∃ body, (packet.withGarbage memory).datagram? =
        some (packetDatagram packet.header memory body) := by
  cases packet with
  | syn name world =>
      by_cases negative : (Int16.ofNat name.length).toInt < 0
      · unfold datagram? sentWith Client.sessionSyn at sends
        simp only [if_pos negative] at sends
        cases sends
      · rw [datagram?_syn name world negative] at sends
        exact ⟨⟨_, _, (Option.some.inj sends).symm⟩, fun memory => ⟨_, datagram?_syn name _ negative⟩⟩
  | ack world =>
      exact ⟨⟨_, _, Option.some.inj (sends.symm.trans (lastSent_client _ _ _ _))⟩,
        fun memory => ⟨_, lastSent_client _ _ _ _⟩⟩
  | data chunk session kernel =>
      exact ⟨⟨_, _, Option.some.inj (sends.symm.trans (lastSent_server _ _ _ _ _))⟩,
        fun memory => ⟨_, lastSent_server _ _ _ _ _⟩⟩
  | reset fin session kernel =>
      exact ⟨⟨_, _, Option.some.inj (sends.symm.trans (lastSent_server _ _ _ _ _))⟩,
        fun memory => ⟨_, lastSent_server _ _ _ _ _⟩⟩
  | error code session kernel =>
      exact ⟨⟨_, _, Option.some.inj (sends.symm.trans (lastSent_server _ _ _ _ _))⟩,
        fun memory => ⟨_, lastSent_server _ _ _ _ _⟩⟩
  | synAck session kernel =>
      exact ⟨⟨_, _, Option.some.inj (sends.symm.trans (lastSent_server _ _ _ _ _))⟩,
        fun memory => ⟨_, lastSent_server _ _ _ _ _⟩⟩

end

end Packet

/-! ## Beside the document -/

section

variable {seq ack : UInt32} {control : Nat} {window length : UInt16} {payload : List UInt8}
  {header : PacketHeader}

/-- The header of the document is the one the programs encode. -/
theorem layout_eq (small : control < 2 ^ 5) : layout seq ack control window length payload =
    packetHeaderEncode ⟨seq, ack, 0, UInt8.ofNat control, window, length⟩ ++ payload := by
  have bits : BigEndian.bytes 2 control = [0, UInt8.ofNat control] := by
    have high : control / 256 ^ 1 = 0 := by omega
    have low : control / 256 ^ 0 = control := Nat.div_one control
    simp only [BigEndian.bytes, high, low]
    rfl
  simp only [layout, packetHeaderEncode, bits]

/-- A packet that carries two bytes between its header and its payload is none of the document. -/
theorem Carries.not_documented {datagram : List UInt8} (carries : Carries datagram header payload) :
    ¬ Documented datagram := by
  rintro ⟨seq, ack, control, window, length, payload', small, announced, same⟩
  rw [layout_eq small] at same
  have decoded := packetHeaderDecode_write (fun _ => 0)
    ⟨seq, ack, 0, UInt8.ofNat control, window, length⟩ payload'
  rw [← same, ← headerOf, carries.headerOf_eq] at decoded
  have whole := carries.length_eq
  rw [same, List.length_append, length_packetHeaderEncode, announced, carries.1, decoded,
    packetHeaderSize] at whole
  dsimp only at whole
  omega

/-- The fifteenth byte of a packet is whatever the memory held. -/
theorem packetDatagram_padding (header : PacketHeader) (garbage body : Memory) :
    (packetDatagram header garbage body)[14]? = some (garbage 14) := by
  have header_length := length_packetHeaderEncode header
  rw [packetDatagram, List.append_assoc, List.getElem?_append_right (by omega), header_length]
  rfl

end

/-- **No packet has the documented layout.** Whatever is sent carries the fields of its session and as
many bytes as it announces, which a receiver with the same struct reads back; but its payload stands
two bytes behind the place the document gives it, and these are bytes of memory that has not been
initialized. -/
theorem packet_not_documented {packet : Packet} {datagram : List UInt8}
    (sends : packet.datagram? = some datagram) :
    ¬ Documented datagram ∧ (∃ payload, Carries datagram packet.header payload) ∧
      ¬ ∀ memory, (packet.withGarbage memory).datagram? = some datagram := by
  obtain ⟨⟨garbage, body, rfl⟩, above⟩ := Packet.datagram?_eq sends
  have carries := carries_packetDatagram packet.header garbage body
  refine ⟨Carries.not_documented carries, ⟨_, carries⟩, fun determined => ?_⟩
  obtain ⟨body', other⟩ := above fun _ => garbage 14 + 1
  have same := Option.some.inj (other.symm.trans (determined _))
  have byte := congrArg (fun bytes : List UInt8 => bytes[14]?) same
  rw [packetDatagram_padding, packetDatagram_padding] at byte
  have apart : garbage 14 + 1 ≠ garbage 14 := by
    intro equal
    have zero : (1 : UInt8) = 0 := 
      (UInt8.add_right_inj (garbage 14)).mp (equal.trans (UInt8.add_zero _).symm)
    exact absurd zero (by decide)
  exact apart (Option.some.inj byte)

/-- The ACK of a client that has asked for the song. -/
theorem packet_not_documented_ack :
    ¬ Documented (Client.packetOf ⟨5, 0, 0, packetFlagAck, 1024, 0⟩ []) := by
  have sends : (Packet.ack Client.songStart.world).datagram? =
      some (Client.packetOf ⟨5, 0, 0, packetFlagAck, 1024, 0⟩ []) := by decide +kernel
  exact (packet_not_documented sends).1

/-- The ACK of that client ends in two bytes the document does not know. -/
theorem packet_not_all_documented :
    ¬ ∀ (packet : Packet) (datagram : List UInt8), packet.datagram? = some datagram →
      Documented datagram := by
  intro documented
  have sends : (Packet.ack Client.songStart.world).datagram? =
      some (Client.packetOf ⟨5, 0, 0, packetFlagAck, 1024, 0⟩ []) := by decide +kernel
  have carries : Carries (Client.packetOf ⟨5, 0, 0, packetFlagAck, 1024, 0⟩ [])
      ⟨5, 0, 0, packetFlagAck, 1024, 0⟩ [] := ⟨rfl, (0, 0), by decide⟩
  exact Carries.not_documented carries (documented _ _ sends)

end Sas.System
