import Sas.System.Wire
import Sas.Server.Stale

/-! # The name of a file

The length of a name is an `int16_t` at the client, a 16-bit field in the packet, and bounded by the
receive buffer at the server. What the server opens is what the client asked for exactly up to the
lowest of these bounds.
-/

namespace Sas.System

open Foundation Transport Server

/-- Whenever the client reports that its SYN has been sent, a fresh session of the server that receives
it checks the codec of the client and opens the file of this name. -/
def Arrives (name : List UInt8) : Prop :=
  ∀ (world world' : Client.World) (datagram : List UInt8) (addr : SockaddrIn6)
    (memory : Uninitialized) (kernel : Kernel) (old : Memory),
    Client.sessionSyn name world = .ok (0, world') →
    Packet.lastSent world'.kernel = some datagram →
    (received kernel datagram old).codec = 0 ∧
      ∃ after reply later, (received kernel datagram old).seen (sessionCreate addr memory) =
        .ok (after, .open name reply :: later)

section

variable {name : List UInt8} {world : Client.World}

/-- The length of a name comes out negative in the upper half of its sixteen bits. -/
theorem toInt_length_neg (length : Nat) :
    (Int16.ofNat length).toInt < 0 ↔ 2 ^ 15 ≤ length % 2 ^ 16 := by
  rw [Int16.toInt_ofNat', Int.bmod_def]
  have size : Int16.size = 65536 := rfl
  rw [size]
  split <;> omega

/-- A length that does not turn negative is its remainder modulo 2 ^ 16. -/
theorem toNat_length {length : Nat} (positive : length % 2 ^ 16 < 2 ^ 15) :
    (Int16.ofNat length).toInt.toNat = length % 2 ^ 16 := by
  rw [Int16.toInt_ofNat', Int.bmod_def]
  have size : Int16.size = 65536 := rfl
  rw [size]
  split <;> omega

/-- The SYN for a name of this many bytes. -/
theorem sessionSyn_eq (positive : name.length % 2 ^ 16 < 2 ^ 15) :
    Client.sessionSyn name world = .ok (Client.sessionSend packetFlagSyn
      (UInt16.ofNat (packetCfgSize + name.length % 2 ^ 16))
      ((world.kernel.garbage.shift packetHeaderSize).write
        (packetCfgEncode ⟨0⟩ ++ name.take (name.length % 2 ^ 16)))
      (world.withState .synSent)) := by
  have ready : ¬ (Int16.ofNat name.length).toInt < 0 := by
    rw [toInt_length_neg]
    omega
  unfold Client.sessionSyn
  simp only [if_neg ready, toNat_length positive]
  rfl

/-- A datagram carries what its body reads. -/
theorem carries_body (header : PacketHeader) (garbage : Memory) {body : Memory}
    {payload : List UInt8} (same : body.read header.length.toNat = payload) :
    Carries (packetDatagram header garbage body) header payload := by
  subst same
  exact carries_packetDatagram header garbage body

/-- The SYN carries the codec and as much of the name as its length says. -/
theorem carries_syn (positive : name.length % 2 ^ 16 < 2 ^ 15) {world' : Client.World}
    {datagram : List UInt8} (sent : Client.sessionSyn name world = .ok (0, world'))
    (handed : Packet.lastSent world'.kernel = some datagram) :
    Carries datagram
      (Client.sessionHeader world.session packetFlagSyn
        (UInt16.ofNat (packetCfgSize + name.length % 2 ^ 16)))
      (0 :: name.take (name.length % 2 ^ 16)) := by
  rw [sessionSyn_eq positive] at sent
  have after : world' = _ := (congrArg Prod.snd (Except.ok.inj sent)).symm
  rw [after, Packet.lastSent_client] at handed
  have short : (packetCfgEncode ⟨0⟩ ++ name.take (name.length % 2 ^ 16)).length =
      packetCfgSize + name.length % 2 ^ 16 := by
    rw [List.length_append, List.length_take, Nat.min_eq_left (Nat.mod_le _ _)]
    rfl
  have announced : (UInt16.ofNat (packetCfgSize + name.length % 2 ^ 16)).toNat =
      packetCfgSize + name.length % 2 ^ 16 :=
    UInt16.toNat_ofNat_of_lt' (by rw [packetCfgSize, UInt16.size]; omega)
  have body := read_write_ofNat (world.kernel.garbage.shift packetHeaderSize)
    (announced.trans short.symm)
  rw [← Option.some.inj handed]
  exact carries_body _ _ body

/-- The SYN of a client is heard by a fresh session. -/
theorem syn_heard {datagram payload : List UInt8} {session : Client.Session} {length : UInt16}
    (carries : Carries datagram (Client.sessionHeader session packetFlagSyn length) payload)
    (kernel : Kernel) (old : Memory) (addr : SockaddrIn6) (memory : Uninitialized) :
    (received kernel datagram old).header = Client.sessionHeader session packetFlagSyn length ∧
      Heard (sessionCreate addr memory) (received kernel datagram old).header := by
  have header : (received kernel datagram old).header = _ := decode_received carries old
  rw [header]
  exact ⟨rfl, UInt32.not_lt.mpr UInt32.zero_le,
    (by decide : packetFlagIsset packetFlagSyn packetFlagRst = false)⟩

/-- A fresh session opens the name it finds behind the codec zero. -/
theorem fresh_opens {datagram payload : List UInt8} {session : Client.Session} {length : UInt16}
    (carries : Carries datagram (Client.sessionHeader session packetFlagSyn length) payload)
    (kernel : Kernel) (old : Memory) (addr : SockaddrIn6) (memory : Uninitialized)
    (plain : (received kernel datagram old).codec = 0) : ∃ after reply later,
      (received kernel datagram old).seen (sessionCreate addr memory) =
        .ok (after, .open (received kernel datagram old).name reply :: later) := by
  obtain ⟨header, heard⟩ := syn_heard carries kernel old addr memory
  have syn : packetFlagIsset (received kernel datagram old).header.flags packetFlagSyn = true := by
    rw [header]
    exact packetFlagIsset_self packetFlagSyn
  obtain ⟨after, calls, seen, reply, later, rfl⟩ := seen_open heard rfl syn plain
  exact ⟨after, reply, later, seen⟩

/-- From the announced length the server recovers that of the name. -/
theorem sizeSub_announced {length : Nat} (small : length < 2 ^ 15) :
    sizeSub (UInt16.ofNat (packetCfgSize + length)).toNat packetCfgSize = length := by
  have announced : (UInt16.ofNat (packetCfgSize + length)).toNat = packetCfgSize + length :=
    UInt16.toNat_ofNat_of_lt' (by rw [packetCfgSize, UInt16.size]; omega)
  rw [announced, sizeSub_of_le (Nat.le_add_right _ _) (by rw [packetCfgSize]; omega)]
  exact Nat.add_sub_cancel_left _ _

/-- A name that fits the receive buffer behind the header and the codec arrives. -/
theorem arrives_of_fits (clear : 0 ∉ name) (fits : name.length ≤ 4079) : Arrives name := by
  intro world world' datagram addr memory kernel old sent handed
  have whole : name.length % 2 ^ 16 = name.length := Nat.mod_eq_of_lt (by omega)
  have carries := carries_syn (by omega) sent handed
  rw [whole, List.take_length] at carries
  have inside : datagram.length ≤ bufferSize := by
    rw [carries.length_eq, packetHeaderSize, bufferSize, List.length_cons]
    omega
  have payload : (received kernel datagram old).payload =
      (old.shift packetHeaderSize).write (0 :: name) := carries.payload_receiveInto inside old
  obtain ⟨header, _⟩ := syn_heard carries kernel old addr memory
  have codec : (received kernel datagram old).codec = 0 := by
    rw [Exchange.codec, payload]
    rfl
  have asked : (received kernel datagram old).name = name := by
    rw [Exchange.name, header, payload, nameOf]
    change Memory.cstring (sizeSub (UInt16.ofNat (packetCfgSize + name.length)).toNat packetCfgSize)
      _ = name
    rw [sizeSub_announced (by omega), Memory.shift_write]
    exact Memory.cstring_write clear _
  refine ⟨codec, ?_⟩
  have opens := fresh_opens carries kernel old addr memory codec
  rwa [asked] at opens

/-- Of a name that does not fit, fewer bytes can arrive than it has. -/
theorem name_short {datagram payload : List UInt8} {session : Client.Session} {length : Nat}
    (carries : Carries datagram (Client.sessionHeader session packetFlagSyn
      (UInt16.ofNat (packetCfgSize + length))) payload) (small : length < 2 ^ 15) (kernel : Kernel) :
    (received kernel datagram blank).name.length ≤ min length 4079 := by
  obtain ⟨header, _⟩ := syn_heard carries kernel blank listener ⟨0, 0, 0, 0, 0⟩
  rw [Exchange.name, header, nameOf]
  change (Memory.cstring (sizeSub (UInt16.ofNat (packetCfgSize + length)).toNat packetCfgSize)
    _).length ≤ _
  rw [sizeSub_announced small]
  refine Nat.le_min.mpr ⟨Memory.length_cstring_le _ _, Memory.length_cstring_le_of_zero _ ?_⟩
  change receiveInto blank datagram 4096 = 0
  apply receiveInto_of_le
  exact List.length_take_le _ _

/-- A client that has just been set up, on a network that takes everything. -/
def calmWorld : Client.World :=
  ⟨Client.clientInit ⟨0, 0, 0, 0, 0, blank⟩, ⟨Client.calmEnv, 0, []⟩, []⟩

/-- **Which names arrive.** Whatever the receive buffer of the server has held, the name it opens is
the one the client has asked for exactly if it has at most 4079 bytes: where the client has sent a SYN
at all, which the upper half of the sixteen bits of a length leave undefined. -/
theorem name_asked_iff (clear : 0 ∉ name) :
    Arrives name ↔ name.length ≤ 4079 ∨ 2 ^ 15 ≤ name.length % 2 ^ 16 := by
  refine ⟨fun asks => ?_, ?_⟩
  · by_contra long
    rw [not_or, not_le, not_le] at long
    have sent := @sessionSyn_eq name calmWorld long.2
    have handed := Packet.lastSent_client packetFlagSyn
      (UInt16.ofNat (packetCfgSize + name.length % 2 ^ 16))
      ((calmWorld.kernel.garbage.shift packetHeaderSize).write
        (packetCfgEncode ⟨0⟩ ++ name.take (name.length % 2 ^ 16))) (calmWorld.withState .synSent)
    have carries := carries_syn long.2 sent handed
    obtain ⟨codec, after, reply, later, opens⟩ := asks calmWorld _ _ listener ⟨0, 0, 0, 0, 0⟩
      ⟨Client.calmEnv, 0, []⟩ blank sent handed
    obtain ⟨after', reply', later', opens'⟩ := fresh_opens carries ⟨Client.calmEnv, 0, []⟩ blank
      listener ⟨0, 0, 0, 0, 0⟩ codec
    have short := name_short carries long.2 ⟨Client.calmEnv, 0, []⟩
    have calls := congrArg Prod.snd (Except.ok.inj (opens.symm.trans opens'))
    have same := (Syscall.open.inj (List.cons.inj calls).1).1
    rw [← same] at short
    have half := Nat.mod_le name.length (2 ^ 16)
    omega
  · rintro (fits | negative)
    · exact arrives_of_fits clear fits
    · intro world world' datagram addr memory kernel old sent
      unfold Client.sessionSyn at sent
      simp only [if_pos ((toInt_length_neg _).mpr negative)] at sent
      cases sent

end

/-- The name of the song arrives. -/
theorem name_asked_song : Arrives [115, 111, 110, 103] :=
  (name_asked_iff (by decide)).mpr (.inl (by decide))

/-- A name of 4080 bytes does not. -/
theorem name_not_asked : ¬ ∀ name : List UInt8, 0 ∉ name → Arrives name := by
  intro asks
  have clear : 0 ∉ List.replicate 4080 (97 : UInt8) := by
    intro member
    exact absurd (List.eq_of_mem_replicate member) (by decide)
  rcases (name_asked_iff clear).mp (asks _ clear) with fits | negative
  · rw [List.length_replicate] at fits
    omega
  · rw [List.length_replicate] at negative
    omega

end Sas.System
