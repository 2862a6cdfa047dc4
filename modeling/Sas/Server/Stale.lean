import Sas.Stale
import Sas.Server.Loop
import Sas.Server.SessionRun

/-! # What a session makes of stale bytes

The state machine is not told which bytes of the receive buffer belong to the datagram. A session
handles a datagram by its own bytes exactly if the datagram is long enough for the fields the way
through the state machine reads, and ends the name of a file it asks for.
-/

namespace Sas.Server

open Foundation Transport Rxc Formats

/-- What is seen of a call of the state machine: the session it leaves and the system calls. -/
def Outcome.visible (outcome : Outcome) : Option Session × List Syscall :=
  (if outcome.deleted then none else some outcome.session, outcome.kernel.calls)

/-- What is seen of a packet that is handled. -/
def Exchange.seen (exchange : Exchange) (session : Session) :
    Except Fault (Option Session × List Syscall) :=
  (exchange.handledBy session).map Outcome.visible

/-- The packet the state machine meets when the datagram is received over these bytes. -/
def received (kernel : Kernel) (datagram : List UInt8) (old : Memory) : Exchange :=
  exchangeAt kernel (receiveInto old datagram) (receivedCount datagram)

/-- The session handles the datagram alike over all bytes the buffer may have held. -/
def Judges (session : Session) (kernel : Kernel) (datagram : List UInt8) : Prop :=
  ∀ old old', (received kernel datagram old).seen session =
    (received kernel datagram old').seen session

/-- The session reads no byte behind the datagram: it drops the packet whatever the bytes of the
sequence number it is not given, or is reset by flags it is given, or it is given the whole header
and, where it opens a file, the codec and the name. -/
def Contains (session : Session) (datagram : List UInt8) : Prop :=
  let buffer := receiveInto stale datagram
  let header := packetHeaderDecode buffer
  let count := receivedCount datagram
  header.seq < session.ack ∨
    10 ≤ count ∧ packetFlagIsset header.flags packetFlagRst = true ∨
    14 ≤ count ∧ (session.state = .initial → packetFlagIsset header.flags packetFlagSyn = true →
      17 ≤ count ∧ ((packetCfgDecode (buffer.shift packetHeaderSize)).codec = 0 →
        sizeSub header.length.toNat packetCfgSize ≤ count - 17 ∨
          0 ∈ (datagram.take bufferSize).drop 17))

section

variable {session : Session} {kernel : Kernel} {datagram : List UInt8} {old : Memory}
  {exchange : Exchange} {outcome : Outcome} {header : PacketHeader} {payload payload' : Memory}

/-- A packet behind the session is not seen. -/
theorem seen_behind (behind : exchange.header.seq < session.ack) :
    exchange.seen session = .ok (some session, []) := by
  rw [Exchange.seen, handledBy_behind behind]
  rfl

/-- Of a packet that resets the connection nothing else is seen. -/
theorem seen_reset (accepted : Accepted exchange.header session.ack)
    (reset : packetFlagIsset exchange.header.flags packetFlagRst = true) :
    exchange.seen session = .ok (none, []) := by
  rw [Exchange.seen, handledBy_reset accepted reset]
  rfl

/-- A SYN is handled by its codec and the name it asks for. -/
theorem sessionOpen_congr
    (codec : (packetCfgDecode payload).codec = (packetCfgDecode payload').codec)
    (name : (packetCfgDecode payload).codec = 0 → nameOf header payload = nameOf header payload') :
    sessionOpen header payload session kernel = sessionOpen header payload' session kernel := by
  cases syn : packetFlagIsset header.flags packetFlagSyn with
  | false => rw [sessionOpen_noSyn syn, sessionOpen_noSyn syn]
  | true =>
      by_cases plain : (packetCfgDecode payload).codec = 0
      · have asked := name plain
        have plain' : (packetCfgDecode payload').codec = 0 := codec ▸ plain
        cases opening : kernel.env.openReply kernel.calls.length with
        | failed errno =>
            rw [sessionOpen_missing syn plain opening, sessionOpen_missing syn plain' opening, asked]
        | descriptor fd =>
            cases read : Wav.formatsWav fd { kernel with
                calls := kernel.calls ++ [.open (nameOf header payload) (.descriptor fd)] } with
            | mk format kernel' =>
                rw [sessionOpen_format syn plain opening read]
                rw [asked] at read
                rw [sessionOpen_format syn plain' opening read]
                cases format <;> rfl
      · rw [sessionOpen_codec syn plain, sessionOpen_codec syn (codec ▸ plain)]

theorem received_header (kernel : Kernel) (datagram : List UInt8) (old : Memory) :
    (received kernel datagram old).header = packetHeaderDecode (receiveInto old datagram) := rfl

/-- The name lies in the datagram if its limit or its end does. -/
theorem name_contained (header : PacketHeader) (ends :
      sizeSub header.length.toNat packetCfgSize ≤ receivedCount datagram - 17 ∨
        0 ∈ (datagram.take bufferSize).drop 17) :
    nameOf header ((receiveInto old datagram).shift packetHeaderSize) =
      nameOf header ((receiveInto stale datagram).shift packetHeaderSize) := by
  rw [nameOf, nameOf, Memory.shift_shift, Memory.shift_shift]
  refine Memory.cstring_congr ((agree_received old stale datagram).shift 17) ?_
  rcases ends with short | zero
  · exact .inl short
  · obtain ⟨index, below, same⟩ := List.getElem_of_mem zero
    rw [List.length_drop] at below
    rw [List.getElem_drop] at same
    refine .inr ⟨index, below, ?_⟩
    have inside : 17 + index < (datagram.take bufferSize).length := by omega
    change Memory.write old (datagram.take bufferSize) (17 + index) = 0
    rw [Memory.write_of_lt _ _ inside]
    exact same

theorem received_kernel (kernel : Kernel) (datagram : List UInt8) (old : Memory) :
    (received kernel datagram old).kernel = ⟨kernel.env, kernel.errno, []⟩ := rfl

/-- A datagram with the whole header is handled alike where a SYN is. -/
theorem seen_of_header {first second : Exchange} (header : first.header = second.header)
    (kernel : first.kernel = second.kernel)
    (opens : session.state = .initial →
      packetFlagIsset second.header.flags packetFlagSyn = true →
      (packetCfgDecode first.payload).codec = (packetCfgDecode second.payload).codec ∧
        ((packetCfgDecode first.payload).codec = 0 →
          nameOf second.header first.payload = nameOf second.header second.payload)) :
    first.seen session = second.seen session := by
  by_cases behind : second.header.seq < session.ack
  · rw [seen_behind behind, seen_behind (header ▸ behind)]
  cases reset : packetFlagIsset second.header.flags packetFlagRst with
  | true => rw [seen_reset behind reset, seen_reset (header ▸ behind) (header ▸ reset)]
  | false =>
      have heard : Heard session second.header := ⟨behind, reset⟩
      unfold Exchange.seen
      rw [handledBy_heard heard, handledBy_heard (header ▸ heard), header, kernel]
      cases state : session.state with
      | initial =>
          dsimp only
          cases syn : packetFlagIsset second.header.flags packetFlagSyn with
          | false => rw [sessionOpen_noSyn syn, sessionOpen_noSyn syn]
          | true =>
              obtain ⟨codec, name⟩ := opens state syn
              rw [sessionOpen_congr codec name]
      | _ => rfl

/-- What a session reads of a datagram it contains does not depend on the old bytes. -/
theorem judges_of_contains (contains : Contains session datagram) :
    Judges session kernel datagram := by
  have settle : ∀ old, (received kernel datagram old).seen session =
      (received kernel datagram stale).seen session := by
    intro old
    have agree := agree_received old stale datagram
    rcases contains with behind | ⟨enough, reset⟩ | ⟨enough, opens⟩
    · have behind' : (received kernel datagram old).header.seq < session.ack :=
        UInt32.lt_of_le_of_lt (seq_le_stale old datagram) behind
      rw [seen_behind behind', @seen_behind _ (received kernel datagram stale) behind]
    · have seq := agree.seq_eq (Nat.le_trans (by omega) enough)
      have flags := agree.flags_eq enough
      by_cases behind : (received kernel datagram stale).header.seq < session.ack
      · have behind' : (received kernel datagram old).header.seq < session.ack := by
          rw [received_header, seq]
          exact behind
        rw [seen_behind behind, seen_behind behind']
      · have accepted : Accepted (received kernel datagram old).header session.ack := by
          rw [Accepted, received_header, seq]
          exact behind
        have reset' : packetFlagIsset (received kernel datagram old).header.flags
            packetFlagRst = true := by
          rw [received_header, flags]
          exact reset
        rw [seen_reset accepted reset', @seen_reset _ (received kernel datagram stale) behind reset]
    · have kernels : (received kernel datagram old).kernel = (received kernel datagram stale).kernel :=
        (received_kernel kernel datagram old).trans (received_kernel kernel datagram stale).symm
      refine seen_of_header (agree.header_eq enough) kernels fun state syn => ?_
      obtain ⟨codec, named⟩ := opens state syn
      have cfg : packetCfgDecode (received kernel datagram old).payload =
          packetCfgDecode (received kernel datagram stale).payload :=
        (agree.shift packetHeaderSize).cfg_eq (by rw [packetHeaderSize]; omega)
      refine ⟨by rw [cfg], fun plain => name_contained _ (named ?_)⟩
      rw [cfg] at plain
      exact plain
  intro old old'
  rw [settle old, settle old']

/-! ## Two buffers that are told apart -/

/-- A packet heard that opens no file leaves its session, which has acknowledged it. -/
theorem Reaction.acknowledged {calls : List Syscall} {after : Option Session}
    (reaction : Reaction session exchange calls after) (heard : Heard session exchange.header)
    (opens : ¬ (session.state = .initial ∧
      packetFlagIsset exchange.header.flags packetFlagSyn = true)) :
    ∃ next, after = some next ∧ next.ack = exchange.header.seq + span exchange.header.length := by
  cases reaction with
  | dropped rejected => exact (rejected heard.1).elim
  | forgotten accepted reset =>
      rw [heard.2] at reset
      cases reset
  | reset => exact ⟨_, rfl, rfl⟩
  | refused _ state syn => exact (opens ⟨state, syn⟩).elim
  | opened _ state syn => exact (opens ⟨state, syn⟩).elim
  | silent => exact ⟨_, rfl, rfl⟩
  | chunk => exact ⟨_, rfl, rfl⟩
  | ended => exact ⟨_, rfl, rfl⟩
  | failed => exact ⟨_, rfl, rfl⟩

/-- A SYN with the codec of the server first asks for its file. -/
theorem seen_open (heard : Heard session exchange.header)
    (state : session.state = .initial)
    (syn : packetFlagIsset exchange.header.flags packetFlagSyn = true)
    (plain : exchange.codec = 0) : ∃ next calls, exchange.seen session = .ok (next, calls) ∧
      ∃ reply later, calls = .open exchange.name reply :: later := by
  unfold Exchange.seen
  rw [handledBy_heard heard, state]
  dsimp only
  cases opening : exchange.env.openReply 0 with
  | failed errno =>
      rw [sessionOpen_missing syn plain opening]
      exact ⟨_, _, rfl, _, _, rfl⟩
  | descriptor fd =>
      obtain ⟨kernel, read, calls⟩ := formatsWav_exchange exchange fd
      cases format : Wav.sourceOf fd exchange.waveHeader with
      | none =>
          rw [format] at read
          rw [sessionOpen_format syn plain opening read]
          exact ⟨_, _, rfl, .descriptor fd, _, congrArg (fun calls => calls ++ [_]) calls⟩
      | some source =>
          rw [format] at read
          rw [sessionOpen_format syn plain opening read]
          exact ⟨_, _, rfl, .descriptor fd, _, congrArg (fun calls => calls ++ [_]) calls⟩

/-- A SYN with another codec asks for no file. -/
theorem seen_codec (heard : Heard session exchange.header) (state : session.state = .initial)
    (syn : packetFlagIsset exchange.header.flags packetFlagSyn = true)
    (foreign : exchange.codec ≠ 0) : ∃ next destination packet failure,
      exchange.seen session = .ok (next, [.send destination packet failure]) := by
  unfold Exchange.seen
  rw [handledBy_heard heard, state]
  dsimp only
  rw [sessionOpen_codec syn foreign]
  exact ⟨_, _, _, _, rfl⟩

/-- Two SYNs with different codecs are told apart. -/
theorem codec_apart {first second : Exchange} (heard : Heard session first.header)
    (heard' : Heard session second.header) (state : session.state = .initial)
    (syn : packetFlagIsset first.header.flags packetFlagSyn = true)
    (syn' : packetFlagIsset second.header.flags packetFlagSyn = true) (plain : first.codec = 0)
    (foreign : second.codec ≠ 0) : first.seen session ≠ second.seen session := by
  intro same
  obtain ⟨next, calls, asked, reply, later, rfl⟩ := seen_open heard state syn plain
  obtain ⟨next', destination, packet, failure, refused⟩ := seen_codec heard' state syn' foreign
  rw [asked, refused] at same
  cases same

/-- Two SYNs that ask for different files are told apart. -/
theorem name_apart {first second : Exchange} (heard : Heard session first.header)
    (heard' : Heard session second.header) (state : session.state = .initial)
    (syn : packetFlagIsset first.header.flags packetFlagSyn = true)
    (syn' : packetFlagIsset second.header.flags packetFlagSyn = true) (plain : first.codec = 0)
    (plain' : second.codec = 0) (differ : first.name ≠ second.name) :
    first.seen session ≠ second.seen session := by
  intro same
  obtain ⟨next, calls, asked, reply, later, rfl⟩ := seen_open heard state syn plain
  obtain ⟨next', calls', asked', reply', later', rfl⟩ := seen_open heard' state syn' plain'
  rw [asked, asked', Except.ok.injEq, Prod.mk.injEq, List.cons.injEq, Syscall.open.injEq] at same
  exact differ same.2.1.1

/-- Two packets of different lengths are told apart by what they acknowledge. -/
theorem ack_apart {first second : Exchange} (formed : WellFormed session)
    (heard : Heard session first.header) (heard' : Heard session second.header)
    (opens : ¬ (session.state = .initial ∧
      packetFlagIsset first.header.flags packetFlagSyn = true))
    (opens' : ¬ (session.state = .initial ∧
      packetFlagIsset second.header.flags packetFlagSyn = true))
    (seq : first.header.seq = second.header.seq)
    (differ : span first.header.length ≠ span second.header.length) :
    first.seen session ≠ second.seen session := by
  intro same
  obtain ⟨outcome, done, reaction⟩ := handledBy_reacts formed first
  obtain ⟨outcome', done', reaction'⟩ := handledBy_reacts formed second
  obtain ⟨next, left, ack⟩ := reaction.acknowledged heard opens
  obtain ⟨next', left', ack'⟩ := reaction'.acknowledged heard' opens'
  unfold Exchange.seen at same
  rw [done, done'] at same
  have sessions := (Prod.mk.inj (Except.ok.inj same)).1
  rw [left, left'] at sessions
  cases sessions
  rw [ack, seq] at ack'
  exact differ ((UInt32.add_right_inj _).mp ack')

/-- Whether a packet is heard depends on the first ten bytes. -/
theorem heard_of_agree {first second : Memory} {count : Nat} (agree : Agree count first second)
    (enough : 10 ≤ count) (heard : Heard session (packetHeaderDecode second)) :
    Heard session (packetHeaderDecode first) := by
  unfold Heard Accepted
  rw [agree.seq_eq (Nat.le_trans (by omega) enough), agree.flags_eq enough]
  exact heard

/-- A session that judges the datagram by its own bytes has the codec of a SYN. -/
theorem codec_given (judges : Judges session kernel datagram) (enough : 10 ≤ receivedCount datagram)
    (heard : Heard session (packetHeaderDecode (receiveInto stale datagram)))
    (state : session.state = .initial)
    (syn : packetFlagIsset (packetHeaderDecode (receiveInto stale datagram)).flags
      packetFlagSyn = true) : 17 ≤ receivedCount datagram := by
  by_contra short
  have agree := (agree_patched stale 16 0).received datagram
  have syn' : packetFlagIsset (packetHeaderDecode
      (receiveInto (Function.update stale 16 0) datagram)).flags packetFlagSyn = true := by
    rw [agree.flags_eq (by omega)]
    exact syn
  refine @codec_apart session (received kernel datagram (Function.update stale 16 0))
    (received kernel datagram stale) (heard_of_agree agree (by omega) heard) heard state syn' syn
    ?_ ?_ (judges _ _)
  · change receiveInto (Function.update stale 16 0) datagram 16 = 0
    exact patched_received (by omega) 0 stale
  · change receiveInto stale datagram 16 ≠ 0
    rw [receiveInto_of_le (by omega)]
    decide

/-- A session that judges the datagram by its own bytes has the whole header. -/
theorem header_given (formed : WellFormed session) (judges : Judges session kernel datagram)
    (accepted : Accepted (packetHeaderDecode (receiveInto stale datagram)) session.ack)
    (plain : 10 ≤ receivedCount datagram →
      packetFlagIsset (packetHeaderDecode (receiveInto stale datagram)).flags packetFlagRst = false) :
    14 ≤ receivedCount datagram := by
  by_contra short
  let old : UInt8 → Memory := fun byte => Function.update (Function.update stale 9 0) 13 byte
  have fields : ∀ byte,
      (packetHeaderDecode (receiveInto (old byte) datagram)).seq =
        (packetHeaderDecode (receiveInto stale datagram)).seq ∧
      packetFlagIsset (packetHeaderDecode (receiveInto (old byte) datagram)).flags
        packetFlagRst = false ∧
      ¬ (session.state = .initial ∧ packetFlagIsset (packetHeaderDecode
        (receiveInto (old byte) datagram)).flags packetFlagSyn = true) := by
    intro byte
    have near : Agree 9 (old byte) stale := fun index below =>
      (agree_patched _ 13 byte index (by omega)).trans (agree_patched stale 9 0 index below)
    refine ⟨(near.received datagram).seq_eq (by omega), ?_⟩
    rcases Nat.lt_or_ge (receivedCount datagram) 10 with few | enough
    · have flags : (packetHeaderDecode (receiveInto (old byte) datagram)).flags = 0 := by
        change receiveInto (old byte) datagram 9 = 0
        rw [receiveInto_of_le (by omega)]
        exact (Function.update_of_ne (by decide) _ _).trans (Function.update_self _ _ _)
      rw [flags]
      exact ⟨by decide, fun opens => absurd opens.2 (by decide)⟩
    · have flags := (agree_received (old byte) stale datagram).flags_eq enough
      rw [flags]
      refine ⟨plain enough, fun opens => short ?_⟩
      have given := codec_given judges enough ⟨accepted, plain enough⟩ opens.1 opens.2
      omega
  have heard : ∀ byte, Heard session (received kernel datagram (old byte)).header := by
    intro byte
    obtain ⟨seq, reset, _⟩ := fields byte
    refine ⟨?_, reset⟩
    rw [Accepted, received_header, seq]
    exact accepted
  refine ack_apart formed (heard 2) (heard 3) (fields 2).2.2 (fields 3).2.2
    ((fields 2).1.trans (fields 3).1.symm) (span_apart ?_ ?_ ?_) (judges (old 2) (old 3))
  · have before : Agree 13 (old 2) (old 3) := fun index below =>
      (agree_patched _ 13 2 index below).trans (agree_patched _ 13 3 index below).symm
    exact before.received datagram 12 (by omega)
  · exact patched_received (by omega) 2 _
  · exact patched_received (by omega) 3 _

/-- A session that judges the datagram by its own bytes has the end of the name of a SYN. -/
theorem name_given (judges : Judges session kernel datagram) (enough : 17 ≤ receivedCount datagram)
    (heard : Heard session (packetHeaderDecode (receiveInto stale datagram)))
    (state : session.state = .initial)
    (syn : packetFlagIsset (packetHeaderDecode (receiveInto stale datagram)).flags
      packetFlagSyn = true)
    (plain : (packetCfgDecode ((receiveInto stale datagram).shift packetHeaderSize)).codec = 0) :
    sizeSub (packetHeaderDecode (receiveInto stale datagram)).length.toNat packetCfgSize ≤
        receivedCount datagram - 17 ∨ 0 ∈ (datagram.take bufferSize).drop 17 := by
  by_contra open'
  rw [not_or, not_le] at open'
  obtain ⟨long, clear⟩ := open'
  let cut : Memory := Function.update stale (receivedCount datagram) 0
  have agree := agree_received cut stale datagram
  have header : packetHeaderDecode (receiveInto cut datagram) =
      packetHeaderDecode (receiveInto stale datagram) := agree.header_eq (by omega)
  have cfg : packetCfgDecode ((receiveInto cut datagram).shift packetHeaderSize) =
      packetCfgDecode ((receiveInto stale datagram).shift packetHeaderSize) :=
    (agree.shift packetHeaderSize).cfg_eq (by rw [packetHeaderSize]; omega)
  refine @name_apart session (received kernel datagram cut) (received kernel datagram stale)
    (by rw [received_header, header]; exact heard) heard state
    (by rw [received_header, header]; exact syn) syn (by rw [← plain, ← cfg]; rfl) plain ?_
    (judges _ _)
  intro same
  have lengths := congrArg List.length same
  have ends : (nameOf (packetHeaderDecode (receiveInto cut datagram))
      ((receiveInto cut datagram).shift packetHeaderSize)).length ≤ receivedCount datagram - 17 := by
    rw [nameOf, Memory.shift_shift]
    apply Memory.length_cstring_le_of_zero
    change receiveInto cut datagram (17 + (receivedCount datagram - 17)) = 0
    rw [Nat.add_sub_cancel' enough, receiveInto_of_le (Nat.le_refl _)]
    exact Function.update_self _ _ _
  have goes : receivedCount datagram - 17 + 1 ≤
      (nameOf (packetHeaderDecode (receiveInto stale datagram))
        ((receiveInto stale datagram).shift packetHeaderSize)).length := by
    rw [nameOf, Memory.shift_shift]
    apply Memory.le_length_cstring
    · intro index below
      change receiveInto stale datagram (17 + index) ≠ 0
      rcases Nat.lt_or_ge (17 + index) (receivedCount datagram) with inside | behind
      · intro zero
        apply clear
        rw [receiveInto, Memory.write_of_lt _ _ inside] at zero
        have among : index < ((datagram.take bufferSize).drop 17).length := by
          rw [List.length_drop]
          change index < receivedCount datagram - 17
          omega
        have element : ((datagram.take bufferSize).drop 17)[index] = 0 := by
          rw [List.getElem_drop]
          exact zero
        rw [← element]
        exact List.getElem_mem among
      · rw [receiveInto_of_le behind]
        exact (by decide : (255 : UInt8) ≠ 0)
    · exact long
  have whole : (nameOf (packetHeaderDecode (receiveInto cut datagram))
      ((receiveInto cut datagram).shift packetHeaderSize)).length =
      (nameOf (packetHeaderDecode (receiveInto stale datagram))
        ((receiveInto stale datagram).shift packetHeaderSize)).length := lengths
  omega

/-- A session judges a datagram by its own bytes exactly if it reads no others. -/
theorem judges_iff_contains (formed : WellFormed session) :
    Judges session kernel datagram ↔ Contains session datagram := by
  refine ⟨fun judges => ?_, judges_of_contains⟩
  by_cases behind : (packetHeaderDecode (receiveInto stale datagram)).seq < session.ack
  · exact .inl behind
  by_cases reset : 10 ≤ receivedCount datagram ∧
      packetFlagIsset (packetHeaderDecode (receiveInto stale datagram)).flags packetFlagRst = true
  · exact .inr (.inl reset)
  have plain : 10 ≤ receivedCount datagram → packetFlagIsset
      (packetHeaderDecode (receiveInto stale datagram)).flags packetFlagRst = false :=
    fun enough => Bool.not_eq_true _ ▸ fun set => reset ⟨enough, set⟩
  have enough := header_given formed judges behind plain
  have heard : Heard session (packetHeaderDecode (receiveInto stale datagram)) :=
    ⟨behind, plain (by omega)⟩
  refine .inr (.inr ⟨enough, fun state syn => ?_⟩)
  have given := codec_given judges (by omega) heard state syn
  exact ⟨given, name_given judges given heard state syn⟩

end

end Sas.Server
