import Sas.Server.Pull
import Sas.Packet
import Sas.Foundation.Run

/-! # How a session reacts to a packet

Everything the state machine can do with one packet, as a relation with one constructor for each
way through it: the system calls made, and the session left, or none where the session is
deleted. From a well-formed session the state machine always returns, in one of these ways and
with a well-formed session. A run of a session is a sequence of such reactions, between which
the server loop and the session table write the two fields that are theirs.
-/

namespace Sas.Server

open Foundation Transport Rxc Formats

/-- The file name in the payload of a SYN. -/
def nameOf (header : PacketHeader) (payload : Memory) : List UInt8 :=
  Memory.cstring (sizeSub header.length.toNat packetCfgSize) (payload.shift packetCfgSize)

/-- A packet as the state machine meets it: the decoded header, the memory behind the header, the
number of bytes received, and the outside world. -/
structure Exchange where
  header : PacketHeader
  payload : Memory
  count : Nat
  env : Env
  errno : Int32

namespace Exchange

/-- The kernel at the start of the exchange. -/
def kernel (exchange : Exchange) : Kernel := ⟨exchange.env, exchange.errno, []⟩

/-- Hand the packet to the state machine of a session. -/
def handledBy (exchange : Exchange) (session : Session) : Except Fault Outcome :=
  sessionStateMachine exchange.header exchange.payload exchange.count session exchange.kernel

/-- The name of the file asked for by a SYN. -/
def name (exchange : Exchange) : List UInt8 := nameOf exchange.header exchange.payload

/-- The codec asked for by a SYN. -/
def codec (exchange : Exchange) : UInt8 := (packetCfgDecode exchange.payload).codec

/-- The answer to the read of the WAV header. -/
def headerRead (exchange : Exchange) : ReadReply :=
  (exchange.env.readReply 1).atMost Wav.waveHeaderSize

/-- The WAV header in memory after it has been read. -/
def waveHeader (exchange : Exchange) : Wav.WaveHeader :=
  Wav.waveHeader (match exchange.headerRead with
    | .data bytes => (exchange.env.uninitialized 1).write bytes
    | .failed _ => exchange.env.uninitialized 1)

/-- The stream a SYN opens: the file opens, and its header is accepted. -/
def offered (exchange : Exchange) : Option (Nat × Wav.Source) :=
  match exchange.env.openReply 0 with
  | .descriptor fd => (Wav.sourceOf fd exchange.waveHeader).map fun source => (fd, source)
  | .failed _ => none

/-- The answer to the first read of the exchange, where it is a read of the stream. -/
def streamRead (exchange : Exchange) : ReadReply :=
  (exchange.env.readReply 0).atMost Wav.bufferSize

end Exchange

/-- The session once it has taken note of a packet. -/
def acked (session : Session) (header : PacketHeader) : Session :=
  { session with
    sendWindow := header.window
    ack := header.seq + span header.length }

/-- The session that pulls for a packet. -/
def pulling (session : Session) (header : PacketHeader) : Session :=
  { acked session header with state := .establsh }

/-- The session whose stream has ended after sending `length` bytes more. -/
def closed (session : Session) (source : Wav.Source) (taken : UInt32) : Session :=
  { session with
    seq := session.seq + taken
    pipeline := some { source with finished := true }
    sinkLogic := some (idleLink longMin) }

/-- The packet is accepted, and it does not reset the session. -/
def Heard (session : Session) (header : PacketHeader) : Prop :=
  Accepted header session.ack ∧ packetFlagIsset header.flags packetFlagRst = false

/-- A pull is due: the session is past its handshake. -/
def Streaming (session : Session) : Prop :=
  session.state = .sackSent ∨ session.state = .establsh

instance (session : Session) : Decidable (Streaming session) :=
  inferInstanceAs (Decidable (_ ∨ _))

/-- A well-formed session is before its handshake or past it. -/
theorem WellFormed.initial_or_streaming {session : Session} (formed : WellFormed session) :
    session.state = .initial ∨ Streaming session := by
  unfold WellFormed at formed
  cases state : session.state <;> simp only [state] at formed
  · exact .inl rfl
  · exact .inr (.inl state)
  · exact .inr (.inr state)

/-- The call that hands one packet to the client of a session. -/
def Sends (session : Session) (flags : UInt8) (payload : List UInt8) (call : Syscall) : Prop :=
  ∃ datagram failure, call = .send (some session.addr) datagram failure ∧
    Carries datagram (sessionHeader session flags (UInt16.ofNat payload.length)) payload

/-- The kinds of packet a session sends, by their flags. -/
theorem Sends.kind {session : Session} {flags : UInt8} {payload : List UInt8} {call : Syscall}
    (sends : Sends session flags payload call) : ∃ datagram,
      (∀ later, sentBy (call :: later) = datagram :: sentBy later) ∧
      (∀ later, readsBy (call :: later) = readsBy later) ∧
      headerOf datagram = sessionHeader session flags (UInt16.ofNat payload.length) ∧
      payloadOf datagram = payload ∧
      isData datagram = (!packetFlagIsset flags packetFlagSyn &&
        !packetFlagIsset flags packetFlagRst) ∧
      isSyn datagram = packetFlagIsset flags packetFlagSyn ∧
      isFin datagram = (packetFlagIsset flags packetFlagRst &&
        packetFlagIsset flags packetFlagFin) ∧
      isErr datagram = (packetFlagIsset flags packetFlagRst &&
        packetFlagIsset flags packetFlagErr) := by
  obtain ⟨datagram, failure, rfl, carries⟩ := sends
  exact ⟨datagram, fun _ => rfl, fun _ => rfl, carries.headerOf_eq, carries.payloadOf_eq, carries.kind⟩

/-- Everything the state machine can do with one packet. -/
inductive Reaction (session : Session) (exchange : Exchange) :
    List Syscall → Option Session → Prop where
  /-- The packet has been acknowledged before. -/
  | dropped : ¬ Accepted exchange.header session.ack →
      Reaction session exchange [] (some session)
  /-- RST deletes the session. -/
  | forgotten : Accepted exchange.header session.ack →
      packetFlagIsset exchange.header.flags packetFlagRst = true →
      Reaction session exchange [] none
  /-- The first packet is not a SYN. -/
  | reset {call : Syscall} : Heard session exchange.header → session.state = .initial →
      packetFlagIsset exchange.header.flags packetFlagSyn = false →
      Sends (acked session exchange.header) packetFlagRst [] call →
      Reaction session exchange [call]
        (some { acked session exchange.header with seq := session.seq + 1 })
  /-- The file asked for cannot be streamed. -/
  | refused {before : List Syscall} {call : Syscall} {code : Int32} :
      Heard session exchange.header → session.state = .initial →
      packetFlagIsset exchange.header.flags packetFlagSyn = true →
      exchange.codec ≠ 0 ∨ exchange.offered = none →
      Sends (acked session exchange.header) (packetFlagRst ||| packetFlagErr)
        (packetErrEncode ⟨code⟩) call →
      sentBy before = [] →
      Reaction session exchange (before ++ [call]) none
  /-- The stream is set up. -/
  | opened {fd : Nat} {source : Wav.Source} {call : Syscall} {padding : UInt8} :
      Heard session exchange.header → session.state = .initial →
      packetFlagIsset exchange.header.flags packetFlagSyn = true →
      exchange.codec = 0 → exchange.offered = some (fd, source) →
      Sends (acked session exchange.header) (packetFlagSyn ||| packetFlagAck)
        (packetCfgAckEncode
          ⟨source.sampleRate, source.sampleSize, source.channels, session.codec⟩ ++ [padding])
        call →
      Reaction session exchange
        [.open exchange.name (.descriptor fd),
          .read fd Wav.waveHeaderSize exchange.headerRead, call]
        (some { acked session exchange.header with
          state := .sackSent
          seq := session.seq + 8
          pipeline := some source
          sinkLogic := some (idleLink 0)
          sampleRate := source.sampleRate
          sampleSize := source.sampleSize
          channels := source.channels
          fd := fd })
  /-- The stream is over. -/
  | silent {source : Wav.Source} : Heard session exchange.header → Streaming session →
      session.pipeline = some source → source.finished = true →
      Reaction session exchange [] (some (pulling session exchange.header))
  /-- One chunk of the stream. -/
  | chunk {source : Wav.Source} {bytes : List UInt8} {call : Syscall} :
      Heard session exchange.header → Streaming session →
      session.pipeline = some source → source.finished = false →
      exchange.streamRead = .data bytes → 0 < bytes.length → bytes.length ≤ 1024 →
      Sends (acked session exchange.header) 0 bytes call →
      Reaction session exchange [.read source.fd Wav.bufferSize (.data bytes), call]
        (some { pulling session exchange.header with
          seq := session.seq + UInt32.ofNat bytes.length })
  /-- The end of the stream. -/
  | ended {source : Wav.Source} {call : Syscall} {failure : Option Int32} :
      Heard session exchange.header → Streaming session →
      session.pipeline = some source → source.finished = false →
      exchange.streamRead = .data [] →
      Sends (acked session exchange.header) (packetFlagRst ||| packetFlagFin) [] call →
      Reaction session exchange
        [.read source.fd Wav.bufferSize (.data []), .close source.fd failure, call]
        (some (closed (pulling session exchange.header) source 1))
  /-- A failure of the stream. -/
  | failed {source : Wav.Source} {errno : Int32} {call : Syscall} {failure : Option Int32} :
      Heard session exchange.header → Streaming session →
      session.pipeline = some source → source.finished = false →
      exchange.streamRead = .failed errno →
      Sends (acked session exchange.header) (packetFlagRst ||| packetFlagErr)
        (packetErrEncode ⟨errno⟩) call →
      Reaction session exchange
        [.read source.fd Wav.bufferSize (.failed errno), call, .close source.fd failure]
        (some (closed (pulling session exchange.header) source 4))

/-! ## The state machine reacts -/

/-- The call of a session send, with the bytes it sends as payload. -/
theorem sends_packetDatagram (session : Session) (flags : UInt8) (length : UInt16)
    (garbage : Memory) {body : Memory} {payload : List UInt8}
    (carried : body.read length.toNat = payload) (failure : Option Int32) :
    Sends session flags payload
      (.send (some session.addr)
        (packetDatagram (sessionHeader session flags length) garbage body) failure) := by
  subst carried
  refine ⟨_, failure, rfl, ?_⟩
  rw [Memory.length_read, UInt16.ofNat_toNat]
  exact carries_packetDatagram _ _ _

/-- A payload copied behind the header is read back from there. -/
theorem read_write_ofNat (memory : Memory) {bytes : List UInt8} {length : UInt16}
    (same : length.toNat = bytes.length) :
    (memory.write bytes).read length.toNat = bytes := by
  rw [same, Memory.read_write_self]

theorem toNat_ofNat_length {bytes : List UInt8} (small : bytes.length ≤ 1024) :
    (UInt16.ofNat bytes.length).toNat = bytes.length :=
  UInt16.toNat_ofNat_of_lt' (Nat.lt_of_le_of_lt small (by decide))

/-- The length an error packet announces is the length of its payload. -/
theorem error_length (packet : PacketErr) :
    (UInt16.ofNat packetErrSize).toNat = (packetErrEncode packet).length := by
  rw [packetErrEncode, BigEndian.length_bytes]
  rfl

/-- What a chunk packet carries are the bytes read into the chunk. -/
theorem carried_chunk (source : Wav.Source) (stack heap : Memory) {bytes : List UInt8}
    (small : bytes.length ≤ 1024) :
    ((heap.shift packetHeaderSize).write
      ((Wav.chunkOf source stack bytes).buffer.read (Wav.chunkOf source stack bytes).size)).read
      (UInt16.ofNat bytes.length).toNat = bytes := by
  change ((heap.shift packetHeaderSize).write ((stack.write bytes).read bytes.length)).read _ = _
  rw [Memory.read_write_self, read_write_ofNat _ (toNat_ofNat_length small)]

/-- A SYN-ACK carries the stream parameters and a byte of padding. -/
theorem carried_cfgAck (packet : PacketCfgAck) (memory : Memory) :
    (memory.write (packetCfgAckEncode packet)).read (UInt16.ofNat packetCfgAckSize).toNat =
      packetCfgAckEncode packet ++ [memory 7] := by
  have length : (packetCfgAckEncode packet).length = 7 := rfl
  have split := Memory.read_add (memory.write (packetCfgAckEncode packet)) 7 1
  rw [← length, Memory.read_write_self] at split
  exact split

/-- A chunk takes as many sequence numbers as it has bytes. -/
theorem span_ofNat_length {bytes : List UInt8} (some : 0 < bytes.length)
    (small : bytes.length ≤ 1024) :
    span (UInt16.ofNat bytes.length) = UInt32.ofNat bytes.length := by
  have length := toNat_ofNat_length small
  have positive : UInt16.ofNat bytes.length > 0 := by
    rw [gt_iff_lt, UInt16.lt_iff_toNat_lt, length]
    exact some
  rw [span, if_pos positive]
  apply UInt32.toNat.inj
  rw [UInt16.toNat_toUInt32, length, UInt32.toNat_ofNat_of_lt' (Nat.lt_of_le_of_lt small (by decide))]

/-! ### The ways through the handshake -/

section

variable {header : PacketHeader} {payload : Memory} {session : Session} {kernel : Kernel}

/-- A session that is opened by a packet without SYN answers with a reset. -/
theorem sessionOpen_noSyn (syn : packetFlagIsset header.flags packetFlagSyn = false) :
    sessionOpen header payload session kernel =
      .ok (sent (sessionReset false session kernel) false) := by
  rw [sessionOpen, if_pos syn]

/-- A session that is asked for a codec answers with an error. -/
theorem sessionOpen_codec (syn : packetFlagIsset header.flags packetFlagSyn = true)
    (foreign : (packetCfgDecode payload).codec ≠ 0) :
    sessionOpen header payload session kernel =
      .ok (sent (sessionError einval session kernel) true) := by
  rw [sessionOpen, if_neg (by rw [syn]; decide)]
  exact if_pos foreign

/-- A session that is asked for a file it cannot open answers with the error of `open`. -/
theorem sessionOpen_missing (syn : packetFlagIsset header.flags packetFlagSyn = true)
    (plain : (packetCfgDecode payload).codec = 0) {errno : Int32}
    (missing : kernel.env.openReply kernel.calls.length = .failed errno) :
    sessionOpen header payload session kernel =
      .ok (sent (sessionError errno { session with fd := -1 }
        { kernel with
          errno := errno
          calls := kernel.calls ++ [.open (nameOf header payload) (.failed errno)] }) true) := by
  rw [sessionOpen, if_neg (by rw [syn]; decide)]
  simp only [plain, ne_eq, not_true_eq_false, ↓reduceIte, Kernel.openFile, missing]
  rfl

/-- A session that has opened its file answers with the configuration, or with an error where the
file has no header. -/
theorem sessionOpen_format (syn : packetFlagIsset header.flags packetFlagSyn = true)
    (plain : (packetCfgDecode payload).codec = 0) {fd : Nat}
    (found : kernel.env.openReply kernel.calls.length = .descriptor fd)
    {format : Option Wav.Source} {kernel' : Kernel}
    (read : Wav.formatsWav fd
      { kernel with calls := kernel.calls ++ [.open (nameOf header payload) (.descriptor fd)] } =
      (format, kernel')) :
    sessionOpen header payload session kernel =
      match format with
      | none => .ok (sent (sessionError kernel'.errno { session with fd := fd } kernel') true)
      | some source =>
          let offering := { session with
            fd := fd
            pipeline := some source
            sampleRate := source.sampleRate
            sampleSize := source.sampleSize
            channels := source.channels }
          .ok ⟨{ (sessionSynAck offering kernel').2.1 with
              state := .sackSent
              pipeline := some source
              sinkLogic := some (idleLink 0) }, (sessionSynAck offering kernel').2.2, false⟩ := by
  rw [sessionOpen, if_neg (by rw [syn]; decide)]
  have descriptor : ¬ ((fd : Int) < 0) := Int.not_lt.mpr (Int.natCast_nonneg fd)
  unfold nameOf at read
  simp only [plain, ne_eq, not_true_eq_false, ↓reduceIte, Kernel.openFile, found, descriptor, read]
  cases format <;> rfl

/-- Reading the header of a file is one call. -/
theorem formatsWav_calls (fd : Int) (kernel : Kernel) :
    (Wav.formatsWav fd kernel).2.env = kernel.env ∧
      ∃ reply, (Wav.formatsWav fd kernel).2.calls =
        kernel.calls ++ [.read fd Wav.waveHeaderSize reply] := by
  unfold Wav.formatsWav Kernel.readFile
  cases (kernel.env.readReply kernel.calls.length).atMost Wav.waveHeaderSize with
  | data bytes => exact ⟨rfl, _, rfl⟩
  | failed errno => exact ⟨rfl, _, rfl⟩

/-- Every way through the handshake ends in one send, after calls that send nothing, and leaves the
session in its place. -/
theorem sessionOpen_sends {outcome : Outcome}
    (done : sessionOpen header payload session kernel = .ok outcome) :
    outcome.session.addr = session.addr ∧ outcome.session.next = session.next ∧
      ∃ asking asked flags length body quiet, asking.seq = session.seq ∧ asked.env = kernel.env ∧
        asked.calls = kernel.calls ++ quiet ∧ sentBy quiet = [] ∧
        outcome.session.seq = asking.seq + span length ∧
        outcome.kernel = (sessionSend flags length body asking asked).2.2 := by
  cases syn : packetFlagIsset header.flags packetFlagSyn with
  | false =>
      rw [sessionOpen_noSyn syn] at done
      cases done
      exact ⟨rfl, rfl, session, kernel, _, _, _, [], rfl, rfl, (List.append_nil _).symm, rfl, rfl, rfl⟩
  | true =>
      by_cases plain : (packetCfgDecode payload).codec = 0
      · cases opening : kernel.env.openReply kernel.calls.length with
        | failed errno =>
            rw [sessionOpen_missing syn plain opening] at done
            cases done
            exact ⟨rfl, rfl, { session with fd := -1 },
              { kernel with
                errno := errno
                calls := kernel.calls ++ [.open (nameOf header payload) (.failed errno)] },
              _, _, _, _, rfl, rfl, rfl, rfl, rfl, rfl⟩
        | descriptor fd =>
            obtain ⟨env, reply, calls⟩ := formatsWav_calls fd
              { kernel with calls := kernel.calls ++ [.open (nameOf header payload) (.descriptor fd)] }
            cases read : Wav.formatsWav fd { kernel with
                calls := kernel.calls ++ [.open (nameOf header payload) (.descriptor fd)] } with
            | mk format kernel' =>
                rw [read] at env calls
                rw [List.append_assoc] at calls
                rw [sessionOpen_format syn plain opening read] at done
                cases format with
                | none =>
                    cases done
                    exact ⟨rfl, rfl, { session with fd := fd }, kernel', _, _, _, _, rfl, env, calls,
                      rfl, rfl, rfl⟩
                | some source =>
                    cases done
                    exact ⟨rfl, rfl, _, kernel', _, _, _, _, rfl, env, calls, rfl, rfl, rfl⟩
      · rw [sessionOpen_codec syn plain] at done
        cases done
        exact ⟨rfl, rfl, session, kernel, _, _, _, [], rfl, rfl, (List.append_nil _).symm, rfl, rfl,
          rfl⟩

end

/-- What a state machine call comes to: its reaction, for the calls and the session left. -/
def Reacts (session : Session) (exchange : Exchange) (result : Except Fault Outcome) : Prop :=
  ∃ outcome, result = .ok outcome ∧
    Reaction session exchange outcome.kernel.calls
      (if outcome.deleted then none else some outcome.session)

section

variable {session : Session} {exchange : Exchange}

/-- Reading the WAV header of an opened file. -/
theorem formatsWav_exchange (exchange : Exchange) (fd : Nat) : ∃ kernel,
    Wav.formatsWav fd
      { exchange.kernel with calls := [.open exchange.name (.descriptor fd)] } =
      (Wav.sourceOf fd exchange.waveHeader, kernel) ∧
    kernel.calls = [.open exchange.name (.descriptor fd),
      .read fd Wav.waveHeaderSize exchange.headerRead] := by
  unfold Wav.formatsWav Kernel.readFile Kernel.garbage Exchange.waveHeader
  have reply : (exchange.kernel.env.readReply
      [Syscall.open exchange.name (.descriptor fd)].length).atMost Wav.waveHeaderSize =
      exchange.headerRead := rfl
  simp only [reply]
  cases exchange.headerRead <;> exact ⟨_, rfl, rfl⟩

/-- In the initial state the state machine refuses the packet or sets the stream up. -/
theorem sessionOpen_reacts (heard : Heard session exchange.header)
    (state : session.state = .initial) (formed : WellFormed session) :
    Reacts session exchange
      (sessionOpen exchange.header exchange.payload (acked session exchange.header)
        exchange.kernel) := by
  unfold WellFormed at formed
  rw [state] at formed
  obtain ⟨noPipeline, noSink, noFd⟩ := formed
  cases syn : packetFlagIsset exchange.header.flags packetFlagSyn with
  | false =>
      exact ⟨_, sessionOpen_noSyn syn,
        .reset heard state syn (sends_packetDatagram _ _ _ _ (Memory.read_zero _) _)⟩
  | true =>
      have refusal := fun (kernel : Kernel) (code : Int32) =>
        sends_packetDatagram (acked session exchange.header) (packetFlagRst ||| packetFlagErr)
          (UInt16.ofNat packetErrSize) kernel.garbage
          (read_write_ofNat (kernel.garbage.shift packetHeaderSize) (error_length ⟨code⟩))
      by_cases plain : exchange.codec = 0
      · cases opening : exchange.env.openReply 0 with
        | failed errno =>
            have missing : exchange.offered = none := by
              rw [Exchange.offered, opening]
            exact ⟨_, sessionOpen_missing syn plain opening,
              .refused heard state syn (.inr missing) (refusal _ _ _) rfl⟩
        | descriptor fd =>
            have offered : exchange.offered =
                (Wav.sourceOf fd exchange.waveHeader).map fun source => (fd, source) := by
              rw [Exchange.offered, opening]
            obtain ⟨kernel, read, calls⟩ := formatsWav_exchange exchange fd
            cases format : Wav.sourceOf fd exchange.waveHeader with
            | none =>
                rw [format] at offered read
                refine ⟨_, sessionOpen_format syn plain opening read, ?_⟩
                change Reaction session exchange (kernel.calls ++ [_]) none
                rw [calls]
                exact .refused heard state syn (.inr offered) (refusal _ _ _) rfl
            | some source =>
                rw [format] at offered read
                refine ⟨_, sessionOpen_format syn plain opening read, ?_⟩
                change Reaction session exchange (kernel.calls ++ [_]) (some _)
                rw [calls]
                exact .opened heard state syn plain offered
                  (sends_packetDatagram (acked session exchange.header) _ _ kernel.garbage
                    (carried_cfgAck _ (kernel.garbage.shift packetHeaderSize)) _)
      · exact ⟨_, sessionOpen_codec syn plain,
          @Reaction.refused _ _ [] _ _ heard state syn (.inl plain) (refusal _ _ _) rfl⟩

/-- Past the handshake, a well-formed session has its pipeline. -/
theorem wellFormed_streaming (streaming : Streaming session) :
    WellFormed session ↔ ∃ source,
      session.pipeline = some source ∧ source.fd = session.fd ∧
      session.sinkLogic = some (idleLink (demandOf source)) := by
  unfold WellFormed
  rcases streaming with state | state <;> rw [state]

/-- The stream a SYN opens reads the descriptor of the file, from its start. -/
theorem source_of_offered {fd : Nat} {source : Wav.Source}
    (offered : exchange.offered = some (fd, source)) :
    source.fd = fd ∧ source.finished = false := by
  unfold Exchange.offered at offered
  cases opening : exchange.env.openReply 0 with
  | failed errno => simp only [opening, reduceCtorEq] at offered
  | descriptor fd' =>
      simp only [opening, Option.map_eq_some_iff, Prod.mk.injEq] at offered
      obtain ⟨source', format, rfl, rfl⟩ := offered
      unfold Wav.sourceOf at format
      split at format
      · cases format
      split at format
      · cases format
      split at format
      · cases format
      cases format
      exact ⟨rfl, rfl⟩

/-- Past the handshake the state machine pulls one chunk. -/
theorem sessionPull_reacts (heard : Heard session exchange.header) (streaming : Streaming session)
    (formed : WellFormed session) :
    Reacts session exchange
      (sessionPull (pulling session exchange.header) exchange.kernel) := by
  obtain ⟨source, pipeline, descriptor, linked⟩ := (wellFormed_streaming streaming).mp formed
  have pipeline' : (pulling session exchange.header).pipeline = some source := pipeline
  have linked' : (pulling session exchange.header).sinkLogic = some (idleLink (demandOf source)) :=
    linked
  have calls := afterRead_calls exchange.kernel source
  cases finished : source.finished with
  | true =>
      exact ⟨_, sessionPull_finished pipeline' linked' finished,
        .silent heard streaming pipeline finished⟩
  | false =>
      cases read : exchange.streamRead with
      | failed errno =>
          have reply : nextRead exchange.kernel = .failed errno := read
          rw [reply] at calls
          refine ⟨_, sessionPull_failed pipeline' linked' finished reply, ?_⟩
          generalize afterRead exchange.kernel source = kernel at calls
          have sends := sends_packetDatagram (acked session exchange.header)
            (packetFlagRst ||| packetFlagErr) (UInt16.ofNat packetErrSize) kernel.garbage
            (read_write_ofNat (kernel.garbage.shift packetHeaderSize) (error_length ⟨errno⟩))
          change Reaction session exchange ((kernel.calls ++ [_]) ++ [_]) (some _)
          rw [calls]
          exact .failed heard streaming pipeline finished read (sends _)
      | data bytes =>
          have reply : nextRead exchange.kernel = .data bytes := read
          rw [reply] at calls
          have small := length_le_of_nextRead reply
          cases bytes with
          | nil =>
              refine ⟨_, sessionPull_end pipeline' linked' finished reply, ?_⟩
              generalize afterRead exchange.kernel source = kernel at calls
              have sends := sends_packetDatagram (acked session exchange.header)
                (packetFlagRst ||| packetFlagFin) 0 (kernel.closeFile source.fd).garbage
                (Memory.read_zero ((kernel.closeFile source.fd).garbage.shift packetHeaderSize))
              change Reaction session exchange ((kernel.calls ++ [_]) ++ [_]) (some _)
              rw [calls]
              exact .ended heard streaming pipeline finished read (sends _)
          | cons byte bytes =>
              refine ⟨_, sessionPull_chunk pipeline' linked' finished reply, ?_⟩
              generalize afterRead exchange.kernel source = kernel at calls
              have sends := sends_packetDatagram (acked session exchange.header) 0
                (UInt16.ofNat (byte :: bytes).length) kernel.garbage
                (carried_chunk source exchange.kernel.garbage kernel.garbage small)
              have some : 0 < (byte :: bytes).length := Nat.succ_pos _
              have reaction := fun failure =>
                Reaction.chunk heard streaming pipeline finished read some small (sends failure)
              rw [← span_ofNat_length some small] at reaction
              change Reaction session exchange (kernel.calls ++ [_]) (.some _)
              rw [calls]
              exact reaction _

/-- A session drops what is below its `ack`. -/
theorem handledBy_behind (behind : exchange.header.seq < session.ack) :
    exchange.handledBy session = .ok ⟨session, exchange.kernel, false⟩ := by
  rw [Exchange.handledBy, sessionStateMachine, if_pos behind]

/-- What the state machine does with a reset. -/
theorem handledBy_reset (current : ¬ exchange.header.seq < session.ack)
    (reset : packetFlagIsset exchange.header.flags packetFlagRst = true) :
    exchange.handledBy session = .ok ⟨acked session exchange.header, exchange.kernel, true⟩ := by
  rw [Exchange.handledBy, sessionStateMachine, if_neg current]
  exact if_pos reset

/-- What the state machine does with a packet it has taken note of. -/
theorem handledBy_heard (heard : Heard session exchange.header) :
    exchange.handledBy session =
      match session.state with
      | .initial =>
          sessionOpen exchange.header exchange.payload (acked session exchange.header)
            exchange.kernel
      | .sackSent => sessionPull (pulling session exchange.header) exchange.kernel
      | .establsh => sessionPull (acked session exchange.header) exchange.kernel
      | _ => .ok ⟨acked session exchange.header, exchange.kernel, false⟩ := by
  unfold Exchange.handledBy sessionStateMachine
  rw [if_neg heard.1]
  simp only [heard.2, Bool.false_eq_true, ↓reduceIte]
  rfl

/-- A well-formed session handles every packet, in one of the ways of `Reaction`. -/
theorem handledBy_reacts (formed : WellFormed session) (exchange : Exchange) :
    Reacts session exchange (exchange.handledBy session) := by
  by_cases old : exchange.header.seq < session.ack
  · exact ⟨⟨session, exchange.kernel, false⟩, handledBy_behind old,
      .dropped (fun accepted => accepted old)⟩
  cases reset : packetFlagIsset exchange.header.flags packetFlagRst with
  | true =>
      exact ⟨⟨acked session exchange.header, exchange.kernel, true⟩, handledBy_reset old reset,
        .forgotten old reset⟩
  | false =>
      have heard : Heard session exchange.header := ⟨old, reset⟩
      rw [handledBy_heard heard]
      cases state : session.state with
      | initial => exact sessionOpen_reacts heard state formed
      | sackSent => exact sessionPull_reacts heard (.inl state) formed
      | establsh =>
          have same : pulling session exchange.header = acked session exchange.header := by
            simp only [pulling, acked, state]
          change Reacts session exchange
            (sessionPull (acked session exchange.header) exchange.kernel)
          rw [← same]
          exact sessionPull_reacts heard (.inr state) formed
      | synRcvd => simp only [WellFormed, state] at formed
      | synSent => simp only [WellFormed, state] at formed
      | finished => simp only [WellFormed, state] at formed

/-- What the state machine returns is a reaction. -/
theorem reaction_of_handledBy (formed : WellFormed session) {outcome : Outcome}
    (returned : exchange.handledBy session = .ok outcome) :
    Reaction session exchange outcome.kernel.calls
      (if outcome.deleted then none else some outcome.session) := by
  obtain ⟨outcome', returned', reaction⟩ := handledBy_reacts formed exchange
  cases returned.symm.trans returned'
  exact reaction

/-- Only a reset and a SYN that is refused delete a session. -/
theorem Reaction.deleted {calls : List Syscall} (reaction : Reaction session exchange calls none) :
    packetFlagIsset exchange.header.flags packetFlagRst = true ∨ session.state = .initial := by
  cases reaction with
  | forgotten accepted reset => exact .inl reset
  | refused heard state => exact .inr state

/-- The state machine deletes a session at once, or where it opens the file. -/
theorem handledBy_deleted {outcome : Outcome} (formed : WellFormed session)
    (done : exchange.handledBy session = .ok outcome) (deleted : outcome.deleted = true) :
    outcome = ⟨acked session exchange.header, exchange.kernel, true⟩ ∨
      sessionOpen exchange.header exchange.payload (acked session exchange.header)
        exchange.kernel = .ok outcome := by
  have reaction := reaction_of_handledBy formed done
  rw [deleted] at reaction
  by_cases old : exchange.header.seq < session.ack
  · cases (handledBy_behind old).symm.trans done
    cases deleted
  cases reset : packetFlagIsset exchange.header.flags packetFlagRst with
  | true =>
      cases (handledBy_reset old reset).symm.trans done
      exact .inl rfl
  | false =>
      rcases reaction.deleted with other | state
      · cases reset.symm.trans other
      · rw [handledBy_heard ⟨old, reset⟩, state] at done
        exact .inr done

/-- A session left by a reaction is well-formed again. -/
theorem Reaction.wellFormed {calls : List Syscall} {next : Session}
    (reaction : Reaction session exchange calls (some next)) (formed : WellFormed session) :
    WellFormed next := by
  cases reaction with
  | dropped => exact formed
  | reset heard state =>
      simp only [WellFormed, state] at formed
      simpa only [WellFormed, acked, state] using formed
  | opened heard state syn codec offered sends =>
      obtain ⟨descriptor, unread⟩ := source_of_offered offered
      exact ⟨_, rfl, descriptor, by rw [demandOf, unread]; rfl⟩
  | silent heard streaming => exact (wellFormed_streaming streaming).mp formed
  | chunk heard streaming => exact (wellFormed_streaming streaming).mp formed
  | ended heard streaming pipeline =>
      obtain ⟨source, set, descriptor, _⟩ := (wellFormed_streaming streaming).mp formed
      cases pipeline.symm.trans set
      exact ⟨_, rfl, descriptor, rfl⟩
  | failed heard streaming pipeline =>
      obtain ⟨source, set, descriptor, _⟩ := (wellFormed_streaming streaming).mp formed
      cases pipeline.symm.trans set
      exact ⟨_, rfl, descriptor, rfl⟩

/-- A packet that is not accepted changes nothing. -/
theorem Reaction.of_not_accepted {calls : List Syscall} {after : Option Session}
    (reaction : Reaction session exchange calls after)
    (behind : ¬ Accepted exchange.header session.ack) : calls = [] ∧ after = some session := by
  cases reaction with
  | dropped => exact ⟨rfl, rfl⟩
  | forgotten accepted => exact (behind accepted).elim
  | reset heard => exact (behind heard.1).elim
  | refused heard => exact (behind heard.1).elim
  | opened heard => exact (behind heard.1).elim
  | silent heard => exact (behind heard.1).elim
  | chunk heard => exact (behind heard.1).elim
  | ended heard => exact (behind heard.1).elim
  | failed heard => exact (behind heard.1).elim

end

end Sas.Server
