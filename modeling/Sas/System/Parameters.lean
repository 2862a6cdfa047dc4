import Sas.System.Pair
import Sas.Client.Demand
import Sas.Server.Answer

/-! # The parameters of a stream

The parameters of a stream come from the header of the file, and pass through the source, the session
and the SYN-ACK into the first chunk the client pushes. On their way they become signed, the sample
size with eight bits; and the codec of the SYN-ACK is one no session is ever given.
-/

namespace Sas.System

open Foundation Transport Server Formats

/-- The chunk carries the numbers of the header of the file, and the codec that has been asked for. -/
structure Matches (chunk : Chunk) (exchange : Exchange) : Prop where
  sampleRate : chunk.sampleRate.toInt = exchange.waveHeader.sampleFq.toNat
  sampleSize : chunk.sampleSize.toInt = exchange.waveHeader.bitPSpl.toNat
  channels : chunk.channels.toInt = exchange.waveHeader.chans.toNat
  codec : chunk.codec = exchange.codec

/-! ## Numbers that become signed -/

/-- A word is the same number with a sign if it is below half its range. -/
theorem toInt_toInt32_iff (word : UInt32) :
    word.toInt32.toInt = word.toNat ↔ word.toNat < 2 ^ 31 := by
  have value : word.toInt32.toInt = (word.toNat : Int).bmod (2 ^ 32) :=
    BitVec.toInt_eq_toNat_bmod _
  have small := word.toNat_lt
  rw [value, Int.bmod_def]
  split <;> omega

/-- A half word is the same number as a signed byte if it is below half the range of a byte. -/
theorem toInt_toInt8_iff (half : UInt16) :
    half.toUInt8.toInt8.toInt = half.toNat ↔ half.toNat < 2 ^ 7 := by
  have value : half.toUInt8.toInt8.toInt = (half.toUInt8.toNat : Int).bmod (2 ^ 8) :=
    BitVec.toInt_eq_toNat_bmod _
  rw [value, UInt16.toNat_toUInt8, Int.bmod_def]
  split <;> omega

/-! ## The SYN-ACK -/

section

variable {addr : SockaddrIn6} {memory : Uninitialized} {events : List SessionEvent}
  {session : Session} {exchange : Exchange} {calls : List Syscall} {after : Option Session}

/-- No packet gives a session a codec. -/
theorem Reaction.codec_eq {next : Session}
    (reaction : Server.Reaction session exchange calls (some next)) : next.codec = session.codec := by
  cases reaction <;> rfl

/-- The codec of a session is what its memory held before it was one. -/
theorem SessionRun.codec_eq {target : Option Session} (run : SessionRun addr memory events target) :
    ∀ session, target = some session → session.codec = memory.codec := by
  have both := run.invariant (fun state => ∀ session, state = some session →
    Server.WellFormed session ∧ session.codec = memory.codec) ?_ ?_
  · exact fun session live => (both session live).2
  · rintro _ ⟨⟩
    exact ⟨wellFormed_create addr memory, rfl⟩
  · intro before event after kept step session live
    have formed : ∀ session, before = some session → Server.WellFormed session :=
      fun session live => (kept session live).1
    refine ⟨step.wellFormed formed session live, ?_⟩
    obtain ⟨earlier, held, ⟨exchange, calls, _, reaction⟩ | ⟨timeout, next, _, same⟩⟩ :=
      step.cases formed
    · rw [live] at reaction
      exact (Reaction.codec_eq reaction).trans (kept earlier held).2
    · cases live.symm.trans same
      exact (kept earlier held).2

/-- A SYN-ACK answers a SYN for a file whose header is accepted, and carries the parameters of the
source with the codec of the session. -/
theorem Reaction.synAck (reaction : Server.Reaction session exchange calls after)
    {datagram : List UInt8} (answers : datagram ∈ sentBy calls) (syn : isSyn datagram = true) :
    ∃ fd source padding header, exchange.codec = 0 ∧
      Wav.sourceOf fd exchange.waveHeader = some source ∧
      Carries datagram header (packetCfgAckEncode
        ⟨source.sampleRate, source.sampleSize, source.channels, session.codec⟩ ++ [padding]) := by
  have other : ∀ {flags : UInt8} {payload : List UInt8} {call : Syscall} {before : Session},
      Sends before flags payload call → datagram ∈ sentBy [call] →
      packetFlagIsset flags packetFlagSyn = true := by
    intro flags payload call before sends member
    obtain ⟨sent, said, _, _, _, _, kind, _⟩ := sends.kind
    rw [said, sentBy_nil, List.mem_singleton] at member
    rw [← kind, ← member]
    exact syn
  cases reaction with
  | dropped => cases answers
  | forgotten => cases answers
  | reset _ _ _ sends => exact absurd (other sends answers) (by decide)
  | refused _ _ _ _ sends quiet =>
      rw [sentBy_append, quiet, List.nil_append] at answers
      exact absurd (other sends answers) (by decide)
  | opened _ _ _ codec offered sends =>
      obtain ⟨sent, failure, rfl, carries⟩ := sends
      rw [sentBy_open, sentBy_read, sentBy_send, sentBy_nil, List.mem_singleton] at answers
      subst answers
      unfold Exchange.offered at offered
      cases opening : exchange.env.openReply 0 with
      | failed errno =>
          rw [opening] at offered
          cases offered
      | descriptor fd' =>
          rw [opening] at offered
          obtain ⟨source', found, same⟩ := Option.map_eq_some_iff.mp offered
          cases same
          exact ⟨_, _, _, _, codec, found, carries⟩
  | silent => cases answers
  | chunk _ _ _ _ _ _ _ sends =>
      rw [sentBy_read] at answers
      exact absurd (other sends answers) (by decide)
  | ended _ _ _ _ _ sends =>
      rw [sentBy_read, sentBy_close] at answers
      exact absurd (other sends answers) (by decide)
  | failed _ _ _ _ _ sends =>
      obtain ⟨sent, failure, rfl, carries⟩ := sends
      rw [sentBy_read, sentBy_send, sentBy_close, ← sentBy_send _ _ failure []] at answers
      exact absurd (other ⟨_, _, rfl, carries⟩ answers) (by decide)

/-! ## The chunk -/

/-- A client that awaits its configuration pushes what a SYN-ACK carries. -/
theorem pushed_configuration {sink : Client.Sink} {config next : Client.Config}
    {event : Client.ClientEvent} (step : Client.ClientStep sink config event next)
    (formed : Client.WellFormed config.world) {datagram : List UInt8}
    (arrives : event.input.datagram? = some datagram)
    (takes : Client.Takes config.world (event.input.header datagram))
    (waiting : config.world.session.state = .synSent) {header : PacketHeader}
    {packet : PacketCfgAck} {padding : UInt8}
    (carries : Carries datagram header (packetCfgAckEncode packet ++ [padding])) :
    ∃ chunk, next.world.pushed = config.world.pushed ++ [chunk] ∧
      chunk.sampleRate = packet.sampleRate ∧ chunk.sampleSize = packet.sampleSize ∧
      chunk.channels = packet.channels ∧ chunk.codec = packet.codec := by
  have fits : datagram.length ≤ bufferSize := by
    rw [carries.length_eq, List.length_append, packetCfgAckEncode, List.length_append,
      BigEndian.length_bytes]
    exact (by decide : packetHeaderSize + (4 + 3 + 1) ≤ bufferSize)
  have payload : event.input.payload datagram =
      (event.input.buffer.shift packetHeaderSize).write (packetCfgAckEncode packet ++ [padding]) :=
    carries.payload_receiveInto fits event.input.buffer
  rcases step.hears_or formed with ⟨other, chunk, heeds⟩ | ⟨deaf, _⟩
  · cases heeds.received.symm.trans arrives
    have pushes := heeds.pushes
    generalize same : chunk = pushed at pushes
    cases pushes with
    | config =>
        have decoded := packetCfgAckDecode_write (event.input.buffer.shift packetHeaderSize) packet
          [padding]
        rw [← payload] at decoded
        refine ⟨chunk, heeds.pushed, ?_⟩
        rw [same]
        simp only [Client.configChunk, decoded, and_self]
    | data state => cases waiting.symm.trans state
  · exact (deaf ⟨datagram, arrives, takes⟩).elim

/-- **When the parameters of a stream arrive.** The chunk a client pushes for the SYN-ACK carries the
numbers of the header of the file and the codec that was asked for exactly if the sampling frequency
is below 2^31, the sample size is below 2^7, and the memory of the session happened to hold a zero
where its codec is kept: for the codec of the chunk is always that byte. -/
theorem parameters_agree_iff (run : SessionRun addr memory events (some session))
    (step : SessionStep (some session) (.packet exchange calls) after) {datagram : List UInt8}
    (answers : datagram ∈ sentBy calls) (syn : isSyn datagram = true) {sink : Client.Sink}
    {name : List UInt8} {chunkMemory : Chunk} {env : Env} {start config next : Client.Config}
    {clientEvents : List Client.ClientEvent} {event : Client.ClientEvent}
    (begun : Client.receive name chunkMemory env = .ok start)
    (clientRun : Client.ClientRun sink start clientEvents config)
    (clientStep : Client.ClientStep sink config event next)
    (arrives : event.input.datagram? = some datagram)
    (takes : Client.Takes config.world (event.input.header datagram))
    (waiting : config.world.session.state = .synSent) :
    ∃ chunk, next.world.pushed = config.world.pushed ++ [chunk] ∧
      (Matches chunk exchange ↔ exchange.waveHeader.sampleFq.toNat < 2 ^ 31 ∧
        exchange.waveHeader.bitPSpl.toNat < 2 ^ 7 ∧ memory.codec = 0) ∧
      chunk.codec = memory.codec := by
  have reaction := step.reaction (run.wellFormed session rfl)
  obtain ⟨fd, source, padding, header, plain, accepted, carries⟩ :=
    Reaction.synAck reaction answers syn
  rw [SessionRun.codec_eq run session rfl] at carries
  obtain ⟨chunk, pushed, rate, size, channels, codec⟩ := pushed_configuration clientStep
    (Client.ClientRun.underway begun clientRun).formed arrives takes waiting carries
  dsimp only at rate size channels codec
  refine ⟨chunk, pushed, ?_, codec⟩
  obtain ⟨sampleRate, sampleSize, sourceChannels, few⟩ :
      source.sampleRate = exchange.waveHeader.sampleFq.toInt32 ∧
      source.sampleSize = exchange.waveHeader.bitPSpl.toUInt8.toInt8 ∧
      source.channels = exchange.waveHeader.chans.toUInt8.toInt8 ∧
      ¬ exchange.waveHeader.chans > 2 := by
    unfold Wav.sourceOf at accepted
    split at accepted
    · cases accepted
    split at accepted
    · cases accepted
    split at accepted
    · cases accepted
    cases accepted
    exact ⟨rfl, rfl, rfl, by assumption⟩
  have stereo : exchange.waveHeader.chans.toNat < 2 ^ 7 := by
    have two : exchange.waveHeader.chans.toNat ≤ 2 := UInt16.le_iff_toNat_le.mp
      (UInt16.not_lt.mp few)
    omega
  constructor
  · intro agrees
    refine ⟨(toInt_toInt32_iff _).mp ?_, (toInt_toInt8_iff _).mp ?_, ?_⟩
    · rw [← sampleRate, ← rate]
      exact agrees.sampleRate
    · rw [← sampleSize, ← size]
      exact agrees.sampleSize
    · rw [← codec, agrees.codec, plain]
  · rintro ⟨frequency, small, zero⟩
    refine ⟨?_, ?_, ?_, by rw [codec, zero, plain]⟩
    · rw [rate, sampleRate]
      exact (toInt_toInt32_iff _).mpr frequency
    · rw [size, sampleSize]
      exact (toInt_toInt8_iff _).mpr small
    · rw [channels, sourceChannels]
      exact (toInt_toInt8_iff _).mpr stereo

end

/-- What a session that has been made over this memory does with the SYN for the song. -/
def songOutcome (memory : Uninitialized) : Outcome :=
  (songSyn.handledBy (sessionCreate listener memory)).toOption.getD
    ⟨sessionCreate listener memory, songSyn.kernel, true⟩

/-- The SYN-ACK for the song from a session with this codec. -/
def songAnswer (codec : UInt8) : List UInt8 :=
  Client.packetOf ⟨0, 5, 0, packetFlagSyn ||| packetFlagAck, 1024, 8⟩ [0, 0, 172, 68, 16, 2, codec, 0]

/-- The client that has been sent this SYN-ACK. -/
def songClient (codec : UInt8) : Client.Config :=
  (Client.clientStep Client.driversIgnore (Client.receiving (songAnswer codec))
    Client.songStart).toOption.getD Client.songStart

/-- The parameters of the song arrive where the memory held a zero. -/
theorem parameters_agree_song : ∃ chunk,
    (songClient 0).world.pushed = Client.songStart.world.pushed ++ [chunk] ∧
      (Matches chunk songSyn ↔ songSyn.waveHeader.sampleFq.toNat < 2 ^ 31 ∧
        songSyn.waveHeader.bitPSpl.toNat < 2 ^ 7 ∧ (0 : UInt8) = 0) ∧ chunk.codec = 0 := by
  have step : SessionStep (some (sessionCreate listener ⟨0, 0, 0, 0, 0⟩))
      (.packet songSyn (songOutcome ⟨0, 0, 0, 0, 0⟩).kernel.calls) _ :=
    ⟨_, eq_ok_getD (by decide +kernel) _, rfl, rfl⟩
  have clientStep : Client.ClientStep Client.driversIgnore Client.songStart
      ⟨Client.receiving (songAnswer 0), (songClient 0).world.kernel.calls⟩ (songClient 0) :=
    ⟨by decide +kernel, eq_ok_getD (by decide +kernel) _, rfl⟩
  exact parameters_agree_iff Run.nil step (by decide +kernel) (by decide) Client.songStart_begun
    Run.nil clientStep rfl ⟨⟨by decide +kernel, by decide⟩, .inl (by decide +kernel)⟩
    (by decide +kernel)

/-- A session whose memory held a one answers with the codec one. -/
theorem parameters_not_agree :
    ¬ ∀ (addr : SockaddrIn6) (memory : Uninitialized) (exchange : Exchange) (calls : List Syscall)
      (after : Option Session) (datagram : List UInt8) (sink : Client.Sink) (name : List UInt8)
      (chunkMemory : Chunk) (env : Env) (start next : Client.Config) (event : Client.ClientEvent),
      SessionStep (some (sessionCreate addr memory)) (.packet exchange calls) after →
      datagram ∈ sentBy calls → isSyn datagram = true →
      Client.receive name chunkMemory env = .ok start →
      Client.ClientStep sink start event next → event.input.datagram? = some datagram →
      Client.Takes start.world (event.input.header datagram) →
      start.world.session.state = .synSent →
      ∃ chunk, next.world.pushed = start.world.pushed ++ [chunk] ∧ Matches chunk exchange := by
  intro agree
  have step : SessionStep (some (sessionCreate listener ⟨0, 0, 0, 0, 1⟩))
      (.packet songSyn (songOutcome ⟨0, 0, 0, 0, 1⟩).kernel.calls) _ :=
    ⟨_, eq_ok_getD (by decide +kernel) _, rfl, rfl⟩
  have clientStep : Client.ClientStep Client.driversIgnore Client.songStart
      ⟨Client.receiving (songAnswer 1), (songClient 1).world.kernel.calls⟩ (songClient 1) :=
    ⟨by decide +kernel, eq_ok_getD (by decide +kernel) _, rfl⟩
  obtain ⟨chunk, pushed, agrees⟩ := agree _ _ _ _ _ _ _ _ _ _ _ _ _ step (by decide +kernel)
    (by decide) Client.songStart_begun clientStep rfl
    ⟨⟨by decide +kernel, by decide⟩, .inl (by decide +kernel)⟩ (by decide +kernel)
  have codecs : (songClient 1).world.pushed.map Chunk.codec = [1] := by decide +kernel
  rw [pushed, List.map_append] at codecs
  have none : Client.songStart.world.pushed.map Chunk.codec = [] := by decide +kernel
  rw [none] at codecs
  have one : chunk.codec = 1 := List.singleton_inj.mp codecs
  rw [agrees.codec] at one
  exact absurd one (by decide)

end Sas.System
