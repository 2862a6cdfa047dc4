import Sas.System.Calm
import Sas.System.Stale

/-! # End-to-end integrity

The client takes eight bytes off the length of every packet, as if each carried a configuration. A
data packet carries none, so the last eight bytes of every piece of the file are lost, and of a piece
with fewer bytes the sink is given almost the whole address space. The stream of a file is intact
only where there is none.
-/

namespace Sas.System

open Foundation Transport Rxc Formats

/-! ## What is read and pushed -/

/-- What an event reads. -/
def PairEvent.reads : PairEvent → List ReadReply
  | .server _ _ _ calls => readsBy calls
  | .client _ => []
  | .marked _ _ => []
  | .expired => []

/-- What is read in a sequence of events, in order. -/
def readsOf (events : List PairEvent) : List ReadReply := events.flatMap PairEvent.reads

@[simp] theorem readsOf_nil : readsOf [] = [] := rfl

@[simp] theorem readsOf_append (first second : List PairEvent) :
    readsOf (first ++ second) = readsOf first ++ readsOf second := List.flatMap_append

@[simp] theorem readsOf_singleton (event : PairEvent) : readsOf [event] = event.reads :=
  List.flatMap_singleton _ _

/-- The read has not failed. -/
def Succeeds : ReadReply → Prop
  | .data _ => True
  | .failed _ => False

/-- The events are a run over lossless channels in which the reads deliver this file: first its
header, then the bytes behind it, in pieces of any size. -/
structure FileRun (sink : Client.Sink) (addr : SockaddrIn6) (file : List UInt8)
    (start : Client.Config) (events : List PairEvent) (pair : Pair) : Prop where
  run : LosslessRun sink addr start events pair
  delivers : Delivers file (readsOf events)
  header : Server.HeaderRead (readsOf events)
  succeeds : ∀ reply ∈ readsOf events, Succeeds reply

/-- The bytes a sink consumes that takes `size` bytes at the buffer of every chunk behind the
configuration. -/
def Pair.pushedBytes (pair : Pair) : List UInt8 :=
  pair.client.world.pushed.tail.flatMap fun chunk => chunk.buffer.read chunk.size

/-- The bytes pushed are a prefix of the file behind its header, and all of it once the client has
returned success. -/
def Faithful (file : List UInt8) (pair : Pair) : Prop :=
  pair.pushedBytes <+: file.drop Wav.waveHeaderSize ∧
    (pair.client.stage = .returned 0 → pair.pushedBytes = file.drop Wav.waveHeaderSize)

/-- The server accepts the file: it begins with a whole header, which is the one of a WAV file that
can be streamed. -/
def Accepts (file : List UInt8) : Prop :=
  Wav.waveHeaderSize ≤ file.length ∧
    (Wav.sourceOf 3 (Wav.waveHeader (blank.write (file.take Wav.waveHeaderSize)))).isSome

instance (file : List UInt8) : Decidable (Accepts file) := inferInstanceAs (Decidable (_ ∧ _))

/-! ## A file of its header alone -/

section

variable {session : Server.Session} {exchange : Server.Exchange} {calls : List Syscall}
  {after : Option Server.Session}

/-- A session that has something on its way or streams has read. -/
theorem reaction_reads (reaction : Server.Reaction session exchange calls after) :
    (∀ next, after = some next → Server.Streaming next →
        Server.Streaming session ∨ readsBy calls ≠ []) ∧
      ((∀ datagram ∈ sentBy calls, isData datagram = false) ∨
        Server.Streaming session ∧ ∃ bytes ∈ readsBy calls, bytes.bytes ≠ []) := by
  have single : ∀ {flags payload call},
      Server.Sends (Server.acked session exchange.header) flags payload call →
      (!packetFlagIsset flags packetFlagSyn && !packetFlagIsset flags packetFlagRst) = false →
      ∀ datagram ∈ sentBy [call], isData datagram = false := by
    intro flags payload call sends other datagram member
    rw [isData, flags_of_sends sends datagram member, other]
  cases reaction with
  | dropped =>
      refine ⟨?_, .inl fun _ member => (List.not_mem_nil member).elim⟩
      rintro _ ⟨⟩ streaming
      exact .inl streaming
  | forgotten => exact ⟨by rintro _ ⟨⟩, .inl fun _ member => (List.not_mem_nil member).elim⟩
  | reset heard state syn sends =>
      refine ⟨?_, .inl (single sends (by decide))⟩
      rintro _ ⟨⟩ streaming
      exact (Server.not_streaming_of_initial state streaming).elim
  | refused heard state syn unfit sends before =>
      refine ⟨by rintro _ ⟨⟩, .inl ?_⟩
      rw [sentBy_append, before]
      exact single sends (by decide)
  | opened heard state syn codec offered sends =>
      refine ⟨fun _ _ _ => .inr ?_, .inl (single sends (by decide))⟩
      rw [readsBy_open, readsBy_read]
      exact List.cons_ne_nil _ _
  | silent heard streaming =>
      exact ⟨fun _ _ _ => .inl streaming, .inl fun _ member => (List.not_mem_nil member).elim⟩
  | @chunk source bytes call heard streaming pipeline opened read some small sends =>
      refine ⟨fun _ _ _ => .inl streaming, .inr ⟨streaming, .data bytes, ?_, ?_⟩⟩
      · rw [readsBy_read]
        exact List.mem_cons_self
      · exact List.ne_nil_of_length_pos some
  | ended heard streaming pipeline opened read sends =>
      exact ⟨fun _ _ _ => .inl streaming, .inl (single sends (by decide))⟩
  | failed heard streaming pipeline opened read sends =>
      exact ⟨fun _ _ _ => .inl streaming, .inl (single sends (by decide))⟩

end

/-- What has been read explains what the server has sent: a session that streams has read a header,
and before the first data packet something behind it has been read. -/
structure Explained (reads : List ReadReply) (pair : Pair) : Prop where
  streaming : ∀ session, pair.session = some session → Server.Streaming session → reads ≠ []
  data : ∀ datagram ∈ pair.toClient.sent, isData datagram = true →
    ∃ reply ∈ reads.tail, reply.bytes ≠ []

section

variable {sink : Client.Sink} {addr : SockaddrIn6} {start : Client.Config}
  {pair next : Pair} {event : PairEvent} {events : List PairEvent} {reads : List ReadReply}
  {file : List UInt8}

/-- What has been read behind the first reply stays there when more is read. -/
theorem mem_tail_append {replies more : List ReadReply} {reply : ReadReply}
    (member : reply ∈ replies.tail) : reply ∈ (replies ++ more).tail := by
  cases replies with
  | nil => cases member
  | cons header rest => exact List.mem_append_left _ member

/-- A packet at the server is explained by what it makes the server read. -/
theorem Explained.serverTurn (explained : Explained reads pair) {memory : Server.Uninitialized}
    {exchange : Server.Exchange} {calls : List Syscall} {after : Option Server.Session}
    (reaction : Server.Reaction (pair.current addr memory) exchange calls after) :
    Explained (reads ++ readsBy calls) (pair.serverTurn calls after) := by
  obtain ⟨streams, sends⟩ := reaction_reads reaction
  have before : Server.Streaming (pair.current addr memory) → reads ≠ [] := fun streaming =>
    explained.streaming _ (current_of_streaming streaming) streaming
  refine ⟨fun session live streaming => ?_, fun datagram member data => ?_⟩
  · rcases streams session live streaming with already | now
    · exact List.append_ne_nil_of_left_ne_nil (before already) _
    · exact List.append_ne_nil_of_right_ne_nil _ now
  · rcases List.mem_append.mp member with old | new
    · obtain ⟨reply, read, some⟩ := explained.data datagram old data
      exact ⟨reply, mem_tail_append read, some⟩
    · rcases sends with none | ⟨streaming, reply, read, some⟩
      · rw [none datagram new] at data
        cases data
      · refine ⟨reply, ?_, some⟩
        cases reads with
        | nil => exact (before streaming rfl).elim
        | cons header rest => exact List.mem_append_right _ read

/-- Every event is explained. -/
theorem Explained.step (explained : Explained reads pair) (formed : Formed pair)
    (step : PairStep inOrder sink addr pair event next) :
    Explained (reads ++ event.reads) next := by
  cases step with
  | client stepped arrives =>
      rw [PairEvent.reads, List.append_nil]
      exact ⟨explained.streaming, explained.data⟩
  | server receives arrives stepped => exact explained.serverTurn (formed.reaction stepped)
  | marked live =>
      rw [PairEvent.reads, List.append_nil]
      refine ⟨?_, explained.data⟩
      rintro _ ⟨⟩ streaming
      exact explained.streaming _ live streaming
  | expired =>
      rw [PairEvent.reads, List.append_nil]
      exact ⟨by rintro _ ⟨⟩, explained.data⟩

/-- In every run, what has been read explains what has been sent. -/
theorem LosslessRun.explained {name : List UInt8} {memory : Chunk} {env : Env}
    (begun : Client.receive name memory env = .ok start)
    (run : LosslessRun sink addr start events pair) : Explained (readsOf events) pair := by
  refine run.history (fun events pair => Explained (readsOf events) pair)
    ⟨by rintro _ ⟨⟩, fun _ member => (List.not_mem_nil member).elim⟩ ?_
  intro events pair event next before explained step
  rw [readsOf_append, readsOf_singleton]
  exact explained.step (LosslessRun.agreement begun before).formed step.1

/-- Where the file is its header, nothing behind it is read. -/
theorem reads_header_only (delivers : Delivers file reads) (header : Server.HeaderRead reads)
    (nothing : file.drop Wav.waveHeaderSize = []) : ∀ reply ∈ reads.tail, reply.bytes = [] := by
  cases reads with
  | nil => exact fun _ member => (List.not_mem_nil member).elim
  | cons first rest =>
      have whole := header first rest rfl
      obtain ⟨unread, same⟩ := delivers.bytesRead_isPrefix
      rw [bytesRead_cons, List.append_assoc] at same
      rw [← same, ← whole, List.drop_left] at nothing
      have none := (List.append_eq_nil_iff.mp nothing).1
      exact fun reply member => List.flatMap_eq_nil_iff.mp none reply member

/-- Of a file that is its header alone the client pushes nothing. -/
theorem FileRun.pushedBytes_eq_nil {name : List UInt8} {memory : Chunk} {env : Env}
    (begun : Client.receive name memory env = .ok start)
    (run : FileRun sink addr file start events pair)
    (nothing : file.drop Wav.waveHeaderSize = []) : pair.pushedBytes = [] := by
  have explained := LosslessRun.explained begun run.run
  have quiet : ∀ datagram ∈ pair.toClient.sent, isData datagram = false := by
    intro datagram member
    by_contra data
    obtain ⟨reply, read, some⟩ := explained.data datagram member (Bool.not_eq_false _ ▸ data)
    exact some (reads_header_only run.delivers run.header nothing reply read)
  have pushed := (LosslessRun.backlog begun run.run).delivered_eq
  rw [List.countP_eq_zero.mpr fun datagram member => by
    rw [quiet datagram (List.mem_of_mem_take member)]
    exact Bool.false_ne_true] at pushed
  have none : pair.client.world.pushed.tail = [] :=
    List.eq_nil_of_length_eq_zero (by rw [List.length_tail]; exact pushed.symm)
  rw [Pair.pushedBytes, none]
  rfl

end

/-! ## One piece of a file -/

section

variable {session : Server.Session} {exchange : Server.Exchange} {calls : List Syscall}
  {after : Option Server.Session} {source : Wav.Source} {fd : Nat}

/-- A SYN for a file that is accepted opens its stream. -/
theorem reaction_opens (reaction : Server.Reaction session exchange calls after)
    (state : session.state = .initial) (heard : Server.Heard session exchange.header)
    (syn : packetFlagIsset exchange.header.flags packetFlagSyn = true)
    (codec : exchange.codec = 0) (offered : exchange.offered = some (fd, source)) :
    readsBy calls = [exchange.headerRead] ∧
      (∃ datagram, sentBy calls = [datagram] ∧ isRst datagram = false) ∧
      ∃ next, after = some next ∧ Server.Streaming next ∧ next.pipeline = some source := by
  have early := @Server.not_streaming_of_initial session state
  cases reaction with
  | dropped behind => exact (behind heard.1).elim
  | forgotten _ reset => exact absurd (heard.2.symm.trans reset) Bool.false_ne_true
  | reset _ _ other => exact absurd (other.symm.trans syn) Bool.false_ne_true
  | refused _ _ _ unfit =>
      rcases unfit with other | none
      · exact (other codec).elim
      · cases none.symm.trans offered
  | opened _ _ _ _ offered' sends =>
      cases offered.symm.trans offered'
      obtain ⟨datagram, sent, _, reset⟩ := sentBy_of_sends sends
      obtain ⟨_, _, unread, _⟩ := sends.kind
      refine ⟨?_, ⟨datagram, ?_, reset.trans (by decide)⟩, _, rfl, .inl rfl, rfl⟩
      · rw [readsBy_open, readsBy_read, unread, readsBy_nil]
      · rw [sentBy_open, sentBy_read, sent]
  | silent _ streaming => exact (early streaming).elim
  | chunk _ streaming => exact (early streaming).elim
  | ended _ streaming => exact (early streaming).elim
  | failed _ streaming => exact (early streaming).elim

/-- A packet for which a piece of the file is read elicits the piece. -/
theorem reaction_streams (reaction : Server.Reaction session exchange calls after)
    (heard : Server.Heard session exchange.header) (streaming : Server.Streaming session)
    (pipeline : session.pipeline = some source) (unfinished : source.finished = false)
    {byte : UInt8} (read : exchange.streamRead = .data [byte]) :
    readsBy calls = [.data [byte]] ∧ ∃ datagram header, sentBy calls = [datagram] ∧
      Carries datagram header [byte] ∧ isRst datagram = false := by
  have late : session.state ≠ .initial := fun state =>
    Server.not_streaming_of_initial state streaming
  cases reaction with
  | dropped behind => exact (behind heard.1).elim
  | forgotten _ reset => exact absurd (heard.2.symm.trans reset) Bool.false_ne_true
  | reset _ state => exact (late state).elim
  | refused _ state => exact (late state).elim
  | opened _ state => exact (late state).elim
  | silent _ _ pipeline' finished =>
      cases pipeline.symm.trans pipeline'
      exact absurd (unfinished.symm.trans finished) Bool.false_ne_true
  | chunk _ _ _ _ read' _ _ sends =>
      cases read.symm.trans read'
      obtain ⟨_, _, unread, _⟩ := sends.kind
      obtain ⟨datagram, failure, rfl, carries⟩ := sends
      refine ⟨by rw [readsBy_read, unread, readsBy_nil], datagram, _, rfl, carries, ?_⟩
      rw [isRst, carries.headerOf_eq]
      exact (by decide : packetFlagIsset 0 packetFlagRst = false)
  | ended _ _ _ _ read' => cases read.symm.trans read'
  | failed _ _ _ _ read' => cases read.symm.trans read'

end

section

variable {sink : Client.Sink} {config next : Client.Config} {event : Client.ClientEvent}

/-- A client that takes a packet goes on, and has answered it. -/
theorem takes_goes_on {world after : Client.World} {header : PacketHeader} {payload : Memory}
    {err : Int32} (reaction : Client.Reaction world header payload err after)
    (takes : Client.Takes world header) : err = 0 ∧ after.session.state = .establsh := by
  have deaf : packetFlagIsset header.flags packetFlagRst ≠ true := by
    rw [takes.1.2]
    exact Bool.false_ne_true
  cases reaction with
  | dropped behind => exact (behind takes.1.1).elim
  | failed _ reset => exact (deaf reset).elim
  | finished _ reset => exact (deaf reset).elim
  | reset _ reset => exact (deaf reset).elim
  | pushed heard pushes acks formed => exact ⟨rfl, (Client.pushing_acks acks).1⟩
  | ignored _ notWaiting notStreaming => exact (takes.2.elim notWaiting notStreaming).elim

/-- A client that hears a packet goes on. -/
theorem selecting_of_hears (step : Client.ClientStep sink config event next)
    (formed : Client.WellFormed config.world) (hears : Client.Hears config event.input) :
    next.stage = .select := by
  obtain ⟨datagram, received, takes⟩ := hears
  cases step.iteration formed with
  | stopped err none =>
      rw [none] at received
      cases received
  | handled received' reaction calls stage =>
      cases received.symm.trans received'
      obtain ⟨fine, established⟩ := takes_goes_on reaction takes
      rw [stage, fine, if_neg (not_not_intro rfl), Client.loop, established]
      rfl

end

/-- A pair over lossless channels whose client can take what arrives. -/
structure Ready (pair : Pair) : Prop where
  backlog : Backlog pair
  serving : Client.Serving Client.driversIgnore pair.client.world
  selecting : pair.client.stage = .select

section

variable {pair : Pair} {datagram : List UInt8} {session : Server.Session} {source : Wav.Source}
  {file : List UInt8}

/-- Every packet that is not a reset can be pushed when it arrives, whatever the buffer held. -/
theorem Ready.push (ready : Ready pair)
    (arrives : inOrder pair.toClient.sent pair.toClient.arrived datagram)
    (loud : isRst datagram = false) (buffer : Memory) (addr : SockaddrIn6) :
    ∃ calls client chunk,
      LosslessStep Client.driversIgnore addr pair
        (.client ⟨⟨Client.calmEnv, .readable, .ok datagram, buffer⟩, calls⟩)
        (pair.clientTurn ⟨⟨Client.calmEnv, .readable, .ok datagram, buffer⟩, calls⟩ client) ∧
      Client.Heeds pair.client ⟨⟨Client.calmEnv, .readable, .ok datagram, buffer⟩, calls⟩ client
        datagram chunk ∧
      Ready (pair.clientTurn ⟨⟨Client.calmEnv, .readable, .ok datagram, buffer⟩, calls⟩ client) := by
  have formed := ready.backlog.agreement.formed
  obtain ⟨calls, client, stepped, step, serving⟩ := formed.takes driversIgnore_once ready.serving
    ready.selecting arrives (rfl : Client.calmEnv.sendReply = fun _ => none) addr buffer
  rcases stepped.hears_or formed.1.formed with ⟨datagram', chunk, heeds⟩ | ⟨deaf, _⟩
  · cases heeds.received
    exact ⟨calls, client, chunk, step, heeds, ready.backlog.step step, serving,
      selecting_of_hears stepped formed.1.formed heeds.hears⟩
  · have reset := ready.backlog.isRst_of_deaf stepped rfl arrives deaf
    exact absurd (loud.symm.trans reset) Bool.false_ne_true

/-- An ACK on its way to a session that streams can elicit one byte of the file. -/
theorem Ready.elicit (ready : Ready pair)
    (arrives : inOrder pair.toServer.sent pair.toServer.arrived datagram)
    (live : pair.session = some session) (streaming : Server.Streaming session)
    (pipeline : session.pipeline = some source) (unfinished : source.finished = false)
    (byte : UInt8) (addr : SockaddrIn6) :
    ∃ calls after,
      LosslessStep Client.driversIgnore addr pair
        (.server datagram (exchangeOf datagram (Server.songEnv fun _ => .data [byte])) blankSession
          calls) (pair.serverTurn calls after) ∧
      readsBy calls = [.data [byte]] ∧ ∃ data header, sentBy calls = [data] ∧
        Carries data header [byte] ∧ isRst data = false := by
  have agreement := ready.backlog.agreement
  obtain ⟨calls, after, step, reaction⟩ := @Formed.serves Client.driversIgnore _ _
    (Server.songEnv fun _ => .data [byte]) agreement.formed arrives rfl addr
  have receives : Receives (exchangeOf datagram (Server.songEnv fun _ => .data [byte])) datagram :=
    ⟨blank, rfl, rfl, rfl⟩
  obtain ⟨same, expected, _⟩ := agreement.server_expects receives arrives
  have current : pair.current addr blankSession = session := by
    rw [Pair.current, live]
    rfl
  have heard : Server.Heard (pair.current addr blankSession)
      (exchangeOf datagram (Server.songEnv fun _ => .data [byte])).header := by
    refine ⟨?_, ?_⟩
    · rw [current_ack]
      exact accepted_of_seq expected
    · rw [same]
      exact (agreement.said datagram (List.mem_of_getElem? arrives)).no_rst
  rw [current] at reaction heard
  exact ⟨calls, after, step, reaction_streams reaction heard streaming pipeline unfinished rfl⟩

end

/-! ## The first piece of a file -/

/-- The SYN that asks for the song. -/
def songAsk : List UInt8 := (Pair.start Client.songStart).toServer.sent.getD 0 []

/-- Over lossless channels the server opens a file that it accepts. -/
theorem song_opens {file : List UInt8} (accepted : Accepts file) (addr : SockaddrIn6) :
    ∃ calls session source,
      LosslessStep Client.driversIgnore addr (Pair.start Client.songStart)
        (.server songAsk (exchangeOf songAsk (Server.songEnv fun _ =>
          .data (file.take Wav.waveHeaderSize))) blankSession calls)
        ((Pair.start Client.songStart).serverTurn calls (some session)) ∧
      readsBy calls = [.data (file.take Wav.waveHeaderSize)] ∧
      (∃ synAck, sentBy calls = [synAck] ∧ isRst synAck = false) ∧
      Server.Streaming session ∧ session.pipeline = some source ∧ source.finished = false := by
  have formed := (agreement_start Client.songStart_begun).formed
  have arrives : inOrder (Pair.start Client.songStart).toServer.sent 0 songAsk := by decide +kernel
  obtain ⟨source, offers⟩ := Option.isSome_iff_exists.mp accepted.2
  obtain ⟨calls, after, step, reaction⟩ := @Formed.serves Client.driversIgnore _ _
    (Server.songEnv fun _ => .data (file.take Wav.waveHeaderSize)) formed arrives rfl addr
  have header : packetHeaderDecode (receiveInto blank songAsk) = ⟨0, 0, 0, packetFlagSyn, 1024, 5⟩ := by
    decide +kernel
  have codec : (packetCfgDecode ((receiveInto blank songAsk).shift packetHeaderSize)).codec = 0 := by
    decide +kernel
  have offered : (exchangeOf songAsk (Server.songEnv fun _ =>
      .data (file.take Wav.waveHeaderSize))).offered = some (3, source) := by
    change (Wav.sourceOf 3 (Wav.waveHeader (blank.write
      ((file.take Wav.waveHeaderSize).take Wav.waveHeaderSize)))).map _ = _
    rw [List.take_take, Nat.min_self, offers]
    rfl
  have heard : Server.Heard ((Pair.start Client.songStart).current addr blankSession)
      (exchangeOf songAsk (Server.songEnv fun _ => .data (file.take Wav.waveHeaderSize))).header := by
    change Server.Heard _ (packetHeaderDecode (receiveInto blank songAsk))
    rw [header]
    exact ⟨accepted_of_seq rfl, by decide⟩
  have syn : packetFlagIsset (packetHeaderDecode (receiveInto blank songAsk)).flags packetFlagSyn =
      true := by
    rw [header]
    decide
  obtain ⟨reads, answer, session, rfl, streaming, pipeline⟩ :=
    reaction_opens reaction rfl heard syn codec offered
  refine ⟨calls, session, source, step, ?_, answer, streaming, pipeline,
    (Server.source_of_offered offered).2⟩
  rw [reads]
  change [ReadReply.data ((file.take Wav.waveHeaderSize).take Wav.waveHeaderSize)] = _
  rw [List.take_take, Nat.min_self]

/-- Of a piece of one byte the sink is given this byte, and then what the receive buffer holds. -/
theorem pushed_of_byte {datagram : List UInt8} {header : PacketHeader} {byte other : UInt8}
    (carries : Carries datagram header [byte]) (chunk : Chunk) :
    ∃ later, ((receiveInto (fun _ => other) datagram).shift packetHeaderSize).read
        (Client.dataChunk header ((receiveInto (fun _ => other) datagram).shift packetHeaderSize)
          chunk).size = byte :: other :: later := by
  have fits : datagram.length ≤ bufferSize := by
    rw [carries.length_eq]
    exact (by decide : packetHeaderSize + 1 ≤ bufferSize)
  have long : 2 ≤ sizeSub header.length.toNat packetCfgAckSize := by
    rw [← carries.1]
    change 2 ≤ sizeSub 1 packetCfgAckSize
    rw [sizeSub_of_lt (by decide), packetCfgAckSize]
    omega
  obtain ⟨more, size⟩ := Nat.exists_eq_add_of_le long
  have two : ((Memory.shift (fun _ => other) packetHeaderSize).write [byte]).read 2 = [byte, other] :=
    rfl
  rw [Client.dataChunk, size, carries.payload_receiveInto fits, Memory.read_add, two,
    List.cons_append, List.cons_append]
  exact ⟨_, rfl⟩

/-- A client that hears a packet answers it. -/
theorem answers_of_heeds {config next : Client.Config} {event : Client.ClientEvent}
    {datagram : List UInt8} {chunk : Chunk} (heeds : Client.Heeds config event next datagram chunk)
    (underway : Client.Underway config.world) : ∃ ack more, sentBy event.calls = ack :: more := by
  have told : ∃ window, Client.Tells window (Client.enter config.world event.input.env) next.world := by
    cases heeds.pushes with
    | config state tells => exact ⟨_, tells (underway.waiting state).2⟩
    | data state tells => exact ⟨_, tells⟩
  obtain ⟨window, calls, earlier, answer, called, sent, _⟩ := told
  rw [Client.enter_calls, List.nil_append, heeds.calls] at called
  rw [called, sent]
  cases earlier with
  | nil => exact ⟨_, _, rfl⟩
  | cons => exact ⟨_, _, rfl⟩

/-- The header and one byte more are delivered as two pieces. -/
theorem FileRun.of_reads {sink : Client.Sink} {addr : SockaddrIn6} {start : Client.Config}
    {events : List PairEvent} {pair : Pair} {file rest : List UInt8} {byte : UInt8}
    (accepted : Accepts file) (behind : file.drop Wav.waveHeaderSize = byte :: rest)
    (run : LosslessRun sink addr start events pair)
    (reads : readsOf events = [.data (file.take Wav.waveHeaderSize), .data [byte]]) :
    FileRun sink addr file start events pair := by
  have length : (file.take Wav.waveHeaderSize).length = Wav.waveHeaderSize :=
    List.length_take_of_le accepted.1
  refine ⟨run, ?_, ?_, ?_⟩
  · rw [reads]
    refine ⟨List.take_prefix _ _, fun none => ?_, ?_⟩
    · rw [none] at length
      cases length
    · rw [length, behind]
      refine ⟨List.prefix_append [byte] rest, ?_, trivial⟩
      rintro ⟨⟩
  · rw [reads]
    rintro header later ⟨⟩
    exact length
  · rw [reads]
    exact List.forall_mem_cons.mpr ⟨trivial, List.forall_mem_singleton.mpr trivial⟩

/-- A file with a byte behind its header is not transmitted faithfully in every run. -/
theorem song_strays {file rest : List UInt8} {byte : UInt8} (accepted : Accepts file)
    (behind : file.drop Wav.waveHeaderSize = byte :: rest) :
    ∃ events pair, FileRun Client.driversIgnore Server.listener file Client.songStart events pair ∧
      ¬ Faithful file pair := by
  have ready : Ready (Pair.start Client.songStart) :=
    ⟨backlog_start Client.songStart_begun,
      Client.ClientRun.serving driversIgnore_once Client.songStart_begun Run.nil, by decide +kernel⟩
  -- the server opens the file
  obtain ⟨calls, session, source, opens, reads, ⟨synAck, sent, loud⟩, streaming, pipeline,
    unfinished⟩ := song_opens accepted Server.listener
  have opened : Ready ((Pair.start Client.songStart).serverTurn calls (some session)) :=
    ⟨ready.backlog.step opens, ready.serving, ready.selecting⟩
  -- the client takes the configuration and answers
  have first : ((Pair.start Client.songStart).serverTurn calls (some session)).toClient.sent =
      [synAck] := sent
  obtain ⟨told, client, configuration, configures, heeds, known⟩ := opened.push
    (by rw [first]; rfl : inOrder _ 0 synAck) loud blank Server.listener
  obtain ⟨ack, more, answered⟩ := answers_of_heeds heeds opened.backlog.agreement.formed.1
  -- the server reads one byte and sends it
  have second : inOrder ([songAsk] ++ sentBy told) 1 ack := by
    rw [answered]
    rfl
  obtain ⟨streamed, after, elicits, reads', data, header, sent', carries, loud'⟩ := known.elicit
    second rfl streaming pipeline unfinished byte Server.listener
  have begun : Ready (Pair.serverTurn _ streamed after) :=
    ⟨known.backlog.step elicits, known.serving, known.selecting⟩
  -- the client pushes it, with what the buffer held behind it
  have third : inOrder ([] ++ sentBy calls ++ sentBy streamed) 1 data := by
    rw [sent, sent']
    rfl
  obtain ⟨told', client', chunk, pushes, heeds', _⟩ := begun.push third loud'
    (fun _ => rest.headD 0 + 1) Server.listener
  refine ⟨_, _, FileRun.of_reads accepted behind
    ((((Run.nil).snoc opens).snoc configures).snoc elicits |>.snoc pushes) ?_, ?_⟩
  · rw [readsOf_append, readsOf_append, readsOf_append, readsOf_append, readsOf_singleton,
      readsOf_singleton, readsOf_singleton, readsOf_singleton, readsOf_nil, PairEvent.reads,
      PairEvent.reads, PairEvent.reads, PairEvent.reads, reads, reads']
    rfl
  · rintro ⟨within, _⟩
    have pushed : client'.world.pushed = [configuration, chunk] := by
      rw [heeds'.pushed]
      change client.world.pushed ++ [chunk] = _
      rw [heeds.pushed]
      rfl
    have state : client.world.session.state = .establsh := heeds.established
    obtain ⟨later, bytes⟩ : ∃ later, chunk.buffer.read chunk.size =
        byte :: (rest.headD 0 + 1) :: later := by
      cases heeds'.pushes with
      | config waiting => exact absurd (state.symm.trans waiting) (by decide)
      | data =>
          have same := input_header_eq ⟨Client.calmEnv, .readable, .ok data,
            fun _ => rest.headD 0 + 1⟩ carries
          rw [same]
          exact pushed_of_byte carries _
    change client'.world.pushed.tail.flatMap _ <+: _ at within
    rw [pushed, behind, List.tail_cons, List.flatMap_singleton, bytes, List.cons_prefix_cons] at within
    have strange := within.2
    cases rest with
    | nil => cases List.prefix_nil.mp strange
    | cons next rest =>
        have same : next + 1 = next := (List.cons_prefix_cons.mp strange).1
        exact absurd (UInt8.left_eq_add.mp same.symm) (by decide)

/-! ## End-to-end integrity -/

/-- **A stream is intact only where there is none.** For a file the server accepts, what any client
pushes behind the configuration over lossless channels, with every byte of every chunk consumed, is
in every run a prefix of the file behind its header, and all of it once the client has returned
success, exactly if there is nothing behind the header. -/
theorem stream_intact_iff {file : List UInt8} (accepted : Accepts file) :
    (∀ (sink : Client.Sink) (addr : SockaddrIn6) (name : List UInt8) (memory : Chunk) (env : Env)
        (start : Client.Config) (events : List PairEvent) (pair : Pair),
        Client.receive name memory env = .ok start →
        FileRun sink addr file start events pair → Faithful file pair) ↔
      file.drop Wav.waveHeaderSize = [] := by
  constructor
  · intro faithful
    cases behind : file.drop Wav.waveHeaderSize with
    | nil => rfl
    | cons byte rest =>
        obtain ⟨events, pair, run, strays⟩ := song_strays accepted behind
        exact (strays (faithful _ _ _ _ _ _ _ _ Client.songStart_begun run)).elim
  · intro nothing sink addr name memory env start events pair begun run
    unfold Faithful
    rw [run.pushedBytes_eq_nil begun nothing, nothing]
    exact ⟨List.nil_prefix, fun _ => rfl⟩

/-- The header of a song without a song. -/
theorem stream_intact_empty :
    (∀ (sink : Client.Sink) (addr : SockaddrIn6) (name : List UInt8) (memory : Chunk) (env : Env)
        (start : Client.Config) (events : List PairEvent) (pair : Pair),
        Client.receive name memory env = .ok start →
        FileRun sink addr Server.songHeader start events pair → Faithful Server.songHeader pair) ↔
      Server.songHeader.drop Wav.waveHeaderSize = [] :=
  stream_intact_iff (by decide +kernel)

/-- A song of nine bytes, read in one piece. -/
def nineBytes : List UInt8 := Server.songHeader ++ [1, 2, 3, 4, 5, 6, 7, 8, 9]

/-- The song of nine bytes is asked for, streamed and ended. -/
def nineTurns : List Turn :=
  [.server 0 (Server.songEnv fun _ => .data Server.songHeader), .client 0 Client.calmEnv,
    .server 1 (Server.songEnv fun _ => .data [1, 2, 3, 4, 5, 6, 7, 8, 9]), .client 1 Client.calmEnv,
    .server 2 (Server.songEnv fun _ => .data []), .client 2 Client.calmEnv]

/-- What happens then. -/
def nineStreamed : List PairEvent × Pair :=
  (Pair.start Client.songStart).replay inOrder Client.driversIgnore Server.listener nineTurns

/-- The reads deliver the song of nine bytes. -/
theorem nineStreamed_run : FileRun Client.driversIgnore Server.listener nineBytes Client.songStart
    nineStreamed.1 nineStreamed.2 := by
  have reads : readsOf nineStreamed.1 =
      [.data Server.songHeader, .data [1, 2, 3, 4, 5, 6, 7, 8, 9], .data []] := by
    decide +kernel
  refine ⟨losslessRun_of_forall (Pair.replay_run _ _) (by decide +kernel), ?_, ?_, ?_⟩
  · rw [reads]
    exact ⟨List.prefix_append _ _, by decide, by decide, by decide, by decide, by decide, trivial⟩
  · rw [reads]
    rintro header later ⟨⟩
    rfl
  · rw [reads]
    exact List.forall_mem_cons.mpr ⟨trivial, List.forall_mem_cons.mpr
      ⟨trivial, List.forall_mem_singleton.mpr trivial⟩⟩

/-- The client returns success after one of the nine bytes. -/
theorem stream_not_intact : ¬ ∀ file, Accepts file →
    ∀ (sink : Client.Sink) (addr : SockaddrIn6) (name : List UInt8) (memory : Chunk) (env : Env)
      (start : Client.Config) (events : List PairEvent) (pair : Pair),
      Client.receive name memory env = .ok start →
      FileRun sink addr file start events pair → Faithful file pair := by
  intro intact
  have faithful := intact nineBytes (by decide +kernel) _ _ _ _ _ _ _ _ Client.songStart_begun
    nineStreamed_run
  exact absurd (faithful.2 (by decide +kernel)) (by decide +kernel)

example : nineStreamed.2.pushedBytes = [1] := by decide +kernel

end Sas.System
