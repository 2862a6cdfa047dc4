import Sas.Server.SessionRun
import Sas.Foundation.Each

/-! # The stream a session sends

In every run of a session, the data packets carry the bytes the reads of the stream returned, one
packet for each read, numbered from the end of the SYN-ACK on. Where the reads deliver a file,
the stream is the file behind its header.
-/

namespace Sas.Server

open Foundation Transport Rxc Formats

/-- A packet sent after these datagrams has the next number of the stream, which is numbered from
the end of the one SYN-ACK on. -/
def Numbered (before : List (List UInt8)) (seq : UInt32) : Prop :=
  ∃ synAck ∈ before, isSyn synAck = true ∧
    (∀ other ∈ before, isSyn other = true → other = synAck) ∧
    seq = (headerOf synAck).seq + 8 + UInt32.ofNat (streamOf before).length

/-- A packet fits behind the datagrams sent before it, in the stream of a file. -/
def InStream (file : List UInt8) (before : List (List UInt8)) (datagram : List UInt8) : Prop :=
  (isData datagram = true →
    1 ≤ (payloadOf datagram).length ∧ (payloadOf datagram).length ≤ 1024 ∧
      Numbered before (headerOf datagram).seq) ∧
  (isFin datagram = true → streamOf before = file.drop Wav.waveHeaderSize)

/-- The first read, that of the WAV header, consumed a whole header. -/
def HeaderRead (replies : List ReadReply) : Prop :=
  ∀ header rest, replies = header :: rest → header.bytes.length = Wav.waveHeaderSize

/-- What the calls made so far say about the session they left: before its handshake it has
neither read nor streamed anything; after it, it has streamed all it has read behind the
header, and stands at the next number while the stream is open. -/
def Relayed (calls : List Syscall) (session : Session) : Prop :=
  (session.state = .initial → readsBy calls = [] ∧
    ∀ datagram ∈ sentBy calls, isData datagram = false ∧ isSyn datagram = false) ∧
  (Streaming session → ∃ source header rest,
    session.pipeline = some source ∧ readsBy calls = header :: rest ∧
    streamOf (sentBy calls) = bytesRead rest ∧
    (source.finished = false → Numbered (sentBy calls) session.seq))

/-- A data packet moves the stream on by its payload. -/
theorem Numbered.snoc {before : List (List UInt8)} {datagram : List UInt8} {seq : UInt32}
    (numbered : Numbered before seq) (plain : isSyn datagram = false) :
    Numbered (before ++ [datagram])
      (seq + UInt32.ofNat (streamOf [datagram]).length) := by
  obtain ⟨synAck, member, syn, only, rfl⟩ := numbered
  refine ⟨synAck, List.mem_append_left _ member, syn, ?_, ?_⟩
  · intro other member' syn'
    rcases List.mem_append.mp member' with earlier | last
    · exact only other earlier syn'
    · rw [List.mem_singleton.mp last, plain] at syn'
      exact absurd syn' Bool.false_ne_true
  · rw [streamOf_append, List.length_append, UInt32.ofNat_add, UInt32.add_assoc _ _ (UInt32.ofNat _)]

section

variable {session next : Session} {exchange : Exchange} {calls more : List Syscall}
  {after : Option Session} {file : List UInt8}

theorem not_streaming_of_initial (state : session.state = .initial) : ¬ Streaming session := by
  rintro (other | other) <;> rw [state] at other <;> cases other

/-- A session that streams has relayed what it has read behind the header. -/
theorem Relayed.of_streaming (streaming : Streaming session) {source : Wav.Source}
    (header : ReadReply) (rest : List ReadReply) (pipeline : session.pipeline = some source)
    (reads : readsBy calls = header :: rest) (stream : streamOf (sentBy calls) = bytesRead rest)
    (numbered : source.finished = false → Numbered (sentBy calls) session.seq) :
    Relayed calls session := by
  exact ⟨fun state => (not_streaming_of_initial state streaming).elim,
    fun _ => ⟨source, header, rest, pipeline, reads, stream, numbered⟩⟩

/-- A reaction sends all it has read of the stream. -/
theorem Reaction.relayed (reaction : Reaction session exchange more (some next))
    (relayed : Relayed calls session) : Relayed (calls ++ more) next := by
  cases reaction with
  | dropped => simpa only [List.append_nil] using relayed
  | reset heard state syn sends =>
      obtain ⟨unread, silent⟩ := relayed.1 state
      obtain ⟨datagram, sent, reads, _, _, data, opening, _⟩ := sends.kind
      refine ⟨fun _ => ⟨?_, ?_⟩, fun streaming =>
        (not_streaming_of_initial state streaming).elim⟩
      · rw [readsBy_append, unread, reads, readsBy_nil, List.append_nil]
      · intro other member
        rw [sentBy_append, sent, sentBy_nil] at member
        rcases List.mem_append.mp member with earlier | last
        · exact silent other earlier
        · rw [List.mem_singleton.mp last, data, opening]
          exact ⟨rfl, rfl⟩
  | @opened fd source call padding heard state syn codec offered sends =>
      obtain ⟨unread, silent⟩ := relayed.1 state
      obtain ⟨datagram, sent, reads, head, _, data, opening, _⟩ := sends.kind
      have sentAll : sentBy (calls ++ [.open exchange.name (.descriptor fd),
          .read fd Wav.waveHeaderSize exchange.headerRead, call]) = sentBy calls ++ [datagram] := by
        rw [sentBy_append, sentBy_open, sentBy_read, sent, sentBy_nil]
      have nothing : streamOf (sentBy calls ++ [datagram]) = [] := by
        rw [streamOf_append, streamOf_eq_nil fun other member => (silent other member).1,
          streamOf_singleton_eq_nil data, List.append_nil]
      refine .of_streaming (.inl rfl) exchange.headerRead [] rfl ?_ ?_ fun _ => ?_
      · rw [readsBy_append, unread, readsBy_open, readsBy_read, reads, List.nil_append,
          readsBy_nil]
      · rw [sentAll, nothing, bytesRead_nil]
      · rw [sentAll]
        refine ⟨datagram, List.mem_append_right _ (List.mem_singleton_self _), opening, ?_, ?_⟩
        · intro other member opens
          rcases List.mem_append.mp member with earlier | last
          · rw [(silent other earlier).2] at opens
            exact absurd opens Bool.false_ne_true
          · exact List.mem_singleton.mp last
        · rw [head, nothing]
          exact (UInt32.add_zero _).symm
  | silent heard streaming pipeline finished =>
      rw [List.append_nil]
      obtain ⟨source, header, rest, set, reads, stream, numbered⟩ := relayed.2 streaming
      exact .of_streaming (.inr rfl) header rest set reads stream numbered
  | @chunk source bytes call heard streaming pipeline opened read some small sends =>
      obtain ⟨source', header, rest, set, earlier, stream, numbered⟩ := relayed.2 streaming
      cases pipeline.symm.trans set
      obtain ⟨datagram, sent, reads, _, payload, data, opening, _⟩ := sends.kind
      have sentAll : sentBy (calls ++ [.read source.fd Wav.bufferSize (.data bytes), call]) =
          sentBy calls ++ [datagram] := by
        rw [sentBy_append, sentBy_read, sent, sentBy_nil]
      have added : streamOf [datagram] = bytes := (streamOf_singleton data).trans payload
      refine .of_streaming (.inr rfl) header (rest ++ [.data bytes]) pipeline ?_ ?_ fun _ => ?_
      · rw [readsBy_append, earlier, readsBy_read, reads, readsBy_nil, List.cons_append]
      · rw [sentAll, streamOf_append, stream, added, bytesRead_append, bytesRead_cons, bytesRead_nil,
          ReadReply.bytes, List.append_nil]
      · rw [sentAll, ← added]
        exact (numbered opened).snoc opening
  | @ended source call failure heard streaming pipeline opened read sends =>
      obtain ⟨source', header, rest, set, earlier, stream, _⟩ := relayed.2 streaming
      obtain ⟨datagram, sent, reads, _, _, data, _⟩ := sends.kind
      refine .of_streaming (.inr rfl) header (rest ++ [.data []]) rfl ?_ ?_ fun unfinished => ?_
      · rw [readsBy_append, earlier, readsBy_read, readsBy_close, reads, readsBy_nil,
          List.cons_append]
      · rw [sentBy_append, sentBy_read, sentBy_close, sent, sentBy_nil, streamOf_append,
          stream, streamOf_singleton_eq_nil data, bytesRead_append]
        rfl
      · cases unfinished
  | @failed source errno call failure heard streaming pipeline opened read sends =>
      obtain ⟨source', header, rest, set, earlier, stream, _⟩ := relayed.2 streaming
      obtain ⟨datagram, sent, reads, _, _, data, _⟩ := sends.kind
      refine .of_streaming (.inr rfl) header (rest ++ [.failed errno]) rfl ?_ ?_
        fun unfinished => ?_
      · rw [readsBy_append, earlier, readsBy_read, reads, readsBy_close, readsBy_nil,
          List.cons_append]
      · rw [sentBy_append, sentBy_read, sent, sentBy_close, sentBy_nil, streamOf_append, stream,
          streamOf_singleton_eq_nil data, bytesRead_append]
        rfl
      · cases unfinished

/-- The packets that belong to no stream fit behind everything. -/
theorem inStream_other {before : List (List UInt8)} {datagram : List UInt8}
    (data : isData datagram = false) (fin : isFin datagram = false) :
    InStream file before datagram := by
  constructor
  · intro isData
    rw [data] at isData
    cases isData
  · intro isFin
    rw [fin] at isFin
    cases isFin

/-- The file behind the header is what has been read behind the header, at its end. -/
theorem drop_header {header : ReadReply} {rest : List ReadReply}
    (delivers : Delivers file (header :: rest ++ [.data []]))
    (whole : header.bytes.length = Wav.waveHeaderSize) :
    bytesRead rest = file.drop Wav.waveHeaderSize := by
  rw [← delivers.bytesRead_eq, bytesRead_cons, ← whole, List.drop_left]

/-- What a reaction sends fits into the stream. -/
theorem Reaction.inStream (reaction : Reaction session exchange more after)
    (relayed : Relayed calls session) (sound : Each (InStream file) (sentBy calls))
    (delivers : Delivers file (readsBy (calls ++ more)))
    (whole : HeaderRead (readsBy (calls ++ more))) :
    Each (InStream file) (sentBy (calls ++ more)) := by
  cases reaction with
  | dropped => simpa only [List.append_nil] using sound
  | forgotten => simpa only [List.append_nil] using sound
  | silent => simpa only [List.append_nil] using sound
  | reset heard state syn sends =>
      obtain ⟨datagram, sent, _, _, _, data, _, fin, _⟩ := sends.kind
      rw [sentBy_append, sent]
      exact sound.snoc (inStream_other data fin)
  | refused heard state syn refusal sends quiet =>
      obtain ⟨datagram, sent, _, _, _, data, _, fin, _⟩ := sends.kind
      rw [sentBy_append, sentBy_append, quiet, List.nil_append, sent]
      exact sound.snoc (inStream_other data fin)
  | opened heard state syn codec offered sends =>
      obtain ⟨datagram, sent, _, _, _, data, _, fin, _⟩ := sends.kind
      rw [sentBy_append, sentBy_open, sentBy_read, sent]
      exact sound.snoc (inStream_other data fin)
  | chunk heard streaming pipeline opened read some small sends =>
      obtain ⟨source, header, rest, set, _, _, numbered⟩ := relayed.2 streaming
      cases pipeline.symm.trans set
      obtain ⟨datagram, sent, _, head, payload, _, _, fin, _⟩ := sends.kind
      rw [sentBy_append, sentBy_read, sent]
      refine sound.snoc ⟨fun _ => ?_, fun isFin => ?_⟩
      · rw [payload, head]
        exact ⟨some, small, numbered opened⟩
      · rw [fin] at isFin
        cases isFin
  | ended heard streaming pipeline opened read sends =>
      obtain ⟨source, header, rest, _, reads, stream, _⟩ := relayed.2 streaming
      obtain ⟨datagram, sent, unread, _, _, data, _⟩ := sends.kind
      rw [readsBy_append, readsBy_read, readsBy_close, unread, reads] at delivers whole
      rw [sentBy_append, sentBy_read, sentBy_close, sent]
      refine sound.snoc ⟨fun isData => ?_, fun _ => ?_⟩
      · rw [data] at isData
        cases isData
      · rw [stream]
        exact drop_header delivers (whole _ _ rfl)
  | failed heard streaming pipeline opened read sends =>
      obtain ⟨datagram, sent, _, _, _, data, _, fin, _⟩ := sends.kind
      rw [sentBy_append, sentBy_read, sent, sentBy_close]
      exact sound.snoc (inStream_other data fin)

end

section

variable {addr : SockaddrIn6} {memory : Uninitialized} {events : List SessionEvent}
  {target : Option Session} {file : List UInt8}

/-- In every run, a session has streamed what it has read. -/
theorem SessionRun.relayed (run : SessionRun addr memory events target) :
    ∀ session, target = some session → Relayed (callsOf events) session := by
  refine run.history (fun events state => ∀ session, state = some session →
    Relayed (callsOf events) session) ?_ ?_
  · rintro _ ⟨⟩
    exact ⟨fun _ => ⟨rfl, fun _ member => (List.not_mem_nil member).elim⟩,
      fun streaming => (not_streaming_of_initial rfl streaming).elim⟩
  · intro events state event next before relayed step
    obtain ⟨session, rfl, reacted | written⟩ := step.cases (SessionRun.wellFormed before)
    · obtain ⟨exchange, calls, rfl, reaction⟩ := reacted
      rintro session' rfl
      rw [callsOf_append, callsOf_singleton]
      exact reaction.relayed (relayed session rfl)
    · obtain ⟨timeout, link, rfl, rfl⟩ := written
      rintro _ ⟨⟩
      rw [callsOf_append, callsOf_singleton, SessionEvent.calls, List.append_nil]
      exact relayed session rfl

/-- The reads of a run up to some event are delivered like those of the whole run. -/
theorem headerRead_of_append {replies later : List ReadReply}
    (whole : HeaderRead (replies ++ later)) : HeaderRead replies := by
  rintro header rest rfl
  exact whole header (rest ++ later) rfl

/-- In every run, what a session sends fits into the stream of the file it reads. -/
theorem SessionRun.inStream (run : SessionRun addr memory events target)
    (delivers : Delivers file (readsBy (callsOf events)))
    (whole : HeaderRead (readsBy (callsOf events))) :
    Each (InStream file) (sentBy (callsOf events)) := by
  refine run.history (fun events _ => Delivers file (readsBy (callsOf events)) →
    HeaderRead (readsBy (callsOf events)) → Each (InStream file) (sentBy (callsOf events)))
    (fun _ _ => Each.nil) ?_ delivers whole
  intro events state event next before sound step delivers whole
  rw [callsOf_append, callsOf_singleton] at delivers whole ⊢
  have earlier := sound
    (by
      rw [readsBy_append] at delivers
      exact delivers.of_append.choose_spec.2.1)
    (by
      rw [readsBy_append] at whole
      exact headerRead_of_append whole)
  obtain ⟨session, rfl, reacted | written⟩ := step.cases (SessionRun.wellFormed before)
  · obtain ⟨exchange, calls, rfl, reaction⟩ := reacted
    exact reaction.inStream (SessionRun.relayed before session rfl) earlier delivers whole
  · obtain ⟨timeout, link, rfl, rfl⟩ := written
    rw [SessionEvent.calls, List.append_nil]
    exact earlier

/-- While a session lives, its stream is a prefix of the file behind the header. -/
theorem Relayed.streamOf_isPrefix {calls : List Syscall} {session : Session}
    (relayed : Relayed calls session) (formed : WellFormed session)
    (delivers : Delivers file (readsBy calls)) (whole : HeaderRead (readsBy calls)) :
    streamOf (sentBy calls) <+: file.drop Wav.waveHeaderSize := by
  rcases formed.initial_or_streaming with state | streaming
  · rw [streamOf_eq_nil fun other member => ((relayed.1 state).2 other member).1]
    exact List.nil_prefix
  · obtain ⟨source, header, rest, _, reads, stream, _⟩ := relayed.2 streaming
    rw [reads] at delivers whole
    obtain ⟨unread, rfl⟩ := delivers.bytesRead_isPrefix
    rw [stream, bytesRead_cons, List.append_assoc, ← whole header rest rfl, List.drop_left]
    exact List.prefix_append _ _

/-- A packet that deletes the session adds nothing to its stream. -/
theorem Reaction.streamOf_deleted {calls : List Syscall} {session : Session} {exchange : Exchange}
    (reaction : Reaction session exchange calls none) : streamOf (sentBy calls) = [] := by
  cases reaction with
  | forgotten => rfl
  | refused heard state syn refusal sends quiet =>
      obtain ⟨datagram, sent, _, _, _, data, _⟩ := sends.kind
      rw [sentBy_append, quiet, List.nil_append, sent, sentBy_nil]
      exact streamOf_singleton_eq_nil data

/-- In every run, the stream is a prefix of the file behind the header. -/
theorem SessionRun.streamOf_isPrefix (run : SessionRun addr memory events target)
    (delivers : Delivers file (readsBy (callsOf events)))
    (whole : HeaderRead (readsBy (callsOf events))) :
    streamOf (sentBy (callsOf events)) <+: file.drop Wav.waveHeaderSize := by
  cases target with
  | some session =>
      exact (run.relayed session rfl).streamOf_isPrefix (run.wellFormed session rfl) delivers whole
  | none => 
      cases run with
      | @snoc events middle _ event before last =>
          obtain ⟨session, rfl, reacted | written⟩ := last.cases (SessionRun.wellFormed before)
          · obtain ⟨exchange, calls, rfl, reaction⟩ := reacted
            rw [callsOf_append, callsOf_singleton] at delivers whole ⊢
            rw [sentBy_append, streamOf_append, SessionEvent.calls, reaction.streamOf_deleted,
              List.append_nil]
            rw [readsBy_append] at delivers whole
            exact (SessionRun.relayed before session rfl).streamOf_isPrefix
              (SessionRun.wellFormed before session rfl) delivers.of_append.choose_spec.2.1
              (headerRead_of_append whole)
          · obtain ⟨timeout, link, rfl, deleted⟩ := written
            cases deleted

/-- **A session streams its file.** Where the reads deliver a file and the first one returns its
header, what a session has sent is at every moment a prefix of the samples; its data packets
carry between 1 and 1024 bytes and are numbered without gaps from the end of the SYN-ACK on;
and RST|FIN is sent only when all samples have been. -/
theorem sessionStream_inOrder (run : SessionRun addr memory events target)
    (delivers : Delivers file (readsBy (callsOf events)))
    (whole : HeaderRead (readsBy (callsOf events))) :
    streamOf (sentBy (callsOf events)) <+: file.drop Wav.waveHeaderSize ∧
      Each (InStream file) (sentBy (callsOf events)) :=
  ⟨run.streamOf_isPrefix delivers whole, run.inStream delivers whole⟩

end

/-! ## A session that streams three bytes -/

/-- The client at port 40000 of `::1`. -/
def listener : SockaddrIn6 :=
  ⟨10, (156, 64), 0, #v[0, 0, 0, 0, 0, 0, 0, 0, 0, 0, 0, 0, 0, 0, 0, 1], 0⟩

/-- The header of a stereo file. -/
def songHeader : List UInt8 :=
  [82, 73, 70, 70, 39, 0, 0, 0, 87, 65, 86, 69, 102, 109, 116, 32, 16, 0, 0, 0, 1, 0, 2, 0,
    68, 172, 0, 0, 16, 177, 2, 0, 4, 0, 16, 0, 100, 97, 116, 97, 3, 0, 0, 0]

/-- The file: its header and three bytes. -/
def song : List UInt8 := songHeader ++ [7, 8, 9]

/-- An environment that opens every file and answers the reads by their number. -/
def songEnv (readReply : Nat → ReadReply) : Env where
  openReply _ := .descriptor 3
  readReply := readReply
  closeReply _ := none
  sendReply _ := none
  uninitialized _ _ := 0

/-- The SYN that asks for the file, when the reads answer like this. -/
def songSyn : Exchange where
  header := ⟨0, 0, 0, packetFlagSyn, 1024, 5⟩
  payload := Memory.write (fun _ => 0) [0, 115, 111, 110, 103]
  count := 21
  env := songEnv fun _ => .data songHeader
  errno := 0

/-- An ACK with this sequence number, when the stream reads like this. -/
def songAck (seq : UInt32) (bytes : List UInt8) : Exchange where
  header := ⟨seq, 0, 0, packetFlagAck, 1024, 0⟩
  payload := fun _ => 0
  count := 16
  env := songEnv fun _ => .data bytes
  errno := 0

/-- What a session does when the file is asked for and acknowledged to its end. -/
def songEvents : List SessionEvent × Option Session :=
  replay (some (sessionCreate listener ⟨0, 0, 0, 0, 0⟩))
    [songSyn, songAck 5 [7, 8, 9], songAck 6 []]

/-- The session of the example streams its song in order. -/
theorem sessionStream_inOrder_song :
    streamOf (sentBy (callsOf songEvents.1)) <+: song.drop Wav.waveHeaderSize ∧
      Each (InStream song) (sentBy (callsOf songEvents.1)) := by
  have reads : readsBy (callsOf songEvents.1) =
      [.data songHeader, .data [7, 8, 9], .data []] := by decide +kernel
  refine sessionStream_inOrder (replay_run _ _) ?_ ?_
  · rw [reads]
    exact ⟨List.prefix_append _ _, by decide, by decide, by decide, by decide, by decide, trivial⟩
  · rw [reads]
    rintro header rest ⟨⟩
    rfl

example : streamOf (sentBy (callsOf songEvents.1)) = [7, 8, 9] := by decide +kernel

end Sas.Server
