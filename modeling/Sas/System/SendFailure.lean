import Sas.System.Fifo
import Sas.Server.Stream

/-! # Sends that fail

Both parties take the numbers of a packet before they hand it to the kernel, and neither takes them
back when the kernel refuses it. A chunk that has been read for such a packet is gone. So the byte
stream a party leaves on the wire is intact exactly in the runs in which no send fails.
-/

namespace Sas.System

open Foundation Transport

/-! ## What has left -/

/-- The datagram of a send that has succeeded. -/
def left? : Syscall → Option (List UInt8)
  | .send _ datagram none => some datagram
  | _ => none

/-- The datagrams that have left, in order. -/
def leftBy (calls : List Syscall) : List (List UInt8) := calls.filterMap left?

/-- The chunks the data packets among these datagrams carry. -/
def chunksOf (datagrams : List (List UInt8)) : List (List UInt8) :=
  (datagrams.filter isData).map payloadOf

/-- The chunk a read returns. -/
def chunk? : ReadReply → Option (List UInt8)
  | .data (byte :: bytes) => some (byte :: bytes)
  | _ => none

/-- The chunks the reads return, the first of which is that of the header. -/
def chunksRead (replies : List ReadReply) : List (List UInt8) := replies.tail.filterMap chunk?

/-- The sequence number along some calls, as the packets carry it, where a send that succeeds moves it
behind its packet and one that fails leaves it unchanged. -/
def MovesBySuccess : UInt32 → List Syscall → UInt32 → Prop
  | seq, [], next => seq = next
  | seq, .send _ datagram none :: calls, next =>
      (headerOf datagram).seq = seq ∧
        MovesBySuccess (seq + span (headerOf datagram).length) calls next
  | seq, .send _ datagram (some _) :: calls, next =>
      (headerOf datagram).seq = seq ∧ MovesBySuccess seq calls next
  | seq, _ :: calls, next => MovesBySuccess seq calls next

/-- A packet always takes the sequence number further. -/
theorem add_span_ne (seq : UInt32) (length : UInt16) : seq + span length ≠ seq := by
  intro same
  exact span_ne_zero length (UInt32.left_eq_add.mp same.symm)

section

variable {calls : List Syscall} {first second next : UInt32}

/-- Without a failed send, everything sent has left. -/
theorem leftBy_eq_sentBy (fine : SendsFine calls) : leftBy calls = sentBy calls := by
  refine List.filterMap_congr fun call member => ?_
  have fine := fine call member
  cases call with
  | send destination datagram failure =>
      cases fine
      rfl
  | _ => rfl

/-- Numbers that have come apart do not come together again. -/
theorem movesBySuccess_apart (chain : SeqChain first (sentBy calls) next)
    (moves : MovesBySuccess second calls next) : first = second := by
  induction calls generalizing first second with
  | nil => exact chain.trans moves.symm
  | cons call calls ih =>
      cases call with
      | send destination datagram failure =>
          have seq := chain.1
          cases failure with
          | none => exact seq.symm.trans moves.1
          | some errno => exact seq.symm.trans moves.1
      | _ => exact ih chain moves

/-- Where everything that is sent takes numbers, only success moves them exactly if every send
succeeds. -/
theorem movesBySuccess_iff (chain : SeqChain first (sentBy calls) next) :
    MovesBySuccess first calls next ↔ SendsFine calls := by
  induction calls generalizing first with
  | nil => exact iff_of_true chain fun _ member => (List.not_mem_nil member).elim
  | cons call calls ih =>
      unfold SendsFine
      rw [List.forall_mem_cons]
      cases call with
      | send destination datagram failure =>
          obtain ⟨seq, rest⟩ := chain
          cases failure with
          | none =>
              rw [← SendsFine, ← ih rest]
              exact and_congr (iff_of_true seq rfl) Iff.rfl
          | some errno =>
              refine iff_of_false (fun moves => ?_) fun fine => by cases fine.1
              exact add_span_ne _ _ (movesBySuccess_apart rest moves.2)
      | _ =>
          rw [← SendsFine, ← ih chain]
          exact (and_iff_right trivial).symm

end

theorem chunksOf_append (first second : List (List UInt8)) :
    chunksOf (first ++ second) = chunksOf first ++ chunksOf second := by
  simp only [chunksOf, List.filter_append, List.map_append]

theorem chunksOf_singleton {datagram : List UInt8} (data : isData datagram = true) :
    chunksOf [datagram] = [payloadOf datagram] := by
  simp only [chunksOf, List.filter_cons_of_pos data, List.filter_nil, List.map_cons, List.map_nil]

/-- Packets without data carry no chunk. -/
theorem chunksOf_eq_nil {datagrams : List (List UInt8)}
    (others : ∀ datagram ∈ datagrams, isData datagram = false) : chunksOf datagrams = [] := by
  rw [chunksOf, List.filter_eq_nil_iff.mpr fun datagram member => ?_, List.map_nil]
  rw [others datagram member]
  exact Bool.false_ne_true

theorem chunksOf_singleton_eq_nil {datagram : List UInt8} (other : isData datagram = false) :
    chunksOf [datagram] = [] :=
  chunksOf_eq_nil fun _ member => (List.mem_singleton.mp member).symm ▸ other

/-- Behind the header, every read adds what it returns. -/
theorem chunksRead_append (header : ReadReply) (rest more : List ReadReply) :
    chunksRead (header :: rest ++ more) = chunksRead (header :: rest) ++ more.filterMap chunk? :=
  List.filterMap_append

/-- Reading more keeps the chunks read so far. -/
theorem chunksRead_isPrefix (replies more : List ReadReply) :
    chunksRead replies <+: chunksRead (replies ++ more) := by
  cases replies with
  | nil => exact List.nil_prefix
  | cons header rest =>
      rw [chunksRead_append]
      exact List.prefix_append _ _

/-! ## Sessions -/

section

open Server Rxc Formats

variable {session : Server.Session} {exchange : Exchange} {kernel : Kernel}

/-- The handshake counts all that it sends. -/
theorem sessionOpen_seqChain {header : PacketHeader} {payload : Memory} {outcome : Outcome}
    (silent : sentBy kernel.calls = [])
    (done : sessionOpen header payload session kernel = .ok outcome) :
    SeqChain session.seq (sentBy outcome.kernel.calls) outcome.session.seq := by
  obtain ⟨_, _, asking, asked, flags, length, body, quiet, same, _, calls, none, seq, sends⟩ :=
    sessionOpen_sends done
  have carries := carries_packetDatagram (Server.sessionHeader asking flags length) asked.garbage body
  rw [sends, seq, ← same]
  change SeqChain asking.seq (sentBy (asked.calls ++ [_])) (asking.seq + span length)
  rw [sentBy_append, calls, sentBy_append, silent, none]
  refine SeqChain.singleton ?_ ?_
  · rw [carries.headerOf_eq]
    rfl
  · rw [carries.headerOf_eq]
    rfl

/-- Whatever a session does with a packet, it counts all that it sends. -/
theorem handledBy_seqChain {outcome : Outcome} (formed : WellFormed session)
    (handled : exchange.handledBy session = .ok outcome) :
    SeqChain session.seq (sentBy outcome.kernel.calls) outcome.session.seq := by
  cases deleted : outcome.deleted with
  | false =>
      have reaction := reaction_of_handledBy formed handled
      rw [deleted] at reaction
      obtain ⟨seq, chain, same⟩ := reaction.seqChain
      rw [same outcome.session rfl]
      exact chain
  | true =>
      rcases handledBy_deleted formed handled deleted with rfl | opened
      · rfl
      · exact @sessionOpen_seqChain (acked session exchange.header) exchange.kernel _ _ _ rfl opened

end

/-! ## The chunks of a session -/

section

open Server Rxc Formats

variable {session next : Server.Session} {exchange : Exchange} {calls more : List Syscall}

/-- A reaction sends a data packet for every chunk it reads. -/
theorem reaction_chunks (reaction : Reaction session exchange more (some next))
    (relayed : Relayed calls session)
    (same : chunksOf (sentBy calls) = chunksRead (readsBy calls)) :
    chunksOf (sentBy (calls ++ more)) = chunksRead (readsBy (calls ++ more)) := by
  cases reaction with
  | dropped => rwa [List.append_nil]
  | silent => rwa [List.append_nil]
  | reset heard state syn sends =>
      obtain ⟨datagram, sent, reads, _, _, data, _⟩ := sends.kind
      rw [sentBy_append, readsBy_append, sent, reads, sentBy_nil, readsBy_nil, chunksOf_append,
        chunksOf_singleton_eq_nil data, List.append_nil, List.append_nil]
      exact same
  | opened heard state syn codec offered sends =>
      obtain ⟨datagram, sent, reads, _, _, data, _⟩ := sends.kind
      obtain ⟨unread, silent⟩ := relayed.1 state
      rw [sentBy_append, readsBy_append, sentBy_open, sentBy_read, sent, sentBy_nil, unread,
        readsBy_open, readsBy_read, reads, readsBy_nil, chunksOf_append,
        chunksOf_eq_nil fun other member => (silent other member).1,
        chunksOf_singleton_eq_nil data]
      rfl
  | @chunk source bytes call heard streaming pipeline opened read some small sends =>
      obtain ⟨datagram, sent, reads, _, payload, data, _⟩ := sends.kind
      obtain ⟨_, header, rest, _, earlier, _⟩ := relayed.2 streaming
      rw [sentBy_append, readsBy_append, sentBy_read, sent, sentBy_nil, readsBy_read, reads,
        readsBy_nil, chunksOf_append, same, chunksOf_singleton data, payload, earlier,
        chunksRead_append]
      cases bytes with
      | nil => cases some
      | cons => rfl
  | ended heard streaming pipeline opened read sends =>
      obtain ⟨datagram, sent, reads, _, _, data, _⟩ := sends.kind
      obtain ⟨_, header, rest, _, earlier, _⟩ := relayed.2 streaming
      rw [sentBy_append, readsBy_append, sentBy_read, sentBy_close, sent, sentBy_nil, readsBy_read,
        readsBy_close, reads, readsBy_nil, chunksOf_append, same, chunksOf_singleton_eq_nil data,
        earlier, chunksRead_append]
      rfl
  | failed heard streaming pipeline opened read sends =>
      obtain ⟨datagram, sent, reads, _, _, data, _⟩ := sends.kind
      obtain ⟨_, header, rest, _, earlier, _⟩ := relayed.2 streaming
      rw [sentBy_append, readsBy_append, sentBy_read, sent, sentBy_close, sentBy_nil, readsBy_read,
        reads, readsBy_close, readsBy_nil, chunksOf_append, same, chunksOf_singleton_eq_nil data,
        earlier, chunksRead_append]
      rfl

/-- The packet that deletes a session elicits no data. -/
theorem reaction_chunks_deleted (reaction : Reaction session exchange more none) :
    chunksOf (sentBy more) = [] := by
  cases reaction with
  | forgotten => rfl
  | refused heard state syn refusal sends quiet =>
      obtain ⟨datagram, sent, _, _, _, data, _⟩ := sends.kind
      rw [sentBy_append, quiet, List.nil_append, sent, sentBy_nil]
      exact chunksOf_singleton_eq_nil data

variable {addr : SockaddrIn6} {memory : Uninitialized} {events : List SessionEvent}
  {target : Option Server.Session}

/-- A session that lives has sent every chunk it has read. -/
theorem sessionRun_chunks (run : SessionRun addr memory events target) :
    ∀ session, target = some session →
      chunksOf (sentBy (callsOf events)) = chunksRead (readsBy (callsOf events)) := by
  refine run.history (fun events state => ∀ session, state = some session →
    chunksOf (sentBy (callsOf events)) = chunksRead (readsBy (callsOf events))) ?_ ?_
  · rintro _ _
    rfl
  · intro events state event next before same step
    obtain ⟨session, rfl, reacted | written⟩ := step.cases (SessionRun.wellFormed before)
    · obtain ⟨exchange, calls, rfl, reaction⟩ := reacted
      rintro session' rfl
      rw [callsOf_append, callsOf_singleton]
      exact reaction_chunks reaction (SessionRun.relayed before session rfl) (same session rfl)
    · obtain ⟨timeout, link, rfl, rfl⟩ := written
      rintro _ ⟨⟩
      rw [callsOf_append, callsOf_singleton, SessionEvent.calls, List.append_nil]
      exact same session rfl

/-- In every run, a session has sent the chunks it has read in order. -/
theorem sessionRun_chunks_isPrefix (run : SessionRun addr memory events target) :
    chunksOf (sentBy (callsOf events)) <+: chunksRead (readsBy (callsOf events)) := by
  cases target with
  | some session =>
      have same := sessionRun_chunks run session rfl
      exact ⟨[], (List.append_nil _).trans same⟩
  | none =>
      cases run with
      | @snoc events middle _ event before last =>
          obtain ⟨session, rfl, reacted | written⟩ := last.cases (SessionRun.wellFormed before)
          · obtain ⟨exchange, calls, rfl, reaction⟩ := reacted
            rw [callsOf_append, callsOf_singleton, SessionEvent.calls, sentBy_append,
              readsBy_append, chunksOf_append, reaction_chunks_deleted reaction, List.append_nil,
              sessionRun_chunks before session rfl]
            exact chunksRead_isPrefix _ _
          · obtain ⟨timeout, link, rfl, deleted⟩ := written
            cases deleted

/-- In every run, what a session sends takes the numbers from 0 on. -/
theorem sessionRun_seqChain (run : SessionRun addr memory events target) :
    ∃ seq, SeqChain 0 (sentBy (callsOf events)) seq ∧
      ∀ session, target = some session → session.seq = seq := by
  refine run.history (fun events state => ∃ seq, SeqChain 0 (sentBy (callsOf events)) seq ∧
    ∀ session, state = some session → session.seq = seq) ⟨0, rfl, by rintro _ ⟨⟩; rfl⟩ ?_
  intro events state event next before chained step
  obtain ⟨seq, chain, same⟩ := chained
  rw [callsOf_append, callsOf_singleton, sentBy_append]
  obtain ⟨session, rfl, reacted | written⟩ := step.cases (SessionRun.wellFormed before)
  · obtain ⟨exchange, calls, rfl, reaction⟩ := reacted
    obtain ⟨seq', chain', same'⟩ := reaction.seqChain
    rw [same session rfl] at chain'
    exact ⟨seq', chain.append chain', same'⟩
  · obtain ⟨timeout, link, rfl, rfl⟩ := written
    rw [SessionEvent.calls, sentBy_nil, List.append_nil]
    exact ⟨seq, chain, by rintro _ ⟨⟩; exact same session rfl⟩

/-- A packet moves the number of a session by what it sends with success. -/
def SeqBySuccess : Option Server.Session → SessionEvent → Prop
  | some session, .packet exchange _ => ∀ outcome, exchange.handledBy session = .ok outcome →
      MovesBySuccess session.seq outcome.kernel.calls outcome.session.seq
  | _, _ => True

/-- The byte stream of a session is intact after these events: a failed send has left the number
unchanged, what has left is numbered without gap, and no chunk is missing between two that have. -/
structure SessionIntact (addr : SockaddrIn6) (memory : Uninitialized) (events : List SessionEvent)
    (target : Option Server.Session) : Prop where
  unchanged : Run (fun before event after =>
      SessionStep before event after ∧ SeqBySuccess before event)
    (some (sessionCreate addr memory)) events target
  contiguous : ∃ first next, SeqChain first (leftBy (callsOf events)) next
  unbroken : chunksOf (leftBy (callsOf events)) <:+: chunksRead (readsBy (callsOf events))

/-- An event of a well-formed session moves its number by success exactly if none of its sends
fails. -/
theorem seqBySuccess_iff {before after : Option Server.Session} {event : SessionEvent}
    (formed : ∀ session, before = some session → Server.WellFormed session)
    (step : SessionStep before event after) :
    SeqBySuccess before event ↔ SendsFine event.calls := by
  cases before with
  | none => exact step.elim
  | some session =>
      cases event with
      | packet exchange calls =>
          obtain ⟨outcome, handled, rfl, _⟩ := step
          have moves := movesBySuccess_iff (handledBy_seqChain (formed session rfl) handled)
          constructor
          · intro success
            exact moves.mp (success outcome handled)
          · intro fine outcome' handled'
            cases handled.symm.trans handled'
            exact moves.mpr fine
      | marked timeout link =>
          exact iff_of_true trivial fun _ member => (List.not_mem_nil member).elim

/-- The steps of a run send without failure exactly if the run does. -/
theorem sendsFine_flatMap_iff {State Event : Type*} {step : State → Event → State → Prop}
    {source target : State} {events : List Event} (callsOf : Event → List Syscall)
    (run : Run step source events target) :
    Run (fun state event next => step state event next ∧ SendsFine (callsOf event)) source events
      target ↔ SendsFine (events.flatMap callsOf) := by
  unfold SendsFine
  rw [List.forall_mem_flatMap]
  constructor
  · intro fine
    induction fine with
    | nil => exact fun _ member => (List.not_mem_nil member).elim
    | snoc before last ih =>
        rw [List.forall_mem_append, List.forall_mem_singleton]
        exact ⟨ih (before.mono fun _ _ _ both => both.1), last.2⟩
  · intro fine
    exact run.mono_of_mem fun _ event _ member one => ⟨one, fine event member⟩

/-- The byte stream of a session is intact exactly if no send fails. -/
theorem sessionIntact_iff (run : SessionRun addr memory events target) :
    SessionIntact addr memory events target ↔ SendsFine (callsOf events) := by
  have steps := @Run.meets_iff _ _ SessionStep (fun before event _ => SeqBySuccess before event)
    (fun _ event _ => SendsFine event.calls)
    (fun state => ∀ session, state = some session → Server.WellFormed session)
    (some (sessionCreate addr memory)) target events
    (by rintro _ ⟨⟩; exact wellFormed_create addr memory)
    (fun _ _ _ formed step => seqBySuccess_iff formed step)
    fun _ _ _ formed step _ => step.wellFormed formed
  rw [sendsFine_flatMap_iff SessionEvent.calls run] at steps
  constructor
  · intro intact
    exact steps.mp intact.unchanged
  · intro fine
    refine ⟨steps.mpr fine, ?_, ?_⟩
    · obtain ⟨seq, chain, _⟩ := sessionRun_seqChain run
      rw [leftBy_eq_sentBy fine]
      exact ⟨0, seq, chain⟩
    · rw [leftBy_eq_sentBy fine]
      exact (sessionRun_chunks_isPrefix run).isInfix

end

/-! ## The byte stream of a client -/

section

open Client

variable {sink : Client.Sink} {name : List UInt8} {memory : Chunk} {env : Env}
  {start target : Client.Config} {events : List Client.ClientEvent}

/-- The byte stream of a client is intact after these events. -/
structure ClientIntact (sink : Client.Sink) (start : Client.Config)
    (events : List Client.ClientEvent) (target : Client.Config) : Prop where
  begun : MovesBySuccess 0 start.world.kernel.calls start.world.session.seq
  unchanged : Run (fun config event next => Client.ClientStep sink config event next ∧
      MovesBySuccess config.world.session.seq event.calls next.world.session.seq)
    start events target
  contiguous : ∃ first next,
    SeqChain first (leftBy (start.world.kernel.calls ++ callsOf events)) next

/-- What a client sends takes the numbers from 0 on. -/
theorem clientRun_seqChain (begun : Client.receive name memory env = .ok start)
    (run : Client.ClientRun sink start events target) :
    SeqChain 0 (Client.saidBy start events) target.world.session.seq := by
  refine run.history (fun events config =>
    SeqChain 0 (Client.saidBy start events) config.world.session.seq) ?_ ?_
  · obtain ⟨seq, datagram, failure, header, payload, session, _, calls, _, _, _, _, chain⟩ :=
      Client.receive_spec begun
    rw [session, Client.saidBy, calls]
    exact chain
  · intro events config event next before chain step
    rw [Client.saidBy_snoc]
    exact chain.append (step.seqChain (Client.ClientRun.underway begun before).formed)

/-- The byte stream of a client is intact exactly if no send fails. -/
theorem clientIntact_iff (begun : Client.receive name memory env = .ok start)
    (run : Client.ClientRun sink start events target) :
    ClientIntact sink start events target ↔
      SendsFine (start.world.kernel.calls ++ callsOf events) := by
  have first : MovesBySuccess 0 start.world.kernel.calls start.world.session.seq ↔
      SendsFine start.world.kernel.calls := by
    have chain := clientRun_seqChain begun (@Run.nil _ _ (Client.ClientStep sink) start)
    rw [Client.saidBy, Client.callsOf, List.flatMap_nil, List.append_nil] at chain
    exact movesBySuccess_iff chain
  have steps := @Run.meets_iff _ _ (Client.ClientStep sink)
    (fun config event next =>
      MovesBySuccess config.world.session.seq event.calls next.world.session.seq)
    (fun _ event _ => SendsFine event.calls) (fun config => Client.Underway config.world)
    start target events (Client.underway_start begun)
    (fun _ _ _ underway step => movesBySuccess_iff (step.seqChain underway.formed))
    fun _ _ _ underway step _ => underway.step step
  rw [sendsFine_flatMap_iff Client.ClientEvent.calls run] at steps
  unfold SendsFine at first steps ⊢
  rw [List.forall_mem_append]
  constructor
  · intro intact
    exact ⟨first.mp intact.begun, steps.mp intact.unchanged⟩
  · rintro ⟨fineStart, fineRun⟩
    refine ⟨first.mpr fineStart, steps.mpr fineRun, 0, target.world.session.seq, ?_⟩
    rw [leftBy_eq_sentBy (List.forall_mem_append.mpr ⟨fineStart, fineRun⟩)]
    exact clientRun_seqChain begun run

end

/-! ## Intact byte streams -/

/-- **The byte streams break at the first send that fails.** In every run of a session and of a
client, a failed send leaves the number unchanged, what has left is numbered without gap and no
chunk is missing exactly if no send of the run fails. -/
theorem byte_streams_intact_iff {addr : SockaddrIn6} {memory : Server.Uninitialized}
    {events : List Server.SessionEvent} {target : Option Server.Session}
    (run : Server.SessionRun addr memory events target)
    {sink : Client.Sink} {name : List UInt8} {chunk : Chunk} {env : Env}
    {start config : Client.Config} {iterations : List Client.ClientEvent}
    (begun : Client.receive name chunk env = .ok start)
    (clientRun : Client.ClientRun sink start iterations config) :
    (SessionIntact addr memory events target ↔ SendsFine (Server.callsOf events)) ∧
      (ClientIntact sink start iterations config ↔
        SendsFine (start.world.kernel.calls ++ Client.callsOf iterations)) :=
  ⟨sessionIntact_iff run, clientIntact_iff begun clientRun⟩

/-- No send fails where the song is streamed to its end and the client has taken a chunk. -/
theorem byte_streams_intact_song :
    (SessionIntact Server.listener ⟨0, 0, 0, 0, 0⟩ Server.songEvents.1 Server.songEvents.2 ↔
      SendsFine (Server.callsOf Server.songEvents.1)) ∧
      (ClientIntact Client.driversIgnore Client.songStart (Client.songRun Client.driversIgnore).1
          (Client.songRun Client.driversIgnore).2 ↔
        SendsFine (Client.songStart.world.kernel.calls ++
          Client.callsOf (Client.songRun Client.driversIgnore).1)) :=
  byte_streams_intact_iff (Server.replay_run _ _) Client.songStart_begun (Client.replay_run _ _ _)

/-- An ACK for which the next byte of the song is read, and its send fails for want of buffers. -/
def songLost (seq : UInt32) (bytes : List UInt8) : Server.Exchange :=
  { Server.songAck seq bytes with
    env := { (Server.songEnv fun _ => .data bytes) with sendReply := fun _ => some 105 } }

/-- The song, whose second byte is lost. -/
def songHalting : List Server.SessionEvent × Option Server.Session :=
  Server.replay (some (Server.sessionCreate Server.listener ⟨0, 0, 0, 0, 0⟩))
    [Server.songSyn, Server.songAck 5 [7], songLost 6 [8], Server.songAck 7 [9]]

/-- The first and the third byte leave, and the second is missing between them. -/
theorem byte_streams_not_intact :
    ¬ ((∀ (addr : SockaddrIn6) (memory : Server.Uninitialized) (events : List Server.SessionEvent)
        (target : Option Server.Session), Server.SessionRun addr memory events target →
          SessionIntact addr memory events target) ∧
      ∀ (sink : Client.Sink) (name : List UInt8) (chunk : Chunk) (env : Env)
        (start config : Client.Config) (iterations : List Client.ClientEvent),
        Client.receive name chunk env = .ok start →
        Client.ClientRun sink start iterations config →
          ClientIntact sink start iterations config) := by
  rintro ⟨intact, _⟩
  have broken := (intact _ _ songHalting.1 songHalting.2 (Server.replay_run _ _)).unbroken
  exact absurd broken (by decide +kernel)

example : chunksOf (leftBy (Server.callsOf songHalting.1)) = [[7], [9]] := by decide +kernel

end Sas.System
