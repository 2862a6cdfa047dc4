import Sas.System.Handshake
import Sas.Client.Numbering
import Sas.Server.Numbering

/-! # Sequence agreement over lossless channels

Over channels that deliver everything once and in order, the packets on their way to a party are
numbered from its acknowledgement to the next number of its peer, without gap. So every packet that
arrives is the one the party expects, however often the numbers have wrapped.
-/

namespace Sas.System

open Foundation Transport

/-! ## What is on its way -/

/-- The datagrams that have been sent and have not arrived, on a channel that keeps their order. -/
def Channel.inFlight (channel : Channel) : List (List UInt8) := channel.sent.drop channel.arrived

/-- No more datagrams have arrived than were sent. -/
def Channel.Bounded (channel : Channel) : Prop := channel.arrived ≤ channel.sent.length

section

variable {channel : Channel} {datagram : List UInt8}

theorem Channel.inFlight_send (bounded : channel.Bounded) (datagrams : List (List UInt8)) :
    (channel.send datagrams).inFlight = channel.inFlight ++ datagrams :=
  List.drop_append_of_le_length bounded

/-- The datagram that arrives is the first one on its way. -/
theorem Channel.inFlight_cons
    (arrives : inOrder channel.sent channel.arrived datagram) :
    channel.inFlight = datagram :: (channel.deliver 1).inFlight := by
  obtain ⟨below, same⟩ := List.getElem?_eq_some_iff.mp arrives
  unfold Channel.inFlight Channel.deliver
  rw [List.drop_eq_getElem_cons below, same]

/-- Sending puts datagrams behind those that have arrived. -/
theorem Channel.Bounded.send (bounded : channel.Bounded) (datagrams : List (List UInt8)) :
    (channel.send datagrams).Bounded := by
  unfold Channel.Bounded Channel.send
  rw [List.length_append]
  exact Nat.le_add_right_of_le bounded

theorem Channel.Bounded.deliver (arrives : inOrder channel.sent channel.arrived datagram) :
    (channel.deliver 1).Bounded := (List.getElem?_eq_some_iff.mp arrives).1

end

/-! ## Lossless runs -/

/-- The call is not a failed send. -/
def Fine : Syscall → Prop
  | .send _ _ failure => failure = none
  | _ => True

instance : DecidablePred Fine := fun call => by
  cases call <;> unfold Fine <;> infer_instance

/-- None of the sends fails. -/
def SendsFine (calls : List Syscall) : Prop := ∀ call ∈ calls, Fine call

instance : DecidablePred SendsFine := fun calls =>
  inferInstanceAs (Decidable (∀ call ∈ calls, Fine call))

/-- The event is none of the ways in which a lossless channel is left: a timeout of either party, or
a failing call. -/
def Lossless : PairEvent → Prop
  | .client event => event.input.datagram?.isSome ∧ SendsFine event.calls
  | .server _ _ _ calls => SendsFine calls
  | .marked _ _ => True
  | .expired => False

instance : DecidablePred Lossless := fun event => by
  cases event <;> unfold Lossless <;> infer_instance

/-- One event over lossless channels. -/
def LosslessStep (sink : Client.Sink) (addr : SockaddrIn6) (pair : Pair) (event : PairEvent)
    (next : Pair) : Prop := PairStep inOrder sink addr pair event next ∧ Lossless event

/-- The events lead a pair over lossless channels from the SYN of its client to this state. -/
abbrev LosslessRun (sink : Client.Sink) (addr : SockaddrIn6) (start : Client.Config)
    (events : List PairEvent) (pair : Pair) : Prop :=
  Run (LosslessStep sink addr) (Pair.start start) events pair

/-! ## Agreement -/

/-- The number the server expects next. -/
def Pair.serverAck (pair : Pair) : UInt32 := (pair.session.map Server.Session.ack).getD 0

/-- The number the server sends next. -/
def Pair.serverSeq (pair : Pair) : UInt32 := (pair.session.map Server.Session.seq).getD 0

/-- Both channels hold a contiguous chain of packets. -/
structure Chained (pair : Pair) (serverAck serverSeq : UInt32) : Prop where
  toServer : SeqChain serverAck pair.toServer.inFlight pair.client.world.session.seq
  toClient : SeqChain pair.client.world.session.ack pair.toClient.inFlight serverSeq

/-- How the numbers of a pair agree: with the session there is or will be, or, once the server has
refused the SYN, with what that session has sent. -/
inductive Agrees (pair : Pair) : Prop where
  | serving : Chained pair pair.serverAck pair.serverSeq → Agrees pair
  | refused {seq : UInt32} : pair.session = none → pair.toServer.inFlight = [] →
      SeqChain pair.client.world.session.ack pair.toClient.inFlight seq → Agrees pair

/-- The invariant of lossless runs. The client has sent more than its SYN only if the server has sent
something other than a reset, which it has not done before its session is past the initial state. -/
structure Agreement (pair : Pair) : Prop where
  formed : Formed pair
  said : ∀ datagram ∈ pair.toServer.sent, FromClient datagram
  answered : ∀ datagram ∈ pair.toClient.sent, ∃ header payload, Carries datagram header payload
  served : pair.toServer.Bounded
  taken : pair.toClient.Bounded
  silence : pair.toServer.sent.length = 1 ∨ ∃ datagram ∈ pair.toClient.sent, isRst datagram = false
  quiet : (∀ session, pair.session = some session → session.state = .initial) →
    ∀ datagram ∈ pair.toClient.sent, isRst datagram = true
  agrees : Agrees pair

section

variable {sink : Client.Sink} {addr : SockaddrIn6} {start : Client.Config}
  {pair next : Pair} {event : PairEvent} {events : List PairEvent}

/-- The session that a packet meets expects the number the server does. -/
theorem current_ack (pair : Pair) (addr : SockaddrIn6) (memory : Server.Uninitialized) :
    (pair.current addr memory).ack = pair.serverAck := by
  unfold Pair.current Pair.serverAck
  cases pair.session <;> rfl

/-- The session that a packet meets goes on with the number the server does. -/
theorem current_seq (pair : Pair) (addr : SockaddrIn6) (memory : Server.Uninitialized) :
    (pair.current addr memory).seq = pair.serverSeq := by
  unfold Pair.current Pair.serverSeq
  cases pair.session <;> rfl

/-- At the start both sides agree. -/
theorem agreement_start {name : List UInt8} {memory : Chunk} {env : Env}
    (begun : Client.receive name memory env = .ok start) : Agreement (Pair.start start) := by
  obtain ⟨seq, datagram, failure, header, payload, session, _, calls, carries, flags, first, _,
    chain⟩ := Client.receive_spec begun
  have sent : sentBy start.world.kernel.calls = [datagram] := by
    rw [calls]
    rfl
  refine ⟨⟨Client.underway_start begun, by rintro _ ⟨⟩⟩, (handshaking_start begun).said,
    fun _ member => (List.not_mem_nil member).elim, Nat.zero_le _, Nat.zero_le _, .inl ?_,
    fun _ _ member => (List.not_mem_nil member).elim, .serving ⟨?_, ?_⟩⟩
  · exact congrArg List.length sent
  · change SeqChain 0 (sentBy start.world.kernel.calls) start.world.session.seq
    rw [sent, session]
    exact chain
  · change SeqChain start.world.session.ack [] 0
    rw [session]
    rfl

/-- The datagram that arrives at a client is the one it expects. -/
theorem Agreement.client_expects (agreement : Agreement pair) (input : Client.Input)
    {datagram : List UInt8}
    (arrives : inOrder pair.toClient.sent pair.toClient.arrived datagram) :
    input.header datagram = headerOf datagram ∧
      (headerOf datagram).seq = pair.client.world.session.ack := by
  obtain ⟨header, payload, carries⟩ := agreement.answered datagram (List.mem_of_getElem? arrives)
  refine ⟨by rw [input_header_eq input carries, carries.headerOf_eq], ?_⟩
  have flight := Channel.inFlight_cons arrives
  cases agreement.agrees with
  | serving chained =>
      have chain := chained.toClient
      rw [flight] at chain
      exact chain.1
  | refused none silent chain =>
      rw [flight] at chain
      exact chain.1

/-- The datagram that arrives at the server is the one it expects. -/
theorem Agreement.server_expects (agreement : Agreement pair) {exchange : Server.Exchange}
    {datagram : List UInt8} (receives : Receives exchange datagram)
    (arrives : inOrder pair.toServer.sent pair.toServer.arrived datagram) :
    exchange.header = headerOf datagram ∧ exchange.header.seq = pair.serverAck ∧
      Chained pair pair.serverAck pair.serverSeq := by
  have same := (agreement.said datagram (List.mem_of_getElem? arrives)).header_eq receives
  have flight := Channel.inFlight_cons arrives
  cases agreement.agrees with
  | serving chained =>
      have chain := chained.toServer
      rw [flight] at chain
      exact ⟨same, by rw [same]; exact chain.1, chained⟩
  | refused none silent chain =>
      rw [silent] at flight
      cases flight

/-- A packet with the number a party expects is accepted. -/
theorem accepted_of_seq {header : PacketHeader} {ack : UInt32} (expected : header.seq = ack) :
    Accepted header ack := by
  unfold Accepted
  rw [expected]
  exact UInt32.lt_irrefl ack

/-! ## The turn of the client -/

section

variable {clientEvent : Client.ClientEvent} {client : Client.Config}

/-- What the client leaves on its way begins where its acknowledgement then stands. -/
theorem Agreement.client_chain (agreement : Agreement pair)
    (stepped : Client.ClientStep sink pair.client clientEvent client)
    (arrives : ∀ datagram, clientEvent.input.datagram? = some datagram →
      inOrder pair.toClient.sent pair.toClient.arrived datagram)
    {seq : UInt32} (chain : SeqChain pair.client.world.session.ack pair.toClient.inFlight seq) :
    SeqChain client.world.session.ack
      (pair.toClient.deliver (takenBy clientEvent.input)).inFlight seq := by
  have formed := agreement.formed.1.formed
  unfold takenBy
  cases received : clientEvent.input.datagram? with
  | none =>
      rw [stepped.session_eq formed received]
      exact chain
  | some datagram =>
      obtain ⟨same, expected⟩ := agreement.client_expects clientEvent.input
        (arrives datagram received)
      have accepted : Accepted (clientEvent.input.header datagram)
          pair.client.world.session.ack := by
        rw [same]
        exact accepted_of_seq expected
      rw [stepped.ack_eq formed received accepted, same, expected]
      rw [Channel.inFlight_cons (arrives datagram received)] at chain
      exact chain.2

/-- A client that is sent nothing but resets says nothing. -/
theorem Agreement.client_silent (agreement : Agreement pair)
    (stepped : Client.ClientStep sink pair.client clientEvent client)
    (arrives : ∀ datagram, clientEvent.input.datagram? = some datagram →
      inOrder pair.toClient.sent pair.toClient.arrived datagram) :
    clientEvent.calls = [] ∨ ∃ datagram ∈ pair.toClient.sent, isRst datagram = false := by
  rcases stepped.hears_or agreement.formed.1.formed with ⟨datagram, _, heeds⟩ | ⟨_, _, quiet, _⟩
  · have arrived := arrives datagram heeds.received
    refine .inr ⟨datagram, List.mem_of_getElem? arrived, ?_⟩
    have heard := heeds.takes.1.2
    rwa [(agreement.client_expects clientEvent.input arrived).1] at heard
  · exact .inl quiet

/-- An iteration of the client keeps the agreement. -/
theorem Agreement.clientTurn (agreement : Agreement pair)
    (stepped : Client.ClientStep sink pair.client clientEvent client)
    (arrives : ∀ datagram, clientEvent.input.datagram? = some datagram →
      inOrder pair.toClient.sent pair.toClient.arrived datagram) :
    Agreement (pair.clientTurn clientEvent client) := by
  have formed := agreement.formed
  refine ⟨⟨formed.1.step stepped, formed.2⟩, ?_, agreement.answered, agreement.served.send _, ?_,
    ?_, agreement.quiet, ?_⟩
  · intro datagram member
    rcases List.mem_append.mp member with before | more
    · exact agreement.said datagram before
    · exact clientTurn_said stepped formed datagram more
  · change (pair.toClient.deliver (takenBy clientEvent.input)).Bounded
    unfold takenBy
    cases received : clientEvent.input.datagram? with
    | none => exact agreement.taken
    | some datagram => exact Channel.Bounded.deliver (arrives datagram received)
  · rcases agreement.client_silent stepped arrives with quiet | loud
    · change (pair.toServer.sent ++ sentBy clientEvent.calls).length = 1 ∨ _
      rw [quiet, sentBy_nil, List.append_nil]
      exact agreement.silence
    · exact .inr loud
  · cases agreement.agrees with
    | serving chained =>
        refine .serving ⟨?_, agreement.client_chain stepped arrives chained.toClient⟩
        have more := chained.toServer.append (stepped.seqChain formed.1.formed)
        rwa [← Channel.inFlight_send agreement.served] at more
    | refused none silent chain =>
        refine .refused none ?_ (agreement.client_chain stepped arrives chain)
        rcases agreement.client_silent stepped arrives with quiet | ⟨datagram, member, other⟩
        · change (pair.toServer.send (sentBy clientEvent.calls)).inFlight = []
          rw [Channel.inFlight_send agreement.served, silent, quiet]
          rfl
        · rw [agreement.quiet (by rw [none]; rintro _ ⟨⟩) datagram member] at other
          cases other

end

/-! ## The turn of the server -/

section

variable {session : Server.Session} {exchange : Server.Exchange} {calls : List Syscall}
  {after : Option Server.Session}

/-- What a session sends with these flags carries them. -/
theorem flags_of_sends {flags : UInt8} {payload : List UInt8} {call : Syscall}
    (sends : Server.Sends session flags payload call) :
    ∀ datagram ∈ sentBy [call], (headerOf datagram).flags = flags := by
  obtain ⟨datagram, failure, rfl, carries⟩ := sends
  intro other member
  rw [List.mem_singleton.mp member, carries.headerOf_eq]
  rfl

/-- What a session sends with these flags is a packet with them. -/
theorem carried_of_sends {flags : UInt8} {payload : List UInt8} {call : Syscall}
    (sends : Server.Sends session flags payload call) :
    ∀ datagram ∈ sentBy [call], (∃ header payload, Carries datagram header payload) ∧
      isRst datagram = packetFlagIsset flags packetFlagRst := by
  intro other member
  refine ⟨?_, by rw [isRst, flags_of_sends sends other member]⟩
  obtain ⟨datagram, failure, rfl, carries⟩ := sends
  rw [List.mem_singleton.mp member]
  exact ⟨_, _, carries⟩

/-- What a reaction sends are packets. -/
theorem reaction_carried (reaction : Server.Reaction session exchange calls after) :
    ∀ datagram ∈ sentBy calls, ∃ header payload, Carries datagram header payload := by
  intro datagram member
  cases reaction with
  | dropped => exact (List.not_mem_nil member).elim
  | forgotten => exact (List.not_mem_nil member).elim
  | silent => exact (List.not_mem_nil member).elim
  | reset heard state syn sends => exact (carried_of_sends sends datagram member).1
  | refused heard state syn unfit sends before =>
      rw [sentBy_append, before, List.nil_append] at member
      exact (carried_of_sends sends datagram member).1
  | opened heard state syn codec offered sends => exact (carried_of_sends sends datagram member).1
  | chunk heard streaming pipeline opened read some small sends =>
      exact (carried_of_sends sends datagram member).1
  | ended heard streaming pipeline opened read sends =>
      exact (carried_of_sends sends datagram member).1
  | failed heard streaming pipeline opened read sends =>
      exact (carried_of_sends sends datagram member).1

/-- A session that is not left past its initial state was in it and sends resets only, unless the
packet is one. -/
theorem reaction_quiet (reaction : Server.Reaction session exchange calls after)
    (kind : packetFlagIsset exchange.header.flags packetFlagRst = false)
    (initial : ∀ next, after = some next → next.state = .initial) :
    session.state = .initial ∧ ∀ datagram ∈ sentBy calls, isRst datagram = true := by
  cases reaction with
  | dropped => exact ⟨initial _ rfl, fun _ member => (List.not_mem_nil member).elim⟩
  | forgotten accepted reset => exact absurd (kind.symm.trans reset) (by decide)
  | reset heard state syn sends =>
      exact ⟨state, fun datagram member => (carried_of_sends sends datagram member).2⟩
  | refused heard state syn unfit sends before =>
      refine ⟨state, fun datagram member => ?_⟩
      rw [sentBy_append, before, List.nil_append] at member
      exact (carried_of_sends sends datagram member).2
  | opened => exact absurd (initial _ rfl) (by rintro ⟨⟩)
  | silent => exact absurd (initial _ rfl) (by rintro ⟨⟩)
  | chunk => exact absurd (initial _ rfl) (by rintro ⟨⟩)
  | ended => exact absurd (initial _ rfl) (by rintro ⟨⟩)
  | failed => exact absurd (initial _ rfl) (by rintro ⟨⟩)

/-- The client sends no resets. -/
theorem FromClient.no_rst {datagram : List UInt8} (said : FromClient datagram) :
    packetFlagIsset (headerOf datagram).flags packetFlagRst = false := by
  obtain ⟨header, payload, carries, ⟨flags, _⟩ | flags⟩ := said
  · rw [carries.headerOf_eq, flags]
    decide
  · rw [carries.headerOf_eq, flags]
    decide

/-- A session in its initial state has sent nothing but resets. -/
theorem Agreement.quiet_of_current (agreement : Agreement pair) {memory : Server.Uninitialized}
    (initial : (pair.current addr memory).state = .initial) :
    ∀ datagram ∈ pair.toClient.sent, isRst datagram = true := by
  refine agreement.quiet fun session live => ?_
  rwa [Pair.current, live] at initial

/-- While the server has sent resets only, the SYN is all there is for it to receive. -/
theorem Agreement.nothing_left (agreement : Agreement pair)
    (quiet : ∀ datagram ∈ pair.toClient.sent, isRst datagram = true) :
    (pair.toServer.deliver 1).inFlight = [] := by
  rcases agreement.silence with one | ⟨other, member, loud⟩
  · refine List.drop_eq_nil_of_le ?_
    change pair.toServer.sent.length ≤ pair.toServer.arrived + 1
    omega
  · rw [quiet other member] at loud
    cases loud

/-- A packet at the server keeps the agreement. -/
theorem Agreement.serverTurn {datagram : List UInt8} {memory : Server.Uninitialized}
    (agreement : Agreement pair) (receives : Receives exchange datagram)
    (arrives : inOrder pair.toServer.sent pair.toServer.arrived datagram)
    (stepped : Server.SessionStep (some (pair.current addr memory)) (.packet exchange calls) after) :
    Agreement (pair.serverTurn calls after) := by
  have reaction := agreement.formed.reaction stepped
  obtain ⟨same, expected, chained⟩ := agreement.server_expects receives arrives
  have kind : packetFlagIsset exchange.header.flags packetFlagRst = false := by
    rw [same]
    exact (agreement.said datagram (List.mem_of_getElem? arrives)).no_rst
  refine ⟨agreement.formed.server stepped, agreement.said, ?_, Channel.Bounded.deliver arrives,
    agreement.taken.send _, ?_, ?_, ?_⟩
  · intro other member
    rcases List.mem_append.mp member with before | more
    · exact agreement.answered other before
    · exact reaction_carried reaction other more
  · rcases agreement.silence with one | ⟨other, member, loud⟩
    · exact .inl one
    · exact .inr ⟨other, List.mem_append_left _ member, loud⟩
  · intro initial other member
    obtain ⟨state, resets⟩ := reaction_quiet reaction kind initial
    rcases List.mem_append.mp member with before | more
    · exact agreement.quiet_of_current state other before
    · exact resets other more
  · obtain ⟨seq, sends, next⟩ := reaction.seqChain
    rw [current_seq] at sends
    have answers := chained.toClient.append sends
    rw [← Channel.inFlight_send agreement.taken] at answers
    cases after with
    | none =>
        obtain ⟨state, _⟩ := reaction_quiet reaction kind (by rintro _ ⟨⟩)
        exact .refused rfl
          (agreement.nothing_left (agreement.quiet_of_current state)) answers
    | some session =>
        have accepted : Accepted exchange.header (pair.current addr memory).ack := by
          rw [current_ack]
          exact accepted_of_seq expected
        have behind := chained.toServer
        rw [Channel.inFlight_cons arrives] at behind
        refine .serving ⟨?_, ?_⟩
        · change SeqChain session.ack (pair.toServer.deliver 1).inFlight _
          rw [reaction.ack_eq accepted session rfl, expected, same]
          exact behind.2
        · change SeqChain _ (pair.toClient.send (sentBy calls)).inFlight session.seq
          rw [next session rfl]
          exact answers

end

/-! ## Whole runs -/

/-- The fields the loop and the table write have no part in the agreement. -/
theorem Agreement.marked (agreement : Agreement pair) {session : Server.Session}
    (live : pair.session = some session) (timeout : Int) (link : Option Server.SessionPtr) :
    Agreement { pair with session := some { session with timeout := timeout, next := link } } := by
  have formed := agreement.formed.2 session live
  refine ⟨⟨agreement.formed.1, by rintro _ ⟨⟩; exact formed⟩, agreement.said, agreement.answered,
    agreement.served, agreement.taken, agreement.silence, fun initial => agreement.quiet ?_, ?_⟩
  · intro other live'
    cases live.symm.trans live'
    have state := initial _ rfl
    exact state
  · cases agreement.agrees with
    | serving chained =>
        unfold Pair.serverAck Pair.serverSeq at chained
        rw [live] at chained
        exact .serving ⟨chained.toServer, chained.toClient⟩
    | refused none =>
        rw [live] at none
        cases none

/-- Every event over lossless channels keeps the agreement. -/
theorem Agreement.step (agreement : Agreement pair)
    (step : LosslessStep sink addr pair event next) : Agreement next := by
  obtain ⟨step, lossless⟩ := step
  cases step with
  | client stepped arrives => exact agreement.clientTurn stepped arrives
  | server receives arrives stepped => exact agreement.serverTurn receives arrives stepped
  | marked live => exact agreement.marked live _ _
  | expired => exact lossless.elim

/-- Client and session agree in every run over lossless channels. -/
theorem LosslessRun.agreement {name : List UInt8} {memory : Chunk} {env : Env}
    (begun : Client.receive name memory env = .ok start)
    (run : LosslessRun sink addr start events pair) : Agreement pair :=
  run.invariant Agreement (agreement_start begun) fun _ _ _ agreement step => agreement.step step

/-- The datagram that arrives in an event has the number its receiver expects. -/
def Expected (addr : SockaddrIn6) (pair : Pair) : PairEvent → Prop
  | .client event => ∀ datagram, event.input.datagram? = some datagram →
      (event.input.header datagram).seq = pair.client.world.session.ack
  | .server _ exchange memory _ => exchange.header.seq = (pair.current addr memory).ack
  | .marked _ _ => True
  | .expired => True

/-- Where the numbers agree, the packets in flight are chains between the numbers of the parties. -/
theorem Agrees.chained (agrees : Agrees pair) : ∃ serverAck serverSeq,
    (∀ session, pair.session = some session →
      session.ack = serverAck ∧ session.seq = serverSeq) ∧ Chained pair serverAck serverSeq := by
  cases agrees with
  | serving chained =>
      refine ⟨_, _, fun session live => ?_, chained⟩
      rw [Pair.serverAck, Pair.serverSeq, live]
      exact ⟨rfl, rfl⟩
  | @refused seq none silent chain =>
      refine ⟨pair.client.world.session.seq, seq, ?_, ?_, chain⟩
      · rw [none]
        rintro _ ⟨⟩
      · rw [silent]
        rfl

/-- **Client and session agree on their sequence numbers.** Over channels that lose, duplicate and
reorder nothing, the packets in flight in each direction are at every moment numbered without gap from
the acknowledgement of their receiver to the next number of their sender, modulo 2^32; and every
datagram that arrives has the number its receiver expects. -/
theorem sequence_agreement {name : List UInt8} {memory : Chunk} {env : Env}
    (begun : Client.receive name memory env = .ok start)
    (run : LosslessRun sink addr start events pair) :
    (∃ serverAck serverSeq, (∀ session, pair.session = some session →
        session.ack = serverAck ∧ session.seq = serverSeq) ∧ Chained pair serverAck serverSeq) ∧
      ∀ event next, LosslessStep sink addr pair event next → Expected addr pair event := by
  have agreement := LosslessRun.agreement begun run
  refine ⟨agreement.agrees.chained, fun event next step => ?_⟩
  obtain ⟨step, lossless⟩ := step
  cases step with
  | client stepped arrives =>
      intro datagram received
      obtain ⟨same, expected⟩ := agreement.client_expects _ (arrives datagram received)
      rw [same, expected]
  | server receives arrives stepped =>
      change _ = (pair.current addr _).ack
      rw [current_ack]
      exact (agreement.server_expects receives arrives).2.1
  | marked => trivial
  | expired => trivial

end

/-- A run whose events are lossless is a run over lossless channels. -/
theorem losslessRun_of_forall {sink : Client.Sink} {addr : SockaddrIn6} {start : Client.Config}
    {events : List PairEvent} {pair : Pair} (run : PairRun inOrder sink addr start events pair)
    (lossless : ∀ event ∈ events, Lossless event) : LosslessRun sink addr start events pair := by
  induction run with
  | nil => exact .nil
  | snoc before last ih =>
      refine .snoc (ih fun event member => lossless event (List.mem_append_left _ member))
        ⟨last, lossless _ (List.mem_append_right _ (List.mem_singleton_self _))⟩

/-- The song is asked for, answered, acknowledged and begun. -/
def songBegun : List PairEvent × Pair :=
  (Pair.start Client.songStart).replay inOrder Client.driversIgnore Server.listener
    [.server 0 (Server.songEnv fun _ => .data Server.songHeader), .client 0 Client.calmEnv,
      .server 1 (Server.songEnv fun _ => .data [7, 8, 9])]

/-- The two sides agree once the song has been opened, and after every step that can follow. -/
theorem sequence_agreement_song :
    (∃ serverAck serverSeq, (∀ session, songBegun.2.session = some session →
        session.ack = serverAck ∧ session.seq = serverSeq) ∧
      Chained songBegun.2 serverAck serverSeq) ∧
      ∀ event next, LosslessStep Client.driversIgnore Server.listener songBegun.2 event next →
        Expected Server.listener songBegun.2 event :=
  sequence_agreement Client.songStart_begun
    (losslessRun_of_forall (Pair.replay_run _ _) (by decide +kernel))

example : songBegun.2.toClient.inFlight.length = 1 ∧ songBegun.2.toServer.inFlight.length = 2 := by
  decide +kernel

end Sas.System
