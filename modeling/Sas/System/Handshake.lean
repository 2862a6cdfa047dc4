import Sas.System.Pair
import Sas.Client.Demand
import Sas.Server.Stream

/-! # The handshake over a channel that loses, duplicates and reorders

Neither state machine looks at the flags of the packet that takes it to the established state. What
keeps the handshake safe is what can be on the channel: until the client has its configuration it has
sent nothing but its SYN, a second SYN falls behind the sequence number of the first one, and so
the server has sent no data.
-/

namespace Sas.System

open Foundation Transport

/-- A packet the client sends: its SYN, which takes the first sequence number, or an ACK. -/
def FromClient (datagram : List UInt8) : Prop :=
  ∃ header payload, Carries datagram header payload ∧
    ((header.flags = packetFlagSyn ∧ header.seq = 0) ∨ header.flags = packetFlagAck)

/-- A packet the server sends before any data: the SYN-ACK, or a reset. -/
def BeforeData (datagram : List UInt8) : Prop :=
  ∃ header payload, Carries datagram header payload ∧
    (header.flags = packetFlagSyn ||| packetFlagAck ∨
      packetFlagIsset header.flags packetFlagRst = true)

/-- The server decodes the header of a packet the client sends. -/
theorem FromClient.header_eq {datagram : List UInt8} {exchange : Server.Exchange}
    (said : FromClient datagram) (receives : Receives exchange datagram) :
    exchange.header = headerOf datagram := by
  obtain ⟨header, payload, carries, _⟩ := said
  rw [receives.header_eq carries, carries.headerOf_eq]

/-- A pair whose client awaits its configuration: only SYNs are on their way to the server, no data
is on its way back, and no session is established. -/
structure Opening (pair : Pair) : Prop where
  asked : ∀ datagram ∈ pair.toServer.sent, isAck datagram = false
  answered : ∀ datagram ∈ pair.toClient.sent, BeforeData datagram
  waiting : ∀ session, pair.session = some session → session.state ≠ .establsh

/-- What holds of a pair throughout. A session that has answered the SYN has acknowledged it, so the
SYN is behind it from then on. -/
structure Handshaking (pair : Pair) : Prop where
  formed : Formed pair
  said : ∀ datagram ∈ pair.toServer.sent, FromClient datagram
  acknowledged : ∀ session, pair.session = some session → session.state = .sackSent →
    session.ack ≠ 0
  opening : pair.client.world.session.state = .synSent → Opening pair

/-! ## One packet at the server -/

/-- Every packet takes a number. -/
theorem span_ne_zero (length : UInt16) : span length ≠ 0 := by
  unfold span
  split
  · intro zero
    have : length.toUInt32.toNat = 0 := congrArg UInt32.toNat zero
    simp only [UInt16.toNat_toUInt32] at this
    have positive : 0 < length.toNat := by assumption
    omega
  · decide

/-- A packet with the first sequence number is behind every session that has acknowledged some. -/
theorem not_accepted_of_ack {header : PacketHeader} {ack : UInt32} (first : header.seq = 0)
    (some : ack ≠ 0) : ¬ Accepted header ack := by
  intro accepted
  apply accepted
  rw [first]
  exact UInt32.pos_iff_ne_zero.mpr some

section

variable {session : Server.Session} {exchange : Server.Exchange} {calls : List Syscall}
  {after : Option Server.Session}

/-- A packet of the client that sets SYN is its SYN. -/
theorem seq_of_syn
    (kind : (exchange.header.flags = packetFlagSyn ∧ exchange.header.seq = 0) ∨
      exchange.header.flags = packetFlagAck)
    (syn : packetFlagIsset exchange.header.flags packetFlagSyn = true) :
    exchange.header.seq = 0 := by
  rcases kind with ⟨_, first⟩ | flags
  · exact first
  · rw [flags] at syn
    exact absurd syn (by decide)

/-- A session that has answered the SYN has acknowledged it. -/
theorem reaction_acknowledged (reaction : Server.Reaction session exchange calls after)
    (kind : (exchange.header.flags = packetFlagSyn ∧ exchange.header.seq = 0) ∨
      exchange.header.flags = packetFlagAck)
    (acknowledged : session.state = .sackSent → session.ack ≠ 0) :
    ∀ next, after = some next → next.state = .sackSent → next.ack ≠ 0 := by
  cases reaction with
  | dropped =>
      rintro _ ⟨⟩
      exact acknowledged
  | forgotten => rintro _ ⟨⟩
  | refused => rintro _ ⟨⟩
  | reset heard state =>
      rintro _ ⟨⟩ answered
      exact absurd (state.symm.trans answered) (by decide)
  | opened heard state syn =>
      rintro _ ⟨⟩ _
      change exchange.header.seq + span exchange.header.length ≠ 0
      rw [seq_of_syn kind syn, UInt32.zero_add]
      exact span_ne_zero _
  | silent => rintro _ ⟨⟩ ⟨⟩
  | chunk => rintro _ ⟨⟩ ⟨⟩
  | ended => rintro _ ⟨⟩ ⟨⟩
  | failed => rintro _ ⟨⟩ ⟨⟩

/-- What a session sends with these flags comes before any data. -/
theorem beforeData_of_sends {flags : UInt8} {payload : List UInt8} {call : Syscall}
    (sends : Server.Sends session flags payload call)
    (kind : flags = packetFlagSyn ||| packetFlagAck ∨ packetFlagIsset flags packetFlagRst = true) :
    ∀ datagram ∈ sentBy [call], BeforeData datagram := by
  obtain ⟨datagram, failure, rfl, carries⟩ := sends
  intro other member
  rw [List.mem_singleton.mp member]
  exact ⟨_, _, carries, kind⟩

/-- A SYN makes a session send nothing but what comes before data. -/
theorem reaction_beforeData (reaction : Server.Reaction session exchange calls after)
    (first : exchange.header.seq = 0) (acknowledged : session.state = .sackSent → session.ack ≠ 0)
    (waiting : session.state ≠ .establsh) :
    (∀ datagram ∈ sentBy calls, BeforeData datagram) ∧
      ∀ next, after = some next → next.state ≠ .establsh := by
  have late : Server.Heard session exchange.header → Server.Streaming session → False := by
    rintro heard (state | state)
    · exact not_accepted_of_ack first (acknowledged state) heard.1
    · exact waiting state
  cases reaction with
  | dropped => exact ⟨fun _ member => (List.not_mem_nil member).elim, by rintro _ ⟨⟩; exact waiting⟩
  | forgotten => exact ⟨fun _ member => (List.not_mem_nil member).elim, by rintro _ ⟨⟩⟩
  | reset heard state syn sends =>
      refine ⟨beforeData_of_sends sends (.inr (by decide)), ?_⟩
      rintro _ ⟨⟩ established
      exact waiting established
  | refused heard state syn unfit sends before =>
      refine ⟨?_, by rintro _ ⟨⟩⟩
      rw [sentBy_append, before, List.nil_append]
      exact beforeData_of_sends sends (.inr (by decide))
  | opened heard state syn codec offered sends =>
      refine ⟨?_, by rintro _ ⟨⟩ ⟨⟩⟩
      rw [sentBy_open, sentBy_read]
      exact beforeData_of_sends sends (.inl rfl)
  | silent heard streaming => exact (late heard streaming).elim
  | chunk heard streaming => exact (late heard streaming).elim
  | ended heard streaming => exact (late heard streaming).elim
  | failed heard streaming => exact (late heard streaming).elim

end

/-! ## Runs -/

/-- An ACK of the client is one of the packets it sends. -/
theorem fromClient_of_isAck {ack : UInt32} {datagram : List UInt8}
    (isAck : Client.IsAck ack datagram) : FromClient datagram := by
  obtain ⟨header, carries, flags, _⟩ := isAck
  exact ⟨header, [], carries, .inr flags⟩

section

variable {sink : Client.Sink} {addr : SockaddrIn6} {start : Client.Config}
  {pair next : Pair} {event : PairEvent} {events : List PairEvent}

/-- The pair is handshaking when its client has sent the SYN. -/
theorem handshaking_start {name : List UInt8} {memory : Chunk} {env : Env}
    (begun : Client.receive name memory env = .ok start) : Handshaking (Pair.start start) := by
  obtain ⟨_, datagram, _, header, payload, _, _, calls, carries, flags, first, _⟩ :=
    Client.receive_spec begun
  have syn : ∀ other ∈ (Pair.start start).toServer.sent, other = datagram := by
    intro other member
    change other ∈ sentBy start.world.kernel.calls at member
    rw [calls] at member
    exact List.mem_singleton.mp member
  refine ⟨⟨Client.underway_start begun, by rintro _ ⟨⟩⟩, ?_, by rintro _ ⟨⟩, fun _ =>
    ⟨?_, fun _ member => (List.not_mem_nil member).elim, by rintro _ ⟨⟩⟩⟩
  · intro other member
    rw [syn other member]
    exact ⟨header, payload, carries, .inl ⟨flags, first⟩⟩
  · intro other member
    rw [syn other member, isAck, carries.headerOf_eq, flags]
    decide

/-- A new session has answered nothing. -/
theorem Handshaking.current (handshaking : Handshaking pair) (memory : Server.Uninitialized) :
    (pair.current addr memory).state = .sackSent → (pair.current addr memory).ack ≠ 0 := by
  unfold Pair.current
  cases live : pair.session with
  | none => rintro ⟨⟩
  | some session => exact handshaking.acknowledged session live

/-- A session that streams when a packet arrives was there before. -/
theorem current_of_streaming {memory : Server.Uninitialized}
    (streaming : Server.Streaming (pair.current addr memory)) :
    pair.session = some (pair.current addr memory) := by
  unfold Pair.current at streaming ⊢
  cases live : pair.session with
  | none =>
      rw [live] at streaming
      exact (Server.not_streaming_of_initial rfl streaming).elim
  | some session => rfl

/-- Before the configuration, the session that handles a packet is not established. -/
theorem Opening.current (opening : Opening pair) (memory : Server.Uninitialized) :
    (pair.current addr memory).state ≠ .establsh := by
  unfold Pair.current
  cases live : pair.session with
  | none => rintro ⟨⟩
  | some session => exact opening.waiting session live

/-- What an iteration of the client sends are packets of the client. -/
theorem clientTurn_said {clientEvent : Client.ClientEvent} {client : Client.Config}
    (stepped : Client.ClientStep sink pair.client clientEvent client) (formed : Formed pair) :
    ∀ datagram ∈ sentBy clientEvent.calls, FromClient datagram := by
  intro datagram member
  rcases stepped.hears_or formed.1.formed with ⟨_, _, heeds⟩ | ⟨_, _, quiet, _⟩
  · obtain ⟨calls, called, _, acks⟩ := heeds.acks.calls
    have same : clientEvent.calls = calls := heeds.calls.symm.trans called
    rw [same] at member
    exact fromClient_of_isAck (acks datagram member)
  · rw [quiet] at member
    exact (List.not_mem_nil member).elim

/-- An iteration of the client keeps the handshake. -/
theorem Handshaking.client {clientEvent : Client.ClientEvent} {client : Client.Config}
    (handshaking : Handshaking pair) (stepped : Client.ClientStep sink pair.client clientEvent client) :
    Handshaking (pair.clientTurn clientEvent client) := by
  have formed := handshaking.formed
  refine ⟨⟨formed.1.step stepped, formed.2⟩, ?_, handshaking.acknowledged, ?_⟩
  · intro datagram member
    rcases List.mem_append.mp member with before | more
    · exact handshaking.said datagram before
    · exact clientTurn_said stepped formed datagram more
  · intro waiting
    have waiting : client.world.session.state = .synSent := waiting
    rcases stepped.hears_or formed.1.formed with ⟨_, _, heeds⟩ | ⟨_, _, quiet, state⟩
    · exact absurd (waiting.symm.trans heeds.established) (by decide)
    · have opening := handshaking.opening (by
        rcases state with same | finished
        · rw [← same, waiting]
        · exact absurd (waiting.symm.trans finished) (by decide))
      refine ⟨?_, opening.answered, opening.waiting⟩
      intro datagram member
      change datagram ∈ pair.toServer.sent ++ sentBy clientEvent.calls at member
      rw [quiet, sentBy_nil, List.append_nil] at member
      exact opening.asked datagram member

/-- A packet at the server keeps the handshake. -/
theorem Handshaking.server {datagram : List UInt8} {exchange : Server.Exchange}
    {memory : Server.Uninitialized} {calls : List Syscall} {session : Option Server.Session}
    (handshaking : Handshaking pair) (receives : Receives exchange datagram)
    (arrives : datagram ∈ pair.toServer.sent)
    (stepped : Server.SessionStep (some (pair.current addr memory)) (.packet exchange calls) session) :
    Handshaking (pair.serverTurn calls session) := by
  have formed := handshaking.formed
  have reaction := formed.reaction stepped
  obtain ⟨header, payload, carries, kind⟩ := handshaking.said datagram arrives
  have same := receives.header_eq carries
  rw [← same] at kind
  refine ⟨formed.server stepped, handshaking.said,
    reaction_acknowledged reaction kind (handshaking.current memory), fun waiting => ?_⟩
  have opening := handshaking.opening waiting
  have first : exchange.header.seq = 0 := by
    rcases kind with ⟨_, first⟩ | flags
    · exact first
    · have ack := opening.asked datagram arrives
      rw [isAck, carries.headerOf_eq, ← same, flags] at ack
      exact absurd ack (by decide)
  obtain ⟨answers, waits⟩ := reaction_beforeData reaction first (handshaking.current memory)
    (opening.current memory)
  refine ⟨opening.asked, ?_, waits⟩
  intro other member
  rcases List.mem_append.mp member with before | more
  · exact opening.answered other before
  · exact answers other more

/-- Every event keeps the handshake. -/
theorem Handshaking.step (handshaking : Handshaking pair)
    (step : PairStep anyOrder sink addr pair event next) : Handshaking next := by
  cases step with
  | client stepped arrives => exact handshaking.client stepped
  | server receives arrives stepped => exact handshaking.server receives arrives stepped
  | @marked session _ _ live =>
      have kept := handshaking.acknowledged session live
      refine ⟨handshaking.formed.step (@PairStep.marked anyOrder sink addr _ _ _ _ live),
        handshaking.said, ?_, fun waiting => ?_⟩
      · rintro _ ⟨⟩
        exact kept
      · have opening := handshaking.opening waiting
        have waits := opening.waiting session live
        refine ⟨opening.asked, opening.answered, ?_⟩
        rintro _ ⟨⟩
        exact waits
  | expired =>
      refine ⟨⟨handshaking.formed.1, by rintro _ ⟨⟩⟩, handshaking.said, by rintro _ ⟨⟩,
        fun waiting => ?_⟩
      have opening := handshaking.opening waiting
      exact ⟨opening.asked, opening.answered, by rintro _ ⟨⟩⟩

/-- A pair is handshaking in every run. -/
theorem PairRun.handshaking {name : List UInt8} {memory : Chunk} {env : Env}
    (begun : Client.receive name memory env = .ok start)
    (run : PairRun anyOrder sink addr start events pair) : Handshaking pair :=
  run.invariant Handshaking (handshaking_start begun) fun _ _ _ handshaking step =>
    handshaking.step step

/-! ## Safety -/

end

end Sas.System
