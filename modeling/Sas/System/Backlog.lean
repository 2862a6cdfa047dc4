import Sas.System.Fifo
import Sas.Server.Answer

/-! # The backlog of chunks

Over lossless channels every packet that is not a reset is pushed when it arrives. So the chunks that
have been sent and not pushed are those on their way, and how many these are is decided by the
packets the client sends: one data packet answers each of them, whatever window it announces.
-/

namespace Sas.System

open Foundation Transport

/-! ## What the server sends its client -/

/-- The datagrams that have arrived, on a channel that keeps their order. -/
def Channel.delivered (channel : Channel) : List (List UInt8) := channel.sent.take channel.arrived

/-- What has been sent has been delivered or is in flight. -/
theorem Channel.delivered_append (channel : Channel) :
    channel.delivered ++ channel.inFlight = channel.sent :=
  List.take_append_drop channel.arrived channel.sent

/-- Sending delivers nothing. -/
theorem Channel.delivered_send {channel : Channel} (bounded : channel.Bounded)
    (datagrams : List (List UInt8)) : (channel.send datagrams).delivered = channel.delivered :=
  List.take_append_of_le_length bounded

/-- The datagram that arrives is delivered behind the others. -/
theorem Channel.delivered_deliver {channel : Channel} {datagram : List UInt8}
    (arrives : inOrder channel.sent channel.arrived datagram) :
    (channel.deliver 1).delivered = channel.delivered ++ [datagram] := by
  obtain ⟨below, same⟩ := List.getElem?_eq_some_iff.mp arrives
  unfold Channel.delivered Channel.deliver
  rw [List.take_succ_eq_append_getElem below, same]

/-- What the server has sent follows a script: nothing, a reset that refuses the SYN, or the SYN-ACK
and what comes after it. -/
inductive Script (pair : Pair) : Prop where
  | asked : pair.toClient.sent = [] → pair.session = none → Script pair
  | refused {datagram : List UInt8} : pair.toServer.inFlight = [] →
      pair.toClient.sent = [datagram] → isRst datagram = true → pair.session = none → Script pair
  | answered {synAck : List UInt8} {later : List (List UInt8)} {session : Server.Session} :
      pair.toClient.sent = synAck :: later → isSyn synAck = true → isRst synAck = false →
      (∀ datagram ∈ later, isSyn datagram = false) → pair.session = some session →
      Server.Streaming session → Script pair

/-- The first datagram the client has sent is its SYN. -/
def Asks (pair : Pair) : Prop := ∃ syn later, pair.toServer.sent = syn :: later ∧ isSyn syn = true

section

variable {session : Server.Session} {exchange : Server.Exchange} {calls : List Syscall}
  {after : Option Server.Session}

/-- What a session sends with these flags is one packet with them. -/
theorem sentBy_of_sends {flags : UInt8} {payload : List UInt8} {call : Syscall}
    (sends : Server.Sends session flags payload call) :
    ∃ datagram, sentBy [call] = [datagram] ∧
      isSyn datagram = packetFlagIsset flags packetFlagSyn ∧
      isRst datagram = packetFlagIsset flags packetFlagRst := by
  obtain ⟨datagram, failure, rfl, carries⟩ := sends
  refine ⟨datagram, rfl, ?_, ?_⟩
  · rw [isSyn, carries.headerOf_eq]
    rfl
  · rw [isRst, carries.headerOf_eq]
    rfl

/-- A new session answers the SYN with a SYN-ACK and lives on, or refuses it with a reset. -/
theorem reaction_answers (reaction : Server.Reaction session exchange calls after)
    (initial : session.state = .initial) (heard : Server.Heard session exchange.header)
    (syn : packetFlagIsset exchange.header.flags packetFlagSyn = true) :
    (∃ datagram, sentBy calls = [datagram] ∧ isRst datagram = true ∧ after = none) ∨
      ∃ datagram next, sentBy calls = [datagram] ∧ isSyn datagram = true ∧
        isRst datagram = false ∧ after = some next ∧ Server.Streaming next := by
  have streams : ¬ Server.Streaming session := by
    rintro (state | state)
    · exact absurd (initial.symm.trans state) (by decide)
    · exact absurd (initial.symm.trans state) (by decide)
  cases reaction with
  | dropped behind => exact (behind heard.1).elim
  | forgotten _ reset => exact absurd (heard.2.symm.trans reset) (by decide)
  | reset _ _ other => exact absurd (other.symm.trans syn) (by decide)
  | refused _ _ _ unfit sends before =>
      obtain ⟨datagram, sent, _, reset⟩ := sentBy_of_sends sends
      rw [sentBy_append, before, sent]
      exact .inl ⟨datagram, rfl, reset.trans (by decide), rfl⟩
  | opened _ _ _ codec offered sends =>
      obtain ⟨datagram, sent, answer, reset⟩ := sentBy_of_sends sends
      rw [sentBy_open, sentBy_read, sent]
      exact .inr ⟨datagram, _, rfl, answer.trans (by decide), reset.trans (by decide), rfl, .inl rfl⟩
  | silent _ streaming => exact (streams streaming).elim
  | chunk _ streaming => exact (streams streaming).elim
  | ended _ streaming => exact (streams streaming).elim
  | failed _ streaming => exact (streams streaming).elim

/-- A session past its handshake goes on, and sends no second SYN-ACK. -/
theorem reaction_goes_on (reaction : Server.Reaction session exchange calls after)
    (streaming : Server.Streaming session)
    (kind : packetFlagIsset exchange.header.flags packetFlagRst = false) :
    (∀ datagram ∈ sentBy calls, isSyn datagram = false) ∧
      ∃ next, after = some next ∧ Server.Streaming next := by
  have past : session.state ≠ .initial := by
    rcases streaming with state | state <;> rw [state] <;> decide
  have single : ∀ {flags payload call},
      Server.Sends (Server.acked session exchange.header) flags payload call →
      packetFlagIsset flags packetFlagSyn = false →
      ∀ datagram ∈ sentBy [call], isSyn datagram = false := by
    intro flags payload call sends other datagram member
    rw [isSyn, flags_of_sends sends datagram member, other]
  cases reaction with
  | dropped => exact ⟨fun _ member => (List.not_mem_nil member).elim, _, rfl, streaming⟩
  | forgotten _ reset => exact absurd (kind.symm.trans reset) (by decide)
  | reset _ state => exact (past state).elim
  | refused _ state => exact (past state).elim
  | opened _ state => exact (past state).elim
  | silent => exact ⟨fun _ member => (List.not_mem_nil member).elim, _, rfl, .inr rfl⟩
  | chunk heard streaming pipeline opened read some small sends =>
      exact ⟨single sends (by decide), _, rfl, .inr rfl⟩
  | ended heard streaming pipeline opened read sends =>
      exact ⟨single sends (by decide), _, rfl, .inr rfl⟩
  | failed heard streaming pipeline opened read sends =>
      exact ⟨single sends (by decide), _, rfl, .inr rfl⟩

end

section

variable {sink : Client.Sink} {addr : SockaddrIn6} {start : Client.Config}
  {pair next : Pair} {event : PairEvent} {events : List PairEvent}

/-- A packet at the server keeps the script. -/
theorem Script.serverTurn {exchange : Server.Exchange} {datagram : List UInt8}
    {memory : Server.Uninitialized} {calls : List Syscall} {after : Option Server.Session}
    (script : Script pair) (agreement : Agreement pair) (asks : Asks pair)
    (receives : Receives exchange datagram)
    (arrives : inOrder pair.toServer.sent pair.toServer.arrived datagram)
    (stepped : Server.SessionStep (some (pair.current addr memory)) (.packet exchange calls) after) :
    Script (pair.serverTurn calls after) := by
  have reaction := agreement.formed.reaction stepped
  obtain ⟨same, expected, _⟩ := agreement.server_expects receives arrives
  have kind : packetFlagIsset exchange.header.flags packetFlagRst = false := by
    rw [same]
    exact (agreement.said datagram (List.mem_of_getElem? arrives)).no_rst
  cases script with
  | asked silent none =>
      obtain ⟨syn, later, first, isSyn⟩ := asks
      have quiet : ∀ datagram ∈ pair.toClient.sent, isRst datagram = true := by
        rw [silent]
        exact fun _ member => (List.not_mem_nil member).elim
      have single : pair.toServer.sent.length = 1 := by
        rcases agreement.silence with one | ⟨other, member, loud⟩
        · exact one
        · rw [quiet other member] at loud
          cases loud
      obtain ⟨below, at_⟩ := List.getElem?_eq_some_iff.mp arrives
      have zero : pair.toServer.arrived = 0 := by omega
      have isFirst : syn = datagram := by
        rw [inOrder, zero, first] at arrives
        exact Option.some.inj arrives
      have flags : packetFlagIsset exchange.header.flags packetFlagSyn = true := by
        rw [same, ← isFirst]
        exact isSyn
      have accepted : Accepted exchange.header (pair.current addr memory).ack := by
        rw [current_ack]
        exact accepted_of_seq expected
      have initial : (pair.current addr memory).state = .initial := by
        rw [Pair.current, none]
        rfl
      rcases reaction_answers reaction initial ⟨accepted, kind⟩ flags with
        ⟨answer, sent, reset, gone⟩ | ⟨answer, session, sent, synAck, other, lives, streaming⟩
      · refine .refused (agreement.nothing_left quiet) ?_ reset gone
        change pair.toClient.sent ++ sentBy calls = [answer]
        rw [silent, sent]
        rfl
      · refine @Script.answered _ answer [] session ?_ synAck other
          (fun _ member => (List.not_mem_nil member).elim) lives streaming
        change pair.toClient.sent ++ sentBy calls = [answer]
        rw [silent, sent]
        rfl
  | refused nothing =>
      have flight := Channel.inFlight_cons arrives
      rw [nothing] at flight
      cases flight
  | @answered synAck later session sent syn other rest live streaming =>
      have current : pair.current addr memory = session := by
        rw [Pair.current, live]
        rfl
      rw [current] at reaction
      obtain ⟨more, next, lives, streams⟩ := reaction_goes_on reaction streaming kind
      refine @Script.answered _ synAck (later ++ sentBy calls) next ?_ syn other ?_ lives streams
      · change pair.toClient.sent ++ sentBy calls = _
        rw [sent]
        rfl
      · intro datagram member
        rcases List.mem_append.mp member with before | after
        · exact rest datagram before
        · exact more datagram after

/-- The invariant of the backlog: the client has pushed every packet it has received, but for the
resets. -/
structure Backlog (pair : Pair) : Prop where
  agreement : Agreement pair
  asks : Asks pair
  script : Script pair
  pushed : pair.client.world.pushed.length =
    pair.toClient.delivered.countP fun datagram => !isRst datagram
  waiting : pair.toClient.delivered = [] → pair.client.world.session.state = .synSent
  running : pair.client.stage = .select → pair.client.world.session.state ≠ .finished

/-- At the start nothing has been streamed. -/
theorem backlog_start {name : List UInt8} {memory : Chunk} {env : Env}
    (begun : Client.receive name memory env = .ok start) : Backlog (Pair.start start) := by
  obtain ⟨seq, datagram, failure, header, payload, session, pushed, calls, carries, flags, _⟩ :=
    Client.receive_spec begun
  have asks : start.world.session.state = .synSent := by
    rw [session]
    rfl
  refine ⟨agreement_start begun, ⟨datagram, [], ?_, ?_⟩, .asked rfl rfl, ?_, fun _ => asks, ?_⟩
  · change sentBy start.world.kernel.calls = _
    rw [calls]
    rfl
  · rw [isSyn, carries.headerOf_eq, flags]
    decide
  · change start.world.pushed.length = 0
    rw [pushed]
    rfl
  · intro _ finished
    exact absurd (asks.symm.trans finished) (by decide)

/-- A client that is not pushed to by a datagram has been sent a reset. -/
theorem Backlog.isRst_of_deaf {clientEvent : Client.ClientEvent} {client : Client.Config}
    (backlog : Backlog pair) (stepped : Client.ClientStep sink pair.client clientEvent client)
    {datagram : List UInt8} (received : clientEvent.input.datagram? = some datagram)
    (arrives : inOrder pair.toClient.sent pair.toClient.arrived datagram)
    (deaf : ¬ Client.Hears pair.client clientEvent.input) : isRst datagram = true := by
  obtain ⟨same, expected⟩ := backlog.agreement.client_expects clientEvent.input arrives
  by_contra loud
  refine deaf ⟨datagram, received, ⟨?_, ?_⟩, ?_⟩
  · rw [same]
    exact accepted_of_seq expected
  · rw [same]
    exact Bool.not_eq_true _ ▸ loud
  · rcases backlog.agreement.formed.1.phase with state | state | state
    · exact .inl state
    · exact .inr state
    · exact (backlog.running stepped.1 state).elim

/-- An iteration of the client that receives a datagram keeps the invariant. -/
theorem Backlog.clientTurn {clientEvent : Client.ClientEvent} {client : Client.Config}
    (backlog : Backlog pair) (stepped : Client.ClientStep sink pair.client clientEvent client)
    (arrives : ∀ datagram, clientEvent.input.datagram? = some datagram →
      inOrder pair.toClient.sent pair.toClient.arrived datagram)
    (receives : clientEvent.input.datagram?.isSome) :
    Backlog (pair.clientTurn clientEvent client) := by
  obtain ⟨datagram, received⟩ := Option.isSome_iff_exists.mp receives
  have arrives' := arrives datagram received
  have formed := backlog.agreement.formed.1.formed
  have one : takenBy clientEvent.input = 1 := by
    rw [takenBy, received]
    rfl
  have delivered : (pair.clientTurn clientEvent client).toClient.delivered =
      pair.toClient.delivered ++ [datagram] := by
    rw [Pair.clientTurn, one]
    exact Channel.delivered_deliver arrives'
  refine ⟨backlog.agreement.clientTurn stepped arrives, ?_, ?_, ?_, ?_, stepped.running formed⟩
  · obtain ⟨syn, later, first, isSyn⟩ := backlog.asks
    refine ⟨syn, later ++ sentBy clientEvent.calls, ?_, isSyn⟩
    change pair.toServer.sent ++ sentBy clientEvent.calls = _
    rw [first]
    rfl
  · cases backlog.script with
    | asked silent none => exact .asked silent none
    | refused nothing one reset none =>
        refine .refused ?_ one reset none
        change (pair.toServer.send (sentBy clientEvent.calls)).inFlight = []
        rw [Channel.inFlight_send backlog.agreement.served, nothing, List.nil_append]
        rcases backlog.agreement.client_silent stepped arrives with quiet | ⟨other, member, loud⟩
        · rw [quiet]
          rfl
        · rw [one, List.mem_singleton] at member
          rw [member, reset] at loud
          cases loud
    | answered sent syn other rest live streaming => exact .answered sent syn other rest live streaming
  · rw [delivered, List.countP_append, List.countP_singleton]
    change client.world.pushed.length = _
    rcases stepped.hears_or formed with ⟨heard, chunk, heeds⟩ | ⟨deaf, same, _⟩
    · cases received.symm.trans heeds.received
      have loud := heeds.takes.1.2
      rw [(backlog.agreement.client_expects clientEvent.input arrives').1] at loud
      rw [heeds.pushed, List.length_append, backlog.pushed, isRst, loud]
      rfl
    · rw [same, backlog.pushed, backlog.isRst_of_deaf stepped received arrives' deaf]
      rfl
  · rw [delivered]
    intro nothing
    exact (List.append_ne_nil_of_right_ne_nil _ (List.cons_ne_nil _ _) nothing).elim

/-- Every event over lossless channels keeps the invariant. -/
theorem Backlog.step (backlog : Backlog pair) (step : LosslessStep sink addr pair event next) :
    Backlog next := by
  have agreement := backlog.agreement.step step
  obtain ⟨step, lossless⟩ := step
  cases step with
  | client stepped arrives => exact backlog.clientTurn stepped arrives lossless.1
  | server receives arrives stepped =>
      have delivered := Channel.delivered_send backlog.agreement.taken
      refine ⟨agreement, backlog.asks,
        backlog.script.serverTurn backlog.agreement backlog.asks receives arrives stepped, ?_, ?_,
        backlog.running⟩
      · change pair.client.world.pushed.length = (pair.toClient.send _).delivered.countP _
        rw [delivered]
        exact backlog.pushed
      · change (pair.toClient.send _).delivered = [] → _
        rw [delivered]
        exact backlog.waiting
  | marked live =>
      refine ⟨agreement, backlog.asks, ?_, backlog.pushed, backlog.waiting, backlog.running⟩
      cases backlog.script with
      | asked silent none =>
          rw [none] at live
          cases live
      | refused nothing one reset none =>
          rw [none] at live
          cases live
      | answered sent syn other rest live' streaming =>
          cases live.symm.trans live'
          exact .answered sent syn other rest rfl streaming
  | expired => exact lossless.elim

/-- The invariant holds in every run over lossless channels. -/
theorem LosslessRun.backlog {name : List UInt8} {memory : Chunk} {env : Env}
    (begun : Client.receive name memory env = .ok start)
    (run : LosslessRun sink addr start events pair) : Backlog pair :=
  run.invariant Backlog (backlog_start begun) fun _ _ _ backlog step => backlog.step step

end

/-! ## End-to-end demand -/

/-- The number of data chunks the server has sent. -/
def Pair.chunksSent (pair : Pair) : Nat := pair.toClient.sent.countP isData

/-- The number of data chunks the client has pushed to its sink: all but the configuration. -/
def Pair.chunksPushed (pair : Pair) : Nat := pair.client.world.pushed.length - 1

/-- The outstanding demand of the sink, which asks for nothing before it is connected. -/
def Pair.demand (sink : Client.Sink) (pair : Pair) : Int :=
  if pair.client.world.pushed = [] then 0
  else Client.pulledBy (Client.sinkCalls sink pair.client.world.pushed) -
    pair.client.world.pushed.length

/-- The chunks that have been sent and not pushed are no more than the sink has asked for. -/
def WithinDemand (sink : Client.Sink) (pair : Pair) : Prop :=
  (pair.chunksSent : Int) - pair.chunksPushed ≤ pair.demand sink

instance (sink : Client.Sink) (pair : Pair) : Decidable (WithinDemand sink pair) :=
  inferInstanceAs (Decidable (_ ≤ _))

/-- No packet elicits a chunk at the server while one is on its way to the client. -/
def Spaced (addr : SockaddrIn6) (pair : Pair) : PairEvent → Prop
  | .server _ exchange memory _ => Server.Elicits (pair.current addr memory) exchange →
      ∀ datagram ∈ pair.toClient.inFlight, isData datagram = false
  | _ => True

section

variable {sink : Client.Sink} {addr : SockaddrIn6} {start : Client.Config}
  {pair next : Pair} {event : PairEvent} {events : List PairEvent}

/-- Among packets without SYN, the data packets are those that are not resets. -/
theorem countP_isData {datagrams : List (List UInt8)}
    (others : ∀ datagram ∈ datagrams, isSyn datagram = false) :
    datagrams.countP isData = datagrams.countP fun datagram => !isRst datagram := by
  refine List.countP_congr fun datagram member => ?_
  have syn : packetFlagIsset (headerOf datagram).flags packetFlagSyn = false := others datagram member
  rw [isData, syn, Bool.not_false, Bool.true_and]
  rfl

/-- A reset carries no data. -/
theorem isData_of_isRst {datagram : List UInt8} (reset : isRst datagram = true) :
    isData datagram = false := by
  have rst : packetFlagIsset (headerOf datagram).flags packetFlagRst = true := reset
  rw [isData, rst, Bool.not_true, Bool.and_false]

/-- A SYN carries no data. -/
theorem isData_of_isSyn {datagram : List UInt8} (syn : isSyn datagram = true) :
    isData datagram = false := by
  have flag : packetFlagIsset (headerOf datagram).flags packetFlagSyn = true := syn
  rw [isData, flag, Bool.not_true, Bool.false_and]

/-- The data packets that have arrived are the chunks that have been pushed. -/
theorem Backlog.delivered_eq (backlog : Backlog pair) :
    pair.toClient.delivered.countP isData = pair.chunksPushed := by
  have whole := pair.toClient.delivered_append
  rw [Pair.chunksPushed, backlog.pushed]
  cases arrived : pair.toClient.delivered with
  | nil => rfl
  | cons first more =>
      rw [arrived] at whole
      cases backlog.script with
      | asked silent =>
          rw [silent] at whole
          cases whole
      | refused nothing one reset =>
          rw [one] at whole
          obtain ⟨rfl, rest⟩ := List.cons.inj whole
          rw [(List.append_eq_nil_iff.mp rest).1, List.countP_singleton, List.countP_singleton,
            isData_of_isRst reset, reset]
          rfl
      | answered sent syn other rest =>
          rw [sent] at whole
          obtain ⟨rfl, tail⟩ := List.cons.inj whole
          have plain : ∀ datagram ∈ more, isSyn datagram = false := fun datagram member =>
            rest datagram (by rw [← tail]; exact List.mem_append_left _ member)
          rw [List.countP_cons_of_neg (by rw [isData_of_isSyn syn]; decide),
            List.countP_cons_of_pos (by rw [other]; rfl), countP_isData plain]
          rfl

/-- The chunks that have been sent and not pushed are on their way. -/
theorem Backlog.chunksSent_eq (backlog : Backlog pair) :
    pair.chunksSent = pair.chunksPushed + pair.toClient.inFlight.countP isData := by
  rw [Pair.chunksSent, ← pair.toClient.delivered_append, List.countP_append, backlog.delivered_eq]

/-- As long as nothing has been pushed, no chunk has been sent. -/
theorem Backlog.chunksSent_eq_zero (backlog : Backlog pair) (handshaking : Handshaking pair)
    (nothing : pair.client.world.pushed = []) : pair.chunksSent = 0 := by
  refine List.countP_eq_zero.mpr fun datagram member => ?_
  cases arrived : pair.toClient.delivered with
  | nil =>
      obtain ⟨header, payload, carries, kind⟩ :=
        (handshaking.opening (backlog.waiting arrived)).answered datagram member
      rw [isData, carries.headerOf_eq]
      rcases kind with flags | reset
      · rw [flags]
        decide
      · rw [reset, Bool.not_true, Bool.and_false]
        decide
  | cons first more =>
      have whole := pair.toClient.delivered_append
      have pushed := backlog.pushed
      rw [arrived] at whole pushed
      rw [nothing] at pushed
      cases backlog.script with
      | asked silent =>
          rw [silent] at whole
          cases whole
      | refused _ one reset =>
          rw [one, List.mem_singleton] at member
          rw [member, isData_of_isRst reset]
          decide
      | answered sent syn other rest =>
          rw [sent] at whole
          obtain ⟨rfl, _⟩ := List.cons.inj whole
          rw [List.countP_cons_of_pos (by rw [other]; rfl)] at pushed
          cases pushed

/-- The ignore driver waits for one element as soon as it is connected. -/
theorem demand_driversIgnore (some : pair.client.world.pushed ≠ []) :
    pair.demand Client.driversIgnore = 1 := by
  rw [Pair.demand, if_neg some, Client.driversIgnore_pulled]
  omega

/-- For the ignore driver, the demand is kept to while at most one chunk is on its way. -/
theorem Backlog.withinDemand_iff (backlog : Backlog pair) (handshaking : Handshaking pair) :
    WithinDemand Client.driversIgnore pair ↔ pair.toClient.inFlight.countP isData ≤ 1 := by
  have split := backlog.chunksSent_eq
  by_cases nothing : pair.client.world.pushed = []
  · have none := backlog.chunksSent_eq_zero handshaking nothing
    have demand : pair.demand Client.driversIgnore = 0 := by rw [Pair.demand, if_pos nothing]
    rw [WithinDemand, demand]
    omega
  · rw [WithinDemand, demand_driversIgnore nothing]
    omega

/-- An event keeps to the demand exactly if it is spaced. -/
theorem Backlog.withinDemand_step (backlog : Backlog pair)
    (within : pair.toClient.inFlight.countP isData ≤ 1)
    (step : LosslessStep sink addr pair event next) :
    next.toClient.inFlight.countP isData ≤ 1 ↔ Spaced addr pair event := by
  obtain ⟨step, lossless⟩ := step
  cases step with
  | @client clientEvent client stepped arrives =>
      obtain ⟨datagram, received⟩ := Option.isSome_iff_exists.mp lossless.1
      refine iff_of_true ?_ trivial
      have flight := Channel.inFlight_cons (arrives datagram received)
      rw [flight, List.countP_cons] at within
      rw [Pair.clientTurn, takenBy, received]
      exact Nat.le_of_add_right_le within
  | @server datagram exchange memory calls after receives arrives stepped =>
      have reaction := backlog.agreement.formed.reaction stepped
      change (pair.toClient.send (sentBy calls)).inFlight.countP isData ≤ 1 ↔ (_ → _)
      rw [Channel.inFlight_send backlog.agreement.taken, List.countP_append]
      have clear : pair.toClient.inFlight.countP isData = 0 ↔
          ∀ datagram ∈ pair.toClient.inFlight, isData datagram = false := by
        rw [List.countP_eq_zero]
        exact forall₂_congr fun datagram _ => Bool.not_eq_true _ ▸ Iff.rfl
      rcases reaction.chunks_eq with ⟨elicits, one⟩ | ⟨silent, none⟩
      · rw [one, ← clear]
        exact ⟨fun bound _ => by omega, fun spaced => by have := spaced elicits; omega⟩
      · rw [none]
        exact iff_of_true within fun elicits => (silent elicits).elim
  | marked live => exact iff_of_true within trivial
  | expired => exact lossless.elim

/-- **When the chunks in flight stay within the demand.** For a sink that pulls one element on
connection and one for every push, over lossless channels, the chunks that have been sent and not
pushed never exceed the demand, if and only if no packet elicits a chunk at the server while one is
on its way. -/
theorem chunks_within_demand_iff {name : List UInt8} {memory : Chunk} {env : Env}
    (begun : Client.receive name memory env = .ok start)
    (run : LosslessRun Client.driversIgnore addr start events pair) :
    Run.Always (LosslessStep Client.driversIgnore addr) (Pair.start start) events
        (WithinDemand Client.driversIgnore) ↔
      Run (fun pair event next => LosslessStep Client.driversIgnore addr pair event next ∧
        Spaced addr pair event) (Pair.start start) events pair := by
  have handshaking : ∀ {events pair},
      LosslessRun Client.driversIgnore addr start events pair → Handshaking pair :=
    fun run => PairRun.handshaking begun (run.mono fun _ _ _ step => step.1.anyOrder)
  have equiv : ∀ {events pair}, LosslessRun Client.driversIgnore addr start events pair →
      (WithinDemand Client.driversIgnore pair ↔ pair.toClient.inFlight.countP isData ≤ 1) :=
    fun run => (LosslessRun.backlog begun run).withinDemand_iff (handshaking run)
  refine run.always_iff
    (fun _ _ _ _ step step' => pairStep_functional _ _ _ _ step.1 step'.1) ?_ ?_
  · exact (equiv .nil).mpr (Nat.zero_le 1)
  · intro events pair event next before within step
    rw [equiv (before.snoc step)]
    exact (LosslessRun.backlog begun before).withinDemand_step ((equiv before).mp within) step

end

/-- No data packet is on its way to the client. -/
def clear (pair : Pair) (event : PairEvent) : Bool :=
  Lossless event && pair.toClient.inFlight.all fun datagram => !isData datagram

/-- The turns up to the first chunk of the song. -/
def songTurns : List Turn :=
  [.server 0 (Server.songEnv fun _ => .data Server.songHeader), .client 0 Client.calmEnv,
    .server 1 (Server.songEnv fun _ => .data [7, 8, 9])]

/-- The first chunk of the song is within the demand. -/
theorem chunks_within_demand_song :
    Run.Always (LosslessStep Client.driversIgnore Server.listener) (Pair.start Client.songStart)
      ((Pair.start Client.songStart).replay inOrder Client.driversIgnore Server.listener songTurns).1
      (WithinDemand Client.driversIgnore) := by
  have sound : ∀ pair event, clear pair event = true →
      Lossless event ∧ Spaced Server.listener pair event := by
    intro pair event checked
    obtain ⟨lossless, silent⟩ := Bool.and_eq_true_iff.mp checked
    refine ⟨of_decide_eq_true lossless, ?_⟩
    cases event with
    | server datagram exchange memory calls =>
        intro _ other member
        have plain := List.all_eq_true.mp silent other member
        rwa [Bool.not_eq_true'] at plain
    | client => trivial
    | marked => trivial
    | expired => trivial
  have run := @Pair.replay_checked inOrder _ Client.driversIgnore Server.listener clear _ sound
    (Pair.start Client.songStart) songTurns (by decide +kernel)
  exact (chunks_within_demand_iff Client.songStart_begun
    (run.mono fun _ _ _ step => ⟨step.1, step.2.1⟩)).mpr
    (run.mono fun _ _ _ step => ⟨⟨step.1, step.2.1⟩, step.2.2⟩)

/-- Two ACKs elicit two chunks, while the sink waits for one. -/
theorem chunks_not_within_demand :
    ¬ ∀ (addr : SockaddrIn6) (name : List UInt8) (memory : Chunk) (env : Env)
      (start : Client.Config) (events : List PairEvent) (pair : Pair),
      Client.receive name memory env = .ok start →
      LosslessRun Client.driversIgnore addr start events pair →
        WithinDemand Client.driversIgnore pair := by
  intro within
  have run := losslessRun_of_forall (@Pair.replay_run inOrder _ Client.driversIgnore
    Server.listener (Pair.start Client.songStart)
    (songTurns ++ [.server 2 (Server.songEnv fun _ => .data [10])])) (by decide +kernel)
  exact absurd (within _ _ _ _ _ _ _ Client.songStart_begun run) (by decide +kernel)

end Sas.System
