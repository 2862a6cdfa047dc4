import Sas.System.Integrity

/-! # The course of a request

Over lossless channels the server refuses the SYN, or it answers with a SYN-ACK, data, and one packet
that ends the stream, behind which it is silent. Each party answers every packet that ends nothing,
whatever window it announces, so until then something is on its way. Only an error packet whose code
is zero leaves the client waiting.
-/

namespace Sas.System

open Foundation Transport

/-- The code of an error packet. -/
def errorOf (datagram : List UInt8) : Int32 :=
  (packetErrDecode (blank.write (payloadOf datagram))).err

/-- An error packet that reports no error. -/
def Void (datagram : List UInt8) : Prop := isErr datagram = true ∧ errorOf datagram = 0

instance (datagram : List UInt8) : Decidable (Void datagram) := inferInstanceAs (Decidable (_ ∧ _))

/-- A packet that ends a stream: RST|FIN, or RST|ERR with a code. -/
inductive Ends (datagram : List UInt8) : Prop where
  | finished : isFin datagram = true → isErr datagram = false → Ends datagram
  | failed {header : PacketHeader} {code : Int32} : isErr datagram = true →
      Carries datagram header (packetErrEncode ⟨code⟩) → Ends datagram

/-- How far the server has come in answering its client. -/
inductive Course (pair : Pair) : Prop where
  | asked : pair.toClient.sent = [] → pair.session = none → Course pair
  | refused {last : List UInt8} : pair.toClient.sent = [last] → Ends last → isErr last = true →
      pair.session = none → Course pair
  | streaming {synAck : List UInt8} {chunks : List (List UInt8)} {session : Server.Session} :
      pair.toClient.sent = synAck :: chunks → isSyn synAck = true → isRst synAck = false →
      (∀ datagram ∈ chunks, isData datagram = true) → pair.session = some session →
      Server.Streaming session → Server.Open session → Course pair
  | ended {synAck last : List UInt8} {chunks : List (List UInt8)} {session : Server.Session} :
      pair.toClient.sent = synAck :: (chunks ++ [last]) → isSyn synAck = true →
      isRst synAck = false → (∀ datagram ∈ chunks, isData datagram = true) → Ends last →
      pair.session = some session → Server.Streaming session → Server.Finished session → Course pair

theorem isRst_of_isErr {datagram : List UInt8} (err : isErr datagram = true) :
    isRst datagram = true := (Bool.and_eq_true_iff.mp err).1

theorem isRst_of_isFin {datagram : List UInt8} (fin : isFin datagram = true) :
    isRst datagram = true := (Bool.and_eq_true_iff.mp fin).1

/-- A packet that ends the connection is a reset. -/
theorem Ends.isRst {datagram : List UInt8} (ends : Ends datagram) : isRst datagram = true := by
  cases ends with
  | finished fin => exact isRst_of_isFin fin
  | failed err => exact isRst_of_isErr err

/-- A data packet is no reset. -/
theorem isRst_of_isData {datagram : List UInt8} (data : isData datagram = true) :
    isRst datagram = false := by
  cases reset : isRst datagram with
  | false => rfl
  | true =>
      rw [isData_of_isRst reset] at data
      cases data

/-! ## What a session answers -/

section

variable {session : Server.Session} {exchange : Server.Exchange} {calls : List Syscall}
  {after : Option Server.Session}

/-- An error packet of a session ends its stream. -/
theorem ends_of_sends {flags : UInt8} {code : Int32} {call : Syscall}
    (sends : Server.Sends session flags (packetErrEncode ⟨code⟩) call)
    (kind : (packetFlagIsset flags packetFlagRst && packetFlagIsset flags packetFlagErr) = true) :
    ∃ last, sentBy [call] = [last] ∧ Ends last ∧ isErr last = true := by
  obtain ⟨datagram, _, _, _, _, _, _, _, err⟩ := sends.kind
  obtain ⟨last, failure, rfl, carries⟩ := sends
  have own : isErr last = true := by
    rw [isErr, carries.headerOf_eq]
    exact kind
  exact ⟨last, rfl, .failed own carries, own⟩

/-- A new session answers the SYN with a SYN-ACK and has a stream, or refuses it and is gone. -/
theorem reaction_begins (reaction : Server.Reaction session exchange calls after)
    (initial : session.state = .initial) (heard : Server.Heard session exchange.header)
    (syn : packetFlagIsset exchange.header.flags packetFlagSyn = true) :
    (∃ last, sentBy calls = [last] ∧ Ends last ∧ isErr last = true ∧ after = none) ∨
      ∃ synAck next, sentBy calls = [synAck] ∧ isSyn synAck = true ∧ isRst synAck = false ∧
        after = some next ∧ Server.Streaming next ∧ Server.Open next := by
  have early := @Server.not_streaming_of_initial session initial
  cases reaction with
  | dropped behind => exact (behind heard.1).elim
  | forgotten _ reset => exact absurd (heard.2.symm.trans reset) Bool.false_ne_true
  | reset _ _ other => exact absurd (other.symm.trans syn) Bool.false_ne_true
  | refused _ _ _ unfit sends before =>
      obtain ⟨last, sent, ends, err⟩ := ends_of_sends sends (by decide)
      refine .inl ⟨last, ?_, ends, err, rfl⟩
      rw [sentBy_append, before, sent]
      rfl
  | opened _ _ _ codec offered sends =>
      obtain ⟨datagram, sent, answer, reset⟩ := sentBy_of_sends sends
      refine .inr ⟨datagram, _, ?_, answer.trans (by decide), reset.trans (by decide), rfl, .inl rfl,
        _, rfl, (Server.source_of_offered offered).2⟩
      rw [sentBy_open, sentBy_read, sent]
  | silent _ streaming => exact (early streaming).elim
  | chunk _ streaming => exact (early streaming).elim
  | ended _ streaming => exact (early streaming).elim
  | failed _ streaming => exact (early streaming).elim

/-- A session with an open stream answers every packet it hears with data, or with the packet that ends
the stream. -/
theorem reaction_continues (reaction : Server.Reaction session exchange calls after)
    (heard : Server.Heard session exchange.header) (streaming : Server.Streaming session)
    (opened : Server.Open session) : ∃ datagram next, sentBy calls = [datagram] ∧
      after = some next ∧ Server.Streaming next ∧
      ((isData datagram = true ∧ Server.Open next) ∨ (Ends datagram ∧ Server.Finished next)) := by
  have late : session.state ≠ .initial := fun state =>
    Server.not_streaming_of_initial state streaming
  cases reaction with
  | dropped behind => exact (behind heard.1).elim
  | forgotten _ reset => exact absurd (heard.2.symm.trans reset) Bool.false_ne_true
  | reset _ state => exact (late state).elim
  | refused _ state => exact (late state).elim
  | opened _ state => exact (late state).elim
  | silent _ _ pipeline finished =>
      exact (Server.not_open_of_finished ⟨_, pipeline, finished⟩ opened).elim
  | chunk _ _ pipeline unfinished read some small sends =>
      obtain ⟨datagram, sent, _, _, _, data, _⟩ := sends.kind
      refine ⟨datagram, _, by rw [sentBy_read, sent, sentBy_nil], rfl, .inr rfl, .inl ⟨?_, ?_⟩⟩
      · rw [data]
        decide
      · exact ⟨_, pipeline, unfinished⟩
  | ended _ _ pipeline unfinished read sends =>
      obtain ⟨datagram, sent, _, _, _, _, _, fin, err⟩ := sends.kind
      refine ⟨datagram, _, by rw [sentBy_read, sentBy_close, sent, sentBy_nil], rfl, .inr rfl,
        .inr ⟨.finished ?_ ?_, _, rfl, rfl⟩⟩
      · rw [fin]
        decide
      · rw [err]
        decide
  | failed _ _ pipeline unfinished read sends =>
      obtain ⟨last, sent, ends, _⟩ := ends_of_sends sends (by decide)
      refine ⟨last, _, ?_, rfl, .inr rfl, .inr ⟨ends, _, rfl, rfl⟩⟩
      rw [sentBy_read]
      exact sent

end

/-! ## The server -/

section

variable {sink : Client.Sink} {addr : SockaddrIn6} {start : Client.Config}
  {pair next : Pair} {event : PairEvent} {events : List PairEvent} {datagram : List UInt8}
  {exchange : Server.Exchange} {memory : Server.Uninitialized} {calls : List Syscall}
  {after : Option Server.Session}

/-- A server that has sent nothing hears the SYN. -/
theorem Backlog.hears_syn (backlog : Backlog pair) (silent : pair.toClient.sent = [])
    (none : pair.session = none) (receives : Receives exchange datagram)
    (arrives : inOrder pair.toServer.sent pair.toServer.arrived datagram) :
    (pair.current addr memory).state = .initial ∧
      Server.Heard (pair.current addr memory) exchange.header ∧
      packetFlagIsset exchange.header.flags packetFlagSyn = true ∧
      pair.toServer.sent.head? = some datagram := by
  have agreement := backlog.agreement
  obtain ⟨same, expected, _⟩ := agreement.server_expects receives arrives
  obtain ⟨syn, later, first, isSyn⟩ := backlog.asks
  have single : pair.toServer.sent.length = 1 := by
    rcases agreement.silence with one | ⟨other, member, _⟩
    · exact one
    · rw [silent] at member
      cases member
  obtain ⟨below, _⟩ := List.getElem?_eq_some_iff.mp arrives
  have zero : pair.toServer.arrived = 0 := by omega
  have isFirst : syn = datagram := by
    rw [inOrder, zero, first] at arrives
    exact Option.some.inj arrives
  have initial : (pair.current addr memory).state = .initial := by
    rw [Pair.current, none]
    rfl
  refine ⟨initial, ⟨?_, ?_⟩, ?_, ?_⟩
  · rw [current_ack]
    exact accepted_of_seq expected
  · rw [same]
    exact (agreement.said datagram (List.mem_of_getElem? arrives)).no_rst
  · rw [same, ← isFirst]
    exact isSyn
  · rw [first, isFirst]
    rfl

/-- Once there is a session, it hears every packet that arrives. -/
theorem Agreement.hears (agreement : Agreement pair) (receives : Receives exchange datagram)
    (arrives : inOrder pair.toServer.sent pair.toServer.arrived datagram) :
    Server.Heard (pair.current addr memory) exchange.header := by
  obtain ⟨same, expected, _⟩ := agreement.server_expects receives arrives
  refine ⟨?_, ?_⟩
  · rw [current_ack]
    exact accepted_of_seq expected
  · rw [same]
    exact (agreement.said datagram (List.mem_of_getElem? arrives)).no_rst

/-- A refused client sends nothing more. -/
theorem Backlog.nothing_arrives (backlog : Backlog pair) (none : pair.session = none)
    (loud : pair.toClient.sent ≠ [])
    (arrives : inOrder pair.toServer.sent pair.toServer.arrived datagram) : False := by
  cases backlog.script with
  | asked silent => exact loud silent
  | refused nothing =>
      have flight := Channel.inFlight_cons arrives
      rw [nothing] at flight
      cases flight
  | answered _ _ _ _ live => cases none.symm.trans live

/-- A packet at the server keeps the course. -/
theorem Course.serverTurn (course : Course pair) (backlog : Backlog pair)
    (receives : Receives exchange datagram)
    (arrives : inOrder pair.toServer.sent pair.toServer.arrived datagram)
    (stepped : Server.SessionStep (some (pair.current addr memory)) (.packet exchange calls) after) :
    Course (pair.serverTurn calls after) := by
  have reaction := backlog.agreement.formed.reaction stepped
  cases course with
  | asked silent none =>
      obtain ⟨initial, heard, syn, _⟩ := backlog.hears_syn silent none receives arrives
      rcases reaction_begins reaction initial heard syn with
        ⟨last, sent, ends, err, gone⟩ | ⟨synAck, session, sent, syn, other, lives, streams, opened⟩
      · refine .refused ?_ ends err gone
        change pair.toClient.sent ++ sentBy calls = [last]
        rw [silent, sent]
        rfl
      · refine @Course.streaming _ synAck [] session ?_ syn other
          (fun _ member => (List.not_mem_nil member).elim) lives streams opened
        change pair.toClient.sent ++ sentBy calls = [synAck]
        rw [silent, sent]
        rfl
  | refused sent _ _ none =>
      refine (backlog.nothing_arrives none ?_ arrives).elim
      rw [sent]
      exact List.cons_ne_nil _ _
  | @streaming synAck chunks session sent syn other data live streams opened =>
      have heard := @Agreement.hears addr pair datagram exchange memory backlog.agreement receives
        arrives
      have current : pair.current addr memory = session := by
        rw [Pair.current, live]
        rfl
      rw [current] at reaction heard
      obtain ⟨answer, next, one, lives, streams', outcome⟩ :=
        reaction_continues reaction heard streams opened
      have whole : (pair.serverTurn calls after).toClient.sent = synAck :: (chunks ++ [answer]) := by
        change pair.toClient.sent ++ sentBy calls = _
        rw [sent, one]
        rfl
      rcases outcome with ⟨chunk, opened'⟩ | ⟨ends, finished⟩
      · refine .streaming whole syn other ?_ lives streams' opened'
        exact List.forall_mem_append.mpr ⟨data, List.forall_mem_singleton.mpr chunk⟩
      · exact .ended whole syn other data ends lives streams' finished
  | @ended synAck last chunks session sent syn other data ends live streams finished =>
      have heard := @Agreement.hears addr pair datagram exchange memory backlog.agreement receives
        arrives
      have current : pair.current addr memory = session := by
        rw [Pair.current, live]
        rfl
      rw [current] at reaction heard
      have formed := backlog.agreement.formed.2 session live
      obtain ⟨quiet, stays⟩ := reaction.silent_of_finished formed finished
      obtain ⟨_, next, lives, streams'⟩ := reaction_goes_on reaction streams heard.2
      refine .ended ?_ syn other data ends lives streams' (stays next lives)
      change pair.toClient.sent ++ sentBy calls = _
      rw [quiet, List.append_nil, sent]

/-- The fields the loop and the table write have no part in the course. -/
theorem Course.marked (course : Course pair) {session : Server.Session}
    (live : pair.session = some session) (timeout : Int) (link : Option Server.SessionPtr) :
    Course { pair with session := some { session with timeout := timeout, next := link } } := by
  cases course with
  | asked _ none => cases none.symm.trans live
  | refused _ _ _ none => cases none.symm.trans live
  | streaming sent syn other data live' streams opened =>
      cases live.symm.trans live'
      exact .streaming sent syn other data rfl streams opened
  | ended sent syn other data ends live' streams finished =>
      cases live.symm.trans live'
      exact .ended sent syn other data ends rfl streams finished

/-! ## Resets -/

/-- What a client returns for a packet that ends its stream, unless that is an error of none. -/
def resultOf (datagram : List UInt8) : Int32 := if isErr datagram then errorOf datagram else 0

/-- The resets the server has sent end the stream. -/
theorem Course.ends (course : Course pair) (member : datagram ∈ pair.toClient.sent)
    (reset : isRst datagram = true) : Ends datagram := by
  cases course with
  | asked silent =>
      rw [silent] at member
      cases member
  | refused sent ends =>
      rw [sent] at member
      rwa [List.mem_singleton.mp member]
  | streaming sent _ other data =>
      rw [sent] at member
      rcases List.mem_cons.mp member with rfl | chunk
      · exact absurd (other.symm.trans reset) Bool.false_ne_true
      · exact absurd ((isRst_of_isData (data _ chunk)).symm.trans reset) Bool.false_ne_true
  | ended sent _ other data ends =>
      rw [sent] at member
      rcases List.mem_cons.mp member with rfl | later
      · exact absurd (other.symm.trans reset) Bool.false_ne_true
      rcases List.mem_append.mp later with chunk | last
      · exact absurd ((isRst_of_isData (data _ chunk)).symm.trans reset) Bool.false_ne_true
      · rwa [List.mem_singleton.mp last]

/-- The server sends one reset at most. -/
theorem Course.countP_isRst (course : Course pair) : pair.toClient.sent.countP isRst ≤ 1 := by
  have plain : ∀ {chunks : List (List UInt8)}, (∀ datagram ∈ chunks, isData datagram = true) →
      chunks.countP isRst = 0 := by
    intro chunks data
    refine List.countP_eq_zero.mpr fun datagram member => ?_
    rw [isRst_of_isData (data datagram member)]
    exact Bool.false_ne_true
  cases course with
  | asked silent =>
      rw [silent]
      exact Nat.zero_le 1
  | refused sent =>
      rw [sent]
      exact List.countP_le_length
  | streaming sent _ other data =>
      rw [sent, List.countP_cons_of_neg (by rw [other]; decide), plain data]
      exact Nat.zero_le 1
  | ended sent _ other data =>
      rw [sent, List.countP_cons_of_neg (by rw [other]; decide), List.countP_append, plain data,
        Nat.zero_add]
      exact List.countP_le_length

/-- The error of a packet is the code it carries. -/
theorem errorOf_eq {header : PacketHeader} {code : Int32}
    (carries : Carries datagram header (packetErrEncode ⟨code⟩)) : errorOf datagram = code := by
  rw [errorOf, carries.payloadOf_eq, packetErrDecode_write]

/-- The client decodes the code of an error packet, whatever its receive buffer held. -/
theorem payload_error {header : PacketHeader} {code : Int32}
    (carries : Carries datagram header (packetErrEncode ⟨code⟩)) (input : Client.Input) :
    (packetErrDecode (input.payload datagram)).err = code := by
  have short : datagram.length ≤ bufferSize := by
    rw [carries.length_eq, packetErrEncode, BigEndian.length_bytes]
    decide
  unfold Client.Input.payload Client.Input.filled
  rw [carries.payload_receiveInto short, packetErrDecode_write]

end

section

variable {sink : Client.Sink} {config next : Client.Config} {event : Client.ClientEvent}
  {datagram : List UInt8}

/-- What a reset that is accepted makes the client return, and the state it leaves. -/
theorem reaction_reset {world after : Client.World} {header : PacketHeader} {payload : Memory}
    {err : Int32} (reaction : Client.Reaction world header payload err after)
    (accepted : Accepted header world.session.ack)
    (reset : packetFlagIsset header.flags packetFlagRst = true) :
    (packetFlagIsset header.flags packetFlagErr = true ∧ err = (packetErrDecode payload).err ∧
        after.session.state = world.session.state) ∨
      (packetFlagIsset header.flags packetFlagErr = false ∧
        (packetFlagIsset header.flags packetFlagFin = true →
          err = 0 ∧ after.session.state = .finished)) := by
  have other : ¬ Client.Heard world header := fun heard =>
    Bool.false_ne_true (heard.2.symm.trans reset)
  cases reaction with
  | dropped behind => exact (behind accepted).elim
  | failed _ _ error => exact .inl ⟨error, rfl, rfl⟩
  | finished _ _ noError => exact .inr ⟨noError, fun _ => ⟨rfl, rfl⟩⟩
  | reset _ _ noError noFin =>
      exact .inr ⟨noError, fun fin => absurd (noFin.symm.trans fin) Bool.false_ne_true⟩
  | pushed heard => exact (other heard).elim
  | ignored heard => exact (other heard).elim

/-- A packet that ends the stream ends the loop of the client as well, unless it reports an error of
none. -/
theorem returns_of_ends (stepped : Client.ClientStep sink config event next)
    (formed : Client.WellFormed config.world) (received : event.input.datagram? = some datagram)
    (same : event.input.header datagram = headerOf datagram)
    (accepted : Accepted (event.input.header datagram) config.world.session.ack)
    (running : config.world.session.state ≠ .finished) (ends : Ends datagram) :
    next.stage = if Void datagram then .select else .returned (resultOf datagram) := by
  have reset : packetFlagIsset (event.input.header datagram).flags packetFlagRst = true := by
    rw [same]
    exact ends.isRst
  cases stepped.iteration formed with
  | stopped err none =>
      rw [none] at received
      cases received
  | handled received' reaction calls stage =>
      cases received.symm.trans received'
      have outcome := reaction_reset reaction accepted reset
      rw [Client.enter_session, same] at outcome
      rw [Client.loop] at stage
      cases ends with
      | finished fin noErr =>
          have set := Bool.and_eq_true_iff.mp fin
          have real : ¬ Void datagram := fun void => Bool.false_ne_true (noErr.symm.trans void.1)
          have result : resultOf datagram = 0 := if_neg (by rw [noErr]; decide)
          rw [isErr, set.1, Bool.true_and] at noErr
          rcases outcome with ⟨err, _⟩ | ⟨_, finishes⟩
          · exact absurd (noErr.symm.trans err) Bool.false_ne_true
          · obtain ⟨fine, closed⟩ := finishes set.2
            rw [stage, fine, closed, if_neg (not_not_intro rfl), if_neg real, result]
            rfl
      | @failed header code err carries =>
          have report := errorOf_eq carries
          have result : resultOf datagram = errorOf datagram := if_pos err
          have set := (Bool.and_eq_true_iff.mp err).2
          rcases outcome with ⟨_, told, kept⟩ | ⟨noErr, _⟩
          · rw [payload_error carries, ← report] at told
            rw [stage, told, kept, result]
            by_cases zero : errorOf datagram = 0
            · have void : Void datagram := ⟨err, zero⟩
              rw [if_neg (not_not_intro zero), if_pos void]
              exact if_neg running
            · have real : ¬ Void datagram := fun void => zero void.2
              rw [if_pos zero, if_neg real]
          · exact absurd (noErr.symm.trans set) Bool.false_ne_true

end

/-! ## Nobody waits in vain -/

/-- A pair over lossless channels whose client has asked: something is on its way until the server has
sent a reset, and the client returns with the reset that arrives, unless that reports an error of
none. -/
structure Attended (pair : Pair) : Prop where
  backlog : Backlog pair
  course : Course pair
  pending : (∃ datagram ∈ pair.toClient.sent, isRst datagram = true) ∨
    pair.toServer.inFlight ≠ [] ∨ pair.toClient.inFlight ≠ []
  waits : pair.client.stage = .select → ∀ datagram ∈ pair.toClient.delivered,
    isRst datagram = true → Void datagram
  returns : ∀ code, pair.client.stage = .returned code → ∃ datagram ∈ pair.toClient.delivered,
    isRst datagram = true ∧ ¬ Void datagram ∧ code = resultOf datagram

section

variable {sink : Client.Sink} {addr : SockaddrIn6} {start : Client.Config}
  {pair next : Pair} {event : PairEvent} {events : List PairEvent}

/-- At the start the SYN is on its way and nothing else. -/
theorem attended_start {name : List UInt8} {memory : Chunk} {env : Env}
    (begun : Client.receive name memory env = .ok start) (waits : start.stage = .select) :
    Attended (Pair.start start) := by
  obtain ⟨_, datagram, _, _, _, _, _, calls, _⟩ := Client.receive_spec begun
  refine ⟨backlog_start begun, .asked rfl rfl, .inr (.inl ?_), fun _ _ member =>
    (List.not_mem_nil member).elim, ?_⟩
  · change sentBy start.world.kernel.calls ≠ []
    rw [calls]
    exact List.cons_ne_nil _ _
  · intro code returned
    cases waits.symm.trans returned

/-- A datagram that arrives at the client keeps the invariant. -/
theorem Attended.clientTurn {clientEvent : Client.ClientEvent} {client : Client.Config}
    (attended : Attended pair) (stepped : Client.ClientStep sink pair.client clientEvent client)
    (arrives : ∀ datagram, clientEvent.input.datagram? = some datagram →
      inOrder pair.toClient.sent pair.toClient.arrived datagram)
    (receives : clientEvent.input.datagram?.isSome) :
    Attended (pair.clientTurn clientEvent client) := by
  obtain ⟨datagram, received⟩ := Option.isSome_iff_exists.mp receives
  have arrives' := arrives datagram received
  have backlog := attended.backlog
  have formed := backlog.agreement.formed.1
  obtain ⟨same, expected⟩ := backlog.agreement.client_expects clientEvent.input arrives'
  have delivered : (pair.clientTurn clientEvent client).toClient.delivered =
      pair.toClient.delivered ++ [datagram] := by
    rw [Pair.clientTurn, takenBy, received]
    exact Channel.delivered_deliver arrives'
  have course : Course (pair.clientTurn clientEvent client) := by
    cases attended.course with
    | asked sent none => exact .asked sent none
    | refused sent ends err none => exact .refused sent ends err none
    | streaming sent syn other data live streams opened =>
        exact .streaming sent syn other data live streams opened
    | ended sent syn other data ends live streams finished =>
        exact .ended sent syn other data ends live streams finished
  refine ⟨backlog.clientTurn stepped arrives receives, course, ?_, ?_, ?_⟩
  · rcases stepped.hears_or formed.formed with ⟨_, _, heeds⟩ | ⟨deaf, _⟩
    · refine .inr (.inl ?_)
      change (pair.toServer.send (sentBy clientEvent.calls)).inFlight ≠ []
      rw [Channel.inFlight_send backlog.agreement.served]
      obtain ⟨ack, more, answered⟩ := answers_of_heeds heeds formed
      rw [answered]
      exact List.append_ne_nil_of_right_ne_nil _ (List.cons_ne_nil _ _)
    · exact .inl ⟨datagram, List.mem_of_getElem? arrives',
        backlog.isRst_of_deaf stepped received arrives' deaf⟩
  · intro selecting other member reset
    rw [delivered] at member
    rcases List.mem_append.mp member with before | last
    · exact attended.waits stepped.1 other before reset
    · rw [List.mem_singleton.mp last] at reset ⊢
      have ends := attended.course.ends (List.mem_of_getElem? arrives') reset
      have stage := returns_of_ends stepped formed.formed received same
        (by rw [same]; exact accepted_of_seq expected) (backlog.running stepped.1) ends
      by_contra real
      rw [if_neg real] at stage
      cases stage.symm.trans selecting
  · intro code returned
    rw [delivered]
    rcases stepped.hears_or formed.formed with ⟨_, _, heeds⟩ | ⟨deaf, _⟩
    · cases (selecting_of_hears stepped formed.formed heeds.hears).symm.trans returned
    · have reset := backlog.isRst_of_deaf stepped received arrives' deaf
      have ends := attended.course.ends (List.mem_of_getElem? arrives') reset
      have stage := returns_of_ends stepped formed.formed received same
        (by rw [same]; exact accepted_of_seq expected) (backlog.running stepped.1) ends
      refine ⟨datagram, List.mem_append_right _ (List.mem_singleton_self _), reset, ?_, ?_⟩
      · intro void
        rw [if_pos void] at stage
        cases stage.symm.trans returned
      · split at stage
        · cases stage.symm.trans returned
        · exact (Client.Stage.returned.inj (stage.symm.trans returned)).symm

/-- A datagram that arrives at the server keeps the invariant. -/
theorem Attended.serverTurn {exchange : Server.Exchange} {datagram : List UInt8}
    {memory : Server.Uninitialized} {calls : List Syscall} {after : Option Server.Session}
    (attended : Attended pair) (receives : Receives exchange datagram)
    (arrives : inOrder pair.toServer.sent pair.toServer.arrived datagram)
    (stepped : Server.SessionStep (some (pair.current addr memory)) (.packet exchange calls) after)
    (backlog : Backlog (pair.serverTurn calls after)) : Attended (pair.serverTurn calls after) := by
  have bounded := attended.backlog.agreement.taken
  have course := attended.course.serverTurn attended.backlog receives arrives stepped
  have delivered : (pair.serverTurn calls after).toClient.delivered = pair.toClient.delivered :=
    Channel.delivered_send bounded _
  refine ⟨backlog, course, ?_, by rw [delivered]; exact attended.waits,
    by rw [delivered]; exact attended.returns⟩
  have reaction := attended.backlog.agreement.formed.reaction stepped
  have answered : ∀ {answer : List UInt8}, sentBy calls = [answer] →
      (pair.serverTurn calls after).toClient.inFlight ≠ [] := by
    intro answer sent
    change (pair.toClient.send (sentBy calls)).inFlight ≠ []
    rw [Channel.inFlight_send bounded, sent]
    exact List.append_ne_nil_of_right_ne_nil _ (List.cons_ne_nil _ _)
  cases attended.course with
  | asked silent none =>
      obtain ⟨initial, heard, syn, _⟩ :=
        attended.backlog.hears_syn silent none receives arrives
      rcases reaction_begins reaction initial heard syn with ⟨last, sent, _⟩ | ⟨synAck, _, sent, _⟩
      · exact .inr (.inr (answered sent))
      · exact .inr (.inr (answered sent))
  | refused sent ends err none =>
      refine (attended.backlog.nothing_arrives none ?_ arrives).elim
      rw [sent]
      exact List.cons_ne_nil _ _
  | streaming sent syn other data live streams opened =>
      have heard := @Agreement.hears addr pair datagram exchange memory
        attended.backlog.agreement receives arrives
      rw [Pair.current, live] at reaction heard
      obtain ⟨answer, _, one, _⟩ := reaction_continues reaction heard streams opened
      exact .inr (.inr (answered one))
  | @ended _ last _ _ sent syn other data ends live streams finished =>
      refine .inl ⟨last, List.mem_append_left _ ?_, ends.isRst⟩
      rw [sent]
      exact List.mem_cons_of_mem _ (List.mem_append_right _ (List.mem_singleton_self _))

/-- Every event over lossless channels keeps the invariant. -/
theorem Attended.step (attended : Attended pair) (step : LosslessStep sink addr pair event next) :
    Attended next := by
  have backlog := attended.backlog.step step
  obtain ⟨step, lossless⟩ := step
  cases step with
  | client stepped arrives => exact attended.clientTurn stepped arrives lossless.1
  | server receives arrives stepped => exact attended.serverTurn receives arrives stepped backlog
  | marked live =>
      exact ⟨backlog, attended.course.marked live _ _, attended.pending, attended.waits,
        attended.returns⟩
  | expired => exact lossless.elim

/-- The invariant holds in every run over lossless channels. -/
theorem LosslessRun.attended {name : List UInt8} {memory : Chunk} {env : Env}
    (begun : Client.receive name memory env = .ok start) (waits : start.stage = .select)
    (run : LosslessRun sink addr start events pair) : Attended pair :=
  run.invariant Attended (attended_start begun waits) fun _ _ _ attended step => attended.step step

/-- Two resets the server has sent are one. -/
theorem Course.unique (course : Course pair) {first second : List UInt8}
    (left : first ∈ pair.toClient.sent) (right : second ∈ pair.toClient.sent)
    (reset : isRst first = true) (reset' : isRst second = true) : first = second := by
  have few := course.countP_isRst
  rw [List.countP_eq_length_filter] at few
  have left' := List.mem_filter.mpr ⟨left, reset⟩
  have right' := List.mem_filter.mpr ⟨right, reset'⟩
  generalize pair.toClient.sent.filter isRst = resets at few left' right'
  match resets with
  | [] => cases left'
  | [only] => rw [List.mem_singleton.mp left', List.mem_singleton.mp right']
  | _ :: _ :: _ =>
      simp only [List.length_cons] at few
      omega

/-- **The client waits in vain for one thing only.** Over lossless channels, in every run in which
nothing is on its way any more, the client is still waiting exactly if the server has reported an error
whose code is zero; otherwise it has returned, with zero after the end of the stream and with the code
of the report after a failure. -/
theorem lossless_waits_iff {name : List UInt8} {memory : Chunk} {env : Env}
    (begun : Client.receive name memory env = .ok start) (waits : start.stage = .select)
    (run : LosslessRun sink addr start events pair) (served : pair.toServer.inFlight = [])
    (taken : pair.toClient.inFlight = []) :
    (pair.client.stage = .select ↔ ∃ datagram ∈ pair.toClient.sent, Void datagram) ∧
      ∀ code, pair.client.stage = .returned code → ∃ datagram ∈ pair.toClient.sent,
        (isFin datagram = true ∧ code = 0) ∨
          (isErr datagram = true ∧ code = errorOf datagram ∧ code ≠ 0) := by
  have attended := LosslessRun.attended begun waits run
  have whole : pair.toClient.delivered = pair.toClient.sent := by
    rw [← pair.toClient.delivered_append, taken, List.append_nil]
  have stops := attended.waits
  have returns := attended.returns
  rw [whole] at stops returns
  refine ⟨⟨fun selecting => ?_, ?_⟩, fun code returned => ?_⟩
  · rcases attended.pending with ⟨datagram, member, reset⟩ | onWay | onWay
    · exact ⟨datagram, member, stops selecting datagram member reset⟩
    · exact (onWay served).elim
    · exact (onWay taken).elim
  · rintro ⟨datagram, member, void⟩
    cases stage : pair.client.stage with
    | select => rfl
    | returned code =>
        obtain ⟨other, member', reset, real, _⟩ := returns code stage
        rw [attended.course.unique member' member reset (isRst_of_isErr void.1)] at real
        exact (real void).elim
  · obtain ⟨datagram, member, reset, real, same⟩ := returns code returned
    refine ⟨datagram, member, ?_⟩
    rw [resultOf] at same
    cases attended.course.ends member reset with
    | finished fin noErr =>
        rw [noErr, if_neg Bool.false_ne_true] at same
        exact .inl ⟨fin, same⟩
    | failed err carries =>
        rw [err, if_pos rfl] at same
        refine .inr ⟨err, same, fun zero => real ⟨err, same.symm.trans zero⟩⟩

end

/-- The song is asked for, and its file turns out to be empty. -/
def emptyRefused : List PairEvent × Pair :=
  (Pair.start Client.songStart).replay inOrder Client.driversIgnore Server.listener
    [.server 0 (Server.songEnv fun _ => .data []), .client 0 Client.calmEnv]

/-- The client that has asked for an empty file waits until its timeout. -/
theorem lossless_waits_empty : emptyRefused.2.client.stage = .select :=
  (lossless_waits_iff Client.songStart_begun (by decide +kernel)
    (losslessRun_of_forall (Pair.replay_run _ _) (by decide +kernel)) (by decide +kernel)
    (by decide +kernel)).1.mpr (by decide +kernel)

end Sas.System
