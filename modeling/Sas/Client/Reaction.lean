import Sas.Client.Receive
import Sas.Packet
import Sas.Foundation.Run
import Sas.Foundation.Fallible

/-! # How the client reacts to a packet

What the state machine of the client does with one packet, whatever calls the sink makes on its
inlet: each of these calls sends one ACK or nothing, and everything the client sends takes the
next sequence number.
-/

namespace Sas.Client

open Foundation Transport Rxc

/-- The packet is an ACK without payload for this number. -/
def IsAck (ack : UInt32) (datagram : List UInt8) : Prop :=
  ∃ header, Carries datagram header [] ∧ header.flags = packetFlagAck ∧ header.ack = ack

/-- The client has at most sent ACKs, moved its window and run its pipeline. -/
structure Acks (before after : World) : Prop where
  session : ∃ seq window sinkLogic, after.session =
    { before.session with seq := seq, receiveWindow := window, sinkLogic := sinkLogic }
  pushed : after.pushed = before.pushed
  env : after.kernel.env = before.kernel.env
  calls : ∃ calls, after.kernel.calls = before.kernel.calls ++ calls ∧
    SeqChain before.session.seq (sentBy calls) after.session.seq ∧
    ∀ datagram ∈ sentBy calls, IsAck before.session.ack datagram

namespace Acks

variable {first second third : World}

theorem refl (world : World) : Acks world world :=
  ⟨⟨_, _, _, rfl⟩, rfl, rfl, [], (List.append_nil _).symm, rfl, fun _ member =>
    (List.not_mem_nil member).elim⟩

/-- Acknowledging twice in a row. -/
theorem trans (left : Acks first second) (right : Acks second third) : Acks first third := by
  obtain ⟨seq, window, logic, session⟩ := left.session
  obtain ⟨seq', window', logic', session'⟩ := right.session
  obtain ⟨calls, called, chain, acks⟩ := left.calls
  obtain ⟨calls', called', chain', acks'⟩ := right.calls
  have ack : second.session.ack = first.session.ack := by rw [session]
  rw [ack] at acks'
  refine ⟨⟨seq', window', logic', by rw [session', session]⟩, right.pushed.trans left.pushed,
    right.env.trans left.env, calls ++ calls', ?_, ?_, ?_⟩
  · rw [called', called, List.append_assoc]
  · rw [sentBy_append]
    exact chain.append chain'
  · intro datagram member
    rw [sentBy_append] at member
    rcases List.mem_append.mp member with earlier | later
    · exact acks datagram earlier
    · exact acks' datagram later

theorem ack_eq (acks : Acks first second) : second.session.ack = first.session.ack := by
  obtain ⟨seq, window, logic, session⟩ := acks.session
  rw [session]

theorem state_eq (acks : Acks first second) : second.session.state = first.session.state := by
  obtain ⟨seq, window, logic, session⟩ := acks.session
  rw [session]

end Acks

/-! ## Sending -/

section

variable {world : World} {link : Link} {started : Started World}

/-- A send takes the next sequence numbers and hands one datagram over. -/
theorem sessionSend_calls (flags : UInt8) (length : UInt16) (world : World)
    {body : Memory} {payload : List UInt8} (carried : body.read length.toNat = payload) :
    ∃ datagram failure, (sessionSend flags length body world).2.kernel.calls =
        world.kernel.calls ++ [.send none datagram failure] ∧
      Carries datagram (sessionHeader world.session flags length) payload ∧
      SeqChain world.session.seq [datagram] (sessionSend flags length body world).2.session.seq := by
  subst carried
  have carries := carries_packetDatagram (sessionHeader world.session flags length)
    world.kernel.garbage body
  refine ⟨_, _, rfl, carries, SeqChain.singleton ?_ ?_⟩
  · rw [carries.headerOf_eq]
    rfl
  · rw [carries.headerOf_eq]
    rfl

/-- `sas_client_session_ack` sends one ACK. -/
theorem sessionAck_acks (world : World) : Acks world (sessionAck world).2 := by
  obtain ⟨datagram, failure, called, carries, chain⟩ := sessionSend_calls packetFlagAck 0 world
    (Memory.read_zero (world.kernel.garbage.shift packetHeaderSize))
  refine ⟨⟨_, _, _, rfl⟩, rfl, rfl, _, called, chain, ?_⟩
  intro other member
  rw [sentBy_send, sentBy_nil] at member
  rw [List.mem_singleton.mp member]
  exact ⟨_, carries, rfl, rfl⟩

/-- Moving the window is no more than sending ACKs. -/
theorem acks_withWindow (world : World) (window : UInt16) :
    Acks world (world.withWindow window) :=
  ⟨⟨_, window, _, rfl⟩, rfl, rfl, [], (List.append_nil _).symm, rfl, fun _ member =>
    (List.not_mem_nil member).elim⟩

/-- The client after a pull on its source: the window is open, and the server has been told so. -/
def asking (world : World) : World := (sessionAck (world.withWindow sessionWindowSize)).2

/-- A pull on the source opens the window and sends one ACK. -/
theorem sessionSource_onPull (n : Int) (started : Started World) :
    sessionSource.onPull n started = .ok { started with world := asking started.world } := rfl

/-! ## The calls of a sink -/

/-- A call on the inlet asks the server once or not at all, and leaves the worker idle. -/
theorem inletCall_asking (call : InletCall) (idle : link.worker = ⟨[], false⟩)
    (done : inletCall call ⟨link, world⟩ = .ok started) :
    started.link.worker = ⟨[], false⟩ ∧ (started.world = world ∨ started.world = asking world) := by
  cases call with
  | pull n =>
      change pipelineInletPull sessionSource (0 + 2) n ⟨link, world⟩ = .ok started at done
      rcases linked : link.inlet with _ | ⟨_ | _⟩
      · rw [pipelineInletPull, linked] at done
        cases done
      · rw [pipelineInletPull, linked] at done
        cases done
        exact ⟨idle, .inl rfl⟩
      · by_cases closed : link.connection.requested = longMin
        · rw [pipelineInletPull_closed _ _ _ _ _ linked idle closed] at done
          cases done
          exact ⟨idle, .inl rfl⟩
        · let running : Started World := ⟨{ link with worker := ⟨[], true⟩ }, world⟩
          have opened : running.requested ≠ longMin := closed
          have task := (connectionInletPull_of_ne sessionSource n opened).trans
            (sessionSource_onPull n _)
          rw [pipelineInletPull_idle sessionSource 0 n link world _ linked idle task rfl] at done
          cases done
          exact ⟨rfl, .inr rfl⟩
  | cancel =>
      change pipelineInletCancel sessionSource ⟨link, world⟩ = .ok started at done
      unfold pipelineInletCancel connectionInletCancel at done
      split at done
      · cases done
      split at done
      · split at done <;> cases done <;> exact ⟨idle, .inl rfl⟩
      · cases done

/-- The calls of a sink ask the server a number of times, and leave the worker idle. -/
theorem inletCalls_asking (calls : List InletCall) (idle : link.worker = ⟨[], false⟩)
    (done : inletCalls calls ⟨link, world⟩ = .ok started) :
    started.link.worker = ⟨[], false⟩ ∧ ∃ times, started.world = asking^[times] world := by
  induction calls generalizing link world with
  | nil =>
      cases done
      exact ⟨idle, 0, rfl⟩
  | cons call calls ih =>
      unfold inletCalls at done
      obtain ⟨⟨link', world'⟩, first, rest⟩ := bind_eq_ok done
      obtain ⟨idle', asked⟩ := inletCall_asking call idle first
      obtain ⟨idle'', times, asked'⟩ := ih idle' rest
      refine ⟨idle'', ?_⟩
      rcases asked with rfl | rfl
      · exact ⟨times, asked'⟩
      · exact ⟨times + 1, asked'⟩

/-- Asking the server is sending ACKs. -/
theorem acks_asking (times : Nat) (world : World) : Acks world (asking^[times] world) := by
  induction times generalizing world with
  | zero => exact Acks.refl world
  | succ times ih =>
      have first : Acks world (asking world) :=
        (acks_withWindow world sessionWindowSize).trans (sessionAck_acks _)
      rw [Function.iterate_succ_apply]
      exact first.trans (ih _)

/-- The calls of a sink at most send ACKs, and leave the worker idle. -/
theorem inletCalls_acks (calls : List InletCall) (idle : link.worker = ⟨[], false⟩)
    (done : inletCalls calls ⟨link, world⟩ = .ok started) :
    started.link.worker = ⟨[], false⟩ ∧ Acks world started.world := by
  obtain ⟨idle', times, asked⟩ := inletCalls_asking calls idle done
  rw [asked]
  exact ⟨idle', acks_asking times world⟩

/-- Writing back the link is no more than sending ACKs. -/
theorem acks_ofStarted (link : Link) (world : World) : Acks world (ofStarted ⟨link, world⟩) :=
  ⟨⟨_, _, _, rfl⟩, rfl, rfl, [], (List.append_nil _).symm, rfl, fun _ member =>
    (List.not_mem_nil member).elim⟩

end

/-! ## The window last told -/

/-- The last of what the client has sent on the way is an ACK with this window. -/
def Tells (window : UInt16) (before after : World) : Prop :=
  ∃ calls earlier datagram, after.kernel.calls = before.kernel.calls ++ calls ∧
    sentBy calls = earlier ++ [datagram] ∧ isAck datagram = true ∧
    (headerOf datagram).window = window

namespace Tells

variable {window : UInt16} {first second third : World}

/-- What is sent before does not matter. -/
theorem after_calls (sent : ∃ calls, second.kernel.calls = first.kernel.calls ++ calls)
    (tells : Tells window second third) : Tells window first third := by
  obtain ⟨calls, called⟩ := sent
  obtain ⟨calls', earlier, datagram, called', sent, ack, told⟩ := tells
  refine ⟨calls ++ calls', sentBy calls ++ earlier, datagram, ?_, ?_, ack, told⟩
  · rw [called', called, List.append_assoc]
  · rw [sentBy_append, sent, List.append_assoc]

/-- What is told after some acknowledgements is told from before them. -/
theorem after_acks (acks : Acks first second) (tells : Tells window second third) :
    Tells window first third := by
  obtain ⟨calls, called, _⟩ := acks.calls
  exact after_calls ⟨calls, called⟩ tells

/-- What is done without sending does not matter. -/
theorem congr {before after : World} (tells : Tells window first second)
    (beginning : before.kernel = first.kernel) (ending : after.kernel = second.kernel) :
    Tells window before after := by
  unfold Tells
  rw [beginning, ending]
  exact tells

end Tells

/-- `sas_client_session_ack` tells the window the client holds. -/
theorem sessionAck_tells (world : World) :
    Tells world.session.receiveWindow world (sessionAck world).2 := by
  obtain ⟨datagram, failure, called, carries, _⟩ := sessionSend_calls packetFlagAck 0 world
    (Memory.read_zero (world.kernel.garbage.shift packetHeaderSize))
  refine ⟨_, [], datagram, called, rfl, ?_, ?_⟩
  · rw [isAck, carries.headerOf_eq]
    exact packetFlagIsset_self _
  · rw [carries.headerOf_eq]
    rfl

/-- Asking the server leaves the window open. -/
theorem asking_window (times : Nat) {world : World}
    (opened : world.session.receiveWindow = sessionWindowSize) :
    (asking^[times] world).session.receiveWindow = sessionWindowSize := by
  cases times with
  | zero => exact opened
  | succ times =>
      rw [Function.iterate_succ_apply']
      rfl

/-- Asking the server at last tells an open window, where the client has told one before. -/
theorem Tells.then_asking {before after : World} (tells : Tells sessionWindowSize before after)
    (times : Nat) :
    Tells sessionWindowSize before (asking^[times] after) := by
  cases times with
  | zero => exact tells
  | succ times =>
      obtain ⟨calls, _, _, called, _⟩ := tells
      rw [Function.iterate_succ_apply']
      exact Tells.after_calls ⟨calls, called⟩ (Tells.after_acks
        ((acks_asking times after).trans (acks_withWindow _ _)) (sessionAck_tells _))

/-! ## The state machine -/

/-- The client once it has taken note of a packet. -/
def acked (world : World) (header : PacketHeader) : World :=
  { world with
    session := { world.session with
      sendWindow := header.window
      ack := header.seq + span header.length } }

@[simp] theorem acked_kernel (world : World) (header : PacketHeader) :
    (acked world header).kernel = world.kernel := rfl

/-- The client once it has pushed a chunk to its sink and is established. -/
def pushing (world : World) (chunk : Chunk) : World :=
  { world with
    session := { world.session with state := .establsh, chunk := chunk }
    pushed := world.pushed ++ [chunk] }

/-- Between two packets the worker of the pipeline is idle, and an established client has one. -/
structure WellFormed (world : World) : Prop where
  idle : ∀ link, world.session.sinkLogic = some link → link.worker = ⟨[], false⟩
  connected : world.session.state = .establsh → world.session.sinkLogic.isSome = true

theorem WellFormed.withChunk {world : World} (formed : WellFormed world) (chunk : Chunk) :
    WellFormed (world.withChunk chunk) := ⟨formed.idle, formed.connected⟩

theorem WellFormed.acked {world : World} (formed : WellFormed world) (header : PacketHeader) :
    WellFormed (acked world header) := ⟨formed.idle, formed.connected⟩

/-- The packet is accepted, and it does not reset the session. -/
def Heard (world : World) (header : PacketHeader) : Prop :=
  Accepted header world.session.ack ∧ packetFlagIsset header.flags packetFlagRst = false

instance (world : World) (header : PacketHeader) : Decidable (Heard world header) :=
  inferInstanceAs (Decidable (_ ∧ _))

/-- The packet is pushed as this chunk: the first one as a configuration, later ones as data. The
last ACK after a configuration tells the window that was open before, the last one after data tells
that it is closed. -/
inductive Pushes (world : World) (header : PacketHeader) (payload : Memory) (next : World) :
    Chunk → Prop where
  | config : world.session.state = .synSent →
      (world.session.receiveWindow = sessionWindowSize → Tells sessionWindowSize world next) →
      Pushes world header payload next (configChunk header payload)
  | data : world.session.state = .establsh → Tells 0 world next →
      Pushes world header payload next (dataChunk header payload world.session.chunk)

/-- Everything the state machine can do with one packet: its result, and the client left. -/
inductive Reaction (world : World) (header : PacketHeader) (payload : Memory) :
    Int32 → World → Prop where
  /-- The packet has been acknowledged before. -/
  | dropped : ¬ Accepted header world.session.ack → Reaction world header payload 0 world
  /-- The server reports an error. -/
  | failed : Accepted header world.session.ack →
      packetFlagIsset header.flags packetFlagRst = true →
      packetFlagIsset header.flags packetFlagErr = true →
      Reaction world header payload (packetErrDecode payload).err (acked world header)
  /-- The server has finished. -/
  | finished : Accepted header world.session.ack →
      packetFlagIsset header.flags packetFlagRst = true →
      packetFlagIsset header.flags packetFlagErr = false →
      packetFlagIsset header.flags packetFlagFin = true →
      Reaction world header payload 0
        { acked world header with
          session := { (acked world header).session with state := .finished } }
  /-- The server resets the session. -/
  | reset : Accepted header world.session.ack →
      packetFlagIsset header.flags packetFlagRst = true →
      packetFlagIsset header.flags packetFlagErr = false →
      packetFlagIsset header.flags packetFlagFin = false →
      Reaction world header payload econnreset (acked world header)
  /-- The packet is pushed to the sink. -/
  | pushed {chunk : Chunk} {next : World} : Heard world header →
      Pushes world header payload next chunk →
      Acks (pushing (acked world header) chunk) next → WellFormed next →
      Reaction world header payload 0 next
  /-- The session has not begun or is over. -/
  | ignored : Heard world header → world.session.state ≠ .synSent →
      world.session.state ≠ .establsh → Reaction world header payload 0 (acked world header)

section

variable {world next : World} {sink : Sink} {header : PacketHeader} {payload : Memory}

/-- A packet that is not accepted changes nothing. -/
theorem Reaction.of_not_accepted {err : Int32} (reaction : Reaction world header payload err next)
    (behind : ¬ Accepted header world.session.ack) : next = world ∧ err = 0 := by
  cases reaction with
  | dropped => exact ⟨rfl, rfl⟩
  | failed accepted => exact (behind accepted).elim
  | finished accepted => exact (behind accepted).elim
  | reset accepted => exact (behind accepted).elim
  | pushed heard => exact (behind heard.1).elim
  | ignored heard => exact (behind heard.1).elim

/-- A packet leaves a client well-formed. -/
theorem Reaction.wellFormed {err : Int32} (reaction : Reaction world header payload err next)
    (formed : WellFormed world) : WellFormed next := by
  cases reaction with
  | dropped => exact formed
  | failed => exact formed.acked header
  | finished =>
      refine ⟨formed.idle, fun state => ?_⟩
      cases state
  | reset => exact formed.acked header
  | pushed heard pushes acks formed => exact formed
  | ignored => exact formed.acked header

/-- What only acknowledges, acknowledges as well beside an established session and a push. -/
theorem Acks.pushing {before after : World} (acks : Acks before after) (chunk : Chunk) :
    Acks (pushing before chunk) (pushing after chunk) := by
  obtain ⟨seq, window, logic, session⟩ := acks.session
  refine ⟨⟨seq, window, logic, ?_⟩, ?_, acks.env, acks.calls⟩
  · simp only [Client.pushing, session]
  · simp only [Client.pushing, acks.pushed]

/-- A push forgets the chunk of the push before. -/
theorem pushing_withChunk (world : World) (chunk chunk' : Chunk) :
    pushing (world.withChunk chunk') chunk = pushing world chunk := rfl

/-- The push of the chunk the client holds, in the established state. -/
def holding (world : World) : World :=
  { world with pushed := world.pushed ++ [world.session.chunk] }

/-- A world holding a chunk pushes it. -/
theorem holding_withChunk {world : World} (state : world.session.state = .establsh)
    (chunk : Chunk) : holding (world.withChunk chunk) = pushing world chunk := by
  unfold holding pushing World.withChunk
  simp only [← state]

/-- Acknowledging before a push of the chunk the client holds. -/
theorem Acks.then_push {before asking : World} (asked : Acks before asking) {chunk : Chunk}
    (held : asking.session.chunk = chunk)
    (pushed : Acks (holding (asking.withState .establsh)) next) :
    Acks (Client.pushing before chunk) next := by
  subst held
  exact (asked.pushing _).trans pushed

/-- A push runs the calls of the sink. -/
theorem sessionPush_asking {before : World} (formed : WellFormed before)
    (done : sessionPush sink before = .ok next) :
    WellFormed next ∧ ∃ times link, next = ofStarted ⟨link, asking^[times] (holding before)⟩ := by
  unfold sessionPush at done
  cases set : before.session.sinkLogic with
  | none =>
      rw [set] at done
      cases done
  | some link =>
      rw [set] at done
      change (inletCalls (sink.onPush before.pushed before.session.chunk)
        ⟨link, holding before⟩).map ofStarted = .ok next at done
      obtain ⟨⟨link', world⟩, called, same⟩ := map_eq_ok done
      obtain ⟨idle, times, asked⟩ := inletCalls_asking _ (formed.idle link set) called
      subst same
      refine ⟨⟨?_, fun _ => rfl⟩, times, link', by rw [← asked]⟩
      rintro _ ⟨⟩
      exact idle

/-- A push at most sends ACKs. -/
theorem sessionPush_acks {before : World} (formed : WellFormed before)
    (done : sessionPush sink before = .ok next) :
    Acks (holding before) next ∧ WellFormed next := by
  obtain ⟨formed', times, link, rfl⟩ := sessionPush_asking formed done
  exact ⟨(acks_asking times _).trans (acks_ofStarted link _), formed'⟩

/-- The client that has connected its sink, which has asked the server some times, and has
acknowledged the first packet. -/
def connecting (times : Nat) (link : Link) (world : World) : World :=
  (sessionAck (ofStarted ⟨link, asking^[times] world⟩)).2

theorem acks_connecting (times : Nat) (link : Link) (world : World) :
    Acks world (connecting times link world) :=
  ((acks_asking times world).trans (acks_ofStarted link _)).trans (sessionAck_acks _)

/-- Connecting the sink tells the full window. -/
theorem connecting_tells (times : Nat) (link : Link) {world : World}
    (opened : world.session.receiveWindow = sessionWindowSize) :
    Tells sessionWindowSize world (connecting times link world) := by
  have told := sessionAck_tells (ofStarted ⟨link, asking^[times] world⟩)
  have kept : (ofStarted ⟨link, asking^[times] world⟩).session.receiveWindow =
      sessionWindowSize := asking_window times opened
  rw [kept] at told
  exact Tells.after_acks ((acks_asking times world).trans (acks_ofStarted link _)) told

/-- The client that has pushed its first chunk, whose sink has asked the server some times more. -/
def connected (times : Nat) (link : Link) (world : World) : World :=
  ofStarted ⟨link, asking^[times] (holding (world.withState .establsh))⟩

/-- A connected sink has acknowledged behind its first chunk. -/
theorem acks_connected {before world : World} (asked : Acks before world) {chunk : Chunk}
    (held : world.session.chunk = chunk) (times : Nat) (link : Link) :
    Acks (pushing before chunk) (connected times link world) :=
  asked.then_push held ((acks_asking times _).trans (acks_ofStarted link _))

/-- The window told stays told while the first chunk is pushed. -/
theorem Tells.connected {before world : World} (told : Tells sessionWindowSize before world)
    (times : Nat) (link : Link) : Tells sessionWindowSize before (connected times link world) := by
  have pushed : Tells sessionWindowSize before (holding (world.withState .establsh)) :=
    told.congr rfl rfl
  exact (pushed.then_asking times).congr rfl rfl

/-- Before its first push the client still holds the chunk it has been given. -/
theorem connecting_chunk (times : Nat) (link : Link) (world : World) :
    (connecting times link world).session.chunk = world.session.chunk := by
  obtain ⟨seq, window, logic, session⟩ := (acks_connecting times link world).session
  rw [session]

/-- The first packet starts the pipeline and is pushed as a configuration. -/
theorem sessionStart_asking {err : Int32}
    (done : sessionStart sink header payload world = .ok (err, next)) :
    err = 0 ∧ WellFormed next ∧ ∃ times link times' link',
      next = connected times' link'
        (connecting times link (world.withChunk (configChunk header payload))) := by
  unfold sessionStart at done
  rw [pipelineStart_eq] at done
  generalize configChunk header payload = chunk at done ⊢
  obtain ⟨⟨err', started⟩, first, done⟩ := bind_eq_ok done
  obtain ⟨⟨link, world'⟩, connected, same⟩ := map_eq_ok first
  obtain ⟨rfl, rfl⟩ := Prod.mk.inj same
  obtain ⟨idle, times, asked⟩ := inletCalls_asking sink.onConnect rfl connected
  subst asked
  have done : (sessionPush sink ((connecting times link (world.withChunk chunk)).withState
      .establsh)).map (fun world => (0, world)) = .ok (err, next) := done
  obtain ⟨after, pushed, same⟩ := map_eq_ok done
  obtain ⟨rfl, rfl⟩ := Prod.mk.inj same
  have formed : WellFormed ((connecting times link (world.withChunk chunk)).withState .establsh) := by
    refine ⟨?_, fun _ => rfl⟩
    rintro _ ⟨⟩
    exact idle
  obtain ⟨formed', times', link', rfl⟩ := sessionPush_asking formed pushed
  exact ⟨rfl, formed', times, link, times', link', rfl⟩

/-- The first push, whatever chunk it is of, is answered by ACKs, the last of them with an open
window. -/
theorem connected_tells (times : Nat) (link : Link) (times' : Nat) (link' : Link) (world : World)
    (chunk : Chunk) :
    Acks (pushing world chunk)
        (connected times' link' (connecting times link (world.withChunk chunk))) ∧
      (world.session.receiveWindow = sessionWindowSize → Tells sessionWindowSize world
        (connected times' link' (connecting times link (world.withChunk chunk)))) := by
  have acks := acks_connected (acks_connecting times link (world.withChunk chunk))
    (connecting_chunk times link _) times' link'
  rw [pushing_withChunk] at acks
  refine ⟨acks, fun opened => ?_⟩
  have told := @connecting_tells times link (world.withChunk chunk) opened
  exact (told.connected times' link').congr rfl rfl

/-- The first packet is answered by ACKs, the last of them with an open window. -/
theorem sessionStart_acks {err : Int32}
    (done : sessionStart sink header payload world = .ok (err, next)) :
    err = 0 ∧ Acks (pushing world (configChunk header payload)) next ∧ WellFormed next ∧
      (world.session.receiveWindow = sessionWindowSize → Tells sessionWindowSize world next) := by
  obtain ⟨none, formed, times, link, times', link', same⟩ := sessionStart_asking done
  have both := connected_tells times link times' link' world (configChunk header payload)
  rw [← same] at both
  exact ⟨none, both.1, formed, both.2⟩

/-- A later packet is a push, and an ACK that closes the window. -/
theorem sessionStream_eq (sink : Sink) (header : PacketHeader) (payload : Memory) (world : World) :
    sessionStream sink header payload world =
      (sessionPush sink (world.withChunk (dataChunk header payload world.session.chunk))).map
        fun after => (0, (sessionAck (after.withWindow 0)).2) := by
  unfold sessionStream
  cases sessionPush sink (world.withChunk (dataChunk header payload world.session.chunk)) <;> rfl

/-- A later packet is pushed as data. -/
theorem sessionStream_acks {err : Int32} (formed : WellFormed world)
    (state : world.session.state = .establsh)
    (done : sessionStream sink header payload world = .ok (err, next)) :
    err = 0 ∧ Acks (pushing world (dataChunk header payload world.session.chunk)) next ∧
      WellFormed next ∧ Tells 0 world next := by
  rw [sessionStream_eq] at done
  obtain ⟨after, pushed, same⟩ := map_eq_ok done
  obtain ⟨rfl, rfl⟩ := Prod.mk.inj same
  generalize dataChunk header payload world.session.chunk = chunk at pushed ⊢
  obtain ⟨acks, after'⟩ := sessionPush_acks (formed.withChunk chunk) pushed
  rw [holding_withChunk state] at acks
  refine ⟨rfl, (acks.trans (acks_withWindow after 0)).trans (sessionAck_acks _),
    ⟨after'.idle, after'.connected⟩, ?_⟩
  exact (Tells.after_acks (acks.trans (acks_withWindow after 0)) (sessionAck_tells _)).congr rfl rfl

/-- A packet heard before the configuration starts the pipeline. -/
theorem stateMachine_synSent (heard : Heard world header) (count : Nat)
    (state : world.session.state = .synSent) :
    sessionStateMachine sink header payload count world =
      sessionStart sink header payload (acked world header) := by
  unfold sessionStateMachine
  rw [if_neg heard.1]
  simp only [heard.2, Bool.false_eq_true, ↓reduceIte, state, acked]

/-- A packet heard after the configuration is data. -/
theorem stateMachine_establsh (heard : Heard world header) (count : Nat)
    (state : world.session.state = .establsh) :
    sessionStateMachine sink header payload count world =
      sessionStream sink header payload (acked world header) := by
  unfold sessionStateMachine
  rw [if_neg heard.1]
  simp only [heard.2, Bool.false_eq_true, ↓reduceIte, state, acked]

/-- In every other state a packet is only acknowledged. -/
theorem stateMachine_other (heard : Heard world header) (count : Nat)
    (notWaiting : world.session.state ≠ .synSent) (notStreaming : world.session.state ≠ .establsh) :
    sessionStateMachine sink header payload count world = .ok (0, acked world header) := by
  unfold sessionStateMachine
  rw [if_neg heard.1]
  simp only [heard.2, Bool.false_eq_true, ↓reduceIte]
  rfl

/-- A reset is answered from the header, and the error code where it has one. -/
theorem stateMachine_reset {header : PacketHeader} {payload : Memory}
    (accepted : Accepted header world.session.ack)
    (reset : packetFlagIsset header.flags packetFlagRst = true) (count : Nat) :
    sessionStateMachine sink header payload count world =
      if packetFlagIsset header.flags packetFlagErr then
        .ok ((packetErrDecode payload).err, acked world header)
      else if packetFlagIsset header.flags packetFlagFin then
        .ok (0, (acked world header).withState .finished)
      else .ok (econnreset, acked world header) := by
  rw [sessionStateMachine, if_neg accepted]
  exact if_pos reset

/-- What the state machine of the client returns is a reaction. -/
theorem reaction_of_stateMachine (formed : WellFormed world) {count : Nat} {err : Int32}
    (done : sessionStateMachine sink header payload count world = .ok (err, next)) :
    Reaction world header payload err next := by
  by_cases old : header.seq < world.session.ack
  · rw [sessionStateMachine, if_pos old] at done
    cases done
    exact .dropped fun accepted => accepted old
  cases reset : packetFlagIsset header.flags packetFlagRst with
  | true =>
      rw [stateMachine_reset old reset] at done
      cases error : packetFlagIsset header.flags packetFlagErr with
      | true =>
          rw [error, if_pos rfl] at done
          cases done
          exact .failed old reset error
      | false =>
          rw [error, if_neg Bool.false_ne_true] at done
          cases fin : packetFlagIsset header.flags packetFlagFin with
          | true =>
              rw [fin, if_pos rfl] at done
              cases done
              exact .finished old reset error fin
          | false =>
              rw [fin, if_neg Bool.false_ne_true] at done
              cases done
              exact .reset old reset error fin
  | false =>
      have heard : Heard world header := ⟨old, reset⟩
      by_cases waiting : world.session.state = .synSent
      · rw [stateMachine_synSent heard count waiting] at done
        obtain ⟨rfl, acks, after, told⟩ := sessionStart_acks done
        exact .pushed heard (.config waiting told) acks after
      by_cases streaming : world.session.state = .establsh
      · rw [stateMachine_establsh heard count streaming] at done
        obtain ⟨rfl, acks, after, told⟩ := sessionStream_acks (formed.acked header) streaming done
        exact .pushed heard (.data streaming told) acks after
      · rw [stateMachine_other heard count waiting streaming] at done
        cases done
        exact .ignored heard waiting streaming

end

end Sas.Client
