import Sas.System.Backlog
import Sas.Client.Progress
import Sas.Client.Reset

/-! # Sends that succeed

In an environment in which no send fails, neither party makes a failing one. So over lossless channels
every datagram that is on its way can arrive, and the party it arrives at handles it: the runs over
lossless channels go on as long as something is on its way.
-/

namespace Sas.System

open Foundation Transport

/-- Every send succeeds, and every send made so far has. -/
structure Calm (kernel : Kernel) : Prop where
  env : kernel.env.sendReply = fun _ => none
  fine : SendsFine kernel.calls

/-- One call more. -/
theorem Calm.call {kernel next : Kernel} (calm : Calm kernel) (same : next.env = kernel.env)
    {call : Syscall} (calls : next.calls = kernel.calls ++ [call]) (fine : Fine call) :
    Calm next := by
  refine ⟨by rw [same, calm.env], ?_⟩
  rw [calls]
  intro made member
  rcases List.mem_append.mp member with before | last
  · exact calm.fine made before
  · rwa [List.mem_singleton.mp last]

/-- Sending keeps the kernel calm. -/
theorem Calm.send {kernel : Kernel} (calm : Calm kernel) (destination : Option SockaddrIn6)
    (datagram : List UInt8) : Calm (kernel.sendDatagram destination datagram).2 := by
  refine calm.call rfl rfl ?_
  change kernel.env.sendReply kernel.calls.length = none
  rw [calm.env]

theorem Calm.close {kernel : Kernel} (calm : Calm kernel) (fd : Int) :
    Calm (kernel.closeFile fd) := calm.call rfl rfl trivial

/-- Reading keeps the kernel calm. -/
theorem Calm.read {kernel : Kernel} (calm : Calm kernel) (fd : Int) (size : Nat) :
    Calm (kernel.readFile fd size).2 := by
  unfold Kernel.readFile
  cases (kernel.env.readReply kernel.calls.length).atMost size with
  | data bytes => exact calm.call rfl rfl trivial
  | failed errno => exact calm.call rfl rfl trivial

/-! ## The server -/

section

open Server Rxc Formats

variable {session : Server.Session} {exchange : Exchange} {kernel : Kernel}

theorem Calm.sessionSend (calm : Calm kernel) (flags : UInt8) (length : UInt16) (body : Memory)
    (session : Server.Session) : Calm (Server.sessionSend flags length body session kernel).2.2 :=
  calm.send (some session.addr) _

/-- Calls that send nothing make no failing send. -/
theorem sendsFine_of_quiet {calls : List Syscall} (quiet : sentBy calls = []) : SendsFine calls := by
  intro call member
  cases call with
  | send destination datagram failure =>
      have sent : datagram ∈ sentBy calls := List.mem_filterMap.mpr ⟨_, member, rfl⟩
      rw [quiet] at sent
      cases sent
  | _ => trivial

/-- The handshake makes no failing send. -/
theorem calm_sessionOpen {header : PacketHeader} {payload : Memory} {outcome : Outcome}
    (calm : Calm kernel)
    (done : sessionOpen header payload session kernel = .ok outcome) : Calm outcome.kernel := by
  obtain ⟨_, _, asking, asked, flags, length, body, quiet, _, env, calls, silent, _, sends⟩ :=
    sessionOpen_sends done
  rw [sends]
  refine Calm.sessionSend ⟨?_, ?_⟩ flags length body asking
  · rw [env, calm.env]
  · rw [calls]
    exact List.forall_mem_append.mpr ⟨calm.fine, sendsFine_of_quiet silent⟩

/-- A pull makes no failing send. -/
theorem calm_sessionPull {source : Wav.Source} {outcome : Outcome} (calm : Calm kernel)
    (pipeline : session.pipeline = some source)
    (linked : session.sinkLogic = some (idleLink (demandOf source)))
    (done : sessionPull session kernel = .ok outcome) : Calm outcome.kernel := by
  have after : Calm (afterRead kernel source) := calm.read source.fd Wav.bufferSize
  cases finished : source.finished with
  | true =>
      rw [sessionPull_finished pipeline linked finished] at done
      cases done
      exact calm
  | false =>
      cases read : nextRead kernel with
      | failed errno =>
          rw [sessionPull_failed pipeline linked finished read] at done
          cases done
          exact (after.sessionSend _ _ _ _).close _
      | data bytes =>
          cases bytes with
          | nil =>
              rw [sessionPull_end pipeline linked finished read] at done
              cases done
              exact (after.close _).sessionSend _ _ _ _
          | cons byte bytes =>
              rw [sessionPull_chunk pipeline linked finished read] at done
              cases done
              exact after.sessionSend _ _ _ _

/-- A well-formed session makes no failing send. -/
theorem calm_handledBy {outcome : Outcome} (formed : WellFormed session)
    (calm : exchange.env.sendReply = fun _ => none)
    (handled : exchange.handledBy session = .ok outcome) : Calm outcome.kernel := by
  have entered : Calm exchange.kernel := ⟨calm, fun _ member => (List.not_mem_nil member).elim⟩
  by_cases old : exchange.header.seq < session.ack
  · cases (handledBy_behind old).symm.trans handled
    exact entered
  cases reset : packetFlagIsset exchange.header.flags packetFlagRst with
  | true =>
      cases (handledBy_reset old reset).symm.trans handled
      exact entered
  | false =>
      have heard : Heard session exchange.header := ⟨old, reset⟩
      rw [handledBy_heard heard] at handled
      rcases formed.initial_or_streaming with state | streaming
      · rw [state] at handled
        exact calm_sessionOpen entered handled
      · obtain ⟨source, pipeline, _, linked⟩ := (wellFormed_streaming streaming).mp formed
        rcases streaming with state | state
        · rw [state] at handled
          exact @calm_sessionPull (pulling session exchange.header) _ _ _ entered pipeline linked
            handled
        · rw [state] at handled
          exact @calm_sessionPull (acked session exchange.header) _ _ _ entered pipeline linked
            handled

end

/-! ## The client -/

section

open Client Rxc

variable {sink : Sink} {world next : World}

theorem calm_sessionAck (calm : Calm world.kernel) : Calm (sessionAck world).2.kernel :=
  calm.send none _

/-- Acknowledging any number of times keeps the kernel calm. -/
theorem calm_asking (times : Nat) (calm : Calm world.kernel) :
    Calm (asking^[times] world).kernel := by
  induction times with
  | zero => exact calm
  | succ times ih =>
      rw [Function.iterate_succ_apply']
      exact @calm_sessionAck ((asking^[times] world).withWindow sessionWindowSize) ih

/-- A push makes no failing send. -/
theorem calm_sessionPush (formed : WellFormed world) (calm : Calm world.kernel)
    (done : sessionPush sink world = .ok next) : Calm next.kernel := by
  obtain ⟨_, times, link, rfl⟩ := sessionPush_asking formed done
  exact @calm_asking (holding world) times calm

/-- The state machine of the client makes no failing send. -/
theorem calm_stateMachine {header : PacketHeader} {payload : Memory} {count : Nat} {err : Int32}
    (formed : WellFormed world) (calm : Calm world.kernel)
    (done : sessionStateMachine sink header payload count world = .ok (err, next)) :
    Calm next.kernel := by
  by_cases old : header.seq < world.session.ack
  · rw [sessionStateMachine, if_pos old] at done
    cases done
    exact calm
  cases reset : packetFlagIsset header.flags packetFlagRst with
  | true =>
      rw [stateMachine_reset old reset] at done
      split at done
      · cases done
        exact calm
      · split at done
        · cases done
          exact calm
        · cases done
          exact calm
  | false =>
      have heard : Client.Heard world header := ⟨old, reset⟩
      by_cases waiting : world.session.state = .synSent
      · rw [stateMachine_synSent heard count waiting] at done
        obtain ⟨_, _, times, link, times', link', rfl⟩ := sessionStart_asking done
        have first : Calm (connecting times link
            ((acked world header).withChunk (configChunk header payload))).kernel :=
          calm_sessionAck (@calm_asking
            ((acked world header).withChunk (configChunk header payload)) times calm)
        exact @calm_asking (holding ((connecting times link
          ((acked world header).withChunk (configChunk header payload))).withState .establsh))
          times' first
      by_cases streaming : world.session.state = .establsh
      · rw [stateMachine_establsh heard count streaming, sessionStream_eq] at done
        obtain ⟨after, pushed, same⟩ := map_eq_ok done
        obtain ⟨_, rfl⟩ := Prod.mk.inj same
        have told : Calm after.kernel :=
          calm_sessionPush ((formed.acked header).withChunk _) calm pushed
        exact @calm_sessionAck (after.withWindow 0) told
      · rw [stateMachine_other heard count waiting streaming] at done
        cases done
        exact calm

/-- An iteration that receives a datagram makes no failing send. -/
theorem calm_clientStep {config target : Config} {input : Input} (formed : WellFormed config.world)
    (calm : input.env.sendReply = fun _ => none) (selecting : config.stage = .select)
    {datagram : List UInt8} (received : input.datagram? = some datagram)
    (done : clientStep sink input config = .ok target) : SendsFine target.world.kernel.calls := by
  rw [clientStep_received selecting received, receiveDatagram_eq] at done
  obtain ⟨⟨err, world⟩, handled, rfl⟩ := map_eq_ok done
  have entered : Calm (enter config.world input.env).kernel :=
    ⟨calm, fun _ member => (List.not_mem_nil member).elim⟩
  have after := (calm_stateMachine (formed.enter input.env) entered handled).fine
  unfold goOn
  split
  · exact after
  · exact after

end

/-! ## Runs that go on -/

section

variable {sink : Client.Sink} {addr : SockaddrIn6} {pair : Pair} {datagram : List UInt8} {env : Env}

/-- The memory of a new session, where it holds zeroes. -/
def blankSession : Server.Uninitialized := ⟨0, 0, 0, 0, 0⟩

/-- A datagram on its way to the server can arrive, in any environment in which no send fails. -/
theorem Formed.serves (formed : Formed pair)
    (arrives : inOrder pair.toServer.sent pair.toServer.arrived datagram)
    (calm : env.sendReply = fun _ => none) (addr : SockaddrIn6) :
    ∃ calls after,
      LosslessStep sink addr pair (.server datagram (exchangeOf datagram env) blankSession calls)
        (pair.serverTurn calls after) ∧
      Server.Reaction (pair.current addr blankSession) (exchangeOf datagram env) calls after := by
  have current := formed.current addr blankSession
  obtain ⟨outcome, handled, reaction⟩ :=
    Server.handledBy_reacts current (exchangeOf datagram env)
  exact ⟨_, _, ⟨.server ⟨blank, rfl, rfl, rfl⟩ arrives ⟨outcome, handled, rfl, rfl⟩,
    (calm_handledBy current calm handled).fine⟩, reaction⟩

/-- A datagram on its way to the client can arrive in any receive buffer, in any environment in which
no send fails. -/
theorem Formed.takes (formed : Formed pair) (once : sink.CancelsOnce)
    (serving : Client.Serving sink pair.client.world) (selecting : pair.client.stage = .select)
    (arrives : inOrder pair.toClient.sent pair.toClient.arrived datagram)
    (calm : env.sendReply = fun _ => none) (addr : SockaddrIn6) (buffer : Memory) :
    ∃ calls client,
      Client.ClientStep sink pair.client ⟨⟨env, .readable, .ok datagram, buffer⟩, calls⟩ client ∧
      LosslessStep sink addr pair (.client ⟨⟨env, .readable, .ok datagram, buffer⟩, calls⟩)
        (pair.clientTurn ⟨⟨env, .readable, .ok datagram, buffer⟩, calls⟩ client) ∧
      Client.Serving sink client.world := by
  obtain ⟨client, done, serving'⟩ := Client.clientStep_total once formed.1 serving
    ⟨env, .readable, .ok datagram, buffer⟩
  have stepped : Client.ClientStep sink pair.client
      ⟨⟨env, .readable, .ok datagram, buffer⟩, client.world.kernel.calls⟩ client :=
    ⟨selecting, done, rfl⟩
  refine ⟨_, client, stepped, ⟨.client stepped ?_, rfl, ?_⟩, serving'⟩
  · rintro _ ⟨⟩
    exact arrives
  · exact calm_clientStep formed.1.formed calm selecting rfl done

end

end Sas.System
