import Sas.System.Completion
import Sas.System.Crowd

/-! # Transfers from a server that others use too

A transfer completes next to any other clients: the server does for each of them what it does for a
client of its own, so what holds of a transfer over a pair holds of a transfer in a crowd.
-/

namespace Sas.System

open Foundation Transport Formats

/-- What is read in a glimpse. -/
def Glimpse.reads : Glimpse → List ReadReply
  | .answer _ calls => readsBy calls
  | .client _ => []
  | .expiry => []

/-- In the glimpse nothing is lost, no file is missed, and the session does not expire. -/
def Glimpse.Smooth : Glimpse → Prop
  | .client event => event.input.datagram?.isSome ∧ SendsFine event.calls
  | .answer _ calls => SendsFine calls ∧ ∀ call ∈ calls, ¬ Misses call
  | .expiry => False

instance : DecidablePred Glimpse.Smooth
  | .client event =>
      inferInstanceAs (Decidable (event.input.datagram?.isSome ∧ SendsFine event.calls))
  | .answer _ calls =>
      have : Decidable (∀ call ∈ calls, ¬ Misses call) :=
        List.decidableBAll (fun call => ¬ Misses call) calls
      inferInstanceAs (Decidable (SendsFine calls ∧ ∀ call ∈ calls, ¬ Misses call))
  | .expiry => isFalse not_false

/-- What a crowd shows of its client. -/
def glimpsesOf (events : List CrowdEvent) : List Glimpse := events.flatMap CrowdEvent.glimpses

/-- The replies to the reads made for the client of a crowd. -/
def readsFor (events : List CrowdEvent) : List ReadReply := (glimpsesOf events).flatMap Glimpse.reads

/-- A run in which the channels of one client lose, duplicate and reorder nothing, in which its session
does not expire, and in which the server finds this file for it and reads it without a failure. -/
structure SharedTransfer (sink : Client.Sink) (addr : SockaddrIn6) (file : List UInt8)
    (start : Client.Config) (config : Server.Config) (events : List CrowdEvent) (crowd : Crowd) :
    Prop where
  run : Run (UntangledStep inOrder sink addr) (.start start config) events crowd
  smooth : ∀ glimpse ∈ glimpsesOf events, glimpse.Smooth
  delivers : Delivers file (readsFor events)
  header : Server.HeaderRead (readsFor events)
  succeeds : ∀ reply ∈ readsFor events, Succeeds reply

section

variable {sink : Client.Sink} {addr : SockaddrIn6} {start : Client.Config} {config : Server.Config}
  {events : List CrowdEvent} {crowd : Crowd} {file name : List UInt8} {memory : Chunk} {env : Env}

/-- What an event reads is what its glimpses read. -/
theorem PairEvent.reads_glimpses (event : PairEvent) :
    event.glimpses.flatMap Glimpse.reads = event.reads := by
  cases event with
  | client event => rfl
  | server datagram exchange memory calls => exact List.append_nil _
  | marked timeout next => rfl
  | expired => rfl

/-- What has been read in a run is what its glimpses read. -/
theorem readsOf_glimpses (events : List PairEvent) :
    readsOf events = (events.flatMap PairEvent.glimpses).flatMap Glimpse.reads := by
  rw [List.flatMap_assoc, readsOf]
  exact List.flatMap_congr fun event _ => event.reads_glimpses.symm

/-- An event of a pair that shows nothing but smooth glimpses loses nothing and misses no file. -/
theorem PairEvent.smooth {event : PairEvent}
    (smooth : ∀ glimpse ∈ event.glimpses, glimpse.Smooth) : Lossless event ∧ Found event := by
  cases event with
  | client event => exact ⟨smooth _ (List.mem_singleton_self _), trivial⟩
  | server datagram exchange memory calls => exact smooth _ (List.mem_singleton_self _)
  | marked timeout next => exact ⟨trivial, trivial⟩
  | expired => exact (smooth _ (List.mem_singleton_self _)).elim

/-- A transfer in a crowd is a transfer over the pair of its client. -/
theorem SharedTransfer.alone (initial : Server.Initial config)
    (transfer : SharedTransfer sink addr file start config events crowd) :
    ∃ pairEvents session, Transfer sink addr file start pairEvents
      ⟨crowd.client, session, crowd.toServer, crowd.toClient⟩ := by
  obtain ⟨pairEvents, session, run, _, shown⟩ := crowd_is_pair initial transfer.run
  have reads : readsOf pairEvents = readsFor events := by
    rw [readsOf_glimpses, shown]
    rfl
  have smooth : ∀ event ∈ pairEvents, Lossless event ∧ Found event := by
    intro event member
    refine PairEvent.smooth fun glimpse visible => transfer.smooth glimpse ?_
    change glimpse ∈ events.flatMap CrowdEvent.glimpses
    rw [← shown]
    exact List.mem_flatMap.mpr ⟨event, member, visible⟩
  refine ⟨pairEvents, session, ⟨⟨?_, ?_, ?_, ?_⟩, fun event member => (smooth event member).2⟩⟩
  · exact run.mono_of_mem fun _ event _ member step => ⟨step, (smooth event member).1⟩
  · rw [reads]
    exact transfer.delivers
  · rw [reads]
    exact transfer.header
  · rw [reads]
    exact transfer.succeeds

/-- **A transfer completes next to any other clients.** Where the channels of one client lose, duplicate
and reorder nothing, its session does not expire, and the server finds, accepts and reads its file:
whatever the others send, as long as no packet in its bucket meets a session of another host, the client
that has returned has returned success and has been sent the whole file behind its header, and no more
datagrams arrive for it and from it than twice the bytes of the file, five, and the calls of its sink. -/
theorem shared_transfer_completes (initial : Server.Initial config) (accepted : Accepts file)
    (begun : Client.receive name memory env = .ok start) (waits : start.stage = .select)
    (transfer : SharedTransfer sink addr file start config events crowd) :
    (∀ code, crowd.client.stage = .returned code →
        code = 0 ∧ streamOf crowd.toClient.delivered = file.drop Wav.waveHeaderSize) ∧
      crowd.toServer.arrived + crowd.toClient.arrived ≤
        2 * (file.drop Wav.waveHeaderSize).length + 5 +
          (Client.sinkCalls sink crowd.client.world.pushed).length := by
  obtain ⟨pairEvents, session, alone⟩ := transfer.alone initial
  have few := alone.countP_delivers begun waits
  rw [LosslessRun.countP_delivers alone.run.run] at few
  exact ⟨fun code returned => alone.returned accepted begun waits returned, few⟩

end

/-! ## Two clients -/

/-- The song of nine bytes is asked for, streamed and ended, while another client opens a file and
reads from it. -/
def sharedNineTurns : List CrowdTurn :=
  let sent := nineStreamed.2.toServer.sent
  iteration (Server.datagramFrom Server.secondClient 0 packetFlagSyn Server.opening 0) ++
    iteration (fromListener sent 0 (Server.songEnv fun _ => .data Server.songHeader)) ++
    .client 0 Client.calmEnv ::
    iteration (Server.datagramFrom Server.secondClient 5 0 (Server.songEnv fun _ => .data [4]) 0) ++
    iteration (fromListener sent 1 (Server.songEnv fun _ => .data [1, 2, 3, 4, 5, 6, 7, 8, 9])) ++
    .client 1 Client.calmEnv ::
    iteration (fromListener sent 2 (Server.songEnv fun _ => .data [])) ++ [.client 2 Client.calmEnv]

/-- What happens then. -/
def sharedNine : List CrowdEvent × Crowd :=
  songCrowd.replay inOrder Client.driversIgnore Server.listener sharedNineTurns

/-- The example is a transfer on a shared server. -/
theorem sharedNine_run : SharedTransfer Client.driversIgnore Server.listener nineBytes
    Client.songStart Server.beginning sharedNine.1 sharedNine.2 := by
  have reads : readsFor sharedNine.1 =
      [.data Server.songHeader, .data [1, 2, 3, 4, 5, 6, 7, 8, 9], .data []] := by
    decide +kernel
  refine ⟨Crowd.replay_run _ (Server.sound_initial Server.initial_beginning) _, by decide +kernel,
    ?_, ?_, ?_⟩
  · rw [reads]
    exact ⟨List.prefix_append _ _, by decide, by decide, by decide, by decide, by decide, trivial⟩
  · rw [reads]
    rintro header later ⟨⟩
    rfl
  · rw [reads]
    exact List.forall_mem_cons.mpr ⟨trivial, List.forall_mem_cons.mpr
      ⟨trivial, List.forall_mem_singleton.mpr trivial⟩⟩

/-- The song of nine bytes is transferred next to another one. -/
theorem shared_transfer_completes_nine :
    streamOf sharedNine.2.toClient.delivered = nineBytes.drop Wav.waveHeaderSize :=
  ((shared_transfer_completes Server.initial_beginning (by decide +kernel) Client.songStart_begun
    (by decide +kernel) sharedNine_run).1 0 (by decide +kernel)).2

end Sas.System
