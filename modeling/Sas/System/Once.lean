import Sas.Client.Demand
import Sas.Client.Once
import Sas.Server.Once
import Sas.Server.Stream

/-! # At most once

Both state machines drop a packet they have accepted before, whatever has been delivered since, up to
the packet that takes a number behind the last one: the number they keep starts over then, and
everything is accepted again.
-/

namespace Sas.System

open Foundation Transport

/-- **Packets are processed once.** At every moment of a run of a session, and of the packets delivered
to a client, whatever has been accepted is dropped from then on, what has been accepted shares no
numbers, and the number kept has never been greater, exactly if no packet makes the session or the
client start over. -/
theorem processed_once_iff {addr : SockaddrIn6} {memory : Server.Uninitialized}
    {events : List Server.SessionEvent} {target : Server.Audited}
    (session : Run Server.AuditedStep (some (Server.sessionCreate addr memory), .empty) events target)
    {sink : Client.Sink} {name : List UInt8} {chunk : Chunk} {env : Env} {start : Client.Config}
    {deliveries : List Client.Delivery} {heard : Client.Audited}
    (begun : Client.receive name chunk env = .ok start)
    (client : Run (Client.AuditedStep sink) (start.world, .empty) deliveries heard) :
    (Run.Always Server.AuditedStep (some (Server.sessionCreate addr memory), .empty) events
        Server.ProcessesOnce ↔
      Run (fun before event after =>
          Server.AuditedStep before event after ∧ Server.Contained before event)
        (some (Server.sessionCreate addr memory), .empty) events target) ∧
    (Run.Always (Client.AuditedStep sink) (start.world, .empty) deliveries
        (Client.ProcessesOnce sink) ↔
      Run (fun before delivery after =>
          Client.AuditedStep sink before delivery after ∧ ¬ Client.StartsOver before.1 delivery)
        (start.world, .empty) deliveries heard) :=
  ⟨Server.processesOnce_iff session, Client.processesOnce_iff begun client⟩

/-! ## A song and a packet with the last number -/

/-- The first data of the song, as it is delivered to the client. -/
def songDelivery : Client.Delivery where
  header := headerOf Client.songSynAck
  payload := (receiveInto (fun _ => 0) Client.songSynAck).shift packetHeaderSize
  count := Client.songSynAck.length
  env := Client.calmEnv

/-- What the client makes of it. -/
def songHandled : Int32 × Client.World :=
  (songDelivery.handledBy Client.driversIgnore Client.songStart.world).toOption.getD
    (0, Client.songStart.world)

/-- The server streams the song, and the client receives its parameters. -/
theorem processed_once_song : ∃ ledger,
    (Run.Always Server.AuditedStep
        (some (Server.sessionCreate Server.listener ⟨0, 0, 0, 0, 0⟩), .empty)
        Server.songEvents.1 Server.ProcessesOnce ↔
      Run (fun before event after =>
          Server.AuditedStep before event after ∧ Server.Contained before event)
        (some (Server.sessionCreate Server.listener ⟨0, 0, 0, 0, 0⟩), .empty)
        Server.songEvents.1 (Server.songEvents.2, ledger)) ∧
    (Run.Always (Client.AuditedStep Client.driversIgnore) (Client.songStart.world, .empty)
        [songDelivery] (Client.ProcessesOnce Client.driversIgnore) ↔
      Run (fun before delivery after =>
          Client.AuditedStep Client.driversIgnore before delivery after ∧
            ¬ Client.StartsOver before.1 delivery)
        (Client.songStart.world, .empty) [songDelivery]
        (songHandled.2, Ledger.empty.note 0 songDelivery.header)) := by
  obtain ⟨ledger, run⟩ := Server.audited_of_run (Server.replay_run _ _) .empty
  have handled : songDelivery.handledBy Client.driversIgnore Client.songStart.world =
      .ok songHandled := eq_ok_getD (by decide +kernel) _
  exact ⟨ledger, processed_once_iff run Client.songStart_begun
    (Run.singleton ⟨songHandled.1, handled, rfl⟩)⟩

/-- A packet with the last sequence number that is not a SYN. -/
def lastNumber : Server.Exchange :=
  { Server.songSyn with header := ⟨0xFFFFFFFF, 0, 0, 0, 0, 0⟩ }

/-- What a new session makes of it. -/
def lastHandled : Server.Outcome :=
  (lastNumber.handledBy (Server.sessionCreate Server.listener ⟨0, 0, 0, 0, 0⟩)).toOption.getD
    ⟨Server.sessionCreate Server.listener ⟨0, 0, 0, 0, 0⟩, lastNumber.kernel, false⟩

/-- A packet with the last sequence number is answered as often as it is delivered. -/
theorem not_processed_once :
    ¬ ∀ (addr : SockaddrIn6) (memory : Server.Uninitialized) (events : List Server.SessionEvent)
      (session : Server.Session) (ledger : Ledger),
      Run Server.AuditedStep (some (Server.sessionCreate addr memory), .empty) events
        (some session, ledger) →
      ∀ exchange : Server.Exchange, exchange.header ∈ ledger.accepted →
        exchange.handledBy session = .ok ⟨session, exchange.kernel, false⟩ := by
  intro once
  have handled : lastNumber.handledBy (Server.sessionCreate Server.listener ⟨0, 0, 0, 0, 0⟩) =
      .ok lastHandled := eq_ok_getD (by decide +kernel) _
  have alive : lastHandled.deleted = false := by decide +kernel
  have step : Server.SessionStep (some (Server.sessionCreate Server.listener ⟨0, 0, 0, 0, 0⟩))
      (.packet lastNumber lastHandled.kernel.calls) (some lastHandled.session) :=
    ⟨lastHandled, handled, rfl, by rw [alive]; rfl⟩
  have again := once _ _ _ _ _ (Run.singleton ⟨_, rfl, step, rfl⟩) lastNumber
    (List.mem_singleton_self lastNumber.header)
  have answered : (lastNumber.handledBy lastHandled.session).toOption.map
      (fun outcome => outcome.kernel.calls.length) = some 1 := by decide +kernel
  rw [again] at answered
  cases answered

end Sas.System
