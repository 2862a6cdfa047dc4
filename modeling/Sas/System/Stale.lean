import Sas.Server.Stale
import Sas.Server.Answer
import Sas.Client.Stale

/-! # Datagrams judged by their own bytes

Both programs receive into a buffer they never clear, and neither state machine looks at the number
of bytes received. What either makes of a datagram is settled by the datagram exactly where the
datagram holds all that is read.
-/

namespace Sas.System

open Foundation Transport Rxc Server

/-- **When a datagram is judged by its own bytes.** A session of the server, and a client whose sink
reads the bytes of its chunks only and cancels at most once, handles a datagram alike over all bytes
the receive buffer may have held exactly if the datagram contains every field, name and chunk that
is read on its way through the state machine. -/
theorem judged_by_bytes_iff {addr : SockaddrIn6} {memory : Uninitialized}
    {events : List SessionEvent} {session : Session}
    (run : SessionRun addr memory events (some session)) {sink : Client.Sink}
    (once : sink.CancelsOnce) (fair : sink.Fair) {name : List UInt8} {chunk : Chunk} {env : Env}
    {start target : Client.Config} {clientEvents : List Client.ClientEvent}
    (begun : Client.receive name chunk env = .ok start)
    (clientRun : Client.ClientRun sink start clientEvents target) (kernel : Kernel) (env' : Env)
    (datagram : List UInt8) :
    (Judges session kernel datagram ↔ Contains session datagram) ∧
      (Client.Judges sink (Client.enter target.world env') datagram ↔
        Client.Contains (Client.enter target.world env') datagram) := by
  refine ⟨judges_iff_contains (run.wellFormed session rfl), ?_⟩
  have underway := Client.ClientRun.underway begun clientRun
  have entered : Client.Underway (Client.enter target.world env') :=
    ⟨underway.formed.enter _, underway.phase, underway.waiting, underway.streaming⟩
  have serving := Client.ClientRun.serving once begun clientRun
  exact Client.judges_iff_contains once entered serving fair

/-- A SYN of seventeen bytes that claims eight bytes of a name behind them. -/
def overlongSyn : List UInt8 := [0, 0, 0, 0, 0, 0, 0, 0, 0, packetFlagSyn, 4, 0, 0, 9, 0, 0, 0]

/-- The sink of `drivers/ignore.c` never cancels, let alone twice. -/
theorem driversIgnore_once : Client.driversIgnore.CancelsOnce := by
  intro pushed
  rw [List.count_eq_zero.mpr (Client.driversIgnore_not_cancelled pushed)]
  exact Nat.zero_le 1

/-- The sink of `drivers/ignore.c` does not look at its chunks. -/
theorem driversIgnore_fair : Client.driversIgnore.Fair := fun _ _ => rfl

/-- A fresh session asks for the song by the bytes of its SYN, and the client with the ignore driver
takes the SYN-ACK by its bytes. -/
theorem judged_by_bytes_song :
    Judges (sessionCreate listener ⟨0, 0, 0, 0, 0⟩) ⟨Client.calmEnv, 0, []⟩
        (Client.packetOf ⟨0, 0, 0, packetFlagSyn, 1024, 5⟩ [0, 115, 111, 110, 103]) ∧
      Client.Judges Client.driversIgnore (Client.enter Client.songStart.world Client.calmEnv)
        Client.songSynAck := by
  have iff := @judged_by_bytes_iff _ _ _ _ (Run.nil : SessionRun listener ⟨0, 0, 0, 0, 0⟩ [] _) _
    driversIgnore_once driversIgnore_fair _ _ _ _ _ _ Client.songStart_begun Run.nil
    ⟨Client.calmEnv, 0, []⟩ Client.calmEnv
  refine ⟨(iff _).1.mpr (.inr (.inr ⟨by decide, fun _ _ => ⟨by decide, fun _ => .inl ?_⟩⟩)),
    (iff _).2.mpr (.inr ⟨by decide, ?_, fun _ => ⟨fun _ => ?_, ?_⟩⟩)⟩
  · decide +kernel
  · exact fun reset => absurd reset (by decide)
  · exact ⟨by decide, .inl (by decide +kernel)⟩
  · exact fun _ => .inl (by decide +kernel)

/-- The name the overlong SYN asks for ends in what the buffer held before. -/
theorem judged_by_bytes_overlong :
    ¬ ∀ (addr : SockaddrIn6) (memory : Uninitialized) (events : List SessionEvent)
      (session : Session), SessionRun addr memory events (some session) →
      ∀ kernel datagram, Judges session kernel datagram := by
  intro judged
  have judges := judged listener ⟨0, 0, 0, 0, 0⟩ [] _ Run.nil ⟨Client.calmEnv, 0, []⟩ overlongSyn
  rcases (judges_iff_contains (wellFormed_create _ _)).mp judges with behind | ⟨_, reset⟩ |
    ⟨_, opens⟩
  · exact absurd behind (by decide)
  · exact absurd reset (by decide)
  · obtain ⟨_, ends⟩ := opens rfl (by decide)
    rcases ends (by decide) with short | zero
    · exact absurd short (by decide +kernel)
    · exact absurd zero (by decide)

end Sas.System
