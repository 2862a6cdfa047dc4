import Sas.Client.Progress

/-! # Resets

A reset is meant to end the loop of the client. The loop is told so twice, by the value the state
machine returns and by the state it leaves, and an error code of zero sets neither.
-/

namespace Sas.Client

open Foundation Transport Rxc

/-- The loop of the client is over: with success for a stream that has finished, and with an error
for every other reset. -/
def Ends (header : PacketHeader) (next : Config) : Prop :=
  ∃ err, next.stage = .returned err ∧
    (err = 0 ↔ packetFlagIsset header.flags packetFlagFin = true ∧
      packetFlagIsset header.flags packetFlagErr = false)

/-- The packet reports that an error has occurred, and that it is none. -/
def ReportsNone (header : PacketHeader) (payload : Memory) : Prop :=
  packetFlagIsset header.flags packetFlagErr = true ∧ (packetErrDecode payload).err = 0

section

variable {sink : Sink} {config : Config} {input : Input} {datagram : List UInt8}

/-- An iteration that receives a datagram hands it to the state machine. -/
theorem clientStep_received (selecting : config.stage = .select)
    (received : input.datagram? = some datagram) :
    clientStep sink input config =
      receiveDatagram sink datagram input.buffer (enter config.world input.env) := by
  unfold Input.datagram? at received
  unfold clientStep
  rw [selecting]
  cases wake : input.wake with
  | failed errno =>
      rw [wake] at received
      cases received
  | timedOut =>
      rw [wake] at received
      cases received
  | readable =>
      cases outcome : input.received with
      | error errno =>
          rw [wake, outcome] at received
          cases received
      | ok other =>
          rw [wake, outcome] at received
          cases received
          rfl

/-- What becomes of the result of the state machine. -/
def goOn (result : Int32 × World) : Config :=
  if result.1 ≠ 0 then ⟨result.2, .returned result.1⟩ else loop result.2

/-- Receiving a datagram is running the state machine on its header and payload. -/
theorem receiveDatagram_eq (sink : Sink) (input : Input) (datagram : List UInt8) (world : World) :
    receiveDatagram sink datagram input.buffer world =
      (sessionStateMachine sink (input.header datagram) (input.payload datagram)
        (receivedCount datagram) world).map goOn := by
  change (sessionStateMachine sink (input.header datagram) (input.payload datagram)
    (receivedCount datagram) world).bind _ = _
  cases sessionStateMachine sink (input.header datagram) (input.payload datagram)
      (receivedCount datagram) world with
  | error fault => rfl
  | ok result =>
      change (if result.1 ≠ 0 then Except.ok (⟨result.2, .returned result.1⟩ : Config)
        else .ok (loop result.2)) = .ok (goOn result)
      unfold goOn
      split
      · rfl
      · rfl

/-- An accepted reset ends the loop by its error code, by its success, or as a broken connection. -/
theorem clientStep_reset (selecting : config.stage = .select)
    (received : input.datagram? = some datagram)
    (accepted : Accepted (input.header datagram) config.world.session.ack)
    (reset : packetFlagIsset (input.header datagram).flags packetFlagRst = true) :
    ∃ world, clientStep sink input config = .ok
      (if packetFlagIsset (input.header datagram).flags packetFlagErr then
        goOn ((packetErrDecode (input.payload datagram)).err, world)
      else if packetFlagIsset (input.header datagram).flags packetFlagFin then
        goOn (0, world.withState .finished)
      else goOn (econnreset, world)) := by
  have ack : (enter config.world input.env).session.ack = config.world.session.ack := by
    rw [enter_session]
  rw [← ack] at accepted
  refine ⟨acked (enter config.world input.env) (input.header datagram), ?_⟩
  rw [clientStep_received selecting received, receiveDatagram_eq]
  generalize enter config.world input.env = world at accepted ⊢
  rw [stateMachine_reset accepted reset]
  cases packetFlagIsset (input.header datagram).flags packetFlagErr with
  | true =>
      rw [if_pos rfl, if_pos rfl]
      rfl
  | false =>
      rw [if_neg Bool.false_ne_true, if_neg Bool.false_ne_true]
      cases packetFlagIsset (input.header datagram).flags packetFlagFin with
      | true =>
          rw [if_pos rfl, if_pos rfl]
          rfl
      | false =>
          rw [if_neg Bool.false_ne_true, if_neg Bool.false_ne_true]
          rfl

/-- **When a reset ends the client.** In every state of the client, an accepted reset ends the loop,
with success exactly for a stream that has finished, unless it reports the error code zero. -/
theorem reset_ends_iff (selecting : config.stage = .select)
    (received : input.datagram? = some datagram)
    (accepted : Accepted (input.header datagram) config.world.session.ack)
    (reset : packetFlagIsset (input.header datagram).flags packetFlagRst = true) :
    (∃ next, clientStep sink input config = .ok next ∧ Ends (input.header datagram) next) ↔
      ¬ ReportsNone (input.header datagram) (input.payload datagram) := by
  obtain ⟨world, handled⟩ := @clientStep_reset sink _ _ _ selecting received accepted reset
  rw [handled]
  unfold ReportsNone Ends
  cases error : packetFlagIsset (input.header datagram).flags packetFlagErr with
  | true =>
      rw [if_pos rfl]
      by_cases none : (packetErrDecode (input.payload datagram)).err = 0
      · refine ⟨?_, fun reports => (reports ⟨rfl, none⟩).elim⟩
        rintro ⟨next, done, err, stage, success⟩
        rw [none] at done
        cases done
        have zero : err = 0 := by
          change (loop world).stage = .returned err at stage
          unfold loop at stage
          dsimp only at stage
          split at stage
          · cases stage
            rfl
          · cases stage
        cases (success.mp zero).2
      · have returned : (goOn ((packetErrDecode (input.payload datagram)).err, world)).stage =
            .returned (packetErrDecode (input.payload datagram)).err :=
          congrArg Config.stage (if_pos none)
        refine ⟨fun _ reports => none reports.2, fun _ => ⟨_, rfl, _, returned, ?_⟩⟩
        refine ⟨fun success => (none success).elim, ?_⟩
        rintro ⟨_, ⟨⟩⟩
  | false =>
      rw [if_neg Bool.false_ne_true]
      refine ⟨fun _ reports => Bool.false_ne_true reports.1, fun _ => ?_⟩
      cases fin : packetFlagIsset (input.header datagram).flags packetFlagFin with
      | true => exact ⟨_, rfl, 0, rfl, fun _ => ⟨rfl, rfl⟩, fun _ => rfl⟩
      | false =>
          refine ⟨_, rfl, econnreset, rfl, fun success => ?_, fun both => ?_⟩
          · exact absurd success (by decide)
          · exact (Bool.false_ne_true both.1).elim

end

/-- The reset of a server that has nothing to say about its error. -/
def silentReset : List UInt8 :=
  packetOf ⟨0, 5, 0, packetFlagRst ||| packetFlagErr, 1024, 4⟩ [0, 0, 0, 0]

/-- A reset that reports a missing file ends the client that has asked for the song. -/
theorem reset_ends_song : ∃ next,
    clientStep driversIgnore (receiving (packetOf ⟨0, 5, 0, packetFlagRst ||| packetFlagErr, 1024, 4⟩
      [0, 0, 0, 2])) songStart = .ok next ∧
    Ends ((receiving (packetOf ⟨0, 5, 0, packetFlagRst ||| packetFlagErr, 1024, 4⟩
      [0, 0, 0, 2])).header (packetOf ⟨0, 5, 0, packetFlagRst ||| packetFlagErr, 1024, 4⟩
      [0, 0, 0, 2])) next := by
  refine (reset_ends_iff (by decide +kernel) rfl (by decide +kernel) (by decide)).mpr ?_
  intro reports
  exact absurd reports.2 (by decide)

/-- The client that has asked for the song goes on waiting after the reset with error code zero. -/
theorem reset_not_ends :
    ¬ ∀ (sink : Sink) (config : Config) (input : Input) (datagram : List UInt8),
      config.stage = .select → input.datagram? = some datagram →
      Accepted (input.header datagram) config.world.session.ack →
      packetFlagIsset (input.header datagram).flags packetFlagRst = true →
      ∃ next, clientStep sink input config = .ok next ∧ Ends (input.header datagram) next := by
  intro ends
  obtain ⟨next, done, err, stage, _⟩ := ends driversIgnore songStart (receiving silentReset) _
    (by decide +kernel) rfl (by decide +kernel) (by decide)
  have stays : (clientStep driversIgnore (receiving silentReset) songStart).toOption.map
      Config.stage = some .select := by decide +kernel
  rw [done] at stays
  have selecting : next.stage = .select := Option.some.inj stays
  cases selecting.symm.trans stage

end Sas.Client
