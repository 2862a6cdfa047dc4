import Sas.Client.Session

/-! # The client loop

`sas_client_receive` as a machine: it sends the SYN and then takes one iteration of its loop with
every step. What an iteration meets outside the program arrives with the step.
-/

namespace Sas.Client

open Foundation Transport

/-- Where `sas_client_receive` stands: at the call of `select`, or past its end. -/
inductive Stage where
  | select
  | returned (err : Int32)
  deriving DecidableEq, Repr

/-- What one iteration meets outside the program: the answers to its system calls, the outcome of
`select`, the outcome of `recv`, and what the receive buffer holds before it. -/
structure Input where
  env : Env
  wake : Wake
  received : Except Int32 (List UInt8)
  buffer : Memory

/-- The client at one point of its loop. -/
structure Config where
  world : World
  stage : Stage

/-- Go on with the loop, or return where its condition fails. -/
def loop (world : World) : Config where
  world := world
  stage := if world.session.state = .finished then .returned 0 else .select

/-- The client as it enters an iteration: the kernel answers as the input says. -/
def enter (world : World) (env : Env) : World :=
  { world with kernel := ⟨env, world.kernel.errno, []⟩ }

/-- `sas_client_receive` up to its first iteration, for a client that has just been set up. -/
def receive (name : List UInt8) (memory : Chunk) (env : Env) : Except Fault Config := do
  let (err, world) ← sessionSyn name ⟨clientInit memory, ⟨env, 0, []⟩, []⟩
  if err ≠ 0 then .ok ⟨world, .returned err⟩
  else .ok (loop world)

/-- What an iteration does with a received datagram. -/
def receiveDatagram (sink : Sink) (datagram : List UInt8) (buffer : Memory) (world : World) :
    Except Fault Config := do
  let buffer := receiveInto buffer datagram
  let (err, world) ← sessionStateMachine sink (packetHeaderDecode buffer)
    (buffer.shift packetHeaderSize) (receivedCount datagram) world
  if err ≠ 0 then .ok ⟨world, .returned err⟩
  else .ok (loop world)

/-- One iteration of the loop of `sas_client_receive`. -/
def clientStep (sink : Sink) (input : Input) (config : Config) : Except Fault Config :=
  match config.stage with
  | .returned _ => .ok config
  | .select =>
      let world := enter config.world input.env
      match input.wake with
      | .failed errno => .ok ⟨world, .returned errno⟩
      | .timedOut => .ok ⟨world, .returned etimedout⟩
      | .readable =>
          match input.received with
          | .error errno => .ok ⟨world, .returned errno⟩
          | .ok datagram => receiveDatagram sink datagram input.buffer world

end Sas.Client
