import Sas.Server.Timeout
import Sas.Foundation.Run

/-! # The server loop

`sas_server_run` as a machine. A configuration is the server with its receive buffer, stopped at
one of the points of the loop; one step runs the source from there to the next point. Whatever
the loop meets outside the program arrives with the step: the outcome of `select` and
`recvfrom`, the seconds that have passed, the memory `malloc` returns, and the answers to the
system calls.
-/

namespace Sas.Server

open Foundation Transport

/-- `SAS_SERVER_SESSION_TABLE_INITIAL_CAPACITY`. -/
def sessionTableInitialCapacity : Nat := 32

/-- `SAS_SERVER_TIMEOUT_HEAP_INITIAL_CAPACITY`. -/
def timeoutHeapInitialCapacity : Nat := 32

/-- `SAS_SERVER_SESSION_TIMEOUT`. -/
def sessionTimeout : Int := 30

/-- `sas_server_alloc`: the server before its first iteration, on some kernel and clock. -/
def serverAlloc (kernel : Kernel) (clock : Int) : Server where
  sessions := ⟨0, sessionTableInitialCapacity, fun _ => none⟩
  timeouts := ⟨0, timeoutHeapInitialCapacity, fun _ => none⟩
  memory := fun _ => none
  fresh := 0
  kernel := kernel
  clock := clock

/-- A point of the loop of `sas_server_run`. -/
inductive Stage where
  /-- The head of `while (1)`. -/
  | top
  /-- The head of the expiry loop, with the values of `timeout_session` and `now`. -/
  | expiry (timeoutSession : Option SessionPtr) (now : Int)
  /-- The call of `select`. -/
  | select (timeoutSession : Option SessionPtr) (now : Int)
  /-- The call of `recvfrom`. -/
  | recvfrom
  /-- The function has returned. -/
  | returned (err : Int32)
  deriving DecidableEq, Repr

/-- What one step of the loop meets outside the program. -/
structure Input where
  env : Env
  elapsed : Nat
  wake : Wake
  received : Option (SockaddrIn6 × List UInt8)
  allocation : Option Uninitialized

/-- The server at one point of its loop. -/
structure Config where
  server : Server
  stage : Stage
  buffer : Memory

/-- The server as it enters a step: the kernel answers as the input says. -/
def enter (server : Server) (input : Input) : Server :=
  { server with kernel := ⟨input.env, server.kernel.errno, []⟩ }

/-- Run the state machine for the session behind a pointer, and carry out the deletion it asks
for. The session is written back first: the source works on it in place. -/
def stateMachine (server : Server) (session : SessionPtr) (header : PacketHeader)
    (payload : Memory) (count : Nat) : Except Fault Server := do
  let current ← server.load session
  let outcome ← sessionStateMachine header payload count current server.kernel
  let server ← ({ server with kernel := outcome.kernel }).store session outcome.session
  if outcome.deleted then sessionDelete server session else .ok server

/-- What `sas_server_run` does with a datagram in its buffer. -/
def serverReceive (server : Server) (buffer : Memory) (count : Nat) (addr : SockaddrIn6)
    (input : Input) : Except Fault Server := do
  match ← sessionGet server addr input.allocation with
  | (none, _) => .error .nullPointer
  | (some session, server) =>
      let server ← stateMachine server session (packetHeaderDecode buffer)
        (buffer.shift packetHeaderSize) count
      let (now, server) := time server input.elapsed
      let current ← server.load session
      let server ← server.store session { current with timeout := now + sessionTimeout }
      timeoutAdd server session

/-- One step of `sas_server_run`. -/
def serverStep (input : Input) (config : Config) : Except Fault Config :=
  let server := config.server.enter input
  match config.stage with
  | .top => do
      let (timeoutSession, server) ← timeoutPop server
      let (now, server) := time server input.elapsed
      .ok { config with server := server, stage := .expiry timeoutSession now }
  | .expiry none now => .ok { config with server := server, stage := .select none now }
  | .expiry (some session) now => do
      let current ← server.load session
      if now ≥ current.timeout then
        let server ← serverTimeout server session input.elapsed
        let (timeoutSession, server) ← timeoutPop server
        .ok { config with server := server, stage := .expiry timeoutSession now }
      else .ok { config with server := server, stage := .select (some session) now }
  | .select timeoutSession _ =>
      match input.wake with
      | .failed errno => .ok { config with server := server, stage := .returned errno }
      | .timedOut =>
          match timeoutSession with
          | none => .error .nullPointer
          | some session => do
              let server ← serverTimeout server session input.elapsed
              .ok { config with server := server, stage := .top }
      | .readable => do
          let server ← match timeoutSession with
            | some session => timeoutAdd server session
            | none => .ok server
          .ok { config with server := server, stage := .recvfrom }
  | .recvfrom =>
      match input.received with
      | none => .ok { config with server := server, stage := .top }
      | some (addr, datagram) => do
          let buffer := receiveInto config.buffer datagram
          let server ← serverReceive server buffer (receivedCount datagram) addr input
          .ok { server := server, stage := .top, buffer := packetHeaderDecoded buffer }
  | .returned _ => .ok config

/-- The loop takes a defined step. -/
def Steps (config : Config) (input : Input) (next : Config) : Prop :=
  serverStep input config = .ok next

/-- Where `sas_server_run` starts. -/
def Initial (config : Config) : Prop :=
  ∃ kernel clock buffer, config = ⟨serverAlloc kernel clock, .top, buffer⟩

end Sas.Server
