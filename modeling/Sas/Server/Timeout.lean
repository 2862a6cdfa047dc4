import Sas.Server.Table

/-! # The timeout heap

`timeout.c`: the array of sessions the server keeps as a binary heap by `session->timeout`. The
keys are read from the sessions, so they change whenever the server moves a timeout.
-/

namespace Sas.Server

/-- `time(NULL)`, with the seconds that have passed since it was last read. -/
def time (server : Server) (elapsed : Nat) : Int × Server :=
  (server.clock + elapsed, { server with clock := server.clock + elapsed })

/-- `sas_server_timeout`. -/
def serverTimeout (server : Server) (session : SessionPtr) (elapsed : Nat) :
    Except Fault Server := do
  let (now, server) := time server elapsed
  let current ← server.load session
  if now ≥ current.timeout then sessionDelete server session else .ok server

/-- `server->timeouts.heap[index]->timeout`. -/
def timeoutAt (server : Server) (index : Nat) : Except Fault Int :=
  match server.timeouts.heap index with
  | some session => (server.load session).map Session.timeout
  | none => .error .nullPointer

/-- `server->timeouts.heap[index] = session`. -/
def setEntry (server : Server) (index : Nat) (session : Option SessionPtr) : Server :=
  { server with
    timeouts := { server.timeouts with
      heap := Function.update server.timeouts.heap index session } }

/-- Exchange two entries of the heap. -/
def swapEntries (server : Server) (first second : Nat) : Server :=
  (server.setEntry first (server.timeouts.heap second)).setEntry second
    (server.timeouts.heap first)

/-- The up-heap loop of `sas_server_timeout_add`. The index at least halves in every round, so
starting with `index` rounds suffices. -/
def timeoutAddLoop : Nat → Nat → Server → Except Fault Server
  | _, 0, server => .ok server
  | 0, _ + 1, _ => .error .diverge
  | rounds + 1, index + 1, server => do
      let parent := index / 2
      if (← server.timeoutAt parent) < (← server.timeoutAt (index + 1)) then .ok server
      else timeoutAddLoop rounds parent (server.swapEntries (index + 1) parent)

/-- `sas_server_timeout_add`. -/
def timeoutAdd (server : Server) (session : SessionPtr) : Except Fault Server :=
  let server :=
    if server.timeouts.count = server.timeouts.capacity then
      { server with timeouts := { server.timeouts with
          capacity := server.timeouts.capacity * 2 } }
    else server
  let index := server.timeouts.count
  let server := { server with timeouts := { server.timeouts with count := index + 1 } }
  timeoutAddLoop index index (server.setEntry index (some session))

/-- The left child of `sas_server_timeout_heapify`, where it is lower than its parent. -/
def heapifyLeft (server : Server) (index : Nat) : Except Fault Nat :=
  if server.timeouts.count > 2 * index + 1 then do
    if (← server.timeoutAt (2 * index + 1)) < (← server.timeoutAt index) then
      .ok (2 * index + 1)
    else .ok index
  else .ok index

/-- The value of `lowest` at the end of the two tests of `sas_server_timeout_heapify`. Where the
right child is lower, the source takes the left one. -/
def heapifyLowest (server : Server) (index : Nat) : Except Fault Nat := do
  let lowest ← heapifyLeft server index
  if server.timeouts.count > 2 * index + 2 then do
    if (← server.timeoutAt (2 * index + 2)) < (← server.timeoutAt lowest) then
      .ok (2 * index + 1)
    else .ok lowest
  else .ok lowest

/-- `sas_server_timeout_heapify`. The index grows in every call, so as many calls as there are
entries suffice. -/
def timeoutHeapify : Nat → Nat → Server → Except Fault Server
  | 0, _, _ => .error .diverge
  | rounds + 1, index, server => do
      let lowest ← heapifyLowest server index
      if lowest ≠ index then timeoutHeapify rounds lowest (server.swapEntries lowest index)
      else .ok server

/-- `sas_server_timeout_pop`. -/
def timeoutPop (server : Server) : Except Fault (Option SessionPtr × Server) :=
  if server.timeouts.count = 0 then .ok (none, server)
  else do
    let min := server.timeouts.heap 0
    let count := server.timeouts.count - 1
    let server := { server with timeouts := { server.timeouts with count := count } }
    let server ← timeoutHeapify (count + 1) 0 (server.setEntry 0 (server.timeouts.heap count))
    .ok (min, server)

end Sas.Server
