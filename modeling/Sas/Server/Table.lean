import Sas.Server.Session
import Mathlib.Logic.Function.Basic

/-! # The session table

The state of the server: the hash table of sessions with its chains through `next`, the timeout
heap, and the memory the pointers in them refer to. `session.c` walks a chain in three places:
to find a session, to find or create one, and to delete one.
-/

namespace Sas

namespace Server

/-- `struct sas_server_session_table`. -/
structure SessionTable where
  count : Int
  capacity : Nat
  table : Nat → Option SessionPtr

/-- `struct sas_server_timeout_heap`. -/
structure TimeoutHeap where
  count : Nat
  capacity : Nat
  heap : Nat → Option SessionPtr

end Server

/-- `struct sas_server` with the memory it refers to. A session is in `memory` from its
allocation until it is freed; `malloc` never hands out an address twice, so `fresh` is the next
one. `clock` is the last reading of `time(NULL)`. -/
structure Server where
  sessions : Server.SessionTable
  timeouts : Server.TimeoutHeap
  memory : Server.SessionPtr → Option Server.Session
  fresh : Server.SessionPtr
  kernel : Kernel
  clock : Int

namespace Server

open Foundation Transport Rxc Formats

/-- Read the session a pointer refers to. -/
def load (server : Server) (pointer : SessionPtr) : Except Fault Session :=
  match server.memory pointer with
  | some session => .ok session
  | none => .error (.useAfterFree pointer)

/-- Write the session a pointer refers to. -/
def store (server : Server) (pointer : SessionPtr) (session : Session) : Except Fault Server :=
  match server.memory pointer with
  | some _ => .ok { server with memory := Function.update server.memory pointer (some session) }
  | none => .error (.useAfterFree pointer)

/-- `server->sessions.table[index] = head`. -/
def setBucket (server : Server) (index : Nat) (head : Option SessionPtr) : Server :=
  { server with
    sessions := { server.sessions with
      table := Function.update server.sessions.table index head } }

/-- `free(pointer)`. -/
def free (server : Server) (pointer : SessionPtr) : Server :=
  { server with memory := Function.update server.memory pointer none }

/-- An upper bound on the sessions a chain without repetition visits. A walk that is not over
after this many sessions goes round a cycle. -/
def rounds (server : Server) : Nat := server.fresh + 1

/-- A byte as a signed `char`, converted to `unsigned long`. -/
def signExtend (byte : UInt8) : UInt64 := byte.toInt8.toInt64.toUInt64

/-- `addr_hash`. -/
def addrHash (addr : SockaddrIn6) : UInt64 :=
  (addr.sin6Addr.toList ++ [addr.sin6Port.1, addr.sin6Port.2]).foldl
    (fun hash byte => ((hash <<< 5) + hash) + signExtend byte) 5381

/-- `memcmp` on byte strings of one length: the difference of the first bytes that differ. -/
def memcmp : List UInt8 → List UInt8 → Int
  | a :: first, b :: second =>
      if a = b then memcmp first second else (a.toNat : Int) - b.toNat
  | _, _ => 0

/-- `ntohs(sin6_port)`. -/
def portOf (addr : SockaddrIn6) : Nat := addr.sin6Port.1.toNat * 256 + addr.sin6Port.2.toNat

/-- `addr_eq` on two addresses, which may be one object. -/
def addrEq (sameObject : Bool) (a b : SockaddrIn6) : Int :=
  if sameObject then 1
  else
    let res := memcmp a.sin6Addr.toList b.sin6Addr.toList
    if res ≠ 0 then res
    else if portOf a = portOf b then 1 else 0

/-- `addr_hash(addr) % server->sessions.capacity`. -/
def bucketIndex (server : Server) (addr : SockaddrIn6) : Nat :=
  (addrHash addr).toNat % server.sessions.capacity

/-- The loop of `sas_server_session_find`. -/
def sessionFindLoop (server : Server) (addr : SockaddrIn6) :
    Nat → Option SessionPtr → Except Fault (Option SessionPtr)
  | _, none => .ok none
  | 0, some _ => .error .diverge
  | rounds + 1, some session => do
      let current ← server.load session
      if addrEq false current.addr addr ≠ 0 then .ok (some session)
      else sessionFindLoop server addr rounds current.next

/-- `sas_server_session_find`. -/
def sessionFind (server : Server) (addr : SockaddrIn6) : Except Fault (Option SessionPtr) :=
  sessionFindLoop server addr server.rounds
    (server.sessions.table (bucketIndex server addr))

/-- Where the loop of `sas_server_session_get` ends: at a session to return, or behind the last
session of the chain, where there is one. -/
inductive Position where
  | found (session : SessionPtr)
  | last (prev : Option SessionPtr)
  deriving DecidableEq, Repr

/-- The loop of `sas_server_session_get`. -/
def sessionGetLoop (server : Server) (addr : SockaddrIn6) :
    Nat → Option SessionPtr → Except Fault Position
  | _, none => .ok (.last none)
  | 0, some _ => .error .diverge
  | rounds + 1, some prev => do
      let current ← server.load prev
      if addrEq false current.addr addr ≠ 0 then .ok (.found prev)
      else if current.next = none then .ok (.last (some prev))
      else sessionGetLoop server addr rounds current.next

/-- `sas_server_session_get`. `malloc` returns memory with some contents, or fails. -/
def sessionGet (server : Server) (addr : SockaddrIn6) (memory : Option Uninitialized) :
    Except Fault (Option SessionPtr × Server) := do
  let index := bucketIndex server addr
  match ← sessionGetLoop server addr server.rounds (server.sessions.table index) with
  | .found session => .ok (some session, server)
  | .last prev =>
      match memory with
      | none => .ok (none, server)
      | some memory =>
          let session := server.fresh
          let server := { server with
            memory := Function.update server.memory session (some (sessionCreate addr memory))
            fresh := server.fresh + 1 }
          let server ← match prev with
            | some prev => do
                let last ← server.load prev
                server.store prev { last with next := some session }
            | none => .ok (server.setBucket index (some session))
          .ok (some session, { server with
            sessions := { server.sessions with count := server.sessions.count + 1 } })

/-- `rxc_pipeline_dealloc` for the pipeline of a session: its source closes the descriptor; the
sink only frees memory. -/
def pipelineDealloc (session : Session) (kernel : Kernel) : Kernel :=
  match session.pipeline with
  | some source => Wav.dealloc source kernel
  | none => kernel

/-- The body of `sas_server_session_delete` for the chain entry `curr` that matched: unlink it,
then release what the session holds and the session itself. -/
def sessionUnlink (server : Server) (session : SessionPtr) (index : Nat)
    (prev : Option SessionPtr) (next : Option SessionPtr) : Except Fault Server := do
  let server ← match prev with
    | some prev => do
        let before ← server.load prev
        server.store prev { before with next := next }
    | none => .ok (server.setBucket index next)
  let released ← server.load session
  let kernel := pipelineDealloc released server.kernel
  let kernel := if released.fd ≥ 0 then kernel.closeFile released.fd else kernel
  let server := ({ server with kernel := kernel }).free session
  .ok { server with sessions := { server.sessions with count := server.sessions.count - 1 } }

/-- The loop of `sas_server_session_delete`. -/
def sessionDeleteLoop (server : Server) (session : SessionPtr) (addr : SockaddrIn6)
    (index : Nat) : Nat → Option SessionPtr → Option SessionPtr → Except Fault Server
  | _, _, none => .ok server
  | 0, _, some _ => .error .diverge
  | rounds + 1, prev, some curr => do
      let current ← server.load curr
      if addrEq (curr == session) current.addr addr ≠ 0 then
        sessionUnlink server session index prev current.next
      else sessionDeleteLoop server session addr index rounds (some curr) current.next

/-- `sas_server_session_delete`. -/
def sessionDelete (server : Server) (session : SessionPtr) : Except Fault Server := do
  let deleted ← server.load session
  let index := bucketIndex server deleted.addr
  sessionDeleteLoop server session deleted.addr index server.rounds none
    (server.sessions.table index)

end Server

end Sas
