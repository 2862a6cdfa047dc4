import Sas.Foundation.Each
import Sas.Foundation.Fallible
import Sas.Foundation.Ledger
import Sas.Platform

/-! # The socket of a client

`client.c` from `sas_client_alloc` to `sas_client_dealloc`. A client keeps one socket: it connects to
the first address of a host that takes it, and closes the sockets it has tried before. Only
`sas_client_init` forgets a socket without closing it. It is also what sets the pipeline of the session,
which `sas_client_dealloc` looks at: before it the field holds what `malloc` has left there.
-/

namespace Sas.Client

open Foundation

/-! ## The resolver and the sockets -/

/-- The hints handed to `getaddrinfo`. -/
structure Hints where
  aiFamily : Int32
  aiSocktype : Int32
  aiFlags : Int32
  deriving DecidableEq, Repr

/-- `struct addrinfo`, as far as it is used. -/
structure Addrinfo where
  aiFamily : Int32
  aiSocktype : Int32
  aiProtocol : Int32
  aiAddr : List UInt8
  deriving DecidableEq, Repr

/-- `EAI_NONAME`. -/
def eaiNoname : Int32 := -2

/-- One call to the C library with its answer. -/
inductive SocketCall where
  | getaddrinfo (hostname port : String) (hints : Hints) (err : Int32)
  | socket (ai : Addrinfo) (reply : Option Nat)
  | connect (fd : Nat) (ai : Addrinfo) (connected : Bool)
  | close (fd : Int)
  | freeaddrinfo
  deriving DecidableEq, Repr

namespace SocketCall

/-- The socket a call has opened. -/
def opened? : SocketCall → Option Int
  | socket _ (some fd) => some fd
  | _ => none

/-- The socket a call has closed. -/
def closed? : SocketCall → Option Int
  | close fd => some fd
  | _ => none

/-- The address a call has tried to open a socket for. -/
def tried? : SocketCall → Option Addrinfo
  | socket ai _ => some ai
  | _ => none

/-- The call has connected a socket. -/
def Connects : SocketCall → Prop
  | connect _ _ connected => connected = true
  | _ => False

end SocketCall

instance : Ledger SocketCall := ⟨SocketCall.opened?, SocketCall.closed?⟩

/-- What a client meets; an answer may depend on all calls made before. -/
structure SocketEnv where
  resolve : List SocketCall → String → String → Int32 × List Addrinfo
  socketReply : List SocketCall → Addrinfo → Option Nat
  connectReply : List SocketCall → Nat → Addrinfo → Bool

/-- The C library as seen by a client. -/
structure SocketKernel where
  env : SocketEnv
  calls : List SocketCall

/-- The library once more calls have been made. -/
def SocketKernel.made (kernel : SocketKernel) (calls : List SocketCall) : SocketKernel :=
  { kernel with calls := kernel.calls ++ calls }

@[simp] theorem SocketKernel.made_made (kernel : SocketKernel) (first second : List SocketCall) :
    (kernel.made first).made second = kernel.made (first ++ second) := by
  unfold made
  rw [List.append_assoc]

/-! ## The client -/

/-- `struct sas_client` as far as its deallocation is concerned: the socket, and `session.pipeline`. -/
structure SocketClient where
  fd : Int
  pipeline : Option Nat
  kernel : SocketKernel

/-- `sas_client_init`, as far as the socket and the pipeline are concerned. -/
def clientInitSocket (client : SocketClient) : SocketClient :=
  { client with fd := -1, pipeline := none }

/-- The loop of `sas_client_connect_hostname` over the addresses. -/
def connectAny : List Addrinfo → SocketKernel → Option Nat × SocketKernel
  | [], kernel => (none, kernel)
  | ai :: more, kernel =>
      match kernel.env.socketReply kernel.calls ai with
      | none => connectAny more (kernel.made [.socket ai none])
      | some fd =>
          let kernel := kernel.made [.socket ai (some fd)]
          let connected := kernel.env.connectReply kernel.calls fd ai
          let kernel := kernel.made [.connect fd ai connected]
          if connected then (some fd, kernel) else connectAny more (kernel.made [.close fd])

/-- The hints of `sas_client_connect_hostname`: any family, datagrams, configured addresses. -/
def connectHints : Hints := ⟨0, 2, 0x20⟩

/-- `sas_client_connect_hostname`. The port is printed into six bytes. -/
def clientConnectHostname (hostname : String) (port : Int32) (client : SocketClient) :
    Except Fault (Int32 × SocketClient) :=
  let kernel :=
    if 0 ≤ client.fd then client.kernel.made [.close client.fd] else client.kernel
  let portStr := toString port.toInt
  if 6 ≤ portStr.length then .error .outOfBounds
  else
    let (err, addresses) := kernel.env.resolve kernel.calls hostname portStr
    let kernel := kernel.made [.getaddrinfo hostname portStr connectHints err]
    if err ≠ 0 then .ok (err, ⟨-1, client.pipeline, kernel⟩)
    else
      match connectAny addresses kernel with
      | (none, kernel) => .ok (eaiNoname, ⟨-1, client.pipeline, kernel.made [.freeaddrinfo]⟩)
      | (some fd, kernel) => .ok (0, ⟨fd, client.pipeline, kernel.made [.freeaddrinfo]⟩)

/-- What is done with a client. -/
inductive SocketOperation where
  | init
  | connectHostname (hostname : String) (port : Int32)
  deriving DecidableEq, Repr

/-- Perform an operation. -/
def SocketOperation.perform (client : SocketClient) : SocketOperation → Except Fault SocketClient
  | init => .ok (clientInitSocket client)
  | connectHostname hostname port => (clientConnectHostname hostname port client).map Prod.snd

/-- No socket has been connected, and all that have been opened have been closed. -/
structure InVain (calls : List SocketCall) : Prop where
  closed : Ledger.opened calls = Ledger.closed calls
  vain : ∀ call ∈ calls, ¬ call.Connects

/-- What trying some addresses comes to. -/
inductive Tries (addresses : List Addrinfo) : Option Nat → List SocketCall → Prop where
  /-- Every address has been tried in vain. -/
  | vain {calls : List SocketCall} : InVain calls →
      calls.filterMap SocketCall.tried? = addresses → Tries addresses none calls
  /-- All addresses before one have been tried in vain, and this one has been connected to. -/
  | found {before after : List Addrinfo} {ai : Addrinfo} {fd : Nat} {calls : List SocketCall} :
      addresses = before ++ ai :: after → InVain calls →
      calls.filterMap SocketCall.tried? = before →
      Tries addresses (some fd) (calls ++ [.socket ai (some fd), .connect fd ai true])

section

variable {addresses : List Addrinfo} {kernel : SocketKernel} {calls more : List SocketCall}
  {result garbage : Option Nat} {env : SocketEnv} {client next : SocketClient}

theorem InVain.append (first : InVain calls) (second : InVain more) : InVain (calls ++ more) where
  closed := by rw [Ledger.opened_append, Ledger.closed_append, first.closed, second.closed]
  vain call member := (List.mem_append.mp member).elim (first.vain call) (second.vain call)

/-- An address tried in vain is followed by the others. -/
theorem Tries.cons {ai : Addrinfo} (tries : Tries addresses result more) (vain : InVain calls)
    (tried : calls.filterMap SocketCall.tried? = [ai]) :
    Tries (ai :: addresses) result (calls ++ more) := by
  cases tries with
  | vain rest all =>
      refine .vain (vain.append rest) ?_
      rw [List.filterMap_append, tried, all]
      rfl
  | @found before after other fd earlier split rest all =>
      rw [← List.append_assoc]
      refine @Tries.found _ (ai :: before) after other fd _ ?_ (vain.append rest) ?_
      · rw [split]
        rfl
      · rw [List.filterMap_append, tried, all]
        rfl

/-- The calls that close the socket of a client. -/
def closing (client : SocketClient) : List SocketCall :=
  if 0 ≤ client.fd then [.close client.fd] else []

/-- What `sas_client_connect_hostname` comes to. -/
inductive Connecting (client : SocketClient) : Int32 → SocketClient → Prop where
  /-- The name is not resolved. -/
  | unresolved {err : Int32} {hostname port : String} : err ≠ 0 →
      Connecting client err
        ⟨-1, client.pipeline,
          client.kernel.made (closing client ++ [.getaddrinfo hostname port connectHints err])⟩
  /-- No address takes a connection. -/
  | refused {hostname port : String} {addresses : List Addrinfo} {calls : List SocketCall} :
      client.kernel.env.resolve (client.kernel.calls ++ closing client) hostname port =
        (0, addresses) → Tries addresses none calls →
      Connecting client eaiNoname
        ⟨-1, client.pipeline, client.kernel.made (closing client ++
          (.getaddrinfo hostname port connectHints 0 :: calls ++ [.freeaddrinfo]))⟩
  /-- An address takes the connection. -/
  | connected {hostname port : String} {addresses : List Addrinfo} {calls : List SocketCall}
      {fd : Nat} :
      client.kernel.env.resolve (client.kernel.calls ++ closing client) hostname port =
        (0, addresses) → Tries addresses (some fd) calls →
      Connecting client 0
        ⟨fd, client.pipeline, client.kernel.made (closing client ++
          (.getaddrinfo hostname port connectHints 0 :: calls ++ [.freeaddrinfo]))⟩

/-- After a search in vain no socket is held. -/
theorem Tries.only_none (tries : Tries addresses none calls) : Ledger.Only calls (-1) := by
  cases tries with
  | vain vain all =>
      intro other
      rw [Ledger.held_of_eq vain.closed]
      exact (if_neg fun both => absurd both.2 (by decide)).symm

/-- After a search that has found an address its socket is held and no other. -/
theorem Tries.only_some {fd : Nat} (tries : Tries addresses (some fd) calls) :
    Ledger.Only calls fd := by
  cases tries with
  | found split vain all =>
      intro other
      rw [Ledger.held_append, Ledger.held_of_eq vain.closed, Int.zero_add,
        Ledger.held_of_opened rfl rfl]
      exact if_congr (and_iff_left (Int.natCast_nonneg fd)).symm rfl rfl

/-- Resolving the name opens and closes no socket. -/
theorem held_resolved (hostname port : String) (hints : Hints) (err : Int32)
    (calls : List SocketCall) (fd : Int) :
    Ledger.held (.getaddrinfo hostname port hints err :: calls ++ [.freeaddrinfo]) fd =
      Ledger.held calls fd := by
  have first : Ledger.held [SocketCall.getaddrinfo hostname port hints err] fd = 0 :=
    Ledger.held_of_neutral rfl rfl fd
  have last : Ledger.held [SocketCall.freeaddrinfo] fd = 0 := Ledger.held_of_neutral rfl rfl fd
  rw [← List.singleton_append, Ledger.held_append, Ledger.held_append, first, last, Int.zero_add,
    Int.add_zero]

/-- Behind the closing of its old socket, a client that connects opens the one it keeps. -/
theorem Connecting.opens {err : Int32} (connecting : Connecting client err next) :
    ∃ calls, next.kernel.calls = client.kernel.calls ++ closing client ++ calls ∧
      Ledger.Only calls next.fd := by
  cases connecting with
  | @unresolved _ hostname port failed =>
      refine ⟨_, (List.append_assoc _ _ _).symm, fun other => ?_⟩
      rw [Ledger.held_of_neutral rfl rfl]
      exact (if_neg fun both => absurd both.2 (by decide : ¬ (0 : Int) ≤ -1)).symm
  | refused resolved tries =>
      refine ⟨_, (List.append_assoc _ _ _).symm, fun other => ?_⟩
      rw [held_resolved]
      exact tries.only_none other
  | connected resolved tries =>
      refine ⟨_, (List.append_assoc _ _ _).symm, fun other => ?_⟩
      rw [held_resolved]
      exact tries.only_some other

/-- A client that connects closes the only socket it has. -/
theorem Connecting.only {err : Int32} (connecting : Connecting client err next)
    (only : Ledger.Only client.kernel.calls client.fd) :
    Ledger.Only next.kernel.calls next.fd := by
  obtain ⟨calls, same, opens⟩ := connecting.opens
  have negative : (-1 : Int) < 0 := by decide
  have closed : Ledger.Only (client.kernel.calls ++ closing client) (-1) := by
    unfold closing
    by_cases present : 0 ≤ client.fd
    · rw [if_pos present]
      exact Ledger.only_of_released (only.released present rfl rfl) negative
    · rw [if_neg present, List.append_nil]
      exact Ledger.only_of_released (only.released_of_neg (Int.not_le.mp present)) negative
  rw [same]
  exact closed.append negative opens

/-- A client that connects closes no socket it has forgotten. -/
theorem Connecting.exceeds {err : Int32} (connecting : Connecting client err next)
    (exceeds : Ledger.Exceeds client.kernel.calls client.fd) :
    Ledger.Exceeds next.kernel.calls next.fd := by
  obtain ⟨calls, same, opens⟩ := connecting.opens
  have negative : (-1 : Int) < 0 := by decide
  have closed : Ledger.Exceeds (client.kernel.calls ++ closing client) (-1) := by
    unfold closing
    by_cases present : 0 ≤ client.fd
    · rw [if_pos present]
      exact exceeds.close present rfl rfl negative
    · rw [if_neg present, List.append_nil]
      exact exceeds.of_neg negative
  rw [same]
  exact closed.append negative opens

/-- The socket of a client has been connected to the first address of a host that took it, and nothing
has been called since. -/
def Connected (client : SocketClient) : Prop :=
  ∃ earlier hostname port addresses calls, ∃ fd : Nat, client.fd = fd ∧
    client.kernel.env.resolve earlier hostname port = (0, addresses) ∧
    Tries addresses (some fd) calls ∧
    client.kernel.calls = earlier ++
      (.getaddrinfo hostname port connectHints 0 :: calls ++ [.freeaddrinfo])

end

end Sas.Client
