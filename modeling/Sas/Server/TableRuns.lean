import Sas.Server.Directory

/-! # The session table over whole runs

From the empty table on, requests and deletions in any order keep the chains finite, apart and in
their buckets, and the number of sessions right. A deletion compares addresses on its way to the
session it frees; in a reachable table no session before that one can match, so what it unlinks is
what it frees.
-/

namespace Sas.Server

open Foundation

/-- A call on the session table. The memory of a new session is what `malloc` returns. -/
inductive TableUse where
  | get (addr : SockaddrIn6) (memory : Option Uninitialized)
  | delete (session : SessionPtr)

/-- A call that returns. Only allocated sessions are deleted. -/
def UseStep (before : Server) (use : TableUse) (after : Server) : Prop :=
  match use with
  | .get addr memory => ∃ result, sessionGet before addr memory = .ok (result, after)
  | .delete pointer => (∃ session, before.memory pointer = some session) ∧
      sessionDelete before pointer = .ok after

/-- No session is allocated, and all buckets are empty. -/
structure EmptyTable (server : Server) : Prop where
  capacity : 0 < server.sessions.capacity
  table : ∀ index, server.sessions.table index = none
  memory : ∀ pointer, server.memory pointer = none
  count : server.sessions.count = 0

/-- The chains of the table are these: each is finite and repeats no session, no two share one, every
session lies in the bucket of its address, no two sessions have the same address and port, and the
count is the number of sessions in all chains. -/
structure Kept (server : Server) (chains : Nat → List SessionPtr) : Prop where
  finite : ∀ index, Chain server.nextOf (server.sessions.table index) (chains index)
  acyclic : ∀ index, (chains index).Nodup
  apart : ∀ index other pointer, pointer ∈ chains index → pointer ∈ chains other → index = other
  placed : ∀ index, ∀ pointer ∈ chains index, ∃ session, server.memory pointer = some session ∧
    (addrHash session.addr).toNat % server.sessions.capacity = index
  listed : ∀ pointer session, server.memory pointer = some session → ∃ index, pointer ∈ chains index
  distinct : ∀ pointer session other session', server.memory pointer = some session →
    server.memory other = some session' → session.addr.sin6Addr = session'.addr.sin6Addr →
    session.addr.sin6Port = session'.addr.sin6Port → pointer = other
  counted : server.sessions.count =
    ∑ index ∈ Finset.range server.sessions.capacity, (chains index).length
  natural : 0 ≤ server.sessions.count

/-- Deleting this session has unlinked it and nothing else, and freed it; a search finds it no more,
and all others as before. -/
structure Unlinks (server : Server) (pointer : SessionPtr) (session : Session) (after : Server) :
    Prop where
  unlinked : ∃ chains : Nat → List SessionPtr, pointer ∈ chains (bucketIndex server session.addr) ∧
    (∀ index, Chain server.nextOf (server.sessions.table index) (chains index)) ∧
    ∀ index, Chain after.nextOf (after.sessions.table index) ((chains index).erase pointer)
  freed : after.memory pointer = none
  others : ∀ other, other ≠ pointer →
    (after.memory other).map Session.detached = (server.memory other).map Session.detached
  absent : sessionFind after session.addr = .ok none
  found : ∀ other session', other ≠ pointer → server.memory other = some session' →
    sessionFind after session'.addr = sessionFind server session'.addr

section

variable {server target before after : Server} {chains : Nat → List SessionPtr} {use : TableUse}
  {uses : List TableUse} {pointer : SessionPtr} {session : Session}

/-- Every call keeps the invariant of the table. -/
theorem UseStep.table (inv : TableInv before chains) (step : UseStep before use after) :
    ∃ chains, TableInv after chains := by
  cases use with
  | get addr memory =>
      obtain ⟨result, returned⟩ := step
      rcases sessionGet_spec inv addr memory with ⟨_, _, _, _, same⟩ | ⟨_, same⟩ |
        ⟨contents, server, _, same, created⟩
      · cases returned.symm.trans same
        exact ⟨chains, inv⟩
      · cases returned.symm.trans same
        exact ⟨chains, inv⟩
      · cases returned.symm.trans same
        exact created.table
  | delete pointer =>
      obtain ⟨⟨session, live⟩, returned⟩ := step
      obtain ⟨server, same, deleted⟩ := sessionDelete_spec inv live
      cases returned.symm.trans same
      exact deleted.table

/-- A table that starts out empty keeps its invariant over every run. -/
theorem EmptyTable.run (empty : EmptyTable server) (run : Run UseStep server uses target) :
    ∃ chains, TableInv target chains := by
  refine run.invariant (fun server => ∃ chains, TableInv server chains)
    ⟨_, tableInv_empty empty.capacity empty.table empty.memory empty.count⟩ ?_
  rintro before use after ⟨chains, inv⟩ step
  exact step.table inv

/-- The invariant says all of this about the chains. -/
theorem TableInv.kept (inv : TableInv server chains) : Kept server chains where
  finite := inv.chain
  acyclic index := (inv.chain index).nodup
  apart index other pointer member member' := by
    obtain ⟨session, live, placed⟩ := inv.placed index pointer member
    rw [← placed]
    exact (inv.mem_iff live other).mp member'
  placed := inv.placed
  listed pointer session live := ⟨_, inv.listed pointer session live⟩
  distinct pointer session other session' live live' host port :=
    inv.distinct pointer session other session' live live' (Prod.ext host port)
  counted := inv.count_eq
  natural := by
    rw [inv.count_eq]
    exact Int.natCast_nonneg _

/-- **The session table over whole runs.** After any requests and deletions from the empty table on,
the chains of the table are as they should be, and every request and every deletion of an allocated
session returns. -/
theorem table_kept (empty : EmptyTable server) (run : Run UseStep server uses target) :
    (∃ chains, Kept target chains) ∧
      (∀ addr memory, ∃ result after, sessionGet target addr memory = .ok (result, after)) ∧
      ∀ pointer session, target.memory pointer = some session →
        ∃ after, sessionDelete target pointer = .ok after := by
  obtain ⟨chains, inv⟩ := empty.run run
  refine ⟨⟨chains, inv.kept⟩, fun addr memory => ?_, fun pointer session live => ?_⟩
  · rcases sessionGet_spec inv addr memory with ⟨_, _, _, _, same⟩ | ⟨_, same⟩ | ⟨_, _, _, same, _⟩
    · exact ⟨_, _, same⟩
    · exact ⟨_, _, same⟩
    · exact ⟨_, _, same⟩
  · obtain ⟨after, done, _⟩ := sessionDelete_spec inv live
    exact ⟨after, done⟩

theorem emptyTable_serverAlloc (kernel : Kernel) (clock : Int) :
    EmptyTable (serverAlloc kernel clock) :=
  ⟨Nat.zero_lt_succ 31, fun _ => rfl, fun _ => rfl, rfl⟩

/-- A call on the table, computed. -/
def tableUsed (server : Server) : TableUse → Except Fault Server
  | .get addr memory => (sessionGet server addr memory).map Prod.snd
  | .delete session => do
      let _ ← server.load session
      sessionDelete server session

/-- What the executable use computes is a use of the table. -/
theorem tableUsed_sound (done : tableUsed before use = .ok after) : UseStep before use after := by
  cases use with
  | get addr memory =>
      obtain ⟨⟨result, server⟩, returned, rfl⟩ := map_eq_ok done
      exact ⟨result, returned⟩
  | delete session =>
      obtain ⟨current, loaded, deleted⟩ := bind_eq_ok done
      exact ⟨⟨current, live_of_load loaded⟩, deleted⟩

/-- The table after some calls. -/
def tableAfter (uses : List TableUse) : Server :=
  (uses.foldlM tableUsed (serverAlloc idleKernel 0)).toOption.getD (serverAlloc idleKernel 0)

/-- The table of the example is one of a sequence of calls. -/
theorem tableAfter_run (fine : (uses.foldlM tableUsed (serverAlloc idleKernel 0)).isOk = true) :
    Run UseStep (serverAlloc idleKernel 0) uses (tableAfter uses) :=
  (Run.of_foldlM (eq_ok_getD fine _)).mono fun _ _ _ done => tableUsed_sound done

/-- Three clients in one bucket are given sessions. -/
def threeGets : List TableUse :=
  [.get firstClient (some zeroedSession), .get (otherClient 96) (some zeroedSession),
    .get (otherClient 128) (some zeroedSession)]

/-- The table is kept where three sessions share a bucket and the one in the middle is deleted, and there
is no memory for another one. -/
theorem table_kept_middle :
    (∃ chains, Kept (tableAfter (threeGets ++ [.delete 1, .get (otherClient 160) none])) chains) ∧
      (∀ addr memory, ∃ result after,
        sessionGet (tableAfter (threeGets ++ [.delete 1, .get (otherClient 160) none])) addr memory =
          .ok (result, after)) ∧
      ∀ pointer session,
        (tableAfter (threeGets ++ [.delete 1, .get (otherClient 160) none])).memory pointer =
          some session →
        ∃ after, sessionDelete
          (tableAfter (threeGets ++ [.delete 1, .get (otherClient 160) none])) pointer = .ok after :=
  table_kept (emptyTable_serverAlloc idleKernel 0) (tableAfter_run (by decide +kernel))

/-! ## Deleting -/

/-- All sessions in the bucket of an allocated session belong to its host. -/
theorem TableInv.sameHostBucket (inv : TableInv server chains)
    (live : server.memory pointer = some session) : SameHostBucket server session.addr :=
  fun other session' live' bucket => inv.sameHost other session' pointer session live' live bucket

/-- A search for the address of an allocated session finds this session. -/
theorem TableInv.sessionFind_live (inv : TableInv server chains)
    (live : server.memory pointer = some session) :
    sessionFind server session.addr = .ok (some pointer) := by
  rw [inv.sessionFind_eq, (inv.find?_eq_some_iff (inv.sameHostBucket live) pointer).mpr
    ⟨session, live, rfl⟩]

/-- **A deletion removes the session it frees.** In every table reachable from the empty one, deleting
an allocated session unlinks and frees this session, leaves the order of all others and every other
chain as they were, and a search then finds nothing for its address and for every other session what
it found before. -/
theorem delete_unlinks (empty : EmptyTable server) (run : Run UseStep server uses target)
    (live : target.memory pointer = some session) :
    ∃ after, sessionDelete target pointer = .ok after ∧ Unlinks target pointer session after := by
  obtain ⟨chains, inv⟩ := empty.run run
  have member := inv.listed pointer session live
  obtain ⟨before, rest, split⟩ := List.append_of_mem member
  have inv' := inv.removed_inv live split
  have others : ∀ other, other ≠ pointer →
      ((removed target pointer session before.getLast?).memory other).map Session.detached =
        (target.memory other).map Session.detached :=
    fun other differ => TableInv.removed_memory_other session _ differ
  have freed : (removed target pointer session before.getLast?).memory pointer = none :=
    TableInv.removed_memory_self pointer session before.getLast?
  refine ⟨_, inv.sessionDelete_eq live split, ⟨chains, member, inv.chain, fun index => ?_⟩, freed,
    others, ?_, ?_⟩
  · rw [← inv.update_eq_erase live split]
    exact inv'.chain index
  · have host : SameHostBucket (removed target pointer session before.getLast?) session.addr := by
      intro other session' live' bucket
      obtain ⟨_, session'', live'', addr⟩ := TableInv.removed_live live'
      rw [addr] at bucket ⊢
      exact inv.sameHostBucket live other session'' live'' bucket
    rw [inv'.sessionFind_eq]
    cases found : List.find? _ _ with
    | none => rfl
    | some other =>
        obtain ⟨session', live', key⟩ := (inv'.find?_eq_some_iff host other).mp found
        obtain ⟨differ, session'', live'', addr⟩ := TableInv.removed_live live'
        rw [addr] at key
        exact (differ (inv.distinct other session'' pointer session live'' live key)).elim
  · intro other session' differ live'
    obtain ⟨session'', live'', addr⟩ :=
      TableInv.removed_kept session before.getLast? differ live'
    rw [inv.sessionFind_live live', ← addr, inv'.sessionFind_live live'']

/-- The session in the middle of a bucket is deleted. -/
theorem delete_unlinks_middle : ∃ session after,
    (tableAfter threeGets).memory 1 = some session ∧
      bucketIndex (tableAfter threeGets) session.addr =
        bucketIndex (tableAfter threeGets) firstClient ∧
      sessionDelete (tableAfter threeGets) 1 = .ok after ∧
      Unlinks (tableAfter threeGets) 1 session after := by
  have second : ((tableAfter threeGets).memory 1).map Session.addr = some (otherClient 96) := by
    decide +kernel
  obtain ⟨session, live, addr⟩ := Option.map_eq_some_iff.mp second
  have bucket : bucketIndex (tableAfter threeGets) (otherClient 96) =
      bucketIndex (tableAfter threeGets) firstClient := by decide +kernel
  obtain ⟨after, deleted, unlinks⟩ := delete_unlinks (emptyTable_serverAlloc idleKernel 0)
    (@tableAfter_run threeGets (by decide +kernel)) live
  refine ⟨session, after, live, ?_, deleted, unlinks⟩
  rw [addr]
  exact bucket

end

end Sas.Server
