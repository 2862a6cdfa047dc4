import Sas.Server.TableChains

/-! # The session table keeps its invariant

Creating a session appends it to the chain of its bucket, deleting one takes it out of its chain,
and both keep `TableInv`: the chains hold exactly the allocated sessions, each in the bucket of
its address, a bucket holds sessions of one host, and no two sessions have one client.
-/

namespace Sas.Server

open Foundation

/-- The session table represents these chains. -/
structure TableInv (server : Server) (chains : Nat → List SessionPtr) : Prop where
  capacity_pos : 0 < server.sessions.capacity
  chain : ∀ index, Chain server.nextOf (server.sessions.table index) (chains index)
  placed : ∀ index, ∀ pointer ∈ chains index, ∃ session,
    server.memory pointer = some session ∧ bucketIndex server session.addr = index
  listed : ∀ pointer session, server.memory pointer = some session →
    pointer ∈ chains (bucketIndex server session.addr)
  sameHost : ∀ pointer session other session', server.memory pointer = some session →
    server.memory other = some session' →
    bucketIndex server session.addr = bucketIndex server session'.addr →
    session.addr.sin6Addr = session'.addr.sin6Addr
  distinct : ∀ pointer session other session', server.memory pointer = some session →
    server.memory other = some session' → keyOf session.addr = keyOf session'.addr →
    pointer = other
  below : ∀ pointer session, server.memory pointer = some session → pointer < server.fresh
  count_eq : server.sessions.count =
    ∑ index ∈ Finset.range server.sessions.capacity, (chains index).length

/-- Every session in the bucket of an address belongs to the host of the address. -/
def SameHostBucket (server : Server) (addr : SockaddrIn6) : Prop :=
  ∀ pointer session, server.memory pointer = some session →
    bucketIndex server session.addr = bucketIndex server addr →
    session.addr.sin6Addr = addr.sin6Addr

/-- A session without its place in a chain. -/
def Session.detached (session : Session) : Session := { session with next := none }

@[simp] theorem detached_addr (session : Session) : session.detached.addr = session.addr := rfl

theorem addr_of_detached {session old : Session} (same : session.detached = old.detached) :
    session.addr = old.addr := by
  rw [← detached_addr session, same, detached_addr]

/-- Where memory agrees up to links, a session of the one is a session of the other. -/
theorem detached_of_live {before after : Option Session} {session : Session}
    (same : after.map Session.detached = before.map Session.detached)
    (live : after = some session) :
    ∃ old, before = some old ∧ session.detached = old.detached := by
  rw [live, Option.map_some] at same
  obtain ⟨old, found, equal⟩ := Option.map_eq_some_iff.mp same.symm
  exact ⟨old, found, equal.symm⟩

/-- The memory after `pointer->next = next`. -/
def relinked (memory : SessionPtr → Option Session) (pointer : SessionPtr)
    (next : Option SessionPtr) : SessionPtr → Option Session :=
  Function.update memory pointer
    ((memory pointer).map fun session => { session with next := next })

/-- Relinking one session leaves the others. -/
theorem relinked_of_ne {memory : SessionPtr → Option Session} {pointer other : SessionPtr}
    (next : Option SessionPtr) (differ : other ≠ pointer) :
    relinked memory pointer next other = memory other :=
  Function.update_of_ne differ _ _

/-- Relinking a session changes its link only. -/
theorem relinked_self (memory : SessionPtr → Option Session) (pointer : SessionPtr)
    (next : Option SessionPtr) : relinked memory pointer next pointer =
      (memory pointer).map fun session => { session with next := next } :=
  Function.update_self pointer _ _

/-- Assigning a link changes no session otherwise. -/
theorem relinked_detached (memory : SessionPtr → Option Session) (pointer other : SessionPtr)
    (next : Option SessionPtr) :
    (relinked memory pointer next other).map Session.detached =
      (memory other).map Session.detached := by
  by_cases same : other = pointer
  · subst same
    rw [relinked_self, Option.map_map]
    rfl
  · rw [relinked_of_ne next same]

namespace TableInv

variable {server : Server} {chains : Nat → List SessionPtr}

/-- The sessions of the chains are live. -/
theorem live_of_mem (inv : TableInv server chains) {index : Nat} {pointer : SessionPtr}
    (member : pointer ∈ chains index) : ∃ session, server.memory pointer = some session := by
  obtain ⟨session, live, _⟩ := inv.placed index pointer member
  exact ⟨session, live⟩

/-- A session lies in the chain of its bucket and in no other. -/
theorem mem_iff (inv : TableInv server chains) {pointer : SessionPtr} {session : Session}
    (live : server.memory pointer = some session) (index : Nat) :
    pointer ∈ chains index ↔ bucketIndex server session.addr = index := by
  constructor
  · intro member
    obtain ⟨other, live', placed⟩ := inv.placed index pointer member
    rw [live] at live'
    cases live'
    exact placed
  · rintro rfl
    exact inv.listed pointer session live

/-- A chain has no more nodes than were ever allocated, so a walk has rounds enough. -/
theorem length_le_rounds (inv : TableInv server chains) (index : Nat) :
    (chains index).length ≤ server.rounds := by
  have inside : (chains index).toFinset ⊆ Finset.range server.fresh := by
    intro pointer member
    obtain ⟨session, live⟩ := inv.live_of_mem (List.mem_toFinset.mp member)
    exact Finset.mem_range.mpr (inv.below pointer session live)
  have bound := Finset.card_le_card inside
  rw [List.toFinset_card_of_nodup (inv.chain index).nodup, Finset.card_range] at bound
  exact Nat.le_succ_of_le bound

/-- `sas_server_session_find` finds the first session of the bucket that it stops at. -/
theorem sessionFind_eq (inv : TableInv server chains) (addr : SockaddrIn6) :
    sessionFind server addr =
      .ok ((chains (bucketIndex server addr)).find? (server.stopsAt addr)) :=
  sessionFindLoop_eq (inv.chain _) (fun _ member => inv.live_of_mem member)
    (inv.length_le_rounds _)

/-- In a bucket of one host, a walk stops exactly at the session of the client. -/
theorem stopsAt_iff (inv : TableInv server chains) {addr : SockaddrIn6}
    (host : SameHostBucket server addr) {pointer : SessionPtr}
    (member : pointer ∈ chains (bucketIndex server addr)) :
    server.stopsAt addr pointer = true ↔
      ∃ session, server.memory pointer = some session ∧ keyOf session.addr = keyOf addr := by
  obtain ⟨session, live, placed⟩ := inv.placed _ pointer member
  have compare := addrEq_ne_zero_iff_of_sameHost (host pointer session live placed)
  simp only [stopsAt, live, bne_iff_ne, compare, Option.some.injEq, exists_eq_left']

/-- In a bucket of one host, the search finds the session of the client, where there is one. -/
theorem find?_eq_some_iff (inv : TableInv server chains) {addr : SockaddrIn6}
    (host : SameHostBucket server addr) (pointer : SessionPtr) :
    (chains (bucketIndex server addr)).find? (server.stopsAt addr) = some pointer ↔
      ∃ session, server.memory pointer = some session ∧ keyOf session.addr = keyOf addr := by
  constructor
  · intro found
    exact (inv.stopsAt_iff host (List.mem_of_find?_eq_some found)).mp
      (List.find?_some found)
  · rintro ⟨session, live, key⟩
    have member : pointer ∈ chains (bucketIndex server addr) :=
      (inv.mem_iff live _).mpr (bucketIndex_congr server key)
    cases found : (chains (bucketIndex server addr)).find? (server.stopsAt addr) with
    | none =>
        have passed := List.find?_eq_none.mp found pointer member
        exact (passed ((inv.stopsAt_iff host member).mpr ⟨session, live, key⟩)).elim
    | some other =>
        obtain ⟨session', live', key'⟩ :=
          (inv.stopsAt_iff host (List.mem_of_find?_eq_some found)).mp (List.find?_some found)
        rw [inv.distinct pointer session other session' live live' (key.trans key'.symm)]

/-- Where a session of another host lies in the bucket, the search stops at the first session. -/
theorem find?_of_other_host (inv : TableInv server chains) {addr : SockaddrIn6}
    (mixed : ¬ SameHostBucket server addr) :
    ∃ pointer session,
      (chains (bucketIndex server addr)).find? (server.stopsAt addr) = some pointer ∧
      server.memory pointer = some session ∧ session.addr.sin6Addr ≠ addr.sin6Addr := by
  unfold SameHostBucket at mixed
  push Not at mixed
  obtain ⟨other, session', live', placed', foreign⟩ := mixed
  have member : other ∈ chains (bucketIndex server addr) := (inv.mem_iff live' _).mpr placed'
  cases found : (chains (bucketIndex server addr)).find? (server.stopsAt addr) with
  | none =>
      have passed := List.find?_eq_none.mp found other member
      have zero : addrEq false session'.addr addr = 0 := by
        simpa only [stopsAt, live', bne_iff_ne, ne_eq, not_not] using passed
      exact (foreign ((addrEq_eq_zero_iff _ _).mp zero).1).elim
  | some pointer =>
      obtain ⟨session, live, placed⟩ :=
        inv.placed _ pointer (List.mem_of_find?_eq_some found)
      refine ⟨pointer, session, rfl, live, ?_⟩
      rw [inv.sameHost pointer session other session' live live' (placed.trans placed'.symm)]
      exact foreign

/-! ## Creating a session -/

/-- The server after a session has been created behind `prev`. -/
def created (server : Server) (addr : SockaddrIn6) (memory : Uninitialized)
    (prev : Option SessionPtr) : Server :=
  { server with
    sessions := { server.sessions with
      count := server.sessions.count + 1
      table := match prev with
        | none => Function.update server.sessions.table (bucketIndex server addr)
            (some server.fresh)
        | some _ => server.sessions.table }
    memory := match prev with
      | none => Function.update server.memory server.fresh (some (sessionCreate addr memory))
      | some last => relinked
          (Function.update server.memory server.fresh (some (sessionCreate addr memory))) last
          (some server.fresh)
    fresh := server.fresh + 1 }

/-- The next address is not in use. -/
theorem memory_fresh (inv : TableInv server chains) : server.memory server.fresh = none := by
  cases live : server.memory server.fresh with
  | none => rfl
  | some session => exact (Nat.lt_irrefl _ (inv.below _ session live)).elim

/-- The loop of `sas_server_session_get` finds the position of the address in its bucket. -/
theorem sessionGetLoop_eq (inv : TableInv server chains) (addr : SockaddrIn6) :
    sessionGetLoop server addr server.rounds
        (server.sessions.table (bucketIndex server addr)) =
      .ok (server.positionIn addr (chains (bucketIndex server addr))) :=
  Server.sessionGetLoop_eq (inv.chain _) (fun _ member => inv.live_of_mem member)
    (inv.length_le_rounds _)

/-- An address whose search stops gets the session the search stops at. -/
theorem sessionGet_found (inv : TableInv server chains) {addr : SockaddrIn6}
    (memory : Option Uninitialized) {pointer : SessionPtr}
    (found : (chains (bucketIndex server addr)).find? (server.stopsAt addr) = some pointer) :
    sessionGet server addr memory = .ok (some pointer, server) := by
  simp only [sessionGet, inv.sessionGetLoop_eq, positionIn, found, bind, Except.bind]

/-- Without memory, an address whose search does not stop gets nothing. -/
theorem sessionGet_no_memory (inv : TableInv server chains) {addr : SockaddrIn6}
    (missing : (chains (bucketIndex server addr)).find? (server.stopsAt addr) = none) :
    sessionGet server addr none = .ok (none, server) := by
  simp only [sessionGet, inv.sessionGetLoop_eq, positionIn, missing, bind, Except.bind]

/-- An address whose search does not stop gets a new session behind the last one. -/
theorem sessionGet_missing (inv : TableInv server chains) {addr : SockaddrIn6}
    (memory : Uninitialized)
    (missing : (chains (bucketIndex server addr)).find? (server.stopsAt addr) = none) :
    sessionGet server addr (some memory) =
      .ok (some server.fresh,
        created server addr memory (chains (bucketIndex server addr)).getLast?) := by
  simp only [sessionGet, inv.sessionGetLoop_eq, positionIn, missing, bind, Except.bind]
  cases ending : (chains (bucketIndex server addr)).getLast? with
  | none => rfl
  | some last =>
      obtain ⟨session, live⟩ := inv.live_of_mem (List.mem_of_getLast? ending)
      have older : last ≠ server.fresh := (inv.below last session live).ne
      have still : Function.update server.memory server.fresh (some (sessionCreate addr memory))
          last = some session := by rw [Function.update_of_ne older, live]
      simp only [load, store, still, created, relinked, Option.map_some]

/-- The new session as it stands in memory. -/
theorem created_memory_fresh (inv : TableInv server chains) (addr : SockaddrIn6)
    (memory : Uninitialized) :
    (created server addr memory (chains (bucketIndex server addr)).getLast?).memory
      server.fresh = some (sessionCreate addr memory) := by
  cases ending : (chains (bucketIndex server addr)).getLast? with
  | none => exact Function.update_self _ _ _
  | some last =>
      obtain ⟨session, live⟩ := inv.live_of_mem (List.mem_of_getLast? ending)
      have older : server.fresh ≠ last := (inv.below last session live).ne'
      exact (relinked_of_ne _ older).trans (Function.update_self _ _ _)

/-- Creating a session leaves the others as they were, up to their links. -/
theorem created_memory_other (addr : SockaddrIn6) (memory : Uninitialized)
    (prev : Option SessionPtr) {pointer : SessionPtr} (differ : pointer ≠ server.fresh) :
    ((created server addr memory prev).memory pointer).map Session.detached =
      (server.memory pointer).map Session.detached := by
  cases prev with
  | none => exact congrArg _ (Function.update_of_ne differ _ _)
  | some last =>
      refine (relinked_detached _ last pointer _).trans ?_
      rw [Function.update_of_ne differ]

/-- Allocated sessions of the server after a creation: the new one, and the old ones. -/
theorem created_live (inv : TableInv server chains) {addr : SockaddrIn6}
    {memory : Uninitialized} {pointer : SessionPtr} {session : Session}
    (live : (created server addr memory
      (chains (bucketIndex server addr)).getLast?).memory pointer = some session) :
    (pointer = server.fresh ∧ session = sessionCreate addr memory) ∨
      ∃ old, server.memory pointer = some old ∧ session.addr = old.addr := by
  by_cases same : pointer = server.fresh
  · subst same
    rw [inv.created_memory_fresh] at live
    exact .inl ⟨rfl, (Option.some.inj live).symm⟩
  · obtain ⟨old, found, equal⟩ := detached_of_live (created_memory_other addr memory
      (chains (bucketIndex server addr)).getLast? same) live
    exact .inr ⟨old, found, addr_of_detached equal⟩

/-- The old sessions keep their addresses. -/
theorem created_kept (inv : TableInv server chains) (addr : SockaddrIn6) (memory : Uninitialized)
    {pointer : SessionPtr} {old : Session} (found : server.memory pointer = some old) :
    ∃ session, (created server addr memory
        (chains (bucketIndex server addr)).getLast?).memory pointer = some session ∧
      session.addr = old.addr := by
  have same := created_memory_other addr memory
    (chains (bucketIndex server addr)).getLast? (inv.below pointer old found).ne
  obtain ⟨session, live, equal⟩ := detached_of_live same.symm found
  exact ⟨session, live, (addr_of_detached equal).symm⟩

/-- Only the link of the last session of the bucket changes. -/
theorem created_nextOf (addr : SockaddrIn6)
    (memory : Uninitialized) {pointer : SessionPtr} (differ : pointer ≠ server.fresh)
    (inner : (chains (bucketIndex server addr)).getLast? ≠ some pointer) :
    (created server addr memory (chains (bucketIndex server addr)).getLast?).nextOf pointer =
      server.nextOf pointer := by
  unfold nextOf created
  cases ending : (chains (bucketIndex server addr)).getLast? with
  | none => simp only [Function.update_of_ne differ]
  | some last =>
      have other : pointer ≠ last := fun same => inner (same ▸ ending)
      simp only [relinked_of_ne _ other, Function.update_of_ne differ]

/-- Changing one chain changes the number of all nodes by the difference. -/
theorem sum_length_update (chains : Nat → List SessionPtr) {capacity bucket : Nat}
    (inside : bucket < capacity) (nodes : List SessionPtr) :
    ∑ index ∈ Finset.range capacity, (Function.update chains bucket nodes index).length +
        (chains bucket).length =
      ∑ index ∈ Finset.range capacity, (chains index).length + nodes.length := by
  have member := Finset.mem_range.mpr inside
  rw [← Finset.add_sum_erase _ _ member, ← Finset.add_sum_erase _ _ member,
    Function.update_self]
  have others : ∀ index ∈ (Finset.range capacity).erase bucket,
      (Function.update chains bucket nodes index).length = (chains index).length := by
    intro index away
    rw [Function.update_of_ne (Finset.ne_of_mem_erase away)]
  rw [Finset.sum_congr rfl others]
  omega

/-- Every address has a bucket in the table. -/
theorem bucketIndex_lt (inv : TableInv server chains) (addr : SockaddrIn6) :
    bucketIndex server addr < server.sessions.capacity :=
  Nat.mod_lt _ inv.capacity_pos

/-- Where no session of the bucket compares as equal, they all belong to the host of the
address, and none to its client. -/
theorem missing_iff (inv : TableInv server chains) {addr : SockaddrIn6}
    (missing : (chains (bucketIndex server addr)).find? (server.stopsAt addr) = none)
    {pointer : SessionPtr} {session : Session} (live : server.memory pointer = some session)
    (placed : bucketIndex server session.addr = bucketIndex server addr) :
    session.addr.sin6Addr = addr.sin6Addr ∧ session.addr.sin6Port ≠ addr.sin6Port := by
  have passed := List.find?_eq_none.mp missing pointer ((inv.mem_iff live _).mpr placed)
  apply (addrEq_eq_zero_iff _ _).mp
  simpa only [stopsAt, live, bne_iff_ne, ne_eq, not_not] using passed

/-- A session in the table is not at the next address. -/
theorem ne_fresh_of_mem (inv : TableInv server chains) {index : Nat} {pointer : SessionPtr}
    (member : pointer ∈ chains index) : pointer ≠ server.fresh := by
  obtain ⟨session, live⟩ := inv.live_of_mem member
  exact (inv.below pointer session live).ne

/-- The chain of the bucket grows by the new session. -/
theorem created_chain_own (inv : TableInv server chains) (addr : SockaddrIn6)
    (memory : Uninitialized) :
    Chain (created server addr memory (chains (bucketIndex server addr)).getLast?).nextOf
      ((created server addr memory (chains (bucketIndex server addr)).getLast?).sessions.table
        (bucketIndex server addr))
      (chains (bucketIndex server addr) ++ [server.fresh]) := by
  have ends : (created server addr memory
      (chains (bucketIndex server addr)).getLast?).nextOf server.fresh = none := by
    rw [nextOf, inv.created_memory_fresh]
    rfl
  have chain := inv.chain (bucketIndex server addr)
  have once := chain.nodup
  rcases List.eq_nil_or_concat' (chains (bucketIndex server addr)) with empty | ⟨before, last, all⟩
  · rw [empty] at ends ⊢
    refine ⟨?_, ends⟩
    simp only [created, List.getLast?_nil, Function.update_self]
  · have ending : (chains (bucketIndex server addr)).getLast? = some last := by
      rw [all, List.getLast?_concat]
    have table : (created server addr memory
        (chains (bucketIndex server addr)).getLast?).sessions.table (bucketIndex server addr) =
        server.sessions.table (bucketIndex server addr) := by
      rw [ending]
      rfl
    rw [all] at chain once
    rw [table]
    nth_rewrite 2 [all]
    refine chain.snoc ?_ ?_ ends
    · intro other member
      have inside : other ∈ chains (bucketIndex server addr) := by
        rw [all]
        exact List.mem_append_left _ member
      refine created_nextOf addr memory (inv.ne_fresh_of_mem inside) ?_
      rw [ending]
      intro same
      exact (List.nodup_append.mp once).2.2 other member last (List.mem_singleton_self _)
        (Option.some.inj same).symm
    · have inside := List.mem_of_getLast? ending
      obtain ⟨session, live⟩ := inv.live_of_mem inside
      rw [ending]
      simp only [nextOf, created, relinked_self, live, Option.map_some, Option.bind_some,
        Function.update_of_ne (inv.ne_fresh_of_mem inside)]

/-- The chains of the other buckets stay as they are. -/
theorem created_chain_other (inv : TableInv server chains) (addr : SockaddrIn6)
    (memory : Uninitialized) {index : Nat} (other : index ≠ bucketIndex server addr) :
    Chain (created server addr memory (chains (bucketIndex server addr)).getLast?).nextOf
      ((created server addr memory
        (chains (bucketIndex server addr)).getLast?).sessions.table index) (chains index) := by
  have table : (created server addr memory
      (chains (bucketIndex server addr)).getLast?).sessions.table index =
      server.sessions.table index := by
    simp only [created]
    cases (chains (bucketIndex server addr)).getLast? with
    | none => exact Function.update_of_ne other _ _
    | some last => rfl
  rw [table]
  refine (inv.chain index).congr ?_
  intro pointer member
  refine created_nextOf addr memory (inv.ne_fresh_of_mem member) ?_
  intro ending
  obtain ⟨session, live⟩ := inv.live_of_mem member
  exact other (((inv.mem_iff live _).mp member).symm.trans
    ((inv.mem_iff live _).mp (List.mem_of_getLast? ending)))

/-- With the new session every session of the chains is in its bucket. -/
theorem created_placed (inv : TableInv server chains) (addr : SockaddrIn6)
    (memory : Uninitialized) {index : Nat} {pointer : SessionPtr}
    (member : pointer ∈ Function.update chains (bucketIndex server addr)
      (chains (bucketIndex server addr) ++ [server.fresh]) index) :
    ∃ session, (created server addr memory
        (chains (bucketIndex server addr)).getLast?).memory pointer = some session ∧
      bucketIndex server session.addr = index := by
  have fromOld (older : pointer ∈ chains index) : ∃ session,
      (created server addr memory (chains (bucketIndex server addr)).getLast?).memory
        pointer = some session ∧ bucketIndex server session.addr = index := by
    obtain ⟨old, found, place⟩ := inv.placed _ pointer older
    obtain ⟨session, live, same⟩ := inv.created_kept addr memory found
    exact ⟨session, live, by rw [same, place]⟩
  by_cases own : index = bucketIndex server addr
  · subst own
    rw [Function.update_self] at member
    rcases List.mem_append.mp member with before | new
    · exact fromOld before
    · rw [List.mem_singleton.mp new]
      exact ⟨_, inv.created_memory_fresh addr memory, rfl⟩
  · rw [Function.update_of_ne own] at member
    exact fromOld member

/-- With the new session every live session is in its chain. -/
theorem created_listed (inv : TableInv server chains) {addr : SockaddrIn6}
    {memory : Uninitialized} {pointer : SessionPtr} {session : Session}
    (live : (created server addr memory
      (chains (bucketIndex server addr)).getLast?).memory pointer = some session) :
    pointer ∈ Function.update chains (bucketIndex server addr)
      (chains (bucketIndex server addr) ++ [server.fresh]) (bucketIndex server session.addr) := by
  rcases inv.created_live live with ⟨rfl, rfl⟩ | ⟨old, found, same⟩
  · change server.fresh ∈ Function.update chains (bucketIndex server addr)
      (chains (bucketIndex server addr) ++ [server.fresh]) (bucketIndex server addr)
    rw [Function.update_self]
    exact List.mem_append_right _ (List.mem_singleton_self _)
  · rw [same]
    have before := inv.listed pointer old found
    by_cases own : bucketIndex server old.addr = bucketIndex server addr
    · rw [own] at before ⊢
      rw [Function.update_self]
      exact List.mem_append_left _ before
    · rw [Function.update_of_ne own]
      exact before

/-- Creating a session keeps the invariant. -/
theorem created_inv (inv : TableInv server chains) {addr : SockaddrIn6}
    (memory : Uninitialized)
    (missing : (chains (bucketIndex server addr)).find? (server.stopsAt addr) = none) :
    TableInv (created server addr memory (chains (bucketIndex server addr)).getLast?)
      (Function.update chains (bucketIndex server addr)
        (chains (bucketIndex server addr) ++ [server.fresh])) where
  capacity_pos := inv.capacity_pos
  chain := by
    intro index
    by_cases own : index = bucketIndex server addr
    · subst own
      rw [Function.update_self]
      exact inv.created_chain_own addr memory
    · rw [Function.update_of_ne own]
      exact inv.created_chain_other addr memory own
  placed := fun _ _ member => inv.created_placed addr memory member
  listed := fun _ _ live => inv.created_listed live
  sameHost := by
    intro pointer session other session' live live' place
    change bucketIndex server session.addr = bucketIndex server session'.addr at place
    rcases inv.created_live live with ⟨rfl, rfl⟩ | ⟨old, found, same⟩ <;>
      rcases inv.created_live live' with ⟨rfl, rfl⟩ | ⟨old', found', same'⟩
    · rfl
    · rw [same'] at place ⊢
      exact (inv.missing_iff missing found' place.symm).1.symm
    · rw [same] at place ⊢
      exact (inv.missing_iff missing found place).1
    · rw [same, same'] at place ⊢
      exact inv.sameHost pointer old other old' found found' place
  distinct := by
    intro pointer session other session' live live' key
    rcases inv.created_live live with ⟨rfl, rfl⟩ | ⟨old, found, same⟩ <;>
      rcases inv.created_live live' with ⟨rfl, rfl⟩ | ⟨old', found', same'⟩
    · rfl
    · rw [same'] at key
      exact ((inv.missing_iff missing found' (bucketIndex_congr server key.symm)).2
        (Prod.mk.inj key).2.symm).elim
    · rw [same] at key
      exact ((inv.missing_iff missing found (bucketIndex_congr server key)).2
        (Prod.mk.inj key).2).elim
    · rw [same, same'] at key
      exact inv.distinct pointer old other old' found found' key
  below := by
    intro pointer session live
    change pointer < server.fresh + 1
    rcases inv.created_live live with ⟨rfl, _⟩ | ⟨old, found, _⟩
    · exact Nat.lt_succ_self _
    · exact Nat.lt_succ_of_lt (inv.below pointer old found)
  count_eq := by
    have total := sum_length_update chains (inv.bucketIndex_lt addr)
      (chains (bucketIndex server addr) ++ [server.fresh])
    have before := inv.count_eq
    change server.sessions.count + 1 = _
    rw [List.length_append, List.length_singleton] at total
    change server.sessions.count + 1 = ((∑ index ∈ Finset.range server.sessions.capacity,
      (Function.update chains (bucketIndex server addr)
        (chains (bucketIndex server addr) ++ [server.fresh]) index).length : Nat) : Int)
    omega

/-! ## Fewer sessions -/

/-- Every session of a server is one of an earlier one, under the same address. -/
def Inherited (server after : Server) : Prop :=
  ∀ pointer session, after.memory pointer = some session →
    ∃ old, server.memory pointer = some old ∧ session.addr = old.addr

/-- Where a bucket has been of one host it still is when sessions go. -/
theorem inherited_sameHost (inv : TableInv server chains) {after : Server}
    (inherited : Inherited server after)
    (capacity : after.sessions.capacity = server.sessions.capacity) :
    ∀ pointer session other session', after.memory pointer = some session →
      after.memory other = some session' →
      bucketIndex after session.addr = bucketIndex after session'.addr →
      session.addr.sin6Addr = session'.addr.sin6Addr := by
  intro pointer session other session' live live' place
  rw [bucketIndex, bucketIndex, capacity] at place
  obtain ⟨old, found, same⟩ := inherited pointer session live
  obtain ⟨old', found', same'⟩ := inherited other session' live'
  rw [same, same'] at place ⊢
  exact inv.sameHost pointer old other old' found found' place

/-- Clients that have had one session each still have one when sessions go. -/
theorem inherited_distinct (inv : TableInv server chains) {after : Server}
    (inherited : Inherited server after) :
    ∀ pointer session other session', after.memory pointer = some session →
      after.memory other = some session' → keyOf session.addr = keyOf session'.addr →
      pointer = other := by
  intro pointer session other session' live live' key
  obtain ⟨old, found, same⟩ := inherited pointer session live
  obtain ⟨old', found', same'⟩ := inherited other session' live'
  rw [same, same'] at key
  exact inv.distinct pointer old other old' found found' key

end TableInv

end Sas.Server
