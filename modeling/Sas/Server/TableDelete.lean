import Sas.Server.TableInvariant

/-! # Deleting a session

`sas_server_session_delete` unlinks the first session of the chain that compares as equal, and
frees the one it was given. In a table that satisfies the invariant both are the same session:
the sessions before it in the chain have its host and another port.
-/

namespace Sas.Server

open Foundation

/-- What `sas_server_session_delete` closes: the descriptor of the source, when a pipeline was
built, and the descriptor of the session. -/
def release (session : Session) (kernel : Kernel) : Kernel :=
  let kernel := pipelineDealloc session kernel
  if session.fd ≥ 0 then kernel.closeFile session.fd else kernel

/-- The server after the session behind `pointer` has been unlinked from behind `prev` and
freed. -/
def removed (server : Server) (pointer : SessionPtr) (session : Session)
    (prev : Option SessionPtr) : Server :=
  { server with
    sessions := { server.sessions with
      count := server.sessions.count - 1
      table := match prev with
        | none => Function.update server.sessions.table (bucketIndex server session.addr)
            session.next
        | some _ => server.sessions.table }
    memory := Function.update
      (match prev with
        | none => server.memory
        | some before => relinked server.memory before session.next) pointer none
    kernel := release session server.kernel }

namespace TableInv

variable {server : Server} {chains : Nat → List SessionPtr}

/-- The walk passes the sessions that compare as different and unlinks the one that matches. -/
theorem sessionDeleteLoop_eq {pointer : SessionPtr} {session : Session} {addr : SockaddrIn6}
    {index : Nat} {before after : List SessionPtr} {head : Option SessionPtr}
    (chain : Chain server.nextOf head (before ++ pointer :: after))
    (live : server.memory pointer = some session)
    (passed : ∀ other ∈ before, other ≠ pointer ∧ ∃ session',
      server.memory other = some session' ∧ addrEq false session'.addr addr = 0)
    {rounds : Nat} (enough : before.length < rounds) (prev : Option SessionPtr) :
    sessionDeleteLoop server pointer addr index rounds prev head =
      sessionUnlink server pointer index (before.getLast?.or prev) session.next := by
  induction before generalizing head rounds prev with
  | nil =>
      obtain ⟨start, _⟩ := chain
      subst start
      cases rounds with
      | zero => exact (Nat.not_lt_zero _ enough).elim
      | succ rounds =>
          simp only [sessionDeleteLoop, load_of_some live, bind, Except.bind, beq_self_eq_true,
            addrEq, ↓reduceIte, ne_eq, one_ne_zero, not_false_eq_true, List.getLast?_nil,
            Option.none_or]
  | cons other before ih =>
      obtain ⟨start, rest⟩ := chain
      subst start
      obtain ⟨differ, session', live', compared⟩ := passed other List.mem_cons_self
      have following : server.nextOf other = session'.next := by
        simp only [nextOf, live', Option.bind_some]
      cases rounds with
      | zero => exact (Nat.not_lt_zero _ enough).elim
      | succ rounds =>
          rw [List.length_cons, Nat.add_lt_add_iff_right] at enough
          have later := ih rest (fun q member => passed q (List.mem_cons_of_mem _ member)) enough
            (some other)
          rw [following] at later
          have unequal : (other == pointer) = false := beq_eq_false_iff_ne.mpr differ
          have ending : (other :: before).getLast?.or prev = before.getLast?.or (some other) := by
            cases before with
            | nil => rfl
            | cons q before =>
                rw [List.getLast?_cons_cons]
                cases last : (q :: before).getLast? with
                | none => exact (List.cons_ne_nil _ _ (List.getLast?_eq_none_iff.mp last)).elim
                | some q' => rfl
          simp only [sessionDeleteLoop, load_of_some live', bind, Except.bind, unequal, compared,
            ne_eq, not_true_eq_false, ↓reduceIte, later, ending]

/-- Unlinking behind an allocated session, or at the head. -/
theorem sessionUnlink_eq {pointer : SessionPtr} {session : Session}
    (live : server.memory pointer = some session) {prev : Option SessionPtr}
    (before : ∀ other ∈ prev, other ≠ pointer ∧ ∃ session', server.memory other = some session') :
    sessionUnlink server pointer (bucketIndex server session.addr) prev session.next =
      .ok (removed server pointer session prev) := by
  cases prev with
  | none =>
      simp only [sessionUnlink, bind, Except.bind, load, setBucket, live, free]
      rfl
  | some other =>
      obtain ⟨differ, session', live'⟩ := before other rfl
      have still : relinked server.memory other session.next pointer = some session := by
        rw [relinked_of_ne _ differ.symm, live]
      have stored : Function.update server.memory other
          (some { session' with next := session.next }) =
          relinked server.memory other session.next := by
        simp only [relinked, live', Option.map_some]
      simp only [sessionUnlink, bind, Except.bind, load, store, live', stored, still, free]
      rfl

/-- Deleting an allocated session removes exactly this session. -/
theorem sessionDelete_eq (inv : TableInv server chains) {pointer : SessionPtr}
    {session : Session} (live : server.memory pointer = some session)
    {before after : List SessionPtr}
    (split : chains (bucketIndex server session.addr) = before ++ pointer :: after) :
    sessionDelete server pointer = .ok (removed server pointer session before.getLast?) := by
  have chain := inv.chain (bucketIndex server session.addr)
  rw [split] at chain
  have once := chain.nodup
  have passed : ∀ other ∈ before, other ≠ pointer ∧ ∃ session',
      server.memory other = some session' ∧ addrEq false session'.addr session.addr = 0 := by
    intro other member
    have differ : other ≠ pointer := fun same =>
      (List.nodup_append.mp once).2.2 other member pointer List.mem_cons_self same
    obtain ⟨session', live', placed⟩ := inv.placed (bucketIndex server session.addr) other
      (split ▸ List.mem_append_left _ member)
    have host := inv.sameHost other session' pointer session live' live placed
    refine ⟨differ, session', live', ?_⟩
    by_contra equal
    exact differ (inv.distinct other session' pointer session live' live
      ((addrEq_ne_zero_iff_of_sameHost host).mp equal))
  have enough : before.length < server.rounds := by
    have bound := inv.length_le_rounds (bucketIndex server session.addr)
    rw [split, List.length_append, List.length_cons] at bound
    omega
  have walked := @sessionDeleteLoop_eq _ _ _ _ (bucketIndex server session.addr) _ _ _ chain live
    passed _ enough none
  rw [Option.or_none] at walked
  have apart : ∀ other ∈ before.getLast?, other ≠ pointer ∧ ∃ session',
      server.memory other = some session' := by
    intro other member
    obtain ⟨differ, session', live', _⟩ := passed other (List.mem_of_getLast? member)
    exact ⟨differ, session', live'⟩
  have unlinked := sessionUnlink_eq live apart
  simp only [sessionDelete, load_of_some live, bind, Except.bind]
  rw [walked, unlinked]

theorem removed_memory_self (pointer : SessionPtr) (session : Session)
    (prev : Option SessionPtr) : (removed server pointer session prev).memory pointer = none :=
  Function.update_self _ _ _

/-- Deleting a session leaves the others as they were, up to their links. -/
theorem removed_memory_other {pointer other : SessionPtr} (session : Session)
    (prev : Option SessionPtr) (differ : other ≠ pointer) :
    ((removed server pointer session prev).memory other).map Session.detached =
      (server.memory other).map Session.detached := by
  refine (congrArg _ (Function.update_of_ne differ _ _)).trans ?_
  cases prev with
  | none => rfl
  | some before => exact relinked_detached _ _ _ _

/-- What is left after a removal has been there before, at the same address. -/
theorem removed_live {pointer other : SessionPtr} {session session' : Session}
    {prev : Option SessionPtr}
    (live : (removed server pointer session prev).memory other = some session') :
    other ≠ pointer ∧ ∃ old, server.memory other = some old ∧ session'.addr = old.addr := by
  have differ : other ≠ pointer := by
    rintro rfl
    rw [removed_memory_self] at live
    exact (Option.some_ne_none _ live.symm).elim
  obtain ⟨old, found, equal⟩ := detached_of_live (removed_memory_other session prev differ) live
  exact ⟨differ, old, found, addr_of_detached equal⟩

/-- The other sessions keep their addresses. -/
theorem removed_kept {pointer other : SessionPtr} {old : Session} (session : Session)
    (prev : Option SessionPtr) (differ : other ≠ pointer)
    (found : server.memory other = some old) :
    ∃ session', (removed server pointer session prev).memory other = some session' ∧
      session'.addr = old.addr := by
  obtain ⟨session', live, equal⟩ :=
    detached_of_live (removed_memory_other session prev differ).symm found
  exact ⟨session', live, (addr_of_detached equal).symm⟩

theorem removed_inherited (pointer : SessionPtr) (session : Session) (prev : Option SessionPtr) :
    Inherited server (removed server pointer session prev) :=
  fun _ _ live => (removed_live live).2

/-- Behind the predecessor of the removed session no link changes. -/
theorem removed_nextOf {pointer other : SessionPtr} {session : Session}
    {prev : Option SessionPtr} (differ : other ≠ pointer) (inner : prev ≠ some other) :
    (removed server pointer session prev).nextOf other = server.nextOf other := by
  unfold nextOf removed
  cases prev with
  | none => simp only [Function.update_of_ne differ]
  | some before =>
      have apart : other ≠ before := fun same => inner (congrArg some same.symm)
      simp only [Function.update_of_ne differ, relinked_of_ne _ apart]

/-- The chain of the bucket loses the session. -/
theorem removed_chain_own (inv : TableInv server chains) {pointer : SessionPtr}
    {session : Session} (live : server.memory pointer = some session)
    {before after : List SessionPtr}
    (split : chains (bucketIndex server session.addr) = before ++ pointer :: after) :
    Chain (removed server pointer session before.getLast?).nextOf
      ((removed server pointer session before.getLast?).sessions.table
        (bucketIndex server session.addr)) (before ++ after) := by
  have chain := inv.chain (bucketIndex server session.addr)
  rw [split] at chain
  have once := chain.nodup
  have following : server.nextOf pointer = session.next := by
    simp only [nextOf, live, Option.bind_some]
  rcases List.eq_nil_or_concat' before with rfl | ⟨earlier, last, rfl⟩
  · have rest := chain.tail
    rw [following] at rest
    have table : (removed server pointer session ([] : List SessionPtr).getLast?).sessions.table
        (bucketIndex server session.addr) = session.next := Function.update_self _ _ _
    rw [table, List.nil_append]
    refine rest.congr fun other member => ?_
    refine removed_nextOf ?_ (fun same => (Option.some_ne_none _ same.symm).elim)
    rintro rfl
    exact (List.nodup_cons.mp once).1 member
  · rw [List.append_assoc] at chain once
    rw [List.getLast?_concat, List.append_assoc]
    have parts := List.nodup_append.mp once
    have behind := List.nodup_cons.mp parts.2.1
    have apart : last ≠ pointer := fun same =>
      behind.1 (same ▸ List.mem_append_right [] List.mem_cons_self)
    have fresh : ∀ other ∈ earlier ++ after, other ≠ pointer ∧ some last ≠ some other := by
      intro other member
      rcases List.mem_append.mp member with inside | inside
      · exact ⟨fun same => parts.2.2 other inside pointer
            (List.mem_cons_of_mem _ List.mem_cons_self) same,
          fun same => parts.2.2 other inside last List.mem_cons_self
            (Option.some.inj same).symm⟩
      · refine ⟨fun same => (List.nodup_cons.mp behind.2).1 (same ▸ inside), fun same => ?_⟩
        exact behind.1 (List.mem_append_right [] (List.mem_cons_of_mem _
          (Option.some.inj same ▸ inside)))
    have table : (removed server pointer session (some last)).sessions.table
        (bucketIndex server session.addr) =
        server.sessions.table (bucketIndex server session.addr) := rfl
    rw [table]
    refine chain.unlink (fun other member => ?_) ?_
    · obtain ⟨differ, inner⟩ := fresh other member
      exact removed_nextOf differ inner
    · have inside : last ∈ chains (bucketIndex server session.addr) := by
        rw [split]
        exact List.mem_append_left _ (List.mem_append_right _ List.mem_cons_self)
      obtain ⟨session', live'⟩ := inv.live_of_mem inside
      simp only [nextOf, removed, Function.update_of_ne apart, relinked_self, live',
        Option.map_some, Option.bind_some, live]

/-- The chains of the other buckets stay as they are. -/
theorem removed_chain_other (inv : TableInv server chains) {pointer : SessionPtr}
    {session : Session} (live : server.memory pointer = some session)
    {before after : List SessionPtr}
    (split : chains (bucketIndex server session.addr) = before ++ pointer :: after) {index : Nat}
    (elsewhere : index ≠ bucketIndex server session.addr) :
    Chain (removed server pointer session before.getLast?).nextOf
      ((removed server pointer session before.getLast?).sessions.table index) (chains index) := by
  have table : (removed server pointer session before.getLast?).sessions.table index =
      server.sessions.table index := by
    simp only [removed]
    cases before.getLast? with
    | none => exact Function.update_of_ne elsewhere _ _
    | some last => rfl
  rw [table]
  refine (inv.chain index).congr fun other member => ?_
  obtain ⟨session', live'⟩ := inv.live_of_mem member
  have placed := (inv.mem_iff live' _).mp member
  refine removed_nextOf ?_ ?_
  · rintro rfl
    rw [live] at live'
    cases live'
    exact elsewhere placed.symm
  · intro ending
    have inside : other ∈ chains (bucketIndex server session.addr) := by
      rw [split]
      exact List.mem_append_left _ (List.mem_of_getLast? ending)
    exact elsewhere (placed.symm.trans ((inv.mem_iff live' _).mp inside))

/-- The chains lose the session, wherever it lies. -/
theorem update_eq_erase (inv : TableInv server chains) {pointer : SessionPtr} {session : Session}
    (live : server.memory pointer = some session) {before after : List SessionPtr}
    (split : chains (bucketIndex server session.addr) = before ++ pointer :: after) (index : Nat) :
    Function.update chains (bucketIndex server session.addr) (before ++ after) index =
      (chains index).erase pointer := by
  by_cases own : index = bucketIndex server session.addr
  · subst own
    have once := (inv.chain (bucketIndex server session.addr)).nodup
    rw [split] at once
    have apart : pointer ∉ before := fun inside =>
      (List.nodup_append.mp once).2.2 pointer inside pointer List.mem_cons_self rfl
    rw [Function.update_self, split, List.erase_append_right _ apart, List.erase_cons_head]
  · rw [Function.update_of_ne own,
      List.erase_of_not_mem fun inside => own ((inv.mem_iff live index).mp inside).symm]

/-- The chains without a session hold the other ones. -/
theorem mem_update_iff (inv : TableInv server chains) {pointer other : SessionPtr}
    {session : Session} (live : server.memory pointer = some session)
    {before after : List SessionPtr}
    (split : chains (bucketIndex server session.addr) = before ++ pointer :: after) (index : Nat) :
    other ∈ Function.update chains (bucketIndex server session.addr) (before ++ after) index ↔
      other ∈ chains index ∧ other ≠ pointer := by
  rw [inv.update_eq_erase live split, (inv.chain index).nodup.mem_erase_iff, and_comm]

/-- Deleting a session keeps the invariant. -/
theorem removed_inv (inv : TableInv server chains) {pointer : SessionPtr} {session : Session}
    (live : server.memory pointer = some session) {before after : List SessionPtr}
    (split : chains (bucketIndex server session.addr) = before ++ pointer :: after) :
    TableInv (removed server pointer session before.getLast?)
      (Function.update chains (bucketIndex server session.addr) (before ++ after)) where
  capacity_pos := inv.capacity_pos
  chain := by
    intro index
    by_cases own : index = bucketIndex server session.addr
    · subst own
      rw [Function.update_self]
      exact inv.removed_chain_own live split
    · rw [Function.update_of_ne own]
      exact inv.removed_chain_other live split own
  placed := by
    intro index other member
    obtain ⟨inside, differ⟩ := (inv.mem_update_iff live split index).mp member
    obtain ⟨old, found, place⟩ := inv.placed index other inside
    obtain ⟨session', live', same⟩ := removed_kept session before.getLast? differ found
    refine ⟨session', live', ?_⟩
    rw [same]
    exact place
  listed := by
    intro other session' live'
    obtain ⟨differ, old, found, same⟩ := removed_live live'
    rw [same]
    exact (inv.mem_update_iff live split _).mpr ⟨inv.listed other old found, differ⟩
  sameHost := inv.inherited_sameHost (removed_inherited _ _ _) rfl
  distinct := inv.inherited_distinct (removed_inherited _ _ _)
  below := by
    intro other session' live'
    obtain ⟨_, old, found, _⟩ := removed_live live'
    exact inv.below other old found
  count_eq := by
    have total := sum_length_update chains (inv.bucketIndex_lt session.addr) (before ++ after)
    have counted := inv.count_eq
    rw [split] at total
    simp only [List.length_append, List.length_cons] at total
    change server.sessions.count - 1 = ((∑ index ∈ Finset.range server.sessions.capacity,
      (Function.update chains (bucketIndex server session.addr) (before ++ after)
        index).length : Nat) : Int)
    omega

end TableInv

/-! ## Specifications for callers -/

/-- What the rest of the server sees of a deletion. -/
structure Deleted (server : Server) (pointer : SessionPtr) (session : Session)
    (after : Server) : Prop where
  table : ∃ chains, TableInv after chains
  freed : after.memory pointer = none
  others : ∀ other, other ≠ pointer →
    (after.memory other).map Session.detached = (server.memory other).map Session.detached
  timeouts : after.timeouts = server.timeouts
  clock : after.clock = server.clock
  fresh : after.fresh = server.fresh
  capacity : after.sessions.capacity = server.sessions.capacity
  kernel : after.kernel = release session server.kernel

/-- Deleting an allocated session succeeds. -/
theorem sessionDelete_spec {server : Server} {chains : Nat → List SessionPtr}
    (inv : TableInv server chains) {pointer : SessionPtr} {session : Session}
    (live : server.memory pointer = some session) :
    ∃ after, sessionDelete server pointer = .ok after ∧ Deleted server pointer session after := by
  obtain ⟨before, rest, split⟩ := List.append_of_mem (inv.listed pointer session live)
  exact ⟨_, inv.sessionDelete_eq live split, ⟨_, inv.removed_inv live split⟩,
    TableInv.removed_memory_self _ _ _,
    fun other differ => TableInv.removed_memory_other session _ differ, rfl, rfl, rfl, rfl, rfl⟩

/-- What the rest of the server sees of a creation. -/
structure Created (server : Server) (addr : SockaddrIn6) (memory : Uninitialized)
    (after : Server) : Prop where
  table : ∃ chains, TableInv after chains
  session : after.memory server.fresh = some (sessionCreate addr memory)
  unused : server.memory server.fresh = none
  others : ∀ other, other ≠ server.fresh →
    (after.memory other).map Session.detached = (server.memory other).map Session.detached
  timeouts : after.timeouts = server.timeouts
  clock : after.clock = server.clock
  fresh : after.fresh = server.fresh + 1
  capacity : after.sessions.capacity = server.sessions.capacity
  kernel : after.kernel = server.kernel

/-- The results of `sas_server_session_get`: an allocated session that compares as equal, no
session for want of memory, or a new one. -/
theorem sessionGet_spec {server : Server} {chains : Nat → List SessionPtr}
    (inv : TableInv server chains) (addr : SockaddrIn6) (memory : Option Uninitialized) :
    (∃ pointer session, server.memory pointer = some session ∧
      bucketIndex server session.addr = bucketIndex server addr ∧
      sessionGet server addr memory = .ok (some pointer, server)) ∨
    (memory = none ∧ sessionGet server addr memory = .ok (none, server)) ∨
    (∃ contents after, memory = some contents ∧
      sessionGet server addr memory = .ok (some server.fresh, after) ∧
      Created server addr contents after) := by
  cases found : (chains (bucketIndex server addr)).find? (server.stopsAt addr) with
  | some pointer =>
      obtain ⟨session, live, placed⟩ := inv.placed _ pointer (List.mem_of_find?_eq_some found)
      exact .inl ⟨pointer, session, live, placed, inv.sessionGet_found memory found⟩
  | none =>
      cases memory with
      | none => exact .inr (.inl ⟨rfl, inv.sessionGet_no_memory found⟩)
      | some contents =>
          exact .inr (.inr ⟨contents, _, rfl, inv.sessionGet_missing contents found,
            ⟨_, inv.created_inv contents found⟩, inv.created_memory_fresh addr contents,
            inv.memory_fresh, fun other differ => TableInv.created_memory_other _ _ _ differ,
            rfl, rfl, rfl, rfl, rfl⟩)

/-- The empty table satisfies the invariant. -/
theorem tableInv_empty {server : Server} (capacity : 0 < server.sessions.capacity)
    (table : ∀ index, server.sessions.table index = none)
    (memory : ∀ pointer, server.memory pointer = none) (count : server.sessions.count = 0) :
    TableInv server fun _ => [] where
  capacity_pos := capacity
  chain index := table index
  placed index pointer member := (List.not_mem_nil member).elim
  listed pointer session live := (Option.some_ne_none _ (live.symm.trans (memory pointer))).elim
  sameHost pointer session _ _ live :=
    (Option.some_ne_none _ (live.symm.trans (memory pointer))).elim
  distinct pointer session _ _ live :=
    (Option.some_ne_none _ (live.symm.trans (memory pointer))).elim
  below pointer session live := (Option.some_ne_none _ (live.symm.trans (memory pointer))).elim
  count_eq := by simp only [count, List.length_nil, Finset.sum_const_zero, Nat.cast_zero]

/-- The invariant depends on the addresses and links of the sessions only. -/
theorem TableInv.congr {server after : Server} {chains : Nat → List SessionPtr}
    (inv : TableInv server chains) (sessions : after.sessions = server.sessions)
    (fresh : after.fresh = server.fresh)
    (memory : ∀ pointer, (after.memory pointer).map (fun session => (session.addr, session.next)) =
      (server.memory pointer).map fun session => (session.addr, session.next)) :
    TableInv after chains := by
  have index : ∀ addr, bucketIndex after addr = bucketIndex server addr := by
    intro addr
    rw [bucketIndex, bucketIndex, sessions]
  have old : TableInv.Inherited server after := by
    intro pointer session live
    have same := memory pointer
    rw [live, Option.map_some] at same
    obtain ⟨before, found, equal⟩ := Option.map_eq_some_iff.mp same.symm
    exact ⟨before, found, (Prod.mk.inj equal).1.symm⟩
  have links : after.nextOf = server.nextOf := by
    funext pointer
    have same := memory pointer
    cases here : after.memory pointer <;> cases there : server.memory pointer <;>
      simp only [here, there, Option.map_some, Option.map_none, Option.some.injEq, Prod.mk.injEq,
        reduceCtorEq] at same <;> simp only [nextOf, here, there, Option.bind_some,
        Option.bind_none, same]
  constructor
  · rw [sessions]
    exact inv.capacity_pos
  · intro bucket
    rw [links, sessions]
    exact inv.chain bucket
  · intro bucket pointer member
    obtain ⟨before, found, placed⟩ := inv.placed bucket pointer member
    have same := memory pointer
    rw [found, Option.map_some] at same
    obtain ⟨session, live, equal⟩ := Option.map_eq_some_iff.mp same
    refine ⟨session, live, ?_⟩
    rw [index, (Prod.mk.inj equal).1]
    exact placed
  · intro pointer session live
    obtain ⟨before, found, addr⟩ := old pointer session live
    rw [index, addr]
    exact inv.listed pointer before found
  · exact inv.inherited_sameHost old (by rw [sessions])
  · exact inv.inherited_distinct old
  · intro pointer session live
    obtain ⟨before, found, _⟩ := old pointer session live
    rw [fresh]
    exact inv.below pointer before found
  · rw [sessions]
    exact inv.count_eq

end Sas.Server
