import Sas.Server.Run
import Sas.Server.Stream
import Sas.Server.TableDelete
import Sas.Foundation.Fallible

/-! # The session table as a map of clients

A `Directory` is what the session table is for: the session of every client, where a client is an
address with a port. Beside the table it runs through the same calls. As long as no session is
requested whose bucket holds a session of another host, the table represents the directory; at
an address whose bucket holds one, it never does.
-/

namespace Sas.Server

open Foundation

/-- The session of every client. -/
abbrev Directory := Vector UInt8 16 × UInt8 × UInt8 → Option SessionPtr

namespace Directory

/-- No client has a session. -/
def empty : Directory := fun _ => none

/-- A client that has no session gets this one. -/
def get (directory : Directory) (key : Vector UInt8 16 × UInt8 × UInt8) (session : SessionPtr) :
    Directory :=
  if directory key = none then Function.update directory key (some session) else directory

/-- The client of this session has none any more. -/
def delete (directory : Directory) (session : SessionPtr) : Directory := fun key =>
  if directory key = some session then none else directory key

end Directory

/-- A call on the session table. -/
inductive TableCall where
  | get (addr : SockaddrIn6) (memory : Uninitialized)
  | delete (session : SessionPtr)

/-- A call on the table, with the directory it stands for. Only allocated sessions are
deleted. -/
def TableStep (before : Server × Directory) (call : TableCall) (after : Server × Directory) :
    Prop :=
  match call with
  | .get addr memory => ∃ session,
      sessionGet before.1 addr (some memory) = .ok (some session, after.1) ∧
      after.2 = before.2.get (keyOf addr) session
  | .delete session =>
      (before.1.memory session).isSome ∧ sessionDelete before.1 session = .ok after.1 ∧
      after.2 = before.2.delete session

/-- The bucket of a requested address holds no session of another host. -/
def Uncrowded (server : Server) : TableCall → Prop
  | .get addr _ => SameHostBucket server addr
  | .delete _ => True

/-- A call on the table whose bucket holds no session of another host. -/
def UncrowdedStep (before : Server × Directory) (call : TableCall) (after : Server × Directory) :
    Prop :=
  Uncrowded before.1 call ∧ TableStep before call after

/-- The table answers for an address as the directory does: a request returns a session with
this address and port, namely the one of the directory or else a new one in the initial state,
and a search returns what the directory holds. -/
def RefinesAt (server : Server) (directory : Directory) (addr : SockaddrIn6)
    (memory : Uninitialized) : Prop :=
  (∃ pointer after session,
    sessionGet server addr (some memory) = .ok (some pointer, after) ∧
    after.memory pointer = some session ∧ keyOf session.addr = keyOf addr ∧
    match directory (keyOf addr) with
    | some bound => pointer = bound
    | none => server.memory pointer = none ∧ session.state = .initial) ∧
  sessionFind server addr = .ok (directory (keyOf addr))

/-- The directory holds exactly the allocated sessions, under their addresses. -/
def Represents (server : Server) (directory : Directory) : Prop :=
  ∀ key pointer, directory key = some pointer ↔
    ∃ session, server.memory pointer = some session ∧ keyOf session.addr = key

variable {server : Server} {chains : Nat → List SessionPtr} {directory : Directory}

/-- In a bucket of one host, the search finds what the directory holds. -/
theorem find?_eq_directory (inv : TableInv server chains) (represents : Represents server directory)
    {addr : SockaddrIn6} (host : SameHostBucket server addr) :
    (chains (bucketIndex server addr)).find? (server.stopsAt addr) = directory (keyOf addr) := by
  apply Option.ext
  intro pointer
  rw [inv.find?_eq_some_iff host, represents]

/-- In a bucket of one host, the table answers as the directory does. -/
theorem refinesAt_of_sameHost (inv : TableInv server chains)
    (represents : Represents server directory) {addr : SockaddrIn6} (memory : Uninitialized)
    (host : SameHostBucket server addr) : RefinesAt server directory addr memory := by
  have search := find?_eq_directory inv represents host
  refine ⟨?_, by rw [inv.sessionFind_eq, search]⟩
  cases bound : directory (keyOf addr) with
  | some pointer =>
      obtain ⟨session, live, key⟩ := (represents _ _).mp bound
      exact ⟨pointer, server, session, inv.sessionGet_found _ (search.trans bound), live, key, rfl⟩
  | none =>
      exact ⟨server.fresh, _, _, inv.sessionGet_missing memory (search.trans bound),
        inv.created_memory_fresh addr memory, rfl, inv.memory_fresh, rfl⟩

/-- In a bucket with a session of another host, a request returns such a session. -/
theorem sameHost_of_refinesAt (inv : TableInv server chains) {addr : SockaddrIn6}
    {memory : Uninitialized} (refines : RefinesAt server directory addr memory) :
    SameHostBucket server addr := by
  by_contra mixed
  obtain ⟨pointer, session, found, live, foreign⟩ := inv.find?_of_other_host mixed
  obtain ⟨⟨pointer', after, session', returned, live', key, _⟩, _⟩ := refines
  rw [inv.sessionGet_found _ found] at returned
  obtain ⟨same, rfl⟩ := Prod.mk.inj (Except.ok.inj returned)
  cases same
  rw [live] at live'
  cases live'
  exact foreign (Prod.mk.inj key).1

/-- Whether a session belongs to a client does not depend on its link. -/
theorem keyed_iff_of_detached {first second : Option Session}
    (same : first.map Session.detached = second.map Session.detached)
    (key : Vector UInt8 16 × UInt8 × UInt8) :
    (∃ session, first = some session ∧ keyOf session.addr = key) ↔
      ∃ session, second = some session ∧ keyOf session.addr = key := by
  have keys : first.map (fun session => keyOf session.addr) =
      second.map fun session => keyOf session.addr := by
    have mapped := congrArg (Option.map fun session : Session => keyOf session.addr) same
    rwa [Option.map_map, Option.map_map] at mapped
  simpa only [Option.map_eq_some_iff] using iff_of_eq (congrArg (· = some key) keys)

/-- A call in an uncrowded bucket keeps table and directory together. -/
theorem uncrowdedStep_represents {before after : Server × Directory} {call : TableCall}
    (holds : (∃ chains, TableInv before.1 chains) ∧ Represents before.1 before.2)
    (step : UncrowdedStep before call after) :
    (∃ chains, TableInv after.1 chains) ∧ Represents after.1 after.2 := by
  obtain ⟨⟨chains, inv⟩, represents⟩ := holds
  obtain ⟨server, directory⟩ := before
  obtain ⟨server', directory'⟩ := after
  obtain ⟨host, step⟩ := step
  cases call with
  | get addr memory =>
      obtain ⟨session, returned, rfl⟩ := step
      have search := find?_eq_directory inv represents host
      cases bound : directory (keyOf addr) with
      | some pointer =>
          rw [inv.sessionGet_found _ (search.trans bound)] at returned
          obtain ⟨_, rfl⟩ := Prod.mk.inj (Except.ok.inj returned)
          simp only [Directory.get, bound, reduceCtorEq, ↓reduceIte]
          exact ⟨⟨chains, inv⟩, represents⟩
      | none =>
          have missing := search.trans bound
          rw [inv.sessionGet_missing memory missing] at returned
          obtain ⟨same, rfl⟩ := Prod.mk.inj (Except.ok.inj returned)
          cases same
          refine ⟨⟨_, inv.created_inv memory missing⟩, ?_⟩
          intro key pointer
          simp only [Directory.get, bound, ↓reduceIte]
          by_cases own : pointer = server.fresh
          · subst own
            have old : ∀ key, directory key ≠ some server.fresh := by
              intro key held
              obtain ⟨session, live, _⟩ := (represents _ _).mp held
              rw [inv.memory_fresh] at live
              exact Option.some_ne_none _ live.symm
            simp only [inv.created_memory_fresh, Option.some.injEq, exists_eq_left']
            by_cases here : key = keyOf addr
            · subst here
              simp only [Function.update_self, sessionCreate]
            · simp only [Function.update_of_ne here, old, false_iff]
              exact fun same => here same.symm
          · have kept := TableInv.created_memory_other addr memory
              (chains (bucketIndex server addr)).getLast? own
            rw [keyed_iff_of_detached kept, ← represents]
            by_cases here : key = keyOf addr
            · subst here
              simp only [Function.update_self, Option.some.injEq, bound, reduceCtorEq, iff_false]
              exact fun equal => own equal.symm
            · rw [Function.update_of_ne here]
  | delete pointer =>
      obtain ⟨allocated, deleted, rfl⟩ := step
      obtain ⟨session, live⟩ := Option.isSome_iff_exists.mp allocated
      obtain ⟨after, returned, spec⟩ := sessionDelete_spec inv live
      rw [deleted] at returned
      cases Except.ok.inj returned
      refine ⟨spec.table, ?_⟩
      intro key other
      by_cases own : other = pointer
      · subst own
        have gone : ¬ (∃ session, server'.memory other = some session ∧
            keyOf session.addr = key) := by
          rintro ⟨session, live', _⟩
          rw [spec.freed] at live'
          exact Option.some_ne_none _ live'.symm
        simp only [Directory.delete, gone, iff_false]
        split <;> simp_all
      · have kept := spec.others other own
        rw [keyed_iff_of_detached (spec.others other own), ← represents]
        simp only [Directory.delete]
        by_cases here : directory key = some pointer
        · simp only [here, ↓reduceIte, reduceCtorEq, Option.some.injEq, false_iff]
          exact fun equal => own equal.symm
        · simp only [here, ↓reduceIte]

/-- The server before its first call, with the empty directory. -/
def emptyTable (kernel : Kernel) (clock : Int) : Server × Directory :=
  (serverAlloc kernel clock, Directory.empty)

/-- An empty table represents the empty directory. -/
theorem emptyTable_represents (kernel : Kernel) (clock : Int) :
    (∃ chains, TableInv (emptyTable kernel clock).1 chains) ∧
      Represents (emptyTable kernel clock).1 (emptyTable kernel clock).2 := by
  refine ⟨⟨_, tableInv_empty (Nat.zero_lt_succ 31) (fun _ => rfl) (fun _ => rfl) rfl⟩, ?_⟩
  intro key pointer
  simp only [emptyTable, Directory.empty, serverAlloc, reduceCtorEq, false_and, exists_false]

/-- The call requests no session for another host. -/
def FromHost (host : Vector UInt8 16) : TableCall → Prop
  | .get addr _ => addr.sin6Addr = host
  | .delete _ => True

/-- A directory whose clients all have one address keeps it if none of another host is added. -/
theorem TableStep.oneHost {host : Vector UInt8 16} {before after : Server × Directory}
    {call : TableCall} (step : TableStep before call after) (fromHost : FromHost host call)
    (one : ∀ key pointer, before.2 key = some pointer → key.1 = host) :
    ∀ key pointer, after.2 key = some pointer → key.1 = host := by
  intro key pointer held
  cases call with
  | get addr memory =>
      obtain ⟨session, _, same⟩ := step
      rw [same, Directory.get] at held
      split at held
      case isFalse => exact one key pointer held
      case isTrue =>
        by_cases here : key = keyOf addr
        · rw [here]
          exact fromHost
        · rw [Function.update_of_ne here] at held
          exact one key pointer held
  | delete session =>
      obtain ⟨_, _, same⟩ := step
      rw [same, Directory.delete] at held
      split at held
      case isTrue => cases held
      case isFalse => exact one key pointer held

/-- Where all clients have one address, the buckets of this address hold no other. -/
theorem Represents.sameHost {host : Vector UInt8 16} (represents : Represents server directory)
    (one : ∀ key pointer, directory key = some pointer → key.1 = host) {addr : SockaddrIn6}
    (own : addr.sin6Addr = host) : SameHostBucket server addr := by
  intro pointer session live _
  have same := one _ pointer ((represents _ pointer).mpr ⟨session, live, rfl⟩)
  exact same.trans own.symm

/-- The clients of one host do not crowd each other. -/
theorem uncrowded_of_fromHost {host : Vector UInt8 16} {kernel : Kernel} {clock : Int}
    {calls : List TableCall} {state : Server × Directory}
    (run : Run (fun before call after => TableStep before call after ∧ FromHost host call)
      (emptyTable kernel clock) calls state) :
    Run UncrowdedStep (emptyTable kernel clock) calls state ∧ Represents state.1 state.2 ∧
      ∀ key pointer, state.2 key = some pointer → key.1 = host := by
  suffices kept : Run UncrowdedStep (emptyTable kernel clock) calls state ∧
      ((∃ chains, TableInv state.1 chains) ∧ Represents state.1 state.2) ∧
        ∀ key pointer, state.2 key = some pointer → key.1 = host from
    ⟨kept.1, kept.2.1.2, kept.2.2⟩
  induction run with
  | nil =>
      refine ⟨.nil, emptyTable_represents kernel clock, fun key pointer held => ?_⟩
      cases held
  | @snoc calls before after call _ last ih =>
      obtain ⟨earlier, kept, one⟩ := ih
      have uncrowded : Uncrowded before.1 call := by
        cases call with
        | get addr memory => exact kept.2.sameHost one last.2
        | delete session => trivial
      have step : UncrowdedStep before call after := ⟨uncrowded, last.1⟩
      exact ⟨earlier.snoc step, uncrowdedStep_represents kept step, last.1.oneHost last.2 one⟩

/-- **The session table is the directory of its clients.** After any calls whose buckets held no
session of another host, the table answers for an address as the directory does exactly when
the bucket of this address holds no session of another host either. -/
theorem sessionTable_refines_iff (kernel : Kernel) (clock : Int) {calls : List TableCall}
    {server : Server} {directory : Directory}
    (run : Run UncrowdedStep (emptyTable kernel clock) calls (server, directory))
    (addr : SockaddrIn6) (memory : Uninitialized) :
    RefinesAt server directory addr memory ↔ SameHostBucket server addr := by
  obtain ⟨⟨chains, inv⟩, represents⟩ :=
    run.invariant (fun state => (∃ chains, TableInv state.1 chains) ∧ Represents state.1 state.2)
      (emptyTable_represents kernel clock)
      (fun _ _ _ holds step => uncrowdedStep_represents holds step)
  exact ⟨sameHost_of_refinesAt inv, refinesAt_of_sameHost inv represents memory⟩

/-- The client at port 40000 of `::1`. -/
def firstClient : SockaddrIn6 := listener

/-- Another client of the host of `firstClient`. -/
def otherClient (port : UInt8) : SockaddrIn6 := { firstClient with sin6Port := (156, port) }

/-- The client at port 39999 of `::2`; its hash falls into the bucket of `firstClient`. -/
def collidingClient : SockaddrIn6 :=
  ⟨10, (156, 63), 0, #v[0, 0, 0, 0, 0, 0, 0, 0, 0, 0, 0, 0, 0, 0, 0, 2], 0⟩

/-- A kernel that answers every call with nothing. -/
def idleKernel : Kernel :=
  ⟨⟨fun _ => .failed 2, fun _ => .data [], fun _ => none, fun _ => none, fun _ _ => 0⟩, 0, []⟩

/-- Zeroed memory for a new session. -/
def zeroedSession : Uninitialized := ⟨0, 0, 0, 0, 0⟩

/-- The table after `firstClient` has been given its session. -/
def firstTable : Server :=
  TableInv.created (serverAlloc idleKernel 0) firstClient zeroedSession none

theorem firstTable_step : TableStep (emptyTable idleKernel 0) (.get firstClient zeroedSession)
    (firstTable, Directory.empty.get (keyOf firstClient) 0) := ⟨0, rfl, rfl⟩

/-- Three clients in one bucket are given sessions, of which the one in the middle is deleted. -/
def middleDeleted : List TableCall :=
  [.get firstClient zeroedSession, .get (otherClient 96) zeroedSession,
    .get (otherClient 128) zeroedSession, .delete 1]

/-- A call on the table, with the directory it stands for, computed. -/
def tableCalled (before : Server × Directory) : TableCall → Except Fault (Server × Directory)
  | .get addr memory =>
      match sessionGet before.1 addr (some memory) with
      | .ok (some session, after) => .ok (after, before.2.get (keyOf addr) session)
      | .ok (none, _) => .error .nullPointer
      | .error fault => .error fault
  | .delete session => do
      let _ ← before.1.load session
      let after ← sessionDelete before.1 session
      .ok (after, before.2.delete session)

/-- What the executable call computes is a call on the table and the directory. -/
theorem tableCalled_sound {before after : Server × Directory} {call : TableCall}
    (done : tableCalled before call = .ok after) : TableStep before call after := by
  cases call with
  | get addr memory =>
      simp only [tableCalled] at done
      split at done
      · rename_i session server returned
        cases done
        exact ⟨session, returned, rfl⟩
      · cases done
      · cases done
  | delete session =>
      obtain ⟨current, loaded, rest⟩ := bind_eq_ok done
      obtain ⟨server, deleted, same⟩ := bind_eq_ok rest
      cases same
      exact ⟨Option.isSome_iff_exists.mpr ⟨current, live_of_load loaded⟩, deleted, rfl⟩

/-- The table and the directory without the session in the middle. -/
def gapped : Server × Directory :=
  (middleDeleted.foldlM tableCalled (emptyTable idleKernel 0)).toOption.getD (emptyTable idleKernel 0)

/-- Once the session in the middle of a bucket has been deleted, its client and the others are answered
from the directory, and the client of another host is not. -/
theorem sessionTable_refines_middle :
    RefinesAt gapped.1 gapped.2 (otherClient 96) zeroedSession ∧
      RefinesAt gapped.1 gapped.2 (otherClient 128) zeroedSession ∧
      ¬ RefinesAt gapped.1 gapped.2 collidingClient zeroedSession := by
  have computed : Run (fun before call after => tableCalled before call = .ok after)
      (emptyTable idleKernel 0) middleDeleted (gapped.1, gapped.2) := by
    rw [Prod.mk.eta]
    exact Run.of_foldlM (eq_ok_getD (by decide +kernel) _)
  have hosts : ∀ call ∈ middleDeleted, FromHost firstClient.sin6Addr call := by
    simp [middleDeleted, FromHost, otherClient]
  obtain ⟨run, represents, one⟩ := uncrowded_of_fromHost (computed.mono_of_mem
    fun before call after member done => ⟨tableCalled_sound done, hosts call member⟩)
  have refines (addr : SockaddrIn6) :=
    sessionTable_refines_iff idleKernel 0 run addr zeroedSession
  refine ⟨(refines _).mpr (represents.sameHost one rfl), (refines _).mpr (represents.sameHost one rfl),
    fun wrongly => ?_⟩
  have kept : (gapped.1.memory 0).map Session.addr = some firstClient := by decide +kernel
  obtain ⟨session, live, addr⟩ := Option.map_eq_some_iff.mp kept
  have bucket : bucketIndex gapped.1 firstClient = bucketIndex gapped.1 collidingClient := by
    decide +kernel
  rw [← addr] at bucket
  have host := (refines collidingClient).mp wrongly 0 session live bucket
  rw [addr] at host
  exact absurd host (by decide)

/-- The client of another host in the same bucket is handed the session of `firstClient`. -/
theorem sessionTable_not_refines :
    ¬ ∀ (kernel : Kernel) (clock : Int) (calls : List TableCall) (server : Server)
      (directory : Directory),
      Run TableStep (emptyTable kernel clock) calls (server, directory) →
      ∀ (addr : SockaddrIn6) (memory : Uninitialized), RefinesAt server directory addr memory := by
  intro refines
  obtain ⟨_, search⟩ := refines idleKernel 0 _ _ _ (Run.singleton firstTable_step)
    collidingClient zeroedSession
  have found : sessionFind firstTable collidingClient = .ok (some 0) := by rfl
  have absent : Directory.empty.get (keyOf firstClient) 0 (keyOf collidingClient) = none := by
    decide
  rw [found, absent] at search
  exact Option.some_ne_none _ (Except.ok.inj search)

end Sas.Server
