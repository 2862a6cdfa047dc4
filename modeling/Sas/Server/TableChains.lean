import Sas.Foundation.Chain
import Sas.Server.Table
import Mathlib.Algebra.BigOperators.Group.Finset.Basic
import Mathlib.Algebra.Order.BigOperators.Group.Finset
import Mathlib.Data.Finset.Card

/-! # The chains of the session table

The representation invariant of the session table (`TableInv`), and what the three chain walks
of the source compute on a table that satisfies it. The comparison `addrEq` holds for two
addresses of different hosts as well as for equal addresses, so a walk is only exact in a bucket
that holds sessions of one host; creating a session keeps every bucket that way, because it
happens only when no session of the bucket compares as equal.
-/

namespace Sas.Server

open Foundation

/-! ## Comparing addresses -/

/-- What identifies a client: the bytes of its address and of its port. -/
def keyOf (addr : SockaddrIn6) : Vector UInt8 16 × UInt8 × UInt8 :=
  (addr.sin6Addr, addr.sin6Port)

/-- Byte strings of one length compare as equal exactly when they are. -/
theorem memcmp_eq_zero_iff {first second : List UInt8} (lengths : first.length = second.length) :
    memcmp first second = 0 ↔ first = second := by
  induction first generalizing second with
  | nil =>
      rw [List.eq_nil_of_length_eq_zero lengths.symm]
      simp only [memcmp]
  | cons a first ih =>
      cases second with
      | nil => exact (Nat.succ_ne_zero _ lengths).elim
      | cons b second =>
          simp only [List.length_cons, Nat.add_right_cancel_iff] at lengths
          by_cases same : a = b
          · simp only [memcmp, same, ↓reduceIte, ih lengths, List.cons.injEq, true_and]
          · have differ : a.toNat ≠ b.toNat := fun equal => same (UInt8.toNat_inj.mp equal)
            simp only [memcmp, same, ↓reduceIte, List.cons.injEq, false_and, iff_false]
            omega

/-- Ports are the same if their bytes are. -/
theorem portOf_eq_iff (a b : SockaddrIn6) : portOf a = portOf b ↔ a.sin6Port = b.sin6Port := by
  constructor
  · intro same
    have high := a.sin6Port.1.toNat_lt
    have high' := b.sin6Port.1.toNat_lt
    have low := a.sin6Port.2.toNat_lt
    have low' := b.sin6Port.2.toNat_lt
    unfold portOf at same
    exact Prod.ext (UInt8.toNat_inj.mp (by omega)) (UInt8.toNat_inj.mp (by omega))
  · intro same
    simp only [portOf, same]

/-- Two address objects compare as different exactly when they have one host and two ports. -/
theorem addrEq_eq_zero_iff (a b : SockaddrIn6) :
    addrEq false a b = 0 ↔ a.sin6Addr = b.sin6Addr ∧ a.sin6Port ≠ b.sin6Port := by
  have hosts : memcmp a.sin6Addr.toList b.sin6Addr.toList = 0 ↔ a.sin6Addr = b.sin6Addr := by
    rw [memcmp_eq_zero_iff (by simp only [Vector.length_toList]), Vector.toList_inj]
  simp only [addrEq, Bool.false_eq_true, ↓reduceIte, ne_eq]
  rw [← hosts, ← portOf_eq_iff]
  by_cases host : memcmp a.sin6Addr.toList b.sin6Addr.toList = 0
  · by_cases port : portOf a = portOf b
    · simp only [host, port, not_true_eq_false, ↓reduceIte, and_false, one_ne_zero]
    · simp only [host, port, not_true_eq_false, ↓reduceIte, not_false_eq_true, and_self]
  · simp only [host, not_false_eq_true, ↓reduceIte, false_and]

/-- Within one host, comparing addresses is comparing clients. -/
theorem addrEq_ne_zero_iff_of_sameHost {a b : SockaddrIn6} (host : a.sin6Addr = b.sin6Addr) :
    addrEq false a b ≠ 0 ↔ keyOf a = keyOf b := by
  rw [ne_eq, addrEq_eq_zero_iff, keyOf, keyOf, Prod.mk.injEq]
  simp only [host, true_and, not_not]

/-- The bucket of a client depends on its key only. -/
theorem addrHash_congr {a b : SockaddrIn6} (same : keyOf a = keyOf b) : addrHash a = addrHash b := by
  obtain ⟨host, port⟩ := Prod.mk.inj same
  unfold addrHash
  rw [host, port]

theorem bucketIndex_congr (server : Server) {a b : SockaddrIn6} (same : keyOf a = keyOf b) :
    bucketIndex server a = bucketIndex server b := by
  rw [bucketIndex, bucketIndex, addrHash_congr same]

/-! ## The walks on a chain -/

/-- The link of the session behind a pointer. -/
def nextOf (server : Server) (pointer : SessionPtr) : Option SessionPtr :=
  (server.memory pointer).bind Session.next

/-- Whether a walk for this address stops at the session behind a pointer. -/
def stopsAt (server : Server) (addr : SockaddrIn6) (pointer : SessionPtr) : Bool :=
  match server.memory pointer with
  | some session => addrEq false session.addr addr != 0
  | none => false

@[simp] theorem load_of_some {server : Server} {pointer : SessionPtr} {session : Session}
    (live : server.memory pointer = some session) : server.load pointer = .ok session := by
  simp only [load, live]

/-- A session that is read is allocated. -/
theorem live_of_load {server : Server} {pointer : SessionPtr} {session : Session}
    (done : server.load pointer = .ok session) :
    server.memory pointer = some session := by
  unfold load at done
  split at done
  · cases done
    assumption
  · cases done

@[simp] theorem store_of_some {server : Server} {pointer : SessionPtr} {old : Session}
    (live : server.memory pointer = some old) (session : Session) :
    server.store pointer session =
      .ok { server with memory := Function.update server.memory pointer (some session) } := by
  simp only [store, live]

/-- Finding a session is searching the chain. -/
theorem sessionFindLoop_eq {server : Server} {addr : SockaddrIn6} {head : Option SessionPtr}
    {nodes : List SessionPtr} (chain : Chain server.nextOf head nodes)
    (live : ∀ pointer ∈ nodes, ∃ session, server.memory pointer = some session)
    {rounds : Nat} (enough : nodes.length ≤ rounds) :
    sessionFindLoop server addr rounds head = .ok (nodes.find? (server.stopsAt addr)) := by
  induction nodes generalizing head rounds with
  | nil =>
      cases (show head = none from chain)
      simp only [sessionFindLoop, List.find?_nil]
  | cons pointer nodes ih =>
      obtain ⟨start, rest⟩ := chain
      subst start
      obtain ⟨session, found⟩ := live pointer List.mem_cons_self
      have following : server.nextOf pointer = session.next := by
        simp only [nextOf, found, Option.bind_some]
      cases rounds with
      | zero => exact (Nat.not_succ_le_zero _ enough).elim
      | succ rounds =>
          rw [List.length_cons, Nat.add_le_add_iff_right] at enough
          have later := ih rest (fun other member => live other (List.mem_cons_of_mem _ member))
            enough
          rw [following] at later
          by_cases stop : addrEq false session.addr addr = 0
          · simp [sessionFindLoop, bind, Except.bind, stop, later, stopsAt,
              found]
          · simp [sessionFindLoop, bind, Except.bind, stop, stopsAt, found]

/-- Where the walk of `sas_server_session_get` ends on a chain. -/
def positionIn (server : Server) (addr : SockaddrIn6) (nodes : List SessionPtr) : Position :=
  match nodes.find? (server.stopsAt addr) with
  | some session => .found session
  | none => .last nodes.getLast?

/-- The loop of `sas_server_session_get` finds the position of the address in the chain. -/
theorem sessionGetLoop_eq {server : Server} {addr : SockaddrIn6} {head : Option SessionPtr}
    {nodes : List SessionPtr} (chain : Chain server.nextOf head nodes)
    (live : ∀ pointer ∈ nodes, ∃ session, server.memory pointer = some session)
    {rounds : Nat} (enough : nodes.length ≤ rounds) :
    sessionGetLoop server addr rounds head = .ok (server.positionIn addr nodes) := by
  induction nodes generalizing head rounds with
  | nil =>
      cases (show head = none from chain)
      simp only [sessionGetLoop, positionIn, List.find?_nil, List.getLast?_nil]
  | cons pointer nodes ih =>
      obtain ⟨start, rest⟩ := chain
      subst start
      obtain ⟨session, found⟩ := live pointer List.mem_cons_self
      have following : server.nextOf pointer = session.next := by
        simp only [nextOf, found, Option.bind_some]
      cases rounds with
      | zero => exact (Nat.not_succ_le_zero _ enough).elim
      | succ rounds =>
          rw [List.length_cons, Nat.add_le_add_iff_right] at enough
          have later := ih rest (fun other member => live other (List.mem_cons_of_mem _ member))
            enough
          rw [following] at later rest
          by_cases stop : addrEq false session.addr addr = 0
          · cases nodes with
            | nil =>
                have last : session.next = none := rest
                simp [sessionGetLoop, bind, Except.bind, stop, last,
                  positionIn, stopsAt, found]
            | cons second nodes =>
                have more : session.next ≠ none := by rw [rest.1]; exact Option.some_ne_none _
                simp [sessionGetLoop, bind, Except.bind, stop, more, later,
                  positionIn, stopsAt, found]
          · simp [sessionGetLoop, bind, Except.bind, stop, positionIn,
              stopsAt, found]

end Sas.Server
