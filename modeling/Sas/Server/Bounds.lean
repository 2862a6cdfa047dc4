import Sas.Server.Pending
import Sas.Server.Directory

/-! # The heap stays in its allocation

A second version of the heap in which every access to the array is checked: an index must lie in the
allocation, and a timeout is read from an entry only. The checks never fail, whatever the array
holds: the checked version computes what the heap computes. So adding and popping lose no entry and
invent none, in order or not.
-/

namespace Sas.Server

open Foundation

/-- How the checked version fails: an access outside the array, or a fault of the heap itself. -/
inductive HeapFault where
  | outside (index : Nat)
  | inside (fault : Fault)
  deriving DecidableEq, Repr

/-! ## Checked accesses -/

/-- `heap[index]`, read. -/
def checkedEntry (server : Server) (index : Nat) : Except HeapFault (Option SessionPtr) :=
  if index < server.timeouts.capacity then .ok (server.timeouts.heap index)
  else .error (.outside index)

/-- `heap[index]`, written. -/
def checkedSet (server : Server) (index : Nat) (session : Option SessionPtr) :
    Except HeapFault Server :=
  if index < server.timeouts.capacity then .ok (server.setEntry index session)
  else .error (.outside index)

/-- `heap[index]->timeout`. -/
def checkedTimeout (server : Server) (index : Nat) : Except HeapFault Int :=
  if index < server.timeouts.count ∧ index < server.timeouts.capacity then
    (server.timeoutAt index).mapError .inside
  else .error (.outside index)

/-- The exchange of two entries, through `tmp`. -/
def checkedSwap (server : Server) (first second : Nat) : Except HeapFault Server := do
  let tmp ← checkedEntry server first
  let other ← checkedEntry server second
  let server ← checkedSet server first other
  checkedSet server second tmp

/-- The up-heap loop of `sas_server_timeout_add`. -/
def checkedAddLoop : Nat → Nat → Server → Except HeapFault Server
  | _, 0, server => .ok server
  | 0, _ + 1, _ => .error (.inside .diverge)
  | rounds + 1, index + 1, server => do
      let parent := index / 2
      if (← checkedTimeout server parent) < (← checkedTimeout server (index + 1)) then .ok server
      else checkedAddLoop rounds parent (← checkedSwap server (index + 1) parent)

/-- `sas_server_timeout_add`. -/
def checkedAdd (server : Server) (session : SessionPtr) : Except HeapFault Server := do
  let server :=
    if server.timeouts.count = server.timeouts.capacity then
      { server with timeouts := { server.timeouts with
          capacity := server.timeouts.capacity * 2 } }
    else server
  let index := server.timeouts.count
  let server := { server with timeouts := { server.timeouts with count := index + 1 } }
  checkedAddLoop index index (← checkedSet server index (some session))

/-- The left child of `sas_server_timeout_heapify`. -/
def checkedLeft (server : Server) (index : Nat) : Except HeapFault Nat :=
  if server.timeouts.count > 2 * index + 1 then do
    if (← checkedTimeout server (2 * index + 1)) < (← checkedTimeout server index) then
      .ok (2 * index + 1)
    else .ok index
  else .ok index

/-- The value of `lowest` at the end of the two tests of `sas_server_timeout_heapify`. -/
def checkedLowest (server : Server) (index : Nat) : Except HeapFault Nat := do
  let lowest ← checkedLeft server index
  if server.timeouts.count > 2 * index + 2 then do
    if (← checkedTimeout server (2 * index + 2)) < (← checkedTimeout server lowest) then
      .ok (2 * index + 1)
    else .ok lowest
  else .ok lowest

/-- `sas_server_timeout_heapify`. -/
def checkedHeapify : Nat → Nat → Server → Except HeapFault Server
  | 0, _, _ => .error (.inside .diverge)
  | rounds + 1, index, server => do
      let lowest ← checkedLowest server index
      if lowest ≠ index then checkedHeapify rounds lowest (← checkedSwap server lowest index)
      else .ok server

/-- `sas_server_timeout_pop`. -/
def checkedPop (server : Server) : Except HeapFault (Option SessionPtr × Server) :=
  if server.timeouts.count = 0 then .ok (none, server)
  else do
    let min ← checkedEntry server 0
    let count := server.timeouts.count - 1
    let server := { server with timeouts := { server.timeouts with count := count } }
    let server ← checkedSet server 0 (← checkedEntry server count)
    let server ← checkedHeapify (count + 1) 0 server
    .ok (min, server)

/-- The array is allocated, and its entries lie in it. -/
structure Fits (server : Server) : Prop where
  allocated : 1 ≤ server.timeouts.capacity
  bounded : server.timeouts.count ≤ server.timeouts.capacity

section

variable {server after : Server} {index rounds : Nat}

/-! ## The checks never fail -/

/-- Looking at an entry of a heap that fits stays inside the allocation. -/
theorem checkedTimeout_eq (fits : Fits server) (below : index < server.timeouts.count) :
    checkedTimeout server index = (server.timeoutAt index).mapError .inside :=
  if_pos ⟨below, Nat.lt_of_lt_of_le below fits.bounded⟩

/-- Swapping inside the allocation does not leave it. -/
theorem checkedSwap_eq {first second : Nat} (below : first < server.timeouts.capacity)
    (below' : second < server.timeouts.capacity) :
    checkedSwap server first second = .ok (server.swapEntries first second) := by
  have set : checkedSet server first (server.timeouts.heap second) =
      .ok (server.setEntry first (server.timeouts.heap second)) := if_pos below
  unfold checkedSwap checkedEntry
  rw [if_pos below, if_pos below']
  change (checkedSet server first (server.timeouts.heap second)).bind _ = _
  rw [set]
  exact if_pos below'

theorem Fits.swapEntries (fits : Fits server) (first second : Nat) :
    Fits (server.swapEntries first second) := ⟨fits.allocated, fits.bounded⟩

/-- The loop reads and exchanges entries. -/
theorem checkedAddLoop_eq (fits : Fits server) (below : index < server.timeouts.count) :
    checkedAddLoop rounds index server = (timeoutAddLoop rounds index server).mapError .inside := by
  induction rounds generalizing index server with
  | zero => cases index <;> rfl
  | succ rounds ih =>
      cases index with
      | zero => rfl
      | succ index =>
          have half : index / 2 < server.timeouts.count :=
            Nat.lt_of_le_of_lt (Nat.div_le_self index 2) (Nat.lt_of_succ_lt below)
          unfold checkedAddLoop timeoutAddLoop
          dsimp only
          rw [checkedTimeout_eq fits half, checkedTimeout_eq fits below,
            checkedSwap_eq (Nat.lt_of_lt_of_le below fits.bounded)
              (Nat.lt_of_lt_of_le half fits.bounded)]
          cases server.timeoutAt (index / 2) with
          | error fault => rfl
          | ok parent =>
              cases server.timeoutAt (index + 1) with
              | error fault => rfl
              | ok child =>
                  have rest := ih (fits.swapEntries (index + 1) (index / 2)) half
                  change (if parent < child then Except.ok server
                    else checkedAddLoop rounds (index / 2) _) =
                    (if parent < child then Except.ok server
                      else timeoutAddLoop rounds (index / 2) _).mapError _
                  split
                  · rfl
                  · exact rest

/-- After the growth of the array the heap fits into it. -/
theorem Fits.enlarged (fits : Fits server) (session : SessionPtr) :
    Fits (enlarged server session) := by
  have allocated := fits.allocated
  have bounded := fits.bounded
  unfold Server.enlarged
  split
  case isTrue full =>
    refine ⟨?_, ?_⟩
    · change 1 ≤ server.timeouts.capacity * 2
      omega
    · change server.timeouts.count + 1 ≤ server.timeouts.capacity * 2
      omega
  case isFalse room =>
    refine ⟨allocated, ?_⟩
    change server.timeouts.count + 1 ≤ server.timeouts.capacity
    omega

/-- Adding never leaves the array. -/
theorem checkedAdd_eq (fits : Fits server) (session : SessionPtr) :
    checkedAdd server session = (timeoutAdd server session).mapError .inside := by
  have fits' := fits.enlarged session
  have inside : server.timeouts.count < (enlarged server session).timeouts.count := by
    rw [enlarged_count]
    exact Nat.lt_succ_self _
  rw [timeoutAdd_eq, ← checkedAddLoop_eq fits' inside]
  have room := Nat.lt_of_lt_of_le inside fits'.bounded
  unfold Server.enlarged at room ⊢
  unfold checkedAdd
  split at room
  case isTrue full =>
    rw [if_pos full]
    exact congrArg (Except.bind · _) (if_pos room)
  case isFalse free =>
    rw [if_neg free]
    exact congrArg (Except.bind · _) (if_pos room)

/-- In a heap that fits, the look at the left child stays inside the allocation. -/
theorem checkedLeft_eq (fits : Fits server) :
    checkedLeft server index = (heapifyLeft server index).mapError .inside := by
  unfold checkedLeft heapifyLeft
  split
  case isTrue inside =>
    rw [checkedTimeout_eq fits inside, checkedTimeout_eq fits (by omega)]
    cases server.timeoutAt (2 * index + 1) with
    | error fault => rfl
    | ok child =>
        cases server.timeoutAt index with
        | error fault => rfl
        | ok parent =>
            change (if child < parent then Except.ok (2 * index + 1) else .ok index) =
              (if child < parent then Except.ok (2 * index + 1) else .ok index).mapError _
            split
            · rfl
            · rfl
  case isFalse => rfl

/-- In a heap that fits, the look at both children stays inside the allocation. -/
theorem checkedLowest_eq (fits : Fits server) :
    checkedLowest server index = (heapifyLowest server index).mapError .inside := by
  unfold checkedLowest heapifyLowest
  rw [checkedLeft_eq fits]
  cases tested : heapifyLeft server index with
  | error fault => rfl
  | ok lowest =>
      change (if server.timeouts.count > 2 * index + 2 then _ else Except.ok lowest) =
        (if server.timeouts.count > 2 * index + 2 then _ else Except.ok lowest).mapError _
      split
      case isTrue inside =>
        have below := heapifyLeft_lt (by omega) tested
        rw [checkedTimeout_eq fits inside, checkedTimeout_eq fits below]
        cases server.timeoutAt (2 * index + 2) with
        | error fault => rfl
        | ok right =>
            cases server.timeoutAt lowest with
            | error fault => rfl
            | ok least =>
                change (if right < least then Except.ok (2 * index + 1) else .ok lowest) =
                  (if right < least then Except.ok (2 * index + 1) else .ok lowest).mapError _
                split
                · rfl
                · rfl
      case isFalse => rfl

/-- Heapify reads and exchanges entries. -/
theorem checkedHeapify_eq (fits : Fits server) :
    checkedHeapify rounds index server = (timeoutHeapify rounds index server).mapError .inside := by
  induction rounds generalizing index server with
  | zero => rfl
  | succ rounds ih =>
      unfold checkedHeapify timeoutHeapify
      rw [checkedLowest_eq fits]
      cases tested : heapifyLowest server index with
      | error fault => rfl
      | ok lowest =>
          change (if lowest ≠ index then (checkedSwap server lowest index).bind _ else _) =
            (if lowest ≠ index then timeoutHeapify rounds lowest _ else Except.ok server).mapError _
          split
          case isTrue moved =>
            obtain ⟨above, below⟩ := heapifyLowest_lt tested moved
            have inside := Nat.lt_of_lt_of_le below fits.bounded
            rw [checkedSwap_eq inside (Nat.lt_trans above inside)]
            exact ih (fits.swapEntries lowest index)
          case isFalse => rfl

/-- Taking the last entry to the root keeps the heap inside the allocation. -/
theorem Fits.shrunk (fits : Fits server) : Fits (shrunk server) := by
  refine ⟨fits.allocated, ?_⟩
  change server.timeouts.count - 1 ≤ server.timeouts.capacity
  exact Nat.le_trans (Nat.sub_le _ 1) fits.bounded

/-- Popping never leaves the array. -/
theorem checkedPop_eq (fits : Fits server) :
    checkedPop server = (timeoutPop server).mapError .inside := by
  cases counted : server.timeouts.count with
  | zero => rw [checkedPop, timeoutPop, if_pos counted, if_pos counted]; rfl
  | succ count =>
      have bounded := fits.bounded
      have some : server.timeouts.count ≠ 0 := by omega
      have room : server.timeouts.count - 1 < server.timeouts.capacity := by omega
      have first : checkedEntry server 0 = .ok (server.timeouts.heap 0) := if_pos fits.allocated
      have last : checkedEntry { server with timeouts := { server.timeouts with
            count := server.timeouts.count - 1 } } (server.timeouts.count - 1) =
          .ok (server.timeouts.heap (server.timeouts.count - 1)) := if_pos room
      have moved : checkedSet { server with timeouts := { server.timeouts with
            count := server.timeouts.count - 1 } } 0
            (server.timeouts.heap (server.timeouts.count - 1)) =
          .ok (Server.shrunk server) := if_pos fits.allocated
      have heapified := @checkedHeapify_eq (Server.shrunk server) 0 (count + 1) fits.shrunk
      rw [timeoutPop_eq counted, checkedPop, if_neg some, first]
      change (checkedEntry _ (server.timeouts.count - 1)).bind _ = _
      rw [last]
      change (checkedSet _ 0 (server.timeouts.heap (server.timeouts.count - 1))).bind _ = _
      rw [moved]
      change (checkedHeapify (server.timeouts.count - 1 + 1) 0 (Server.shrunk server)).bind _ = _
      rw [counted, Nat.add_sub_cancel, heapified]
      cases timeoutHeapify (count + 1) 0 (Server.shrunk server) <;> rfl

/-! ## The allocation is kept -/

/-- The loop leaves the number of entries and the allocation as they are. -/
theorem timeoutAddLoop_fits (fits : Fits server)
    (done : timeoutAddLoop rounds index server = .ok after) : Fits after := by
  induction rounds generalizing index server with
  | zero =>
      cases index with
      | zero =>
          cases done
          exact fits
      | succ index => cases done
  | succ rounds ih =>
      cases index with
      | zero =>
          cases done
          exact fits
      | succ index =>
          obtain ⟨parent, _, done⟩ := bind_eq_ok done
          obtain ⟨child, _, done⟩ := bind_eq_ok done
          split at done
          case isTrue =>
            cases done
            exact fits
          case isFalse => exact ih (fits.swapEntries (index + 1) (index / 2)) done

/-- `heapify` keeps the heap inside the allocation. -/
theorem timeoutHeapify_fits (fits : Fits server)
    (done : timeoutHeapify rounds index server = .ok after) : Fits after := by
  induction rounds generalizing index server with
  | zero => cases done
  | succ rounds ih =>
      obtain ⟨lowest, _, done⟩ := bind_eq_ok done
      split at done
      case isTrue => exact ih (fits.swapEntries lowest index) done
      case isFalse =>
        cases done
        exact fits

/-- The loop fails at entries that dangle only. -/
theorem timeoutAddLoop_fault {fault : Fault} (entries : none ∉ server.pending)
    (below : index < server.timeouts.count) (enough : index ≤ rounds)
    (failed : timeoutAddLoop rounds index server = .error fault) :
    ∃ pointer, fault = .useAfterFree pointer := by
  induction rounds generalizing index server with
  | zero =>
      rw [Nat.le_zero.mp enough] at failed
      cases failed
  | succ rounds ih =>
      cases index with
      | zero => cases failed
      | succ index =>
          have half : index / 2 < server.timeouts.count :=
            Nat.lt_of_le_of_lt (Nat.div_le_self index 2) (Nat.lt_of_succ_lt below)
          rcases bind_eq_error failed with parent | ⟨_, _, failed⟩
          · exact timeoutAt_fault entries half parent
          rcases bind_eq_error failed with child | ⟨_, _, failed⟩
          · exact timeoutAt_fault entries below child
          split at failed
          case isTrue => cases failed
          case isFalse =>
            have swapped := reheaped_swapEntries below half
            have half' : index / 2 < (server.swapEntries (index + 1) (index / 2)).timeouts.count :=
              half
            refine ih ?_ half' ?_ failed
            · rw [swapped.pending]
              exact entries
            · exact Nat.le_trans (Nat.div_le_self index 2) (Nat.le_of_succ_le_succ enough)

/-- Adding fails at entries that dangle only. -/
theorem timeoutAdd_fault {fault : Fault} {session : SessionPtr} (entries : none ∉ server.pending)
    (failed : timeoutAdd server session = .error fault) :
    ∃ pointer, fault = .useAfterFree pointer := by
  rw [timeoutAdd_eq] at failed
  refine timeoutAddLoop_fault ?_ (by rw [enlarged_count]; exact Nat.lt_succ_self _)
    (Nat.le_refl _) failed
  rw [(reheaped_enlarged server session).pending, Multiset.mem_cons, not_or]
  exact ⟨(Option.some_ne_none session).symm, entries⟩

end

/-! ## Conservation -/

/-- Adding this session to the heap stays in the array, ends, and adds this one entry. Only at the
entry of a session that has been freed it has no result. -/
structure AddConserves (server : Server) (session : SessionPtr) : Prop where
  inside : checkedAdd server session = (timeoutAdd server session).mapError .inside
  ends : ∀ fault, timeoutAdd server session = .error fault → ∃ freed, fault = .useAfterFree freed
  returns : Alive server → (server.memory session).isSome →
    ∃ after, timeoutAdd server session = .ok after
  conserves : ∀ after, timeoutAdd server session = .ok after →
    Reheaped server after (some session ::ₘ server.pending) ∧ Fits after

/-- Popping an entry of the heap stays in the array, ends, and removes the entry at index 0 once. Only
at the entry of a session that has been freed it has no result. -/
structure PopConserves (server : Server) : Prop where
  inside : checkedPop server = (timeoutPop server).mapError .inside
  ends : ∀ fault, timeoutPop server = .error fault → ∃ freed, fault = .useAfterFree freed
  returns : Alive server → ∃ popped after, timeoutPop server = .ok (popped, after)
  conserves : 0 < server.timeouts.count → ∀ popped after, timeoutPop server = .ok (popped, after) →
    popped = server.timeouts.heap 0 ∧ server.pending = popped ::ₘ after.pending ∧ Fits after

/-- **No entry is lost or invented.** Whatever sessions the array holds, in order or not, adding and
popping read and write the array within its allocation and the timeouts of its entries only, end, and
leave the entries that were there with the one added or without the one popped, within a capacity that
is at least one. -/
theorem heap_conserves {server : Server} (fits : Fits server) (entries : none ∉ server.pending) :
    (∀ session, AddConserves server session) ∧ PopConserves server := by
  refine ⟨fun session => ⟨checkedAdd_eq fits session, fun fault failed =>
    timeoutAdd_fault entries failed, ?_, ?_⟩, checkedPop_eq fits, fun fault failed =>
    timeoutPop_fault entries failed, timeoutPop_ok, ?_⟩
  · intro alive live
    obtain ⟨current, live⟩ := Option.isSome_iff_exists.mp live
    exact timeoutAdd_ok alive live
  · intro after done
    refine ⟨timeoutAdd_reheaped done, ?_⟩
    rw [timeoutAdd_eq] at done
    exact timeoutAddLoop_fits (fits.enlarged session) done
  · intro some popped after done
    obtain ⟨count, counted⟩ := Nat.exists_eq_add_one_of_ne_zero (Nat.pos_iff_ne_zero.mp some)
    obtain ⟨rest, whole, shrinks⟩ := reheaped_shrunk counted
    rw [timeoutPop_eq counted] at done
    obtain ⟨sifted, heapified, same⟩ := map_eq_ok done
    obtain ⟨rfl, rfl⟩ := Prod.mk.inj same
    refine ⟨rfl, ?_, timeoutHeapify_fits fits.shrunk heapified⟩
    rw [(timeoutHeapify_reheaped heapified).pending, shrinks.pending]
    exact whole

/-- A server with one session for each of these timeouts, queued as they stand here. -/
def queueOf (timeouts : List Int) : Server where
  sessions := ⟨timeouts.length, sessionTableInitialCapacity, fun _ => none⟩
  timeouts := ⟨timeouts.length, timeoutHeapInitialCapacity,
    fun index => if index < timeouts.length then some index else none⟩
  memory pointer := timeouts[pointer]?.map fun timeout =>
    { sessionCreate firstClient ⟨0, 0, 0, 0, 0⟩ with timeout := timeout }
  fresh := timeouts.length
  kernel := idleKernel
  clock := 0

/-- The heap of three sessions in disorder. -/
theorem heap_conserves_disorder :
    (∀ session, AddConserves (queueOf [3, 1, 2]) session) ∧ PopConserves (queueOf [3, 1, 2]) :=
  heap_conserves ⟨by decide, by decide⟩ (by decide)

end Sas.Server
