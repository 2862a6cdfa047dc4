import Sas.Server.Timeout
import Sas.Foundation.HeapArray
import Sas.Foundation.Fallible

/-! # The entries of the timeout heap

Seen from the server loop, the heap is the multiset of the sessions that wait for their timeout.
Adding a session puts one entry in, popping takes one out, and all the exchanges in between change
nothing else. Both succeed where every entry refers to a session that is allocated.
-/

namespace Sas.Server

open Foundation

/-- The entries of the heap. -/
def pending (server : Server) : Multiset (Option SessionPtr) :=
  entriesOf server.timeouts.heap server.timeouts.count

/-- Every entry of the heap refers to an allocated session. -/
def Alive (server : Server) : Prop :=
  ∀ entry ∈ server.pending, ∃ pointer session, entry = some pointer ∧
    server.memory pointer = some session

/-- Nothing but the heap has changed, and the entries of the heap are these. -/
structure Reheaped (server after : Server) (entries : Multiset (Option SessionPtr)) : Prop where
  sessions : after.sessions = server.sessions
  memory : after.memory = server.memory
  fresh : after.fresh = server.fresh
  kernel : after.kernel = server.kernel
  clock : after.clock = server.clock
  pending : after.pending = entries

section

variable {server middle after : Server} {entries : Multiset (Option SessionPtr)} {index rounds : Nat}

theorem Reheaped.refl (server : Server) : Reheaped server server server.pending :=
  ⟨rfl, rfl, rfl, rfl, rfl, rfl⟩

/-- Reheaping twice in a row. -/
theorem Reheaped.trans {before : Server} {entries' : Multiset (Option SessionPtr)}
    (first : Reheaped before server entries') (second : Reheaped server after entries) :
    Reheaped before after entries :=
  ⟨second.sessions.trans first.sessions, second.memory.trans first.memory,
    second.fresh.trans first.fresh, second.kernel.trans first.kernel,
    second.clock.trans first.clock, second.pending⟩

/-- The number of entries is the count. -/
theorem Reheaped.count (reheaped : Reheaped server after entries) :
    after.timeouts.count = entries.card := by
  rw [← reheaped.pending]
  exact (card_entriesOf after.timeouts.heap after.timeouts.count).symm

/-- The timeout of an entry can be read where the entry is alive. -/
theorem timeoutAt_ok (alive : Alive server) (below : index < server.timeouts.count) :
    ∃ timeout, server.timeoutAt index = .ok timeout := by
  obtain ⟨pointer, session, entry, live⟩ := alive _ (mem_entriesOf.mpr ⟨index, below, rfl⟩)
  refine ⟨session.timeout, ?_⟩
  rw [timeoutAt, entry]
  dsimp only
  rw [load, live]
  rfl

/-- An exchange of two entries keeps them all. -/
theorem reheaped_swapEntries {first second : Nat} (below : first < server.timeouts.count)
    (below' : second < server.timeouts.count) :
    Reheaped server (server.swapEntries first second) server.pending :=
  ⟨rfl, rfl, rfl, rfl, rfl, entriesOf_exchanged _ below below'⟩

/-- Reheaping live entries leaves them alive. -/
theorem Alive.reheaped (alive : Alive server) (reheaped : Reheaped server after entries)
    (among : ∀ entry ∈ entries, entry ∈ server.pending) : Alive after := by
  intro entry member
  rw [reheaped.pending] at member
  rw [reheaped.memory]
  exact alive entry (among entry member)

/-! ## Adding -/

/-- The up-heap loop exchanges entries. -/
theorem timeoutAddLoop_reheaped (below : index < server.timeouts.count)
    (done : timeoutAddLoop rounds index server = .ok after) :
    Reheaped server after server.pending := by
  induction rounds generalizing index server with
  | zero =>
      cases index with
      | zero =>
          cases done
          exact .refl _
      | succ index => cases done
  | succ rounds ih =>
      cases index with
      | zero =>
          cases done
          exact .refl _
      | succ index =>
          obtain ⟨parent, _, done⟩ := bind_eq_ok done
          obtain ⟨child, _, done⟩ := bind_eq_ok done
          split at done
          · cases done
            exact .refl _
          · have half : index / 2 < server.timeouts.count :=
              Nat.lt_of_le_of_lt (Nat.div_le_self index 2) (Nat.lt_of_succ_lt below)
            have swapped := reheaped_swapEntries below half
            have half' : index / 2 < (server.swapEntries (index + 1) (index / 2)).timeouts.count :=
              half
            have rest := ih half' done
            rw [swapped.pending] at rest
            exact swapped.trans rest

/-- The up-heap loop succeeds where all entries are alive. -/
theorem timeoutAddLoop_ok (alive : Alive server) (below : index < server.timeouts.count)
    (enough : index ≤ rounds) : ∃ after, timeoutAddLoop rounds index server = .ok after := by
  induction rounds generalizing index server with
  | zero =>
      cases index with
      | zero => exact ⟨server, rfl⟩
      | succ index => exact (Nat.not_succ_le_zero _ enough).elim
  | succ rounds ih =>
      cases index with
      | zero => exact ⟨server, rfl⟩
      | succ index =>
          have half : index / 2 < server.timeouts.count :=
            Nat.lt_of_le_of_lt (Nat.div_le_self index 2) (Nat.lt_of_succ_lt below)
          obtain ⟨parent, read⟩ := timeoutAt_ok alive half
          obtain ⟨child, read'⟩ := timeoutAt_ok alive below
          unfold timeoutAddLoop
          simp only [read, read', bind, Except.bind]
          split
          · exact ⟨server, rfl⟩
          · have swapped := reheaped_swapEntries below half
            exact ih (alive.reheaped swapped fun _ member => member) half
              (Nat.le_trans (Nat.div_le_self index 2) (Nat.le_of_succ_le_succ enough))

/-- The server with room for one entry more, and the session behind the last entry. -/
def enlarged (server : Server) (session : SessionPtr) : Server :=
  let server :=
    if server.timeouts.count = server.timeouts.capacity then
      { server with timeouts := { server.timeouts with
          capacity := server.timeouts.capacity * 2 } }
    else server
  ({ server with timeouts := { server.timeouts with
      count := server.timeouts.count + 1 } }).setEntry server.timeouts.count (some session)

/-- The enlarged heap has one entry more. -/
theorem enlarged_count (server : Server) (session : SessionPtr) :
    (enlarged server session).timeouts.count = server.timeouts.count + 1 := by
  unfold enlarged
  split <;> rfl

/-- Enlarging the heap adds one entry. -/
theorem reheaped_enlarged (server : Server) (session : SessionPtr) :
    Reheaped server (enlarged server session) (some session ::ₘ server.pending) := by
  have pushed := entriesOf_push server.timeouts.heap server.timeouts.count (some session)
  unfold enlarged
  split
  · exact ⟨rfl, rfl, rfl, rfl, rfl, pushed⟩
  · exact ⟨rfl, rfl, rfl, rfl, rfl, pushed⟩

/-- Adding enlarges the heap and lets the new entry rise. -/
theorem timeoutAdd_eq (server : Server) (session : SessionPtr) :
    timeoutAdd server session =
      timeoutAddLoop server.timeouts.count server.timeouts.count (enlarged server session) := by
  unfold timeoutAdd enlarged
  split <;> rfl

/-- Adding puts one entry into the heap. -/
theorem timeoutAdd_reheaped {session : SessionPtr} (done : timeoutAdd server session = .ok after) :
    Reheaped server after (some session ::ₘ server.pending) := by
  rw [timeoutAdd_eq] at done
  have entered := reheaped_enlarged server session
  have rest := timeoutAddLoop_reheaped
    (by rw [enlarged_count]; exact Nat.lt_succ_self _) done
  rw [entered.pending] at rest
  exact entered.trans rest

/-- Adding a live session to entries that are alive succeeds. -/
theorem timeoutAdd_ok (alive : Alive server) {pointer : SessionPtr} {session : Session}
    (live : server.memory pointer = some session) : ∃ after, timeoutAdd server pointer = .ok after := by
  rw [timeoutAdd_eq]
  have entered := reheaped_enlarged server pointer
  refine timeoutAddLoop_ok ?_ (by rw [enlarged_count]; exact Nat.lt_succ_self _) (Nat.le_refl _)
  intro entry member
  rw [entered.pending] at member
  rw [entered.memory]
  rcases Multiset.mem_cons.mp member with rfl | older
  · exact ⟨pointer, session, rfl, live⟩
  · exact alive entry older

/-! ## Popping -/

/-- Heapify goes on with the left child, if that is one of the entries. -/
theorem heapifyLowest_left {lowest : Nat} (done : heapifyLowest server index = .ok lowest)
    (moved : lowest ≠ index) : lowest = 2 * index + 1 ∧ lowest < server.timeouts.count := by
  obtain ⟨left, first, done⟩ := bind_eq_ok done
  have leftSpec : left = index ∨ left = 2 * index + 1 ∧ 2 * index + 1 < server.timeouts.count := by
    unfold heapifyLeft at first
    split at first
    case isTrue inside =>
      obtain ⟨child, _, first⟩ := bind_eq_ok first
      obtain ⟨parent, _, first⟩ := bind_eq_ok first
      split at first
      · cases first
        exact .inr ⟨rfl, inside⟩
      · cases first
        exact .inl rfl
    case isFalse =>
      cases first
      exact .inl rfl
  have kept : ∀ {other : Nat}, (Except.ok left : Except Fault Nat) = .ok other → other ≠ index →
      other = 2 * index + 1 ∧ other < server.timeouts.count := by
    rintro _ ⟨⟩ differ
    rcases leftSpec with same | ⟨rfl, inside⟩
    · exact (differ same).elim
    · exact ⟨rfl, inside⟩
  split at done
  case isTrue inside =>
    obtain ⟨right, _, done⟩ := bind_eq_ok done
    obtain ⟨least, _, done⟩ := bind_eq_ok done
    split at done
    · cases done
      exact ⟨rfl, by omega⟩
    · exact kept done moved
  case isFalse => exact kept done moved

/-- The lowest of an entry and its children is below the entry, where it is another one. -/
theorem heapifyLowest_lt {lowest : Nat} (done : heapifyLowest server index = .ok lowest)
    (moved : lowest ≠ index) : index < lowest ∧ lowest < server.timeouts.count := by
  obtain ⟨left, inside⟩ := heapifyLowest_left done moved
  exact ⟨by omega, inside⟩

/-- Heapify exchanges entries. -/
theorem timeoutHeapify_reheaped (done : timeoutHeapify rounds index server = .ok after) :
    Reheaped server after server.pending := by
  induction rounds generalizing index server with
  | zero => cases done
  | succ rounds ih =>
      obtain ⟨lowest, first, done⟩ := bind_eq_ok done
      split at done
      case isTrue moved =>
        obtain ⟨above, below⟩ := heapifyLowest_lt first moved
        have swapped := reheaped_swapEntries below (Nat.lt_trans above below)
        have rest := ih done
        rw [swapped.pending] at rest
        exact swapped.trans rest
      case isFalse =>
        cases done
        exact .refl _

/-- The test of the left child succeeds where all entries are alive. -/
theorem heapifyLeft_ok (alive : Alive server) (below : index < server.timeouts.count) :
    ∃ left < server.timeouts.count, heapifyLeft server index = .ok left := by
  unfold heapifyLeft
  split
  case isTrue inside =>
    obtain ⟨parent, read⟩ := timeoutAt_ok alive below
    obtain ⟨child, read'⟩ := timeoutAt_ok alive inside
    simp only [read, read', bind, Except.bind]
    split
    · exact ⟨_, inside, rfl⟩
    · exact ⟨_, below, rfl⟩
  case isFalse => exact ⟨_, below, rfl⟩

/-- Both tests succeed where all entries are alive. -/
theorem heapifyLowest_ok (alive : Alive server) (index : Nat) :
    ∃ lowest, heapifyLowest server index = .ok lowest := by
  by_cases below : index < server.timeouts.count
  · obtain ⟨left, below', tested⟩ := heapifyLeft_ok alive below
    unfold heapifyLowest
    simp only [tested, bind, Except.bind]
    split
    case isTrue inside =>
      obtain ⟨right, read⟩ := timeoutAt_ok alive inside
      obtain ⟨least, read'⟩ := timeoutAt_ok alive below'
      simp only [read, read']
      split
      · exact ⟨_, rfl⟩
      · exact ⟨_, rfl⟩
    case isFalse => exact ⟨_, rfl⟩
  · refine ⟨index, ?_⟩
    have outside : ¬ server.timeouts.count > 2 * index + 1 := by omega
    have outside' : ¬ server.timeouts.count > 2 * index + 2 := by omega
    simp only [heapifyLowest, heapifyLeft, outside, outside', ↓reduceIte, bind, Except.bind]

/-- Heapify succeeds where all entries are alive. -/
theorem timeoutHeapify_ok (alive : Alive server) (enough : server.timeouts.count ≤ index + rounds) :
    ∃ after, timeoutHeapify (rounds + 1) index server = .ok after := by
  induction rounds generalizing index server with
  | zero =>
      obtain ⟨lowest, tested⟩ := heapifyLowest_ok alive index
      unfold timeoutHeapify
      simp only [tested, bind, Except.bind]
      split
      case isTrue moved =>
        obtain ⟨above, below⟩ := heapifyLowest_lt tested moved
        omega
      case isFalse => exact ⟨_, rfl⟩
  | succ rounds ih =>
      obtain ⟨lowest, tested⟩ := heapifyLowest_ok alive index
      unfold timeoutHeapify
      simp only [tested, bind, Except.bind]
      split
      case isTrue moved =>
        obtain ⟨above, below⟩ := heapifyLowest_lt tested moved
        have swapped := reheaped_swapEntries below (Nat.lt_trans above below)
        refine ih (alive.reheaped swapped fun _ member => member) ?_
        change server.timeouts.count ≤ lowest + rounds
        omega
      case isFalse => exact ⟨_, rfl⟩

/-- The server whose last entry has been moved to the root. -/
def shrunk (server : Server) : Server :=
  ({ server with timeouts := { server.timeouts with
      count := server.timeouts.count - 1 } }).setEntry 0
    (server.timeouts.heap (server.timeouts.count - 1))

/-- Shrinking the heap takes the entry at its root. -/
theorem reheaped_shrunk {count : Nat} (counted : server.timeouts.count = count + 1) :
    ∃ rest, server.pending = server.timeouts.heap 0 ::ₘ rest ∧
      Reheaped server (shrunk server) rest := by
  refine ⟨_, ?_, rfl, rfl, rfl, rfl, rfl, rfl⟩
  rw [pending, counted, entriesOf_pop]
  congr 1
  simp only [pending, shrunk, setEntry, counted, Nat.add_sub_cancel]

/-- Popping shrinks the heap and lets its new root sink. -/
theorem timeoutPop_eq {count : Nat} (counted : server.timeouts.count = count + 1) :
    timeoutPop server = (timeoutHeapify (count + 1) 0 (shrunk server)).map fun after =>
      (server.timeouts.heap 0, after) := by
  unfold timeoutPop shrunk
  rw [if_neg (by rw [counted]; exact Nat.succ_ne_zero count)]
  simp only [counted, Nat.add_sub_cancel]
  rfl

/-- Popping takes one entry out of a heap that is not empty. -/
theorem timeoutPop_reheaped {popped : Option SessionPtr}
    (done : timeoutPop server = .ok (popped, after)) :
    (popped = none ∧ after = server ∧ server.pending = 0) ∨
      ∃ rest, server.pending = popped ::ₘ rest ∧ Reheaped server after rest := by
  cases counted : server.timeouts.count with
  | zero =>
      rw [timeoutPop, if_pos counted] at done
      cases done
      exact .inl ⟨rfl, rfl, by rw [pending, counted, entriesOf_zero]⟩
  | succ count =>
      rw [timeoutPop_eq counted] at done
      obtain ⟨sifted, heapified, same⟩ := map_eq_ok done
      cases same
      obtain ⟨rest, whole, shrinks⟩ := reheaped_shrunk counted
      have sifts := timeoutHeapify_reheaped heapified
      rw [shrinks.pending] at sifts
      exact .inr ⟨rest, whole, shrinks.trans sifts⟩

/-- Popping succeeds where all entries are alive. -/
theorem timeoutPop_ok (alive : Alive server) :
    ∃ popped after, timeoutPop server = .ok (popped, after) := by
  cases counted : server.timeouts.count with
  | zero => exact ⟨none, server, by rw [timeoutPop, if_pos counted]⟩
  | succ count =>
      obtain ⟨rest, whole, shrinks⟩ := reheaped_shrunk counted
      have alive' : Alive (shrunk server) := alive.reheaped shrinks fun entry member => by
        rw [whole]
        exact Multiset.mem_cons_of_mem member
      have small : (shrunk server).timeouts.count ≤ 0 + count := by
        change server.timeouts.count - 1 ≤ 0 + count
        omega
      obtain ⟨after, heapified⟩ := timeoutHeapify_ok alive' small
      refine ⟨server.timeouts.heap 0, after, ?_⟩
      rw [timeoutPop_eq counted, heapified]
      rfl

/-! ## Entries that dangle -/

section

variable {fault : Fault}

/-- The timeout of an entry cannot be read only if its session has been freed. -/
theorem timeoutAt_fault (entries : none ∉ server.pending) (below : index < server.timeouts.count)
    (failed : server.timeoutAt index = .error fault) : ∃ pointer, fault = .useAfterFree pointer := by
  unfold timeoutAt at failed
  cases entry : server.timeouts.heap index with
  | none => exact (entries (mem_entriesOf.mpr ⟨index, below, entry⟩)).elim
  | some pointer =>
      simp only [entry, load] at failed
      cases freed : server.memory pointer with
      | none =>
          rw [freed] at failed
          exact ⟨pointer, (Except.error.inj failed).symm⟩
      | some session =>
          rw [freed] at failed
          cases failed

/-- The test of the left child reads two entries. -/
theorem heapifyLeft_fault (entries : none ∉ server.pending)
    (failed : heapifyLeft server index = .error fault) :
    ∃ pointer, fault = .useAfterFree pointer := by
  unfold heapifyLeft at failed
  split at failed
  case isTrue inside =>
    rcases bind_eq_error failed with child | ⟨_, _, failed⟩
    · exact timeoutAt_fault entries inside child
    rcases bind_eq_error failed with parent | ⟨_, _, failed⟩
    · exact timeoutAt_fault entries (by omega) parent
    split at failed <;> cases failed
  case isFalse => cases failed

/-- The look at the left child leads to an entry of the heap. -/
theorem heapifyLeft_lt {left : Nat} (below : index < server.timeouts.count)
    (done : heapifyLeft server index = .ok left) : left < server.timeouts.count := by
  unfold heapifyLeft at done
  split at done
  case isTrue inside =>
    obtain ⟨_, _, done⟩ := bind_eq_ok done
    obtain ⟨_, _, done⟩ := bind_eq_ok done
    split at done <;> cases done
    · exact inside
    · exact below
  case isFalse =>
    cases done
    exact below

/-- Both tests read entries. -/
theorem heapifyLowest_fault (entries : none ∉ server.pending)
    (failed : heapifyLowest server index = .error fault) :
    ∃ pointer, fault = .useAfterFree pointer := by
  rcases bind_eq_error failed with first | ⟨left, first, failed⟩
  · exact heapifyLeft_fault entries first
  split at failed
  case isTrue inside =>
    have below := heapifyLeft_lt (by omega) first
    rcases bind_eq_error failed with right | ⟨_, _, failed⟩
    · exact timeoutAt_fault entries inside right
    rcases bind_eq_error failed with least | ⟨_, _, failed⟩
    · exact timeoutAt_fault entries below least
    split at failed <;> cases failed
  case isFalse => cases failed

/-- Heapify fails at entries that dangle only. -/
theorem timeoutHeapify_fault (entries : none ∉ server.pending)
    (enough : server.timeouts.count ≤ index + rounds)
    (failed : timeoutHeapify (rounds + 1) index server = .error fault) :
    ∃ pointer, fault = .useAfterFree pointer := by
  induction rounds generalizing index server with
  | zero =>
      rcases bind_eq_error failed with tested | ⟨lowest, tested, failed⟩
      · exact heapifyLowest_fault entries tested
      split at failed
      case isTrue moved =>
        obtain ⟨above, below⟩ := heapifyLowest_lt tested moved
        omega
      case isFalse => cases failed
  | succ rounds ih =>
      rcases bind_eq_error failed with tested | ⟨lowest, tested, failed⟩
      · exact heapifyLowest_fault entries tested
      split at failed
      case isTrue moved =>
        obtain ⟨above, below⟩ := heapifyLowest_lt tested moved
        have swapped := reheaped_swapEntries below (Nat.lt_trans above below)
        refine ih ?_ ?_ failed
        · rw [swapped.pending]
          exact entries
        · change server.timeouts.count ≤ lowest + rounds
          omega
      case isFalse => cases failed

/-- Popping fails at entries that dangle only. -/
theorem timeoutPop_fault (entries : none ∉ server.pending)
    (failed : timeoutPop server = .error fault) : ∃ pointer, fault = .useAfterFree pointer := by
  cases counted : server.timeouts.count with
  | zero =>
      rw [timeoutPop, if_pos counted] at failed
      cases failed
  | succ count =>
      obtain ⟨rest, whole, shrinks⟩ := reheaped_shrunk counted
      rw [timeoutPop_eq counted] at failed
      have entries' : none ∉ (shrunk server).pending := by
        rw [shrinks.pending]
        intro member
        rw [whole] at entries
        exact entries (Multiset.mem_cons_of_mem member)
      have small : (shrunk server).timeouts.count ≤ 0 + count := by
        change server.timeouts.count - 1 ≤ 0 + count
        omega
      cases heapified : timeoutHeapify (count + 1) 0 (shrunk server) with
      | ok after =>
          rw [heapified] at failed
          cases failed
      | error other =>
          rw [heapified] at failed
          cases failed
          exact timeoutHeapify_fault entries' small heapified

end

end

end Sas.Server
