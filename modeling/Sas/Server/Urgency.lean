import Sas.Server.Pending
import Sas.Foundation.HeapOrder

/-! # The order of the timeout heap

The heap is in order where no session in it is due before its parent. Adding a session keeps the
order. Popping one keeps it as long as no right child on the way of the entry that sinks is due
before both its sibling and that entry; heapify never goes to the right.
-/

namespace Sas.Server

open Foundation

/-- The timeout of the session an entry of the heap refers to. -/
def dueOf (server : Server) (entry : Option SessionPtr) : Int :=
  (entry.bind server.memory).elim 0 Session.timeout

/-- No session of the heap is due before its parent. -/
def Urgent (server : Server) : Prop :=
  HeapOrdered server.dueOf server.timeouts.heap server.timeouts.count

/-- Popping misplaces an entry: some right child along the left border of the heap is due before its
sibling and before the last entry. -/
def Misplaces (server : Server) : Prop :=
  ∃ level right left last, 2 ^ (level + 1) + 1 < server.timeouts.count ∧
    server.timeoutAt (2 ^ (level + 1)) = .ok right ∧
    server.timeoutAt (2 ^ (level + 1) - 1) = .ok left ∧
    server.timeoutAt (server.timeouts.count - 1) = .ok last ∧ right < left ∧ right < last

section

variable {server after : Server} {index rounds level lowest : Nat}

/-- The timeout that is read is that of the entry. -/
theorem dueOf_timeoutAt {timeout : Int} (read : server.timeoutAt index = .ok timeout) :
    server.dueOf (server.timeouts.heap index) = timeout := by
  unfold timeoutAt at read
  cases entry : server.timeouts.heap index with
  | none =>
      simp only [entry] at read
      cases read
  | some pointer =>
      simp only [entry] at read
      obtain ⟨session, loaded, same⟩ := map_eq_ok read
      unfold load at loaded
      split at loaded
      case h_1 live =>
        cases loaded
        rw [← same, dueOf, Option.bind_some, live]
        rfl
      case h_2 => cases loaded

/-- A live session is due at its timeout. -/
theorem dueOf_live {pointer : SessionPtr} {session : Session}
    (live : server.memory pointer = some session) :
    server.dueOf (some pointer) = session.timeout := by
  rw [dueOf, Option.bind_some, live]
  rfl

/-- The timeout of a live entry can be read. -/
theorem timeoutAt_alive (alive : Alive server) (below : index < server.timeouts.count) :
    server.timeoutAt index = .ok (server.dueOf (server.timeouts.heap index)) := by
  obtain ⟨timeout, read⟩ := timeoutAt_ok alive below
  rw [read, dueOf_timeoutAt read]

/-! ## Adding -/

/-- An entry that has risen to its place leaves the heap in order. -/
theorem timeoutAddLoop_urgent (below : index < server.timeouts.count)
    (rising : Rising server.dueOf server.timeouts.heap server.timeouts.count index)
    (done : timeoutAddLoop rounds index server = .ok after) : Urgent after := by
  induction rounds generalizing index server with
  | zero =>
      cases index with
      | zero =>
          cases done
          exact rising.ordered_root
      | succ index => cases done
  | succ rounds ih =>
      cases index with
      | zero =>
          cases done
          exact rising.ordered_root
      | succ index =>
          obtain ⟨parent, read, done⟩ := bind_eq_ok done
          obtain ⟨child, read', done⟩ := bind_eq_ok done
          have dueParent := dueOf_timeoutAt read
          have dueChild := dueOf_timeoutAt read'
          split at done
          case isTrue above =>
            cases done
            apply rising.ordered
            rw [dueParent, dueChild]
            exact le_of_lt above
          case isFalse lower =>
            have half : index / 2 < server.timeouts.count :=
              Nat.lt_of_le_of_lt (Nat.div_le_self index 2) (Nat.lt_of_succ_lt below)
            have half' : index / 2 < (server.swapEntries (index + 1) (index / 2)).timeouts.count :=
              half
            refine ih half' (rising.step below ?_) done
            rw [dueParent, dueChild]
            exact not_lt.mp lower

/-- Adding a session keeps the order. -/
theorem timeoutAdd_urgent {session : SessionPtr} (urgent : Urgent server)
    (done : timeoutAdd server session = .ok after) : Urgent after := by
  rw [timeoutAdd_eq] at done
  have rising : Rising (enlarged server session).dueOf (enlarged server session).timeouts.heap
      (enlarged server session).timeouts.count server.timeouts.count := by
    have pushed := urgent.push (some session)
    unfold enlarged
    split
    · exact pushed
    · exact pushed
  refine timeoutAddLoop_urgent ?_ rising done
  rw [enlarged_count]
  exact Nat.lt_succ_self _

/-! ## Popping -/

/-- The test of the left child finds out whether it is due before its parent. -/
theorem heapifyLeft_spec {left : Nat} (done : heapifyLeft server index = .ok left) :
    left = index ∧ (2 * index + 1 < server.timeouts.count →
        server.dueOf (server.timeouts.heap index) ≤
          server.dueOf (server.timeouts.heap (2 * index + 1))) ∨
      left = 2 * index + 1 ∧ 2 * index + 1 < server.timeouts.count ∧
        server.dueOf (server.timeouts.heap (2 * index + 1)) <
          server.dueOf (server.timeouts.heap index) := by
  unfold heapifyLeft at done
  split at done
  case isTrue inside =>
    obtain ⟨child, read, done⟩ := bind_eq_ok done
    obtain ⟨parent, read', done⟩ := bind_eq_ok done
    rw [dueOf_timeoutAt read, dueOf_timeoutAt read']
    split at done
    case isTrue lower =>
      cases done
      exact .inr ⟨rfl, inside, lower⟩
    case isFalse lower =>
      cases done
      exact .inl ⟨rfl, fun _ => not_lt.mp lower⟩
  case isFalse outside =>
    cases done
    exact .inl ⟨rfl, fun inside => (outside inside).elim⟩

/-- Where the right child is not due before its sibling and its parent, heapify goes on with the
child that is due first, or stays where the parent is. -/
theorem heapifyLowest_spec (fair : 2 * index + 2 < server.timeouts.count →
      ¬ (server.dueOf (server.timeouts.heap (2 * index + 2)) <
          server.dueOf (server.timeouts.heap (2 * index + 1)) ∧
        server.dueOf (server.timeouts.heap (2 * index + 2)) <
          server.dueOf (server.timeouts.heap index)))
    (done : heapifyLowest server index = .ok lowest) :
    (∀ child, child + 1 < server.timeouts.count → child / 2 = index →
      server.dueOf (server.timeouts.heap lowest) ≤
        server.dueOf (server.timeouts.heap (child + 1))) ∧
      (lowest = index ∨ lowest = 2 * index + 1 ∧ 2 * index + 1 < server.timeouts.count ∧
        server.dueOf (server.timeouts.heap (2 * index + 1)) <
          server.dueOf (server.timeouts.heap index)) := by
  obtain ⟨left, first, done⟩ := bind_eq_ok done
  have children {child : Nat} (parent : child / 2 = index) :
      child + 1 = 2 * index + 1 ∨ child + 1 = 2 * index + 2 := by omega
  split at done
  case isTrue inside =>
    obtain ⟨right, read, done⟩ := bind_eq_ok done
    obtain ⟨least, read', done⟩ := bind_eq_ok done
    have dueRight := dueOf_timeoutAt read
    have dueLeast := dueOf_timeoutAt read'
    split at done
    case isTrue lower =>
      rw [← dueRight, ← dueLeast] at lower
      rcases heapifyLeft_spec first with ⟨rfl, others⟩ | ⟨rfl, _, others⟩
      · exact (fair inside ⟨lower.trans_le (others (by omega)), lower⟩).elim
      · exact (fair inside ⟨lower, lower.trans others⟩).elim
    case isFalse higher =>
      cases done
      rw [← dueRight, ← dueLeast, not_lt] at higher
      rcases heapifyLeft_spec first with ⟨rfl, others⟩ | ⟨rfl, within, others⟩
      · refine ⟨fun child below parent => ?_, .inl rfl⟩
        rcases children parent with isLeft | isRight
        · rw [isLeft]
          exact others (by omega)
        · rw [isRight]
          exact higher
      · refine ⟨fun child below parent => ?_, .inr ⟨rfl, within, others⟩⟩
        rcases children parent with isLeft | isRight
        · rw [isLeft]
        · rw [isRight]
          exact higher
  case isFalse outside =>
    cases done
    rcases heapifyLeft_spec first with ⟨rfl, others⟩ | ⟨rfl, within, others⟩
    · refine ⟨fun child below parent => ?_, .inl rfl⟩
      rcases children parent with isLeft | isRight
      · rw [isLeft]
        exact others (by omega)
      · omega
    · refine ⟨fun child below parent => ?_, .inr ⟨rfl, within, others⟩⟩
      rcases children parent with isLeft | isRight
      · rw [isLeft]
      · omega

/-- An entry that sinks along the left border closes the order, if no right child there is due before
its sibling and the entry. -/
theorem timeoutHeapify_urgent (border : index + 1 = 2 ^ level)
    (sinking : Sinking server.dueOf server.timeouts.heap server.timeouts.count index)
    (fair : ∀ deeper, level ≤ deeper → 2 ^ (deeper + 1) < server.timeouts.count →
      ¬ (server.dueOf (server.timeouts.heap (2 ^ (deeper + 1))) <
          server.dueOf (server.timeouts.heap (2 ^ (deeper + 1) - 1)) ∧
        server.dueOf (server.timeouts.heap (2 ^ (deeper + 1))) <
          server.dueOf (server.timeouts.heap index)))
    (done : timeoutHeapify rounds index server = .ok after) : Urgent after := by
  induction rounds generalizing index level server with
  | zero => cases done
  | succ rounds ih =>
      have right : 2 * index + 2 = 2 ^ (level + 1) := by rw [pow_succ]; omega
      have left : 2 * index + 1 = 2 ^ (level + 1) - 1 := by omega
      obtain ⟨lowest, tested, done⟩ := bind_eq_ok done
      have here := fair level le_rfl
      rw [← left, ← right] at here
      obtain ⟨least, stays | ⟨moves, inside, lower⟩⟩ := heapifyLowest_spec here tested
      · rw [if_neg (not_not.mpr stays)] at done
        cases done
        rw [stays] at least
        exact sinking.ordered least
      · have moved : lowest ≠ index := by omega
        rw [if_pos moved] at done
        cases moves
        have border' : 2 * index + 1 + 1 = 2 ^ (level + 1) := right
        refine ih border' (sinking.step inside (by omega) (le_of_lt lower) least) ?_ done
        intro deeper deep below
        have further : 2 ^ (level + 2) ≤ 2 ^ (deeper + 1) :=
          Nat.pow_le_pow_right Nat.two_pos (by omega)
        have deepest : 2 * index + 1 < 2 ^ (deeper + 1) - 1 := by
          rw [pow_succ] at further
          omega
        have same : (server.swapEntries (2 * index + 1) index).timeouts.heap =
          exchanged server.timeouts.heap (2 * index + 1) index := rfl
        rw [same, exchanged_first, exchanged_other (by omega) (by omega),
          exchanged_other (by omega) (by omega)]
        exact fair deeper (by omega) below

/-- Of a heap in order, popping lets the last entry sink from the front. -/
theorem shrunk_sinking (urgent : Urgent server) {count : Nat}
    (counted : server.timeouts.count = count + 1) :
    Sinking (shrunk server).dueOf (shrunk server).timeouts.heap (shrunk server).timeouts.count 0 := by
  unfold Urgent at urgent
  rw [counted] at urgent
  have popped := urgent.pop
  unfold shrunk
  rw [counted]
  exact popped

/-- Shrinking leaves the entries below the root. -/
theorem shrunk_kept (positive : 0 < index) :
    (shrunk server).timeouts.heap index = server.timeouts.heap index :=
  Function.update_of_ne (Nat.ne_of_gt positive) _ _

/-- Shrinking brings the last entry to the root. -/
theorem shrunk_first :
    (shrunk server).timeouts.heap 0 = server.timeouts.heap (server.timeouts.count - 1) :=
  Function.update_self 0 _ server.timeouts.heap

/-- Popping keeps the order unless it misplaces an entry. -/
theorem timeoutPop_urgent {popped : Option SessionPtr} (urgent : Urgent server)
    (alive : Alive server) (fair : ¬ Misplaces server)
    (done : timeoutPop server = .ok (popped, after)) :
    Urgent after ∧ ∀ entry ∈ server.pending, server.dueOf popped ≤ server.dueOf entry := by
  cases counted : server.timeouts.count with
  | zero =>
      rw [timeoutPop, if_pos counted] at done
      cases done
      refine ⟨urgent, fun entry member => ?_⟩
      rw [pending, counted] at member
      exact (Multiset.notMem_zero _ member).elim
  | succ count =>
      rw [timeoutPop_eq counted] at done
      obtain ⟨sifted, heapified, same⟩ := map_eq_ok done
      cases same
      constructor
      · have border : 0 + 1 = 2 ^ 0 := rfl
        refine timeoutHeapify_urgent border (shrunk_sinking urgent counted) ?_ heapified
        rintro deeper _ below ⟨beforeLeft, beforeLast⟩
        change 2 ^ (deeper + 1) < server.timeouts.count - 1 at below
        have level : 2 ≤ 2 ^ (deeper + 1) := Nat.le_self_pow (Nat.succ_ne_zero deeper) 2
        rw [shrunk_kept (by omega), shrunk_kept (by omega)] at beforeLeft
        rw [shrunk_kept (by omega), shrunk_first] at beforeLast
        exact fair ⟨deeper, _, _, _, by omega, timeoutAt_alive alive (by omega),
          timeoutAt_alive alive (by omega), timeoutAt_alive alive (by omega), beforeLeft,
          beforeLast⟩
      · intro entry member
        obtain ⟨index, below, rfl⟩ := mem_entriesOf.mp member
        exact urgent.root_le below

end

/-! ## Checking a pop -/

/-- A right child on the left border of the heap is due before its sibling and before the last entry. -/
def misplaces (server : Server) : Bool :=
  (List.range server.timeouts.count).any fun level =>
    decide (2 ^ (level + 1) + 1 < server.timeouts.count) &&
      match server.timeoutAt (2 ^ (level + 1)), server.timeoutAt (2 ^ (level + 1) - 1),
          server.timeoutAt (server.timeouts.count - 1) with
      | .ok right, .ok left, .ok last => decide (right < left) && decide (right < last)
      | _, _, _ => false

/-- The check finds every heap whose next pop misplaces a session. -/
theorem misplaces_of {server : Server} (misplaced : Misplaces server) : misplaces server = true := by
  obtain ⟨level, right, left, last, below, atRight, atLeft, atLast, lower, lowest⟩ := misplaced
  have small : level < server.timeouts.count :=
    (Nat.lt_two_pow_self (n := level)).trans
      ((Nat.pow_lt_pow_right Nat.one_lt_two (Nat.lt_succ_self level)).trans (Nat.lt_of_succ_lt below))
  rw [misplaces, List.any_eq_true]
  refine ⟨level, List.mem_range.mpr small, ?_⟩
  simp [below, atRight, atLeft, atLast, lower, lowest]

end Sas.Server
