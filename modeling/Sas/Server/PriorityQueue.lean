import Sas.Server.Urgency
import Sas.Server.Bounds

/-! # The timeout heap as a priority queue

Adding a session keeps the heap in order and brings a session that is due first to the front. Popping
returns the session that is due first, but it leaves the heap out of order exactly where heapify meets
a right child that should move up: it takes the left one instead, and nothing after that repairs the
order.
-/

namespace Sas.Server

open Foundation

section

variable {server after : Server} {index rounds level : Nat}

/-! ## Adding -/

/-- Moving entries changes no timeout. -/
theorem Reheaped.dueOf_eq {entries : Multiset (Option SessionPtr)}
    (reheaped : Reheaped server after entries) : after.dueOf = server.dueOf := by
  funext entry
  rw [dueOf, dueOf, reheaped.memory]

/-- **Adding keeps the order.** Adding a session to a heap in order succeeds, leaves a heap in order
with this entry more, and at index 0 an entry that is due no later than any of the old ones and the
new one. -/
theorem timeoutAdd_in_order (alive : Alive server) (urgent : Urgent server) {pointer : SessionPtr}
    {session : Session} (live : server.memory pointer = some session) :
    ∃ after, timeoutAdd server pointer = .ok after ∧ Urgent after ∧
      Reheaped server after (some pointer ::ₘ server.pending) ∧
      after.timeouts.heap 0 ∈ some pointer ::ₘ server.pending ∧
      ∀ entry ∈ some pointer ::ₘ server.pending,
        server.dueOf (after.timeouts.heap 0) ≤ server.dueOf entry := by
  obtain ⟨after, done⟩ := timeoutAdd_ok alive live
  have reheaped := timeoutAdd_reheaped done
  have ordered := timeoutAdd_urgent urgent done
  have entries : entriesOf after.timeouts.heap after.timeouts.count =
      some pointer ::ₘ server.pending := reheaped.pending
  refine ⟨after, done, ordered, reheaped, ?_, fun entry member => ?_⟩
  · rw [← entries, mem_entriesOf]
    refine ⟨0, ?_, rfl⟩
    rw [reheaped.count, Multiset.card_cons]
    exact Nat.succ_pos _
  · rw [← entries] at member
    obtain ⟨index, below, rfl⟩ := mem_entriesOf.mp member
    rw [← reheaped.dueOf_eq]
    exact ordered.root_le below

/-- A session that is due earlier than the others comes to the front of a full heap, which doubles. -/
def latecomer : Server :=
  { queueOf [5, 7, 3] with timeouts := ⟨2, 2, fun index => if index < 2 then some index else none⟩ }

/-- A third session that is due first rises past the two others. -/
theorem timeoutAdd_in_order_latecomer : ∃ after, timeoutAdd latecomer 2 = .ok after ∧ Urgent after ∧
    Reheaped latecomer after (some 2 ::ₘ latecomer.pending) ∧
    after.timeouts.heap 0 ∈ some 2 ::ₘ latecomer.pending ∧
    ∀ entry ∈ some 2 ::ₘ latecomer.pending,
      latecomer.dueOf (after.timeouts.heap 0) ≤ latecomer.dueOf entry := by
  refine timeoutAdd_in_order ?_ ?_ rfl
  · intro entry member
    obtain ⟨index, below, rfl⟩ := mem_entriesOf.mp member
    have two : index < 2 := below
    rcases (by omega : index = 0 ∨ index = 1) with rfl | rfl
    · exact ⟨0, _, rfl, rfl⟩
    · exact ⟨1, _, rfl, rfl⟩
  · intro index below
    have one : index < 1 := Nat.lt_of_succ_lt_succ below
    rcases (by omega : index = 0) with rfl
    decide

/-! ## Popping -/

/-- Below the entry that sinks, heapify reaches no entry before its left child but itself. -/
theorem timeoutHeapify_frame (done : timeoutHeapify rounds index server = .ok after) {other : Nat}
    (before : other < 2 * index + 1) (differ : other ≠ index) :
    after.timeouts.heap other = server.timeouts.heap other := by
  induction rounds generalizing index server with
  | zero => cases done
  | succ rounds ih =>
      obtain ⟨lowest, tested, done⟩ := bind_eq_ok done
      split at done
      case isTrue moved =>
        obtain ⟨left, _⟩ := heapifyLowest_left tested moved
        rw [ih done (by omega) (by omega)]
        exact exchanged_other (by omega) differ
      case isFalse =>
        cases done
        rfl

/-- Along the left border below the entry that sinks, nobody is due before its parent. -/
theorem Sinking.border_le (border : index + 1 = 2 ^ level)
    (sinking : Sinking server.dueOf server.timeouts.heap server.timeouts.count index) {deeper : Nat}
    (deep : level < deeper) (below : 2 ^ deeper ≤ server.timeouts.count) :
    server.dueOf (server.timeouts.heap (2 * index + 1)) ≤
      server.dueOf (server.timeouts.heap (2 ^ deeper - 1)) := by
  induction deeper with
  | zero => exact (Nat.not_lt_zero _ deep).elim
  | succ deeper ih =>
      have double : 2 ^ (deeper + 1) = 2 * 2 ^ deeper := by rw [pow_succ, Nat.mul_comm]
      rcases Nat.eq_or_lt_of_le (Nat.le_of_lt_succ deep) with same | further
      · have here : 2 ^ (deeper + 1) - 1 = 2 * index + 1 := by
          rw [double, ← same, ← border]
          omega
        rw [here]
      · have positive : 0 < 2 ^ deeper := Nat.two_pow_pos deeper
        have grown : 2 ^ level < 2 ^ deeper := Nat.pow_lt_pow_right Nat.one_lt_two further
        have step := sinking.off (2 ^ (deeper + 1) - 2) (by omega) (by omega)
        have parent : (2 ^ (deeper + 1) - 2) / 2 = 2 ^ deeper - 1 := by omega
        have child : 2 ^ (deeper + 1) - 2 + 1 = 2 ^ (deeper + 1) - 1 := by omega
        rw [parent, child] at step
        exact (ih further (by omega)).trans step

/-- A right child that is due before its sibling and its parent makes heapify go on with the sibling. -/
theorem heapifyLowest_unfair {lowest : Nat} (inside : 2 * index + 2 < server.timeouts.count)
    (sibling : server.dueOf (server.timeouts.heap (2 * index + 2)) <
      server.dueOf (server.timeouts.heap (2 * index + 1)))
    (parent : server.dueOf (server.timeouts.heap (2 * index + 2)) <
      server.dueOf (server.timeouts.heap index))
    (done : heapifyLowest server index = .ok lowest) : lowest = 2 * index + 1 := by
  obtain ⟨left, first, done⟩ := bind_eq_ok done
  rw [if_pos inside] at done
  obtain ⟨right, read, done⟩ := bind_eq_ok done
  obtain ⟨least, read', done⟩ := bind_eq_ok done
  have dueRight := dueOf_timeoutAt read
  have dueLeast := dueOf_timeoutAt read'
  have lower : right < least := by
    rw [← dueRight, ← dueLeast]
    rcases heapifyLeft_spec first with ⟨rfl, _⟩ | ⟨rfl, _⟩
    · exact parent
    · exact sibling
  rw [if_pos lower] at done
  exact (Except.ok.inj done).symm

/-- The sibling of such a child becomes its parent, and stays it. -/
theorem timeoutHeapify_unfair (inside : 2 * index + 2 < server.timeouts.count)
    (sibling : server.dueOf (server.timeouts.heap (2 * index + 2)) <
      server.dueOf (server.timeouts.heap (2 * index + 1)))
    (parent : server.dueOf (server.timeouts.heap (2 * index + 2)) <
      server.dueOf (server.timeouts.heap index))
    (done : timeoutHeapify rounds index server = .ok after) : ¬ Urgent after := by
  have reheaped := timeoutHeapify_reheaped done
  cases rounds with
  | zero => cases done
  | succ rounds =>
      obtain ⟨lowest, tested, done⟩ := bind_eq_ok done
      have moves := heapifyLowest_unfair inside sibling parent tested
      rw [if_pos (by omega), moves] at done
      intro urgent
      have order := urgent (2 * index + 1) (by rw [reheaped.count, pending, card_entriesOf]; omega)
      have half : (2 * index + 1) / 2 = index := by omega
      rw [half, timeoutHeapify_frame done (by omega) (by omega),
        timeoutHeapify_frame done (by omega) (by omega), reheaped.dueOf_eq] at order
      change server.dueOf (exchanged server.timeouts.heap (2 * index + 1) index index) ≤
        server.dueOf (exchanged server.timeouts.heap (2 * index + 1) index (2 * index + 2)) at order
      rw [exchanged_second, exchanged_other (by omega) (by omega)] at order
      exact absurd sibling (not_lt.mpr order)

/-- Where a right child on the way is due before its sibling and the entry that sinks, the order is
lost. -/
theorem timeoutHeapify_misplaced (border : index + 1 = 2 ^ level)
    (sinking : Sinking server.dueOf server.timeouts.heap server.timeouts.count index) {deeper : Nat}
    (deep : level ≤ deeper) (below : 2 ^ (deeper + 1) < server.timeouts.count)
    (beforeLeft : server.dueOf (server.timeouts.heap (2 ^ (deeper + 1))) <
      server.dueOf (server.timeouts.heap (2 ^ (deeper + 1) - 1)))
    (beforeLast : server.dueOf (server.timeouts.heap (2 ^ (deeper + 1))) <
      server.dueOf (server.timeouts.heap index))
    (done : timeoutHeapify rounds index server = .ok after) : ¬ Urgent after := by
  induction rounds generalizing index level server with
  | zero => cases done
  | succ rounds ih =>
      by_cases unfair : 2 * index + 2 < server.timeouts.count ∧
          server.dueOf (server.timeouts.heap (2 * index + 2)) <
            server.dueOf (server.timeouts.heap (2 * index + 1)) ∧
          server.dueOf (server.timeouts.heap (2 * index + 2)) <
            server.dueOf (server.timeouts.heap index)
      · obtain ⟨inside, sibling, parent⟩ := unfair
        exact timeoutHeapify_unfair inside sibling parent done
      · have fair : 2 * index + 2 < server.timeouts.count →
            ¬ (server.dueOf (server.timeouts.heap (2 * index + 2)) <
                server.dueOf (server.timeouts.heap (2 * index + 1)) ∧
              server.dueOf (server.timeouts.heap (2 * index + 2)) <
                server.dueOf (server.timeouts.heap index)) :=
          fun inside both => unfair ⟨inside, both⟩
        have right : 2 * index + 2 = 2 ^ (level + 1) := by rw [pow_succ]; omega
        -- the level of the misplaced child lies deeper, so the entry sinks past this one
        have deeper' : level < deeper := by
          refine Nat.lt_of_le_of_ne deep ?_
          rintro rfl
          rw [← right] at below beforeLeft beforeLast
          exact fair below ⟨beforeLeft, beforeLast⟩
        have double : 2 ^ (deeper + 1) = 2 * 2 ^ deeper := by rw [pow_succ, Nat.mul_comm]
        have positive : 0 < 2 ^ deeper := Nat.two_pow_pos deeper
        have grown : 2 ^ (level + 1) ≤ 2 ^ deeper := Nat.pow_le_pow_right Nat.two_pos deeper'
        have ancestor := Sinking.border_le border sinking deeper' (by omega)
        have parent := sinking.off (2 ^ (deeper + 1) - 1) (by omega) (by omega)
        rw [(by omega : (2 ^ (deeper + 1) - 1) / 2 = 2 ^ deeper - 1),
          (by omega : 2 ^ (deeper + 1) - 1 + 1 = 2 ^ (deeper + 1))] at parent
        have left := (ancestor.trans parent).trans_lt beforeLast
        obtain ⟨lowest, tested, done⟩ := bind_eq_ok done
        obtain ⟨least, stays | ⟨moves, inside, lower⟩⟩ := heapifyLowest_spec fair tested
        · have stuck := least (2 * index) (by omega) (by omega)
          rw [stays] at stuck
          exact absurd left (not_lt.mpr stuck)
        · rw [if_pos (by omega), moves] at done
          rw [moves] at least
          have border' : 2 * index + 1 + 1 = 2 ^ (level + 1) := right
          have sinks : Sinking (server.swapEntries (2 * index + 1) index).dueOf
              (server.swapEntries (2 * index + 1) index).timeouts.heap
              (server.swapEntries (2 * index + 1) index).timeouts.count (2 * index + 1) :=
            sinking.step inside (by omega) (le_of_lt lower) least
          have below' : 2 ^ (deeper + 1) <
              (server.swapEntries (2 * index + 1) index).timeouts.count := below
          have kept {other : Nat} (above : 2 * index + 1 < other) :
              (server.swapEntries (2 * index + 1) index).timeouts.heap other =
                server.timeouts.heap other := exchanged_other (by omega) (by omega)
          have moved : (server.swapEntries (2 * index + 1) index).timeouts.heap (2 * index + 1) =
              server.timeouts.heap index := exchanged_first
          refine ih border' sinks deeper' below' ?_ ?_ done
          · rw [kept (by omega), kept (by omega)]
            exact beforeLeft
          · rw [kept (by omega), moved]
            exact beforeLast

/-- Popping a heap in order leaves it in order exactly if it misplaces no entry. -/
theorem timeoutPop_urgent_iff {popped : Option SessionPtr} (urgent : Urgent server)
    (alive : Alive server) (done : timeoutPop server = .ok (popped, after)) :
    Urgent after ↔ ¬ Misplaces server := by
  refine ⟨?_, fun fair => (timeoutPop_urgent urgent alive fair done).1⟩
  rintro ordered ⟨level, right, left, last, below, atRight, atLeft, atLast, beforeLeft, beforeLast⟩
  obtain ⟨count, counted⟩ :=
    Nat.exists_eq_add_one_of_ne_zero (Nat.pos_iff_ne_zero.mp (Nat.zero_lt_of_lt below))
  rw [timeoutPop_eq counted] at done
  obtain ⟨sifted, heapified, same⟩ := map_eq_ok done
  cases same
  have two : 2 ≤ 2 ^ (level + 1) := Nat.le_self_pow (Nat.succ_ne_zero level) 2
  have border : 0 + 1 = 2 ^ 0 := rfl
  have below' : 2 ^ (level + 1) < (shrunk server).timeouts.count := by
    change 2 ^ (level + 1) < server.timeouts.count - 1
    omega
  refine timeoutHeapify_misplaced border (shrunk_sinking urgent counted) (Nat.zero_le level) below'
    ?_ ?_ heapified ordered
  · rw [shrunk_kept (by omega), shrunk_kept (by omega)]
    change server.dueOf _ < server.dueOf _
    rw [dueOf_timeoutAt atRight, dueOf_timeoutAt atLeft]
    exact beforeLeft
  · rw [shrunk_kept (by omega), shrunk_first]
    change server.dueOf _ < server.dueOf _
    rw [dueOf_timeoutAt atRight, dueOf_timeoutAt atLast]
    exact beforeLast

end

/-! ## Sequences of calls -/

/-- A call on the heap, or what the program does between two calls, which leaves this server. -/
inductive HeapCall where
  | add (session : SessionPtr)
  | pop
  | elapse (next : Server)

/-- The heap has been left alone, and so have the timeouts of the sessions in it. -/
structure Unmoved (before after : Server) : Prop where
  heap : after.timeouts = before.timeouts
  timeout : ∀ pointer session, some pointer ∈ before.pending →
    before.memory pointer = some session → ∃ session', after.memory pointer = some session' ∧
      session'.timeout = session.timeout

/-- A call of a sequence. Only sessions that exist are added. -/
def HeapStep (before : Server) (call : HeapCall) (after : Server) : Prop :=
  match call with
  | .add pointer => (∃ session, before.memory pointer = some session) ∧
      timeoutAdd before pointer = .ok after
  | .pop => ∃ popped, timeoutPop before = .ok (popped, after)
  | .elapse next => after = next ∧ Unmoved before next

/-- A pop on a heap that is not empty returns a session of the heap that is due no later than any
other, and leaves the heap in order. -/
def PopsLeast (before : Server) (call : HeapCall) (after : Server) : Prop :=
  call = .pop → 0 < before.timeouts.count → ∃ popped ∈ before.pending,
    timeoutPop before = .ok (popped, after) ∧
    (∀ entry ∈ before.pending, before.dueOf popped ≤ before.dueOf entry) ∧ Urgent after

/-- The call is not a pop that misplaces an entry. -/
def Placing (before : Server) (call : HeapCall) (_ : Server) : Prop :=
  call = .pop → ¬ Misplaces before

section

variable {before after : Server} {call : HeapCall}

/-- What only touches other sessions leaves the entries alive. -/
theorem Unmoved.alive (alive : Alive before) (unmoved : Unmoved before after) :
    Alive after := by
  intro entry member
  have entries : entry ∈ before.pending := by
    rw [pending, unmoved.heap] at member
    exact member
  obtain ⟨pointer, session, rfl, live⟩ := alive entry entries
  obtain ⟨session', live', _⟩ := unmoved.timeout pointer session entries live
  exact ⟨pointer, session', rfl, live'⟩

/-- What only touches other sessions leaves the heap in order. -/
theorem Unmoved.urgent (alive : Alive before) (urgent : Urgent before)
    (unmoved : Unmoved before after) : Urgent after := by
  unfold Urgent
  rw [unmoved.heap]
  refine urgent.congr fun index below => ?_
  have member : before.timeouts.heap index ∈ before.pending := mem_entriesOf.mpr ⟨index, below, rfl⟩
  obtain ⟨pointer, session, entry, live⟩ := alive _ member
  rw [entry] at member ⊢
  obtain ⟨session', live', same⟩ := unmoved.timeout pointer session member live
  rw [dueOf_live live, dueOf_live live', same]

/-- What a call leaves is determined by the call. -/
theorem heapStep_functional (before : Server) (call : HeapCall) (after after' : Server)
    (step : HeapStep before call after) (step' : HeapStep before call after') : after = after' := by
  cases call with
  | add pointer => exact Except.ok.inj (step.2.symm.trans step'.2)
  | elapse next => exact step.1.trans step'.1.symm
  | pop =>
      obtain ⟨popped, done⟩ := step
      obtain ⟨popped', done'⟩ := step'
      exact (Prod.mk.inj (Except.ok.inj (done.symm.trans done'))).2

/-- A heap in order pops the least exactly if it misplaces no entry. -/
theorem HeapStep.popsLeast_iff (urgent : Urgent before) (alive : Alive before)
    (step : HeapStep before call after) :
    PopsLeast before call after ↔ Placing before call after := by
  cases call with
  | add pointer => exact iff_of_true (fun pops => by cases pops) (fun pops => by cases pops)
  | elapse next => exact iff_of_true (fun pops => by cases pops) (fun pops => by cases pops)
  | pop =>
      obtain ⟨popped, done⟩ := step
      constructor
      · intro least _ misplaces
        have some : 0 < before.timeouts.count := by
          obtain ⟨level, right, left, last, below, _⟩ := misplaces
          exact Nat.zero_lt_of_lt below
        obtain ⟨_, _, _, _, ordered⟩ := least rfl some
        exact (timeoutPop_urgent_iff urgent alive done).mp ordered misplaces
      · intro placing _ some
        obtain ⟨ordered, least⟩ := timeoutPop_urgent urgent alive (placing rfl) done
        refine ⟨popped, ?_, done, least, ordered⟩
        rcases timeoutPop_reheaped done with ⟨_, _, empty⟩ | ⟨rest, whole, _⟩
        · have count := card_entriesOf before.timeouts.heap before.timeouts.count
          change before.pending.card = _ at count
          rw [empty] at count
          exact absurd some (by rw [← count]; exact Nat.lt_irrefl 0)
        · rw [whole]
          exact Multiset.mem_cons_self _ _

/-- A step that misplaces no entry keeps the heap in order and its sessions alive. -/
theorem HeapStep.keeps (urgent : Urgent before) (alive : Alive before)
    (step : HeapStep before call after) (placing : Placing before call after) :
    Urgent after ∧ Alive after := by
  cases call with
  | add pointer =>
      obtain ⟨⟨session, live⟩, done⟩ := step
      refine ⟨timeoutAdd_urgent urgent done, fun entry member => ?_⟩
      have reheaped := timeoutAdd_reheaped done
      rw [reheaped.pending] at member
      rw [reheaped.memory]
      rcases Multiset.mem_cons.mp member with rfl | older
      · exact ⟨pointer, session, rfl, live⟩
      · exact alive entry older
  | elapse next =>
      obtain ⟨rfl, unmoved⟩ := step
      exact ⟨unmoved.urgent alive urgent, unmoved.alive alive⟩
  | pop =>
      obtain ⟨popped, done⟩ := step
      refine ⟨(timeoutPop_urgent urgent alive (placing rfl) done).1, ?_⟩
      rcases timeoutPop_reheaped done with ⟨_, rfl, _⟩ | ⟨rest, whole, reheaped⟩
      · exact alive
      · exact alive.reheaped reheaped fun entry member => by
          rw [whole]
          exact Multiset.mem_cons_of_mem member

/-- **When the heap is a priority queue.** In every sequence of calls from the empty heap on, in which
the timeouts of the sessions in the heap do not change, every pop returns a session that is due first
and leaves the heap in order, exactly if none of the pops misplaces an entry. -/
theorem priority_queue_iff {server target : Server} (empty : server.timeouts.count = 0)
    (calls : List HeapCall) :
    Run (fun before call after => HeapStep before call after ∧ PopsLeast before call after)
        server calls target ↔
      Run (fun before call after => HeapStep before call after ∧ Placing before call after)
        server calls target := by
  refine @Run.meets_iff _ _ HeapStep PopsLeast Placing (fun server => Urgent server ∧ Alive server)
    server target calls ⟨?_, ?_⟩ ?_ ?_
  · intro index below
    omega
  · intro entry member
    rw [pending, empty] at member
    exact (Multiset.notMem_zero entry member).elim
  · rintro before call after ⟨urgent, alive⟩ step
    exact step.popsLeast_iff urgent alive
  · rintro before call after ⟨urgent, alive⟩ step placing
    exact step.keeps urgent alive placing

end

/-- The sessions with these timeouts, none of them in the heap. -/
def idleOf (timeouts : List Int) : Server :=
  { queueOf timeouts with timeouts := ⟨0, timeoutHeapInitialCapacity, fun _ => none⟩ }

/-- A call of a sequence in which nothing else happens, where a session that is added exists. -/
def heapCalled (server : Server) : HeapCall → Except Fault Server
  | .add session => do
      let _ ← server.load session
      timeoutAdd server session
  | .pop => (timeoutPop server).map Prod.snd
  | .elapse _ => .error .diverge

/-- What the executable call computes is a call on the heap. -/
theorem heapCalled_sound {before after : Server} {call : HeapCall}
    (done : heapCalled before call = .ok after) : HeapStep before call after := by
  cases call with
  | add session =>
      obtain ⟨current, loaded, added⟩ := bind_eq_ok done
      exact ⟨⟨current, live_of_load loaded⟩, added⟩
  | pop =>
      obtain ⟨⟨popped, server⟩, pop, rfl⟩ := map_eq_ok done
      exact ⟨popped, pop⟩
  | elapse next => cases done

/-- The server after these calls. -/
def heapAfter (timeouts : List Int) (calls : List HeapCall) : Server :=
  (calls.foldlM heapCalled (idleOf timeouts)).toOption.getD (idleOf timeouts)

/-- The heap of the example is one of a sequence of calls. -/
theorem heapAfter_run {timeouts : List Int} {calls : List HeapCall}
    (fine : (calls.foldlM heapCalled (idleOf timeouts)).isOk = true) :
    Run (fun before call after => heapCalled before call = .ok after) (idleOf timeouts) calls
      (heapAfter timeouts calls) :=
  Run.of_foldlM (eq_ok_getD fine _)

/-- Four sessions are added and popped. -/
def fourCalls : List HeapCall := [.add 0, .add 1, .add 2, .add 3, .pop, .pop, .pop, .pop]

/-- Sessions due at 1, 2, 5 and 6 are popped in this order. -/
theorem priority_queue_sorted :
    Run (fun before call after => HeapStep before call after ∧ PopsLeast before call after)
      (idleOf [1, 2, 5, 6]) fourCalls (heapAfter [1, 2, 5, 6] fourCalls) := by
  have checked := @Run.guard _ _ _ (fun server _ => !misplaces server) Fault.diverge heapCalled
    _ _ _ (@heapAfter_run [1, 2, 5, 6] fourCalls (by decide +kernel)) (by decide +kernel)
  refine (priority_queue_iff rfl _).mpr (checked.mono fun server call after one => ?_)
  refine ⟨heapCalled_sound one.1, fun _ misplaced => ?_⟩
  have passes := one.2
  rw [misplaces_of misplaced] at passes
  cases passes

/-- Sessions due at 1, 5, 2 and 6 are added. Popping the first leaves the one due at 5 before the one
due at 2. -/
theorem not_priority_queue :
    ¬ ∀ (server target : Server) (calls : List HeapCall), server.timeouts.count = 0 →
      Run HeapStep server calls target →
      Run (fun before call after => HeapStep before call after ∧ PopsLeast before call after)
        server calls target := by
  intro least
  have adds := @heapAfter_run [1, 5, 2, 6] (fourCalls.take 4) (by decide +kernel)
  have pops := (@heapAfter_run [1, 5, 2, 6] (fourCalls.take 5) (by decide +kernel)).mono
    fun _ _ _ done => heapCalled_sound done
  obtain ⟨before, earlier, _, popsLeast⟩ :=
    (least _ _ (fourCalls.take 4 ++ [.pop]) rfl pops).snoc_inv
  cases (earlier.mono fun _ _ _ step => step.1).unique heapStep_functional
    (adds.mono fun _ _ _ done => heapCalled_sound done)
  obtain ⟨_, _, _, _, ordered⟩ := popsLeast rfl (by decide +kernel)
  exact absurd (ordered 1 (by decide +kernel)) (by decide +kernel)

end Sas.Server
