import Sas.Rxc.Pipeline
import Sas.Foundation.LinkedQueue
import Sas.Foundation.Run
import Mathlib.Logic.Function.Basic

/-! # The trampoline

`trampoline.c` with its nodes and pointers. A worker runs its tasks in the outermost call of
`worker_schedule`; the calls that the tasks make meanwhile only link a node to the end of the queue.
-/

namespace Sas.Rxc

open Foundation

/-- The address of an allocated node. -/
abbrev NodePtr := Nat

/-- `struct trampoline_queue_node`, with the runnable and its context as one task. -/
structure QueueNode (Task : Type) where
  task : Task
  prev : Option NodePtr

/-- What happens to the task of a node. -/
inductive TaskEvent (Task : Type) where
  | scheduled (node : NodePtr) (task : Task)
  | started (node : NodePtr) (task : Task)
  | finished (node : NodePtr) (task : Task)

/-- `struct trampoline_worker`, with the nodes it has allocated and what has happened so far. `malloc`
never hands out an address twice, so `fresh` is the next one. -/
structure TrampolineWorker (Task : Type) where
  head : Option NodePtr
  tail : Option NodePtr
  wip : Bool
  nodes : NodePtr → Option (QueueNode Task)
  fresh : NodePtr
  events : List (TaskEvent Task)

namespace Trampoline

variable {Task : Type}

/-- Note what has happened. -/
def note (event : TaskEvent Task) (self : TrampolineWorker Task) : TrampolineWorker Task :=
  { self with events := self.events ++ [event] }

/-- `free(node)`. -/
def free (node : NodePtr) (self : TrampolineWorker Task) : TrampolineWorker Task :=
  { self with nodes := Function.update self.nodes node none }

/-- `worker_enqueue`, where the allocation succeeds. -/
def workerEnqueue (task : Task) (self : TrampolineWorker Task) :
    Except Fault (TrampolineWorker Task) :=
  let node := self.fresh
  let self := { self with
    nodes := Function.update self.nodes node (some ⟨task, none⟩)
    fresh := self.fresh + 1 }
  match self.head with
  | none => .ok { self with head := some node, tail := some node }
  | some _ =>
      match self.tail with
      | none => .error .nullPointer
      | some tail =>
          match self.nodes tail with
          | none => .error (.useAfterFree tail)
          | some last => .ok { self with
              nodes := Function.update self.nodes tail (some { last with prev := some node })
              tail := some node }

/-- `worker_dequeue`. -/
def workerDequeue (self : TrampolineWorker Task) :
    Except Fault (Option NodePtr × TrampolineWorker Task) :=
  match self.head with
  | none => .ok (none, self)
  | some head =>
      match self.nodes head with
      | none => .error (.useAfterFree head)
      | some first => .ok (some head, { self with
          head := first.prev
          tail := if first.prev = none then none else self.tail })

/-- The loop of `worker_schedule`. Every round takes one node from the queue. -/
def workerDrain (run : Task → TrampolineWorker Task → Except Fault (TrampolineWorker Task)) :
    Nat → TrampolineWorker Task → Except Fault (TrampolineWorker Task)
  | 0, _ => .error .diverge
  | rounds + 1, self => do
      match ← workerDequeue self with
      | (none, self) => .ok self
      | (some node, self) =>
          match self.nodes node with
          | none => .error (.useAfterFree node)
          | some current =>
              let self ← run current.task (note (.started node current.task) self)
              workerDrain run rounds (note (.finished node current.task) (free node self))

/-- What a task does, given how it schedules another one. -/
abbrev Runnable (Task : Type) :=
  (Task → TrampolineWorker Task → Except Fault (TrampolineWorker Task)) → Task →
    TrampolineWorker Task → Except Fault (TrampolineWorker Task)

/-- `worker_schedule`. A task that runs schedules with the function that runs it; `rounds` bounds the
nested calls and the rounds of the loop. -/
def workerSchedule (runnable : Runnable Task) :
    Nat → Task → TrampolineWorker Task → Except Fault (TrampolineWorker Task)
  | 0, _, _ => .error .diverge
  | rounds + 1, task, self => do
      let self ← workerEnqueue task (note (.scheduled self.fresh task) self)
      if self.wip then .ok self
      else
        let self ← workerDrain (runnable (workerSchedule runnable rounds)) rounds
          { self with wip := true }
        .ok { self with wip := false }

/-- `scheduler_create_worker`. -/
def schedulerCreateWorker : TrampolineWorker Task := ⟨none, none, false, fun _ => none, 0, []⟩

/-! ## The queue -/

/-- The link of the node behind a pointer. -/
def prevOf (worker : TrampolineWorker Task) (pointer : NodePtr) : Option NodePtr :=
  (worker.nodes pointer).bind QueueNode.prev

/-- The nodes of a worker: those of its queue, in order and with their tasks, and the one that runs. -/
structure Holds (worker : TrampolineWorker Task) (entries : List (NodePtr × Task))
    (running : Option NodePtr) : Prop where
  queue : LinkedQueue (prevOf worker) worker.head worker.tail (entries.map Prod.fst)
  queued : ∀ entry ∈ entries, ∃ prev, worker.nodes entry.1 = some ⟨entry.2, prev⟩
  apart : ∀ node ∈ running, node < worker.fresh ∧ node ∉ entries.map Prod.fst
  allocated : ∀ pointer node, worker.nodes pointer = some node →
    pointer < worker.fresh ∧ (pointer ∈ entries.map Prod.fst ∨ running = some pointer)

section

variable {worker : TrampolineWorker Task} {entries : List (NodePtr × Task)} {running : Option NodePtr}

/-- A new worker holds nothing. -/
theorem holds_created : Holds (schedulerCreateWorker : TrampolineWorker Task) [] none where
  queue := .nil
  queued _ member := (List.not_mem_nil member).elim
  apart _ member := (Option.some_ne_none _ member.symm).elim
  allocated _ _ live := (Option.some_ne_none _ live.symm).elim

theorem Holds.note (holds : Holds worker entries running) (event : TaskEvent Task) :
    Holds (note event worker) entries running :=
  ⟨holds.queue, holds.queued, holds.apart, holds.allocated⟩

/-- The nodes of the queue have been allocated. -/
theorem Holds.lt_fresh (holds : Holds worker entries running) {pointer : NodePtr}
    (member : pointer ∈ entries.map Prod.fst) : pointer < worker.fresh := by
  obtain ⟨entry, inside, rfl⟩ := List.mem_map.mp member
  obtain ⟨prev, live⟩ := holds.queued entry inside
  exact (holds.allocated _ _ live).1

/-- What enqueuing changes. -/
structure Enqueued (worker : TrampolineWorker Task) (entries : List (NodePtr × Task))
    (running : Option NodePtr) (task : Task) (after : TrampolineWorker Task) : Prop where
  holds : Holds after (entries ++ [(worker.fresh, task)]) running
  fresh : after.fresh = worker.fresh + 1
  wip : after.wip = worker.wip
  events : after.events = worker.events

/-- Enqueuing into an empty queue. -/
theorem workerEnqueue_nil (task : Task) (head : worker.head = none) :
    workerEnqueue task worker = .ok { worker with
      nodes := Function.update worker.nodes worker.fresh (some ⟨task, none⟩)
      fresh := worker.fresh + 1
      head := some worker.fresh
      tail := some worker.fresh } := by
  simp only [workerEnqueue, head]

/-- The worker after enqueuing behind the last node. -/
def enqueuedBehind (worker : TrampolineWorker Task) (task : Task) (last : NodePtr)
    (node : QueueNode Task) : TrampolineWorker Task :=
  { worker with
    nodes := Function.update
      (Function.update worker.nodes worker.fresh (some ⟨task, none⟩)) last
      (some { node with prev := some worker.fresh })
    fresh := worker.fresh + 1
    tail := some worker.fresh }

/-- Enqueuing behind a last node links this node to the new one. -/
theorem workerEnqueue_snoc (task : Task) {first last : NodePtr} {node : QueueNode Task}
    (head : worker.head = some first) (tail : worker.tail = some last)
    (live : worker.nodes last = some node) (older : last ≠ worker.fresh) :
    workerEnqueue task worker = .ok (enqueuedBehind worker task last node) := by
  have still : Function.update worker.nodes worker.fresh (some ⟨task, none⟩) last = some node := by
    rw [Function.update_of_ne older, live]
  simp only [workerEnqueue, head, tail, still, enqueuedBehind]

theorem names_snoc (entries : List (NodePtr × Task)) (pointer : NodePtr) (task : Task) :
    (entries ++ [(pointer, task)]).map Prod.fst = entries.map Prod.fst ++ [pointer] :=
  List.map_append

/-- The node that runs is not the new one. -/
theorem Holds.apart_snoc (holds : Holds worker entries running) (task : Task) :
    ∀ node ∈ running, node < worker.fresh + 1 ∧
      node ∉ (entries ++ [(worker.fresh, task)]).map Prod.fst := by
  intro node runs
  obtain ⟨old, away⟩ := holds.apart node runs
  refine ⟨Nat.lt_succ_of_lt old, ?_⟩
  rw [names_snoc, List.mem_append, not_or]
  exact ⟨away, fun same => Nat.ne_of_lt old (List.mem_singleton.mp same)⟩

/-- The nodes in memory are the old ones and the new one. -/
theorem Holds.allocated_snoc (holds : Holds worker entries running) (task : Task)
    {pointer : NodePtr}
    (known : (∃ node, worker.nodes pointer = some node) ∨ pointer = worker.fresh) :
    pointer < worker.fresh + 1 ∧
      (pointer ∈ (entries ++ [(worker.fresh, task)]).map Prod.fst ∨ running = some pointer) := by
  rw [names_snoc]
  rcases known with ⟨node, live⟩ | rfl
  · obtain ⟨old, place⟩ := holds.allocated pointer node live
    exact ⟨Nat.lt_succ_of_lt old, place.imp_left (List.mem_append_left _)⟩
  · exact ⟨Nat.lt_succ_self _, .inl (List.mem_append_right _ (List.mem_singleton_self _))⟩

theorem Holds.ne_fresh (holds : Holds worker entries running) {pointer : NodePtr}
    (member : pointer ∈ entries.map Prod.fst) : pointer ≠ worker.fresh :=
  Nat.ne_of_lt (holds.lt_fresh member)

/-- The first node of a queue is its last one too. -/
theorem Holds.enqueued_nil (holds : Holds worker [] running) (task : Task) :
    Holds { worker with
      nodes := Function.update worker.nodes worker.fresh (some ⟨task, none⟩)
      fresh := worker.fresh + 1
      head := some worker.fresh
      tail := some worker.fresh } [(worker.fresh, task)] running := by
  refine ⟨?_, ?_, holds.apart_snoc task, ?_⟩
  · refine LinkedQueue.push_nil ?_
    simp only [prevOf, Function.update_self, Option.bind_some]
  · intro entry member
    rw [List.mem_singleton.mp member]
    exact ⟨none, Function.update_self _ _ _⟩
  · intro pointer node live
    apply holds.allocated_snoc task
    by_cases new : pointer = worker.fresh
    · exact .inr new
    · exact .inl ⟨node, (Function.update_of_ne new _ _).symm.trans live⟩

/-- The links lead from the last node to the new one, and no other link changes. -/
theorem Holds.queue_snoc (holds : Holds worker entries running) (task : Task)
    {before : List NodePtr} {last : NodePtr} (node : QueueNode Task)
    (split : entries.map Prod.fst = before ++ [last]) :
    LinkedQueue (prevOf (enqueuedBehind worker task last node)) worker.head (some worker.fresh)
      ((entries ++ [(worker.fresh, task)]).map Prod.fst) := by
  have queue := holds.queue
  rw [names_snoc]
  rw [split] at queue ⊢
  have among {pointer : NodePtr} (member : pointer ∈ before ++ [last]) :
      pointer ≠ worker.fresh := by
    rw [← split] at member
    exact holds.ne_fresh member
  have differ := among (List.mem_append_right _ (List.mem_singleton_self last))
  refine queue.push (fun other earlier => ?_) ?_ ?_
  · have apart : other ≠ last := fun equal =>
      (List.nodup_append.mp queue.nodup).2.2 other earlier last (List.mem_singleton_self _) equal
    have old := among (List.mem_append_left _ earlier)
    simp only [prevOf, enqueuedBehind, Function.update_of_ne apart, Function.update_of_ne old]
  · simp only [prevOf, enqueuedBehind, Function.update_self, Option.bind_some]
  · simp only [prevOf, enqueuedBehind, Function.update_of_ne differ.symm, Function.update_self,
      Option.bind_some]

/-- The worker holds its queue with the new node at the end. -/
theorem Holds.enqueued_snoc (holds : Holds worker entries running) (task : Task)
    {before : List NodePtr} {last : NodePtr} {entry : NodePtr × Task} {prev : Option NodePtr}
    (split : entries.map Prod.fst = before ++ [last])
    (live : worker.nodes last = some ⟨entry.2, prev⟩) :
    Holds (enqueuedBehind worker task last ⟨entry.2, prev⟩)
      (entries ++ [(worker.fresh, task)]) running := by
  have inside : last ∈ entries.map Prod.fst := by
    rw [split]
    exact List.mem_append_right _ (List.mem_singleton_self last)
  have differ := holds.ne_fresh inside
  refine ⟨holds.queue_snoc task _ split, ?_, holds.apart_snoc task, ?_⟩
  · intro entry' member'
    rcases List.mem_append.mp member' with earlier | new
    · obtain ⟨prev', live'⟩ := holds.queued entry' earlier
      by_cases ending : entry'.1 = last
      · rw [ending, live] at live'
        have task : entry.2 = entry'.2 := congrArg QueueNode.task (Option.some.inj live')
        rw [ending, ← task]
        exact ⟨_, Function.update_self _ _ _⟩
      · have old : entry'.1 ≠ worker.fresh := holds.ne_fresh (List.mem_map_of_mem earlier)
        exact ⟨prev', (Function.update_of_ne ending _ _).trans
          ((Function.update_of_ne old _ _).trans live')⟩
    · rw [List.mem_singleton.mp new]
      exact ⟨none, (Function.update_of_ne differ.symm _ _).trans (Function.update_self _ _ _)⟩
  · intro pointer node live'
    apply holds.allocated_snoc task
    by_cases new : pointer = worker.fresh
    · exact .inr new
    · by_cases ending : pointer = last
      · rw [ending]
        exact .inl ⟨_, live⟩
      · refine .inl ⟨node, ?_⟩
        exact (Function.update_of_ne new _ _).symm.trans
          ((Function.update_of_ne ending _ _).symm.trans live')

/-- Enqueuing puts a new node at the end of the queue. -/
theorem workerEnqueue_spec (holds : Holds worker entries running) (task : Task) :
    ∃ after, workerEnqueue task worker = .ok after ∧ Enqueued worker entries running task after := by
  have queue := holds.queue
  cases head : worker.head with
  | none =>
      rw [head] at queue
      have empty : entries = [] := List.map_eq_nil_iff.mp queue.eq_nil
      subst empty
      exact ⟨_, workerEnqueue_nil task head, holds.enqueued_nil task, rfl, rfl, rfl⟩
  | some first =>
      rw [head] at queue
      obtain ⟨before, last, split, tail⟩ := queue.last_node
      have inside : last ∈ entries.map Prod.fst := by
        rw [split]
        exact List.mem_append_right _ (List.mem_singleton_self last)
      obtain ⟨entry, member, same⟩ := List.mem_map.mp inside
      obtain ⟨prev, live⟩ := holds.queued entry member
      rw [same] at live
      exact ⟨_, workerEnqueue_snoc task head tail live (holds.ne_fresh inside),
        holds.enqueued_snoc task split live, rfl, rfl, rfl⟩

/-- Dequeuing from an empty queue. -/
theorem workerDequeue_nil (holds : Holds worker [] running) :
    workerDequeue worker = .ok (none, worker) := by
  have head : worker.head = none := holds.queue.chain
  simp only [workerDequeue, head]

/-- The worker behind a dequeuing. -/
def dequeued (worker : TrampolineWorker Task) (node : NodePtr) : TrampolineWorker Task :=
  { worker with
    head := prevOf worker node
    tail := if prevOf worker node = none then none else worker.tail }

/-- Dequeuing takes the first node from the queue. It stays allocated while its task runs. -/
theorem workerDequeue_cons {entry : NodePtr × Task}
    (holds : Holds worker (entry :: entries) none) :
    workerDequeue worker = .ok (some entry.1, dequeued worker entry.1) ∧
      Holds (dequeued worker entry.1) entries (some entry.1) := by
  obtain ⟨prev, live⟩ := holds.queued entry List.mem_cons_self
  have head : worker.head = some entry.1 := holds.queue.chain.1
  have link : prevOf worker entry.1 = prev := by
    simp only [prevOf, live, Option.bind_some]
  have once := holds.queue.nodup
  refine ⟨?_, ⟨holds.queue.pop, fun other member => holds.queued other (List.mem_cons_of_mem _ member),
    ?_, ?_⟩⟩
  · simp only [workerDequeue, head, live, dequeued, link]
  · rintro node ⟨⟩
    exact ⟨(holds.allocated _ _ live).1, (List.nodup_cons.mp once).1⟩
  · intro pointer node live'
    obtain ⟨old, place⟩ := holds.allocated pointer node live'
    refine ⟨old, ?_⟩
    rcases place with inside | idle
    · rcases List.mem_cons.mp inside with same | later
      · exact .inr (congrArg some same.symm)
      · exact .inl later
    · cases idle

/-- Freeing the node that has run leaves the nodes of the queue. -/
theorem Holds.free {node : NodePtr} (holds : Holds worker entries (some node)) :
    Holds (free node worker) entries none := by
  have away := (holds.apart node rfl).2
  refine ⟨holds.queue.congr fun other member => ?_, fun entry member => ?_, ?_, ?_⟩
  · have differ : other ≠ node := fun same => away (same ▸ member)
    simp only [prevOf, Trampoline.free, Function.update_of_ne differ]
  · obtain ⟨prev, live⟩ := holds.queued entry member
    have differ : entry.1 ≠ node := fun same => away (same ▸ List.mem_map_of_mem member)
    exact ⟨prev, (Function.update_of_ne differ _ _).trans live⟩
  · rintro _ ⟨⟩
  · intro pointer current live
    by_cases same : pointer = node
    · rw [same] at live
      cases (Function.update_self _ _ _).symm.trans live
    · obtain ⟨old, place⟩ := holds.allocated pointer current
        ((Function.update_of_ne same _ _).symm.trans live)
      rcases place with inside | running
      · exact ⟨old, .inl inside⟩
      · exact (same (Option.some.inj running).symm).elim

end

end Trampoline

end Sas.Rxc
