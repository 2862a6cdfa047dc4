import Sas.Rxc.Trampoline
import Sas.Foundation.Fallible

/-! # Trees of tasks

A task that schedules further tasks while it runs, and they in turn, is a tree. The outermost call of
`worker_schedule` for it runs the whole tree breadth first: one task after the other, in the order in
which they have been scheduled.
-/

namespace Sas.Rxc

open Foundation

/-- A task with the tasks it schedules while it runs, in order. -/
inductive TaskTree (Label : Type) where
  | task (label : Label) (tasks : List (TaskTree Label))

namespace TaskTree

variable {Label : Type}

/-- The label of a task. -/
def label : TaskTree Label → Label
  | .task label _ => label

/-- The tasks that a task schedules. -/
def tasks : TaskTree Label → List (TaskTree Label)
  | .task _ tasks => tasks

mutual

/-- The tasks of a tree. -/
def all : TaskTree Label → List (TaskTree Label)
  | .task label tasks => .task label tasks :: allOf tasks

/-- The tasks of some trees. -/
def allOf : List (TaskTree Label) → List (TaskTree Label)
  | [] => []
  | tree :: trees => tree.all ++ allOf trees

end

/-- A tree is its task and then the trees this schedules. -/
theorem all_eq (tree : TaskTree Label) : tree.all = tree :: allOf tree.tasks := by
  cases tree
  rw [all, tasks]

@[simp] theorem allOf_nil : allOf ([] : List (TaskTree Label)) = [] := by
  rw [allOf]

@[simp] theorem allOf_cons (tree : TaskTree Label) (trees : List (TaskTree Label)) :
    allOf (tree :: trees) = tree.all ++ allOf trees := by
  rw [allOf]

@[simp] theorem allOf_append (first second : List (TaskTree Label)) :
    allOf (first ++ second) = allOf first ++ allOf second := by
  induction first with
  | nil => rw [List.nil_append, allOf_nil, List.nil_append]
  | cons tree trees ih => rw [List.cons_append, allOf_cons, ih, allOf_cons, List.append_assoc]

end TaskTree

namespace Trampoline

variable {Label : Type} {Task : Type}

/-- A tree schedules its tasks while it runs. -/
def runTree : Runnable (TaskTree Label) := fun schedule tree worker =>
  tree.tasks.foldlM (fun worker task => schedule task worker) worker

/-- The outermost call of `worker_schedule` returns. -/
def Returns (worker : TrampolineWorker (TaskTree Label)) (tree : TaskTree Label)
    (after : TrampolineWorker (TaskTree Label)) : Prop :=
  ∃ enough, ∀ rounds, enough ≤ rounds → workerSchedule runTree rounds tree worker = .ok after

/-! ## What has happened -/

/-- The tasks that have been scheduled, in order. -/
def schedules (events : List (TaskEvent Task)) : List (NodePtr × Task) :=
  events.filterMap fun event => match event with
    | .scheduled node task => some (node, task)
    | _ => none

/-- The tasks that have been started, in order. -/
def starts (events : List (TaskEvent Task)) : List (NodePtr × Task) :=
  events.filterMap fun event => match event with
    | .started node task => some (node, task)
    | _ => none

@[simp] theorem schedules_append (first second : List (TaskEvent Task)) :
    schedules (first ++ second) = schedules first ++ schedules second := List.filterMap_append

@[simp] theorem starts_append (first second : List (TaskEvent Task)) :
    starts (first ++ second) = starts first ++ starts second := List.filterMap_append

/-- No task starts while another one is running, and the one that runs finishes. -/
def Sequential : Option NodePtr → List (TaskEvent Task) → Prop
  | running, [] => running = none
  | running, .scheduled _ _ :: events => Sequential running events
  | running, .started node _ :: events => running = none ∧ Sequential (some node) events
  | running, .finished node _ :: events => running = some node ∧ Sequential none events

/-- The events of scheduling these tasks at these nodes. -/
def scheduling (entries : List (NodePtr × Task)) : List (TaskEvent Task) :=
  entries.map fun entry => .scheduled entry.1 entry.2

@[simp] theorem schedules_scheduling (entries : List (NodePtr × Task)) :
    schedules (scheduling entries) = entries := by
  induction entries with
  | nil => rfl
  | cons entry entries ih => exact congrArg (entry :: ·) ih

@[simp] theorem starts_scheduling (entries : List (NodePtr × Task)) :
    starts (scheduling entries) = [] := by
  induction entries with
  | nil => rfl
  | cons entry entries ih => exact ih

/-- Scheduling starts no task. -/
theorem sequential_scheduling (running : Option NodePtr) (entries : List (NodePtr × Task))
    (events : List (TaskEvent Task)) :
    Sequential running (scheduling entries ++ events) ↔ Sequential running events := by
  induction entries with
  | nil => exact Iff.rfl
  | cons entry entries ih => exact ih

/-- Tasks with the nodes they get, from `node` on. -/
def numbered : NodePtr → List Task → List (NodePtr × Task)
  | _, [] => []
  | node, task :: tasks => (node, task) :: numbered (node + 1) tasks

/-- Numbering keeps the tasks. -/
theorem map_snd_numbered (node : NodePtr) (tasks : List Task) :
    (numbered node tasks).map Prod.snd = tasks := by
  induction tasks generalizing node with
  | nil => rfl
  | cons task tasks ih => exact congrArg (task :: ·) (ih (node + 1))

/-- The numbers follow one another. -/
theorem map_fst_numbered (node : NodePtr) (tasks : List Task) :
    (numbered node tasks).map Prod.fst = List.range' node tasks.length := by
  induction tasks generalizing node with
  | nil => rfl
  | cons task tasks ih => exact congrArg (node :: ·) (ih (node + 1))

/-! ## A task that runs -/

section

variable {worker : TrampolineWorker (TaskTree Label)}
  {entries : List (NodePtr × TaskTree Label)} {running : Option NodePtr}

/-- What a task leaves that has run: more tasks in the queue. -/
structure Ran (worker : TrampolineWorker (TaskTree Label))
    (entries : List (NodePtr × TaskTree Label)) (running : Option NodePtr)
    (tasks : List (TaskTree Label)) (after : TrampolineWorker (TaskTree Label)) : Prop where
  holds : Holds after (entries ++ numbered worker.fresh tasks) running
  fresh : after.fresh = worker.fresh + tasks.length
  wip : after.wip = true
  events : after.events = worker.events ++ scheduling (numbered worker.fresh tasks)

/-- A call of `worker_schedule` from a task that runs puts a node at the end of the queue. -/
theorem workerSchedule_active (holds : Holds worker entries running) (active : worker.wip = true)
    (tree : TaskTree Label) : ∃ after,
      (∀ rounds, workerSchedule runTree (rounds + 1) tree worker = .ok after) ∧
      Ran worker entries running [tree] after := by
  obtain ⟨after, done, enqueued⟩ :=
    workerEnqueue_spec (holds.note (.scheduled worker.fresh tree)) tree
  have wip : after.wip = true := enqueued.wip.trans active
  refine ⟨after, fun rounds => ?_, enqueued.holds, enqueued.fresh, wip, enqueued.events⟩
  change (workerEnqueue tree (note (.scheduled worker.fresh tree) worker)).bind _ = _
  rw [done]
  exact if_pos wip

/-- A task that runs puts the tasks it schedules at the end of the queue. -/
theorem runTree_spec (holds : Holds worker entries running) (active : worker.wip = true)
    (tasks : List (TaskTree Label)) : ∃ after,
      (∀ rounds, tasks.foldlM (fun worker task => workerSchedule runTree (rounds + 1) task worker)
        worker = .ok after) ∧ Ran worker entries running tasks after := by
  induction tasks generalizing worker entries with
  | nil =>
      refine ⟨worker, fun _ => rfl, ?_, rfl, active, (List.append_nil _).symm⟩
      rw [numbered, List.append_nil]
      exact holds
  | cons tree tasks ih =>
      obtain ⟨middle, first, ran⟩ := workerSchedule_active holds active tree
      obtain ⟨after, rest, ran'⟩ := ih ran.holds ran.wip
      have next : middle.fresh = worker.fresh + 1 := ran.fresh
      refine ⟨after, fun rounds => ?_, ?_, ?_, ran'.wip, ?_⟩
      · rw [List.foldlM_cons, first rounds]
        exact rest rounds
      · have whole := ran'.holds
        rw [next, List.append_assoc] at whole
        exact whole
      · rw [ran'.fresh, next, List.length_cons, Nat.add_assoc, Nat.add_comm 1]
      · rw [ran'.events, ran.events, next, List.append_assoc]
        rfl

/-- The events of a loop that has found these tasks in the queue: it has started them and then what has
been scheduled meanwhile, one after the other, and that is all the tasks of the trees there were. -/
structure InOrder (fresh : NodePtr) (entries : List (NodePtr × TaskTree Label))
    (events : List (TaskEvent (TaskTree Label))) : Prop where
  order : starts events = entries ++ schedules events
  alone : Sequential none events
  nodes : (schedules events).map Prod.fst = List.range' fresh (schedules events).length
  tasks : ((entries ++ schedules events).map Prod.snd).Perm (TaskTree.allOf (entries.map Prod.snd))

/-- A loop that finds no task does nothing. -/
theorem inOrder_nil (fresh : NodePtr) : InOrder fresh ([] : List (NodePtr × TaskTree Label)) [] where
  order := rfl
  alone := rfl
  nodes := rfl
  tasks := by
    rw [List.map_nil, TaskTree.allOf_nil]
    exact List.Perm.refl []

/-- A round of the loop: a task runs, schedules its tasks and finishes, and the rest follows. -/
theorem InOrder.cons {fresh : NodePtr} {entry : NodePtr × TaskTree Label}
    {events : List (TaskEvent (TaskTree Label))}
    (later : InOrder (fresh + entry.2.tasks.length)
      (entries ++ numbered fresh entry.2.tasks) events) :
    InOrder fresh (entry :: entries)
      (.started entry.1 entry.2 :: (scheduling (numbered fresh entry.2.tasks) ++
        .finished entry.1 entry.2 :: events)) := by
  have scheduled : schedules (.started entry.1 entry.2 ::
      (scheduling (numbered fresh entry.2.tasks) ++ .finished entry.1 entry.2 :: events)) =
      numbered fresh entry.2.tasks ++ schedules events := by
    change schedules (scheduling _ ++ _) = _
    rw [schedules_append, schedules_scheduling]
    rfl
  refine ⟨?_, ⟨rfl, ?_⟩, ?_, ?_⟩
  · rw [scheduled]
    change entry :: starts (scheduling _ ++ _) = _
    rw [starts_append, starts_scheduling, List.nil_append]
    change entry :: starts events = _
    rw [later.order, List.append_assoc]
    rfl
  · exact (sequential_scheduling _ _ _).mpr ⟨rfl, later.alone⟩
  · have length : (numbered fresh entry.2.tasks).length = entry.2.tasks.length := by
      rw [← List.length_map Prod.snd, map_snd_numbered]
    rw [scheduled, List.map_append, map_fst_numbered, later.nodes, List.length_append, length]
    exact List.range'_append_1
  · have tasks := later.tasks
    simp only [List.map_append, map_snd_numbered, TaskTree.allOf_append] at tasks
    rw [scheduled]
    simp only [List.map_append, List.map_cons, map_snd_numbered, TaskTree.allOf_cons,
      TaskTree.all_eq, List.cons_append]
    refine List.Perm.cons entry.2 ?_
    rw [← List.append_assoc]
    exact tasks.trans List.perm_append_comm

/-- What the loop of `worker_schedule` leaves. -/
structure Drained (worker : TrampolineWorker (TaskTree Label))
    (entries : List (NodePtr × TaskTree Label)) (after : TrampolineWorker (TaskTree Label)) : Prop where
  holds : Holds after [] none
  events : ∃ events, after.events = worker.events ++ events ∧ InOrder worker.fresh entries events

/-- One round of the loop. -/
theorem workerDrain_cons {entry : NodePtr × TaskTree Label}
    (holds : Holds worker (entry :: entries) none)
    (active : worker.wip = true) : ∃ after,
      (∀ rounds depth, workerDrain (runTree (workerSchedule runTree (depth + 1))) (rounds + 1) worker =
        workerDrain (runTree (workerSchedule runTree (depth + 1))) rounds after) ∧
      Holds after (entries ++ numbered worker.fresh entry.2.tasks) none ∧ after.wip = true ∧
      after.fresh = worker.fresh + entry.2.tasks.length ∧
      after.events = worker.events ++ (.started entry.1 entry.2 ::
        (scheduling (numbered worker.fresh entry.2.tasks) ++ [.finished entry.1 entry.2])) := by
  obtain ⟨prev, live⟩ := holds.queued entry List.mem_cons_self
  obtain ⟨taken, left⟩ := workerDequeue_cons holds
  obtain ⟨after, ran, spec⟩ := @runTree_spec Label (note (.started entry.1 entry.2)
    (dequeued worker entry.1)) entries (some entry.1) (left.note _) active entry.2.tasks
  refine ⟨note (.finished entry.1 entry.2) (free entry.1 after), fun rounds depth => ?_,
    spec.holds.free.note _, spec.wip, spec.fresh, ?_⟩
  · have still : (dequeued worker entry.1).nodes entry.1 = some ⟨entry.2, prev⟩ := live
    change (workerDequeue worker).bind _ = _
    rw [taken]
    simp only [Except.bind, still]
    have done : runTree (workerSchedule runTree (depth + 1)) entry.2
        (note (.started entry.1 entry.2) (dequeued worker entry.1)) = .ok after := ran depth
    change (runTree (workerSchedule runTree (depth + 1)) entry.2
      (note (.started entry.1 entry.2) (dequeued worker entry.1))).bind _ = _
    rw [done]
    rfl
  · change after.events ++ [.finished entry.1 entry.2] = _
    rw [spec.events]
    change worker.events ++ [.started entry.1 entry.2] ++ _ ++ _ = _
    rw [List.append_assoc, List.append_assoc]
    rfl

/-- The loop runs all tasks of the trees in the queue, and ends. The induction is on the number of
tasks: every round takes one task from the queue and puts those it schedules at the end. -/
theorem workerDrain_spec (holds : Holds worker entries none) (active : worker.wip = true) :
    ∃ after, (∀ rounds depth, (TaskTree.allOf (entries.map Prod.snd)).length < rounds →
        workerDrain (runTree (workerSchedule runTree (depth + 1))) rounds worker = .ok after) ∧
      Drained worker entries after := by
  generalize size : (TaskTree.allOf (entries.map Prod.snd)).length = number
  induction number generalizing worker entries with
  | zero =>
      cases entries with
      | nil =>
          refine ⟨worker, fun rounds depth enough => ?_, holds, [], (List.append_nil _).symm,
            inOrder_nil _⟩
          obtain ⟨rounds, rfl⟩ := Nat.exists_eq_succ_of_ne_zero (Nat.ne_of_gt enough)
          change (workerDequeue worker).bind _ = _
          rw [workerDequeue_nil holds]
          rfl
      | cons entry entries =>
          rw [List.map_cons, TaskTree.allOf_cons, TaskTree.all_eq] at size
          cases size
  | succ number ih =>
      cases entries with
      | nil =>
          rw [List.map_nil, TaskTree.allOf_nil] at size
          cases size
      | cons entry entries =>
          obtain ⟨middle, first, holds', active', fresh, events⟩ := workerDrain_cons holds active
          have smaller : (TaskTree.allOf ((entries ++
              numbered worker.fresh entry.2.tasks).map Prod.snd)).length = number := by
            rw [List.map_cons, TaskTree.allOf_cons, TaskTree.all_eq] at size
            rw [List.map_append, map_snd_numbered, TaskTree.allOf_append, List.length_append]
            rw [List.cons_append, List.length_cons, List.length_append] at size
            omega
          obtain ⟨after, rest, drained⟩ := ih holds' active' smaller
          obtain ⟨later, same, order⟩ := drained.events
          rw [fresh] at order
          refine ⟨after, fun rounds depth enough => ?_, drained.holds, _, ?_, order.cons⟩
          · obtain ⟨rounds, rfl⟩ := Nat.exists_eq_succ_of_ne_zero (Nat.ne_of_gt
              (Nat.lt_of_le_of_lt (Nat.zero_le _) enough))
            rw [first rounds depth]
            exact rest rounds depth (Nat.lt_of_succ_lt_succ enough)
          · rw [same, events, List.append_assoc, List.cons_append, List.append_assoc]
            rfl

end

/-! ## The outermost call -/

/-- A worker between two outermost calls. -/
structure Idle (worker : TrampolineWorker (TaskTree Label)) : Prop where
  holds : Holds worker [] none
  wip : worker.wip = false

/-- All tasks of the tree have been scheduled, at nodes of their own, and started in the order in which
they have been scheduled, one after the other; the queue is empty, and the worker at rest without a
node. -/
structure Completed (before : TrampolineWorker (TaskTree Label)) (tree : TaskTree Label)
    (after : TrampolineWorker (TaskTree Label)) : Prop where
  events : ∃ events, after.events = before.events ++ events ∧ starts events = schedules events ∧
    ((schedules events).map Prod.snd).Perm tree.all ∧ ((schedules events).map Prod.fst).Nodup ∧
    Sequential none events
  head : after.head = none
  tail : after.tail = none
  wip : after.wip = false
  nodes : ∀ node, after.nodes node = none

section

variable {worker after : TrampolineWorker (TaskTree Label)}

theorem idle_created : Idle (schedulerCreateWorker : TrampolineWorker (TaskTree Label)) :=
  ⟨holds_created, rfl⟩

/-- A call returns one worker. -/
theorem returns_unique {tree : TaskTree Label} {other : TrampolineWorker (TaskTree Label)}
    (returns : Returns worker tree after) (returns' : Returns worker tree other) : after = other := by
  obtain ⟨enough, done⟩ := returns
  obtain ⟨enough', done'⟩ := returns'
  have first := done (enough + enough') (Nat.le_add_right _ _)
  have second := done' (enough + enough') (Nat.le_add_left _ _)
  exact Except.ok.inj (first.symm.trans second)

/-- An outermost call whose loop has emptied the queue is complete. -/
theorem completed_of_holds (holds : Holds after [] none) (wip : after.wip = false)
    {before : TrampolineWorker (TaskTree Label)} {tree : TaskTree Label}
    {events : List (TaskEvent (TaskTree Label))}
    (happened : after.events = before.events ++ .scheduled before.fresh tree :: events)
    (order : InOrder (before.fresh + 1) [(before.fresh, tree)] events) :
    Completed before tree after := by
  have scheduled : schedules (.scheduled before.fresh tree :: events) =
      (before.fresh, tree) :: schedules events := rfl
  refine ⟨⟨_, happened, ?_, ?_, ?_, ?_⟩, holds.queue.chain, holds.queue.last, wip, fun node => ?_⟩
  · rw [scheduled]
    exact order.order
  · rw [scheduled]
    have tasks := order.tasks
    rw [List.map_singleton, TaskTree.allOf_cons, TaskTree.allOf_nil, List.append_nil] at tasks
    exact tasks
  · rw [scheduled, List.map_cons, order.nodes, ← List.range'_succ]
    exact List.nodup_range'
  · exact order.alone
  · cases live : after.nodes node with
    | none => rfl
    | some current =>
        rcases (holds.allocated node current live).2 with member | running
        · exact (List.not_mem_nil member).elim
        · cases running

/-- An outermost call of an idle worker returns, and leaves it idle. -/
theorem workerSchedule_idle (idle : Idle worker) (tree : TaskTree Label) : ∃ after,
    Returns worker tree after ∧ Idle after ∧ Completed worker tree after := by
  obtain ⟨queued, enqueues, enqueued⟩ :=
    workerEnqueue_spec (idle.holds.note (.scheduled worker.fresh tree)) tree
  have holds : Holds { queued with wip := true } [(worker.fresh, tree)] none :=
    ⟨enqueued.holds.queue, enqueued.holds.queued, enqueued.holds.apart, enqueued.holds.allocated⟩
  have resting : queued.wip = false := enqueued.wip.trans idle.wip
  obtain ⟨drained, loop, spec⟩ := workerDrain_spec holds rfl
  obtain ⟨events, happened, order⟩ := spec.events
  have left : Holds { drained with wip := false } [] none :=
    ⟨spec.holds.queue, spec.holds.queued, spec.holds.apart, spec.holds.allocated⟩
  have recorded : drained.events =
      worker.events ++ .scheduled worker.fresh tree :: events := by
    rw [happened]
    change queued.events ++ events = _
    rw [enqueued.events]
    exact List.append_assoc _ _ _
  have fresh : queued.fresh = worker.fresh + 1 := enqueued.fresh
  change InOrder queued.fresh _ _ at order
  rw [fresh] at order
  refine ⟨{ drained with wip := false }, ⟨tree.all.length + 2, fun rounds enough => ?_⟩, ⟨left, rfl⟩,
    completed_of_holds left rfl recorded order⟩
  obtain ⟨depth, rfl⟩ : ∃ depth, rounds = depth + 2 := ⟨rounds - 2, by omega⟩
  have all : TaskTree.allOf ([(worker.fresh, tree)].map Prod.snd) = tree.all := by
    rw [List.map_singleton, TaskTree.allOf_cons, TaskTree.allOf_nil, List.append_nil]
  have rest := loop (depth + 1) depth (by rw [all]; omega)
  change (workerEnqueue tree (note (.scheduled worker.fresh tree) worker)).bind _ = _
  rw [enqueues]
  have run : (workerDrain (runTree (workerSchedule runTree (depth + 1))) (depth + 1)
      { queued with wip := true }).bind (fun self => .ok { self with wip := false }) =
      (.ok { drained with wip := false } : Except Fault _) := by
    rw [rest]
    rfl
  exact (if_neg (by rw [resting]; exact Bool.false_ne_true)).trans run

/-- **The trampoline is fair.** Every outermost call of a worker, after any calls before it, returns when
all tasks of its tree have been run once, in the order in which they have been scheduled, and never one
inside another. -/
theorem worker_completes {trees : List (TaskTree Label)}
    (reached : Run Returns schedulerCreateWorker trees worker) (tree : TaskTree Label) :
    ∃ after, Returns worker tree after ∧ Completed worker tree after := by
  have idle : Idle worker := by
    refine reached.invariant Idle idle_created fun before tree after idle returns => ?_
    obtain ⟨after', returns', idle', _⟩ := workerSchedule_idle idle tree
    rw [returns_unique returns returns']
    exact idle'
  obtain ⟨after, returns, _, completed⟩ := workerSchedule_idle idle tree
  exact ⟨after, returns, completed⟩

end

/-- A new worker runs a task that schedules two, of which the first schedules one more. -/
theorem worker_completes_created : ∃ after : TrampolineWorker (TaskTree Nat),
    Returns schedulerCreateWorker (.task 0 [.task 1 [.task 3 []], .task 2 []]) after ∧
      Completed schedulerCreateWorker (.task 0 [.task 1 [.task 3 []], .task 2 []]) after :=
  worker_completes .nil _

example : ((workerSchedule runTree 7 (.task 0 [.task 1 [.task 3 []], .task 2 []])
    schedulerCreateWorker).toOption.map fun worker =>
      (starts worker.events).map fun entry => entry.2.label) = some [0, 1, 2, 3] := by decide

end Trampoline

end Sas.Rxc
