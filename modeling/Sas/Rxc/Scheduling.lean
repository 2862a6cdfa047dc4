import Sas.Rxc.PipelineRun
import Sas.Rxc.Trampoline

/-! # The worker of a pipeline

A pipeline keeps its worker as a list of tasks. In this file the calls a pipeline makes on that list
are made on the worker of `trampoline.c` with its nodes and pointers: every call gets the same answer,
and none follows a null pointer or one to a freed node.
-/

namespace Sas.Rxc

open Foundation

/-- What a pipeline asks of its worker, with the answer. -/
inductive WorkerCall where
  /-- `worker_schedule` up to its loop, and whether it enters the loop. -/
  | schedule (task : Int) (loops : Bool)
  /-- The loop looks for the next task, and there is none at its end. -/
  | round (task : Option Int)

/-! ## The list -/

/-- A call on the worker as a list. -/
inductive ListedStep : Worker → WorkerCall → Worker → Prop where
  | schedule {worker : Worker} {task : Int} :
      ListedStep worker (.schedule task !worker.wip) { workerEnqueue task worker with wip := true }
  | task {worker after : Worker} {task : Int} : workerDequeue worker = some (task, after) →
      ListedStep worker (.round (some task)) after
  | idle {worker : Worker} : workerDequeue worker = none →
      ListedStep worker (.round none) { worker with wip := false }

section

variable {Element Failure : Type} {usage next : PipelineUsage Element Failure}

/-- An operation on the connection leaves the worker alone. -/
theorem PipelineUsage.performs_worker {operation : Operation Element Failure}
    (performed : usage.performs operation = .ok next) : next.link.worker = usage.link.worker := by
  rw [PipelineUsage.performs_eq] at performed
  cases responds : response operation usage.requested with
  | none =>
      rw [responds] at performed
      cases performed
      rfl
  | some answer =>
      rw [responds] at performed
      cases performed
      rfl

/-- A pull makes one call on the worker, unless the sink has cancelled. -/
theorem pipelineInletEnter_calls {n : Int} {link after : Link} {loops : Bool}
    (entered : pipelineInletEnter n link = .ok (loops, after)) :
    ∃ calls, Run ListedStep link.worker calls after.worker := by
  unfold pipelineInletEnter at entered
  split at entered
  case h_1 => cases entered
  case h_2 inlet _ =>
      split at entered
      case isFalse =>
        cases entered
        exact ⟨[], .nil⟩
      case isTrue =>
        refine ⟨[.schedule n !link.worker.wip], Run.singleton ?_⟩
        obtain ⟨connection, inlet, queue, wip⟩ := link
        cases wip with
        | true =>
            cases entered
            exact .schedule
        | false =>
            cases entered
            exact .schedule

/-- What an event of the pipeline does to the worker, it does by calls on it. -/
theorem PipelineStep.calls {event : PipelineEvent Element Failure}
    {result : Except Fault (PipelineUsage Element Failure)} (step : PipelineStep usage event result)
    (ends : result = .ok next) :
    ∃ calls, Run ListedStep usage.link.worker calls next.link.worker := by
  have silent {operation : Operation Element Failure}
      (performed : usage.performs operation = .ok next) :
      ∃ calls, Run ListedStep usage.link.worker calls next.link.worker :=
    ⟨[], PipelineUsage.performs_worker performed ▸ .nil⟩
  cases step with
  | @pull n =>
      cases entered : pipelineInletEnter n usage.link with
      | error fault =>
          rw [entered] at ends
          cases ends
      | ok answer =>
          rw [entered] at ends
          cases ends
          exact pipelineInletEnter_calls entered
  | cancel =>
      by_cases inlet : usage.link.inlet = some ⟨true⟩
      · rw [PipelineUsage.cancel_eq inlet] at ends
        have same := PipelineUsage.performs_worker ends
        refine ⟨[], ?_⟩
        rw [same]
        exact .nil
      · rw [pipelineInletCancel_null _ inlet] at ends
        cases ends
  | emit => exact silent ends
  | complete => exact silent ends
  | fail => exact silent ends
  | @task frames n worker _ dequeued =>
      have same := PipelineUsage.performs_worker ends
      refine ⟨[.round (some n)], ?_⟩
      rw [same]
      exact Run.singleton (.task dequeued)
  | idle _ dequeued =>
      cases ends
      exact ⟨[_], Run.singleton (.idle dequeued)⟩
  | returned =>
      cases ends
      exact ⟨[], .nil⟩

end

/-! ## The nodes -/

namespace Trampoline

variable {Task : Type}

/-- `worker_schedule` up to its loop, and whether it enters the loop. -/
def workerEnter (task : Task) (self : TrampolineWorker Task) :
    Except Fault (Bool × TrampolineWorker Task) :=
  (workerEnqueue task self).map fun self => (!self.wip, { self with wip := true })

/-- The test of the loop of `worker_schedule`, with the task of the node it finds. -/
def workerNext (self : TrampolineWorker Task) :
    Except Fault (Option (NodePtr × Task) × TrampolineWorker Task) := do
  match ← workerDequeue self with
  | (none, self) => .ok (none, self)
  | (some node, self) =>
      match self.nodes node with
      | none => .error (.useAfterFree node)
      | some current => .ok (some (node, current.task), self)

/-- What the loop does with the node it has found. -/
def workerBody (run : Task → TrampolineWorker Task → Except Fault (TrampolineWorker Task))
    (rounds : Nat) : Option (NodePtr × Task) × TrampolineWorker Task →
      Except Fault (TrampolineWorker Task)
  | (none, self) => .ok self
  | (some (node, task), self) => do
      let self ← run task (note (.started node task) self)
      workerDrain run rounds (note (.finished node task) (free node self))

/-- `worker_schedule` is entering the loop and running it to its end. -/
theorem workerSchedule_eq_enter (runnable : Runnable Task) (rounds : Nat) (task : Task)
    (self : TrampolineWorker Task) :
    workerSchedule runnable (rounds + 1) task self =
      (workerEnter task (note (.scheduled self.fresh task) self)).bind fun (loops, self) =>
        if loops then
          (workerDrain (runnable (workerSchedule runnable rounds)) rounds self).map fun self =>
            { self with wip := false }
        else .ok self := by
  unfold workerEnter
  change (workerEnqueue task (note (.scheduled self.fresh task) self)).bind _ = _
  cases enqueued : workerEnqueue task (note (.scheduled self.fresh task) self) with
  | error fault => rfl
  | ok self =>
      obtain ⟨head, tail, wip, nodes, fresh, events⟩ := self
      cases wip with
      | true => rfl
      | false =>
          change (workerDrain _ _ _).bind _ = Except.map _ (workerDrain _ _ _)
          cases workerDrain (runnable (workerSchedule runnable rounds)) rounds
              (⟨head, tail, true, nodes, fresh, events⟩ : TrampolineWorker Task) with
          | error fault => rfl
          | ok self => rfl

/-- A round of the loop is its test and its body. -/
theorem workerDrain_eq_next
    (run : Task → TrampolineWorker Task → Except Fault (TrampolineWorker Task)) (rounds : Nat)
    (self : TrampolineWorker Task) :
    workerDrain run (rounds + 1) self = (workerNext self).bind (workerBody run rounds) := by
  unfold workerDrain workerNext
  cases workerDequeue self with
  | error fault => rfl
  | ok taken =>
      obtain ⟨node, self⟩ := taken
      cases node with
      | none => rfl
      | some node =>
          simp only [bind, Except.bind]
          cases self.nodes node with
          | none => rfl
          | some current => rfl

/-- A worker with the node that the loop has taken last. -/
structure Loop where
  worker : TrampolineWorker Int
  running : Option NodePtr

/-- A worker that has just been made. -/
def Loop.created : Loop := ⟨schedulerCreateWorker, none⟩

/-- The worker when its loop looks for the next node: the last one has been freed. -/
def Loop.freed (loop : Loop) : TrampolineWorker Int :=
  match loop.running with
  | none => loop.worker
  | some node => free node loop.worker

/-- A call on the worker of `trampoline.c`. -/
inductive LinkedStep : Loop → WorkerCall → Loop → Prop where
  | schedule {loop : Loop} {task : Int} {loops : Bool} {worker : TrampolineWorker Int} :
      workerEnter task loop.worker = .ok (loops, worker) →
      LinkedStep loop (.schedule task loops) ⟨worker, loop.running⟩
  | task {loop : Loop} {node : NodePtr} {task : Int} {worker : TrampolineWorker Int} :
      workerNext loop.freed = .ok (some (node, task), worker) →
      LinkedStep loop (.round (some task)) ⟨worker, some node⟩
  | idle {loop : Loop} {worker : TrampolineWorker Int} :
      workerNext loop.freed = .ok (none, worker) →
      LinkedStep loop (.round none) ⟨{ worker with wip := false }, none⟩

/-! ## The refinement -/

/-- The queue of a worker with this node running is the list that the pipeline keeps of it. -/
def Represents (worker : TrampolineWorker Int) (running : Option NodePtr) (listed : Worker) : Prop :=
  (∃ entries, Holds worker entries running ∧ entries.map Prod.snd = listed.queue) ∧
    worker.wip = listed.wip

/-- The two workers start out empty. -/
theorem represents_created : Represents schedulerCreateWorker none Rxc.schedulerCreateWorker :=
  ⟨⟨[], holds_created, rfl⟩, rfl⟩

section

variable {worker : TrampolineWorker Int} {listed : Worker} {running : Option NodePtr} {loop : Loop}

/-- The flag `wip` is no part of the queue. -/
theorem Holds.withWip {entries : List (NodePtr × Int)} (holds : Holds worker entries running)
    (wip : Bool) : Holds { worker with wip := wip } entries running :=
  ⟨holds.queue, holds.queued, holds.apart, holds.allocated⟩

/-- Enqueuing is appending to the list. -/
theorem represents_enter (represents : Represents worker running listed) (task : Int) : ∃ after,
    workerEnter task worker = .ok (!listed.wip, after) ∧
      Represents after running { Rxc.workerEnqueue task listed with wip := true } := by
  obtain ⟨⟨entries, holds, same⟩, wip⟩ := represents
  obtain ⟨after, done, enqueued⟩ := workerEnqueue_spec holds task
  refine ⟨{ after with wip := true }, ?_, ⟨_, enqueued.holds.withWip true, ?_⟩, rfl⟩
  · unfold workerEnter
    rw [done, ← wip, ← enqueued.wip]
    rfl
  · rw [List.map_append, same]
    rfl

/-- The loop finds nothing where the list is empty. -/
theorem represents_idle (represents : Represents worker none listed)
    (empty : Rxc.workerDequeue listed = none) : workerNext worker = .ok (none, worker) := by
  obtain ⟨⟨entries, holds, same⟩, _⟩ := represents
  cases queue : listed.queue with
  | nil =>
      rw [queue] at same
      rw [List.map_eq_nil_iff.mp same] at holds
      unfold workerNext
      rw [workerDequeue_nil holds]
      rfl
  | cons task rest =>
      simp only [Rxc.workerDequeue, queue, reduceCtorEq] at empty

/-- The loop takes the node of the first task of the list. -/
theorem represents_task {task : Int} {left : Worker} (represents : Represents worker none listed)
    (first : Rxc.workerDequeue listed = some (task, left)) : ∃ node after,
      workerNext worker = .ok (some (node, task), after) ∧ Represents after (some node) left := by
  obtain ⟨⟨entries, holds, same⟩, wip⟩ := represents
  cases entries with
  | nil =>
      have empty : listed.queue = [] := same.symm
      simp only [Rxc.workerDequeue, empty, reduceCtorEq] at first
  | cons entry entries =>
      have queue : listed.queue = entry.2 :: entries.map Prod.snd := same.symm
      simp only [Rxc.workerDequeue, queue, Option.some.injEq, Prod.mk.injEq] at first
      obtain ⟨rfl, rfl⟩ := first
      obtain ⟨done, left⟩ := workerDequeue_cons holds
      obtain ⟨prev, live⟩ := holds.queued entry List.mem_cons_self
      have still : (dequeued worker entry.1).nodes entry.1 = some ⟨entry.2, prev⟩ := live
      refine ⟨entry.1, _, ?_, ⟨entries, left, rfl⟩, wip⟩
      simp only [workerNext, done, bind, Except.bind, still]

/-- Freeing the node that has run leaves the list. -/
theorem represents_freed (represents : Represents loop.worker loop.running listed) :
    Represents loop.freed none listed := by
  obtain ⟨⟨entries, holds, same⟩, wip⟩ := represents
  obtain ⟨worker, running⟩ := loop
  cases running with
  | none => exact ⟨⟨entries, holds, same⟩, wip⟩
  | some node => exact ⟨⟨entries, holds.free, same⟩, wip⟩

/-- A call that the list answers gets the same answer from the nodes. -/
theorem linkedStep_of_listedStep {call : WorkerCall} {after : Worker}
    (represents : Represents loop.worker loop.running listed)
    (step : ListedStep listed call after) : ∃ loop',
      LinkedStep loop call loop' ∧ Represents loop'.worker loop'.running after := by
  cases step with
  | schedule =>
      obtain ⟨worker, entered, represents'⟩ := represents_enter represents _
      exact ⟨_, .schedule entered, represents'⟩
  | task first =>
      obtain ⟨node, worker, taken, represents'⟩ :=
        represents_task (represents_freed represents) first
      exact ⟨_, .task taken, represents'⟩
  | idle empty =>
      obtain ⟨⟨entries, holds, same⟩, _⟩ := represents_freed represents
      have found := represents_idle (represents_freed represents) empty
      exact ⟨_, .idle found, ⟨entries, holds.withWip false, same⟩, rfl⟩

/-- The calls that a list has answered get the same answers from the nodes. -/
theorem linked_of_listed {calls : List WorkerCall}
    (run : Run ListedStep Rxc.schedulerCreateWorker calls listed) : ∃ loop,
      Run LinkedStep Loop.created calls loop ∧ Represents loop.worker loop.running listed := by
  induction run with
  | nil => exact ⟨_, .nil, represents_created⟩
  | snoc _ last ih =>
      obtain ⟨loop, earlier, represents⟩ := ih
      obtain ⟨loop', step, represents'⟩ := linkedStep_of_listedStep represents last
      exact ⟨loop', earlier.snoc step, represents'⟩

end

/-- **A pipeline runs on the worker of `trampoline.c`.** Whatever the user code of a started pipeline
calls, the calls the pipeline makes on its worker get the same answers from the queue of nodes, which
holds the tasks of the list in order. -/
theorem pipeline_linked {Element Failure : Type} {events : List (PipelineEvent Element Failure)}
    {usage : PipelineUsage Element Failure}
    (run : Run PipelineRuns (.ok PipelineUsage.started) events (.ok usage)) : ∃ calls loop,
      Run ListedStep Rxc.schedulerCreateWorker calls usage.link.worker ∧
      Run LinkedStep Loop.created calls loop ∧
      Represents loop.worker loop.running usage.link.worker := by
  have listed : ∀ usage', (.ok usage : Except Fault _) = .ok usage' →
      ∃ calls, Run ListedStep Rxc.schedulerCreateWorker calls usage'.link.worker := by
    refine run.invariant (fun state => ∀ usage', state = .ok usage' →
      ∃ calls, Run ListedStep Rxc.schedulerCreateWorker calls usage'.link.worker) ?_ ?_
    · rintro _ ⟨⟩
      exact ⟨[], .nil⟩
    · rintro _ event next holds ⟨before, rfl, step⟩ usage' ends
      obtain ⟨calls, earlier⟩ := holds before rfl
      obtain ⟨calls', later⟩ := step.calls ends
      exact ⟨_, earlier.append later⟩
  obtain ⟨calls, made⟩ := listed usage rfl
  obtain ⟨loop, linked, represents⟩ := linked_of_listed made
  exact ⟨calls, loop, made, linked, represents⟩

end Trampoline

end Sas.Rxc
