import Sas.Rxc.Logic

/-! # Running a pipeline

`rxc_pipeline_start` wraps the sink so that the pulls it makes on its inlet are tasks of a
trampoline worker (`pipeline.c`, `trampoline.c`): a pull made while the worker runs another
task is queued and runs after it. The other signals pass the wrapper unchanged.
-/

namespace Sas.Rxc

variable {World Element Failure : Type}

/-- `worker_enqueue`. -/
def workerEnqueue (task : Int) (worker : Worker) : Worker :=
  { worker with queue := worker.queue ++ [task] }

/-- `worker_dequeue`. -/
def workerDequeue (worker : Worker) : Option (Int × Worker) :=
  match worker.queue with
  | [] => none
  | task :: queue => some (task, { worker with queue := queue })

/-- The pipeline after its worker has been assigned. -/
def Started.withWorker (started : Started World) (worker : Worker) : Started World :=
  { started with link := { started.link with worker := worker } }

/-- The loop of `worker_schedule`: run tasks until the queue is empty. Every round takes one
task, so `rounds` bounds the tasks run, the later scheduled ones included. -/
def workerDrain (runnable : Int → Action World) : Nat → Action World
  | 0, _ => .error .diverge
  | rounds + 1, started =>
      match workerDequeue started.link.worker with
      | none => .ok started
      | some (task, worker) =>
          (runnable task (started.withWorker worker)).bind (workerDrain runnable rounds)

/-- `worker_schedule`. -/
def workerSchedule (runnable : Int → Action World) (rounds : Nat) (task : Int) : Action World :=
  fun started =>
    let worker := workerEnqueue task started.link.worker
    if worker.wip then .ok (started.withWorker worker)
    else do
      let started ← workerDrain runnable rounds
        (started.withWorker { worker with wip := true })
      .ok (started.withWorker { started.link.worker with wip := false })

/-- `scheduler_create_worker`. -/
def schedulerCreateWorker : Worker := ⟨[], false⟩

/-- `pipeline_executor`. -/
def pipelineExecutor (source : SourceLogic World) (n : Int) : Action World :=
  connectionInletPull source n

/-- `rxc_inlet_pull` on the inlet of the sink logic: `pipeline_inlet_pull`. -/
def pipelineInletPull (source : SourceLogic World) (rounds : Nat) (n : Int) : Action World :=
  fun started =>
    match started.link.inlet with
    | none => .error .nullPointer
    | some inlet =>
        if inlet.parent then workerSchedule (pipelineExecutor source) rounds n started
        else .ok started

/-- `rxc_inlet_cancel` on the inlet of the sink logic: `pipeline_inlet_cancel`. -/
def pipelineInletCancel (source : SourceLogic World) : Action World := fun started =>
  match started.link.inlet with
  | none => .error .nullPointer
  | some inlet =>
      if inlet.parent then
        connectionInletCancel source
          { started with link := { started.link with inlet := some ⟨false⟩ } }
      else .error .nullPointer

/-- `pipeline_inlet_create`. -/
def pipelineInletCreate : InletScheduler := ⟨true⟩

/-- `pipeline_sink_create_logic`: the logic that forwards every signal to the inner logic, which
gets the scheduling inlet when it is connected. -/
def pipelineSinkLogic (inner : SinkLogic World Element Failure) :
    SinkLogic World Element Failure where
  onConnect started :=
    inner.onConnect { started with link := { started.link with inlet := some pipelineInletCreate } }
  onPush := inner.onPush
  onUpstreamFinish := inner.onUpstreamFinish
  onUpstreamFailure := inner.onUpstreamFailure

/-- The `connect` of a base source, as every source of the repository has it: create the logics
and the connection, and tell the sink. The inlet is made by the wrapper on connection. -/
def sourceConnect (sink : SinkLogic World Element Failure) (world : World) :
    Except Fault (Started World) :=
  sink.onConnect
    { link := ⟨connectionCreate, none, schedulerCreateWorker⟩
      world := world }

/-- `rxc_pipeline_start` with the trampoline scheduler, with its return value. -/
def pipelineStart (sink : SinkLogic World Element Failure) (world : World) :
    Except Fault (Int × Started World) :=
  (sourceConnect (pipelineSinkLogic sink) world).map fun started => (eok, started)

/-- The link a started pipeline has before its first pull. -/
def Link.fresh : Link := ⟨⟨0⟩, some ⟨true⟩, ⟨[], false⟩⟩

/-- Starting a pipeline is connecting its sink to a fresh link. -/
theorem pipelineStart_eq (sink : SinkLogic World Element Failure) (world : World) :
    pipelineStart sink world = (sink.onConnect ⟨Link.fresh, world⟩).map fun started =>
      (eok, started) := rfl

/-- A pull on an idle worker whose task schedules nothing is the task itself: the trampoline is
transparent. -/
theorem pipelineInletPull_idle (source : SourceLogic World) (rounds : Nat) (n : Int)
    (link : Link) (world : World) (target : Started World) (linked : link.inlet = some ⟨true⟩)
    (idle : link.worker = ⟨[], false⟩)
    (task : connectionInletPull source n ⟨{ link with worker := ⟨[], true⟩ }, world⟩ = .ok target)
    (quiet : target.link.worker = ⟨[], true⟩) :
    pipelineInletPull source (rounds + 2) n ⟨link, world⟩ =
      .ok (target.withWorker ⟨[], false⟩) := by
  have drained : workerDrain (pipelineExecutor source) (rounds + 2)
      ⟨{ link with worker := ⟨[n], true⟩ }, world⟩ = .ok target := by
    simp only [workerDrain, workerDequeue, Started.withWorker, pipelineExecutor, task,
      Except.bind, quiet]
  unfold pipelineInletPull workerSchedule
  rw [linked] at drained
  simp only [linked, idle, ↓reduceIte, workerEnqueue, Started.withWorker, List.nil_append,
    Bool.false_eq_true, drained, bind, Except.bind, quiet]

/-- A pull on a closed connection is lost. -/
theorem pipelineInletPull_closed (source : SourceLogic World) (rounds : Nat) (n : Int)
    (link : Link) (world : World) (linked : link.inlet = some ⟨true⟩)
    (idle : link.worker = ⟨[], false⟩) (closed : link.connection.requested = longMin) :
    pipelineInletPull source (rounds + 2) n ⟨link, world⟩ = .ok ⟨link, world⟩ := by
  rw [pipelineInletPull_idle source rounds n link world _ linked idle
    (connectionInletPull_closed source n closed) rfl]
  cases link
  cases idle
  rfl

end Sas.Rxc
