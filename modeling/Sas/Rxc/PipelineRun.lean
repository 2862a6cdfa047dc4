import Sas.Rxc.Pipeline
import Sas.Rxc.Reentrancy

/-! # A started pipeline under re-entrant user code

The sink of a started pipeline has the scheduling inlet of `pipeline.c` in front of the connection.
It defers pulls to the worker and passes cancellations on at once, giving up the connection. The
machine of this file has one step for every call the sink makes on this inlet and the source on its
outlet, for every round of the loop of the worker, and for every callback that returns.
-/

namespace Sas.Rxc

open Foundation

variable {World Element Failure : Type}

/-- What happens in a pipeline that has been started. -/
inductive PipelineEvent (Element Failure : Type) where
  /-- The sink calls `rxc_inlet_pull`. -/
  | pull (n : Int)
  /-- The sink calls `rxc_inlet_cancel`. -/
  | cancel
  /-- The source calls `rxc_outlet_emit`. -/
  | emit (element : Element)
  /-- The source calls `rxc_outlet_complete`. -/
  | complete
  /-- The source calls `rxc_outlet_fail`. -/
  | fail (failure : Failure)
  /-- The loop of `worker_schedule` looks for the next task. -/
  | round
  /-- The innermost callback returns. -/
  | returned
  deriving DecidableEq, Repr

/-- What has been called and has not returned. -/
inductive Frame (Element Failure : Type) where
  | callback (signal : Signal Element Failure)
  /-- The loop of `worker_schedule`. -/
  | worker
  deriving DecidableEq, Repr

/-- A pipeline in use: its link, the signals its connection has delivered, and the calls that have not
returned, innermost first. -/
structure PipelineUsage (Element Failure : Type) where
  link : Link
  signals : List (Signal Element Failure)
  frames : List (Frame Element Failure)

/-- A pipeline that has just been started. -/
def PipelineUsage.started : PipelineUsage Element Failure := ⟨Link.fresh, [], []⟩

/-- `conn->requested`. -/
def PipelineUsage.requested (usage : PipelineUsage Element Failure) : Int :=
  usage.link.connection.requested

/-- `pipeline_inlet_pull` up to the loop of `worker_schedule`, and whether it enters this loop. -/
def pipelineInletEnter (n : Int) (link : Link) : Except Fault (Bool × Link) :=
  match link.inlet with
  | none => .error .nullPointer
  | some inlet =>
      if inlet.parent then
        let worker := workerEnqueue n link.worker
        if worker.wip then .ok (false, { link with worker := worker })
        else .ok (true, { link with worker := { worker with wip := true } })
      else .ok (false, link)

/-- `pipeline_inlet_pull` is entering the loop and running it to its end. -/
theorem pipelineInletPull_eq_enter (source : SourceLogic World) (rounds : Nat) (n : Int)
    (started : Started World) :
    pipelineInletPull source rounds n started =
      (pipelineInletEnter n started.link).bind fun (loops, link) =>
        if loops then
          (workerDrain (pipelineExecutor source) rounds { started with link := link }).map
            fun started => started.withWorker { started.link.worker with wip := false }
        else .ok { started with link := link } := by
  obtain ⟨⟨connection, inlet, worker⟩, world⟩ := started
  cases inlet with
  | none => rfl
  | some inlet =>
      obtain ⟨parent⟩ := inlet
      obtain ⟨queue, wip⟩ := worker
      cases parent with
      | false => rfl
      | true =>
          cases wip with
          | true => rfl
          | false =>
              change (workerDrain _ _ _).bind _ = Except.map _ (workerDrain _ _ _)
              cases workerDrain (pipelineExecutor source) rounds
                ⟨⟨connection, some ⟨true⟩, ⟨queue ++ [n], true⟩⟩, world⟩ with
              | error fault => rfl
              | ok started => rfl

/-! ## The machine -/

/-- A pipeline whose link has been used for a call that delivers these signals. -/
def PipelineUsage.after (usage : PipelineUsage Element Failure)
    (started : Started (List (Signal Element Failure))) : PipelineUsage Element Failure :=
  ⟨started.link, usage.signals ++ started.world,
    started.world.map Frame.callback ++ usage.frames⟩

/-- The pipeline after an operation on its connection. -/
def PipelineUsage.performs (usage : PipelineUsage Element Failure)
    (operation : Operation Element Failure) : Except Fault (PipelineUsage Element Failure) :=
  (operate record operation ⟨usage.link, []⟩).map fun answer => usage.after answer.2

/-- One event in a pipeline, with the pipeline after it or the fault it ends in. -/
inductive PipelineStep : PipelineUsage Element Failure → PipelineEvent Element Failure →
    Except Fault (PipelineUsage Element Failure) → Prop where
  | pull {usage : PipelineUsage Element Failure} {n : Int} :
      PipelineStep usage (.pull n)
        ((pipelineInletEnter n usage.link).map fun (loops, link) =>
          ⟨link, usage.signals, if loops then .worker :: usage.frames else usage.frames⟩)
  | cancel {usage : PipelineUsage Element Failure} :
      PipelineStep usage .cancel
        ((pipelineInletCancel (sourceLogicOf record) ⟨usage.link, []⟩).map usage.after)
  | emit {usage : PipelineUsage Element Failure} {element : Element} :
      PipelineStep usage (.emit element) (usage.performs (.emit element))
  | complete {usage : PipelineUsage Element Failure} :
      PipelineStep usage .complete (usage.performs .complete)
  | fail {usage : PipelineUsage Element Failure} {failure : Failure} :
      PipelineStep usage (.fail failure) (usage.performs (.fail failure))
  /-- `pipeline_executor` pulls from the connection. -/
  | task {usage : PipelineUsage Element Failure} {frames : List (Frame Element Failure)} {n : Int}
      {worker : Worker} : usage.frames = .worker :: frames →
      workerDequeue usage.link.worker = some (n, worker) →
      PipelineStep usage .round
        (PipelineUsage.performs { usage with link := { usage.link with worker := worker } } (.pull n))
  /-- The loop ends. -/
  | idle {usage : PipelineUsage Element Failure} {frames : List (Frame Element Failure)} :
      usage.frames = .worker :: frames → workerDequeue usage.link.worker = none →
      PipelineStep usage .round
        (.ok ⟨{ usage.link with worker := { usage.link.worker with wip := false } }, usage.signals,
          frames⟩)
  | returned {usage : PipelineUsage Element Failure} {frames : List (Frame Element Failure)}
      {signal : Signal Element Failure} : usage.frames = .callback signal :: frames →
      PipelineStep usage .returned (.ok { usage with frames := frames })

/-- An event in a pipeline that has not ended in a fault. -/
def PipelineRuns (state : Except Fault (PipelineUsage Element Failure))
    (event : PipelineEvent Element Failure) (next : Except Fault (PipelineUsage Element Failure)) :
    Prop :=
  ∃ usage, state = .ok usage ∧ PipelineStep usage event next

/-- `self->parent = parent` on the inlet of the sink. -/
def PipelineUsage.withInlet (usage : PipelineUsage Element Failure) (inlet : InletScheduler) :
    PipelineUsage Element Failure :=
  { usage with link := { usage.link with inlet := some inlet } }

/-! ## Callbacks that call back

The calls as the library performs them, with callbacks that are themselves programs over these calls.
Their nested executions, and those that end in a null pointer, are runs of the machine.
-/

/-- Perform a call of the sink on its inlet or of the source on its outlet, where the callbacks run the
code of the user. The stack holds this many calls, and the loop of the worker makes no more rounds. -/
def performCall (user : Signal Element Failure → World → Program World Element Failure) :
    Nat → Operation Element Failure → Started World → Except Fault (Int × Started World)
  | 0, _, _ => .error .diverge
  | depth + 1, operation, started =>
      let handle := fun signal started =>
        (user signal started.world).run (performCall user depth) started.link
      match operation with
      | .pull n => (pipelineInletPull (sourceLogicOf handle) depth n started).map fun started =>
          (eok, started)
      | .cancel => (pipelineInletCancel (sourceLogicOf handle) started).map fun started =>
          (eok, started)
      | operation => operate handle operation started

/-- The machine can go from one state to what a call of the library ends with. -/
def Reaches (usage : PipelineUsage Element Failure) (frames : List (Frame Element Failure)) :
    Except Fault Link → Prop
  | .ok link => ∃ events later, Run PipelineRuns (.ok usage) events
      (.ok ⟨link, usage.signals ++ later, frames⟩)
  | .error fault => fault = .nullPointer → ∃ events,
      Run PipelineRuns (.ok usage) events (.error .nullPointer)

/-- The nested execution leads the machine from a link to its result, and all its calls have
returned. -/
def Leads (Element Failure : Type) (link : Link) (result : Except Fault Link) : Prop :=
  ∀ (signals : List (Signal Element Failure)) (frames : List (Frame Element Failure)),
    Reaches ⟨link, signals, frames⟩ frames result

section

variable {usage middle : PipelineUsage Element Failure} {frames : List (Frame Element Failure)}
  {result : Except Fault Link} {events : List (PipelineEvent Element Failure)}
  {later : List (Signal Element Failure)}

/-- What is reached after some events is reached before them. -/
theorem Reaches.after (reaches : Reaches middle frames result)
    (run : Run PipelineRuns (.ok usage) events (.ok middle))
    (signals : middle.signals = usage.signals ++ later) : Reaches usage frames result := by
  cases result with
  | ok link =>
      obtain ⟨events', later', run'⟩ := reaches
      rw [signals, List.append_assoc] at run'
      exact ⟨_, _, run.append run'⟩
  | error fault =>
      intro null
      obtain ⟨events', run'⟩ := reaches null
      exact ⟨_, run.append run'⟩

/-- Two executions one after the other. -/
theorem Reaches.bind {frames' : List (Frame Element Failure)} {first : Except Fault (Started World)}
    {next : Started World → Except Fault Link}
    (reaches : Reaches usage frames (first.map Started.link))
    (rest : ∀ started signals, Reaches ⟨started.link, signals, frames⟩ frames' (next started)) :
    Reaches usage frames' (first.bind next) := by
  cases first with
  | error fault => exact reaches
  | ok started =>
      obtain ⟨events, later, run⟩ := reaches
      exact (rest started _).after run rfl

/-- A callback that has been run to its end returns. -/
theorem Reaches.return {signal : Signal Element Failure}
    (reaches : Reaches usage (.callback signal :: frames) result) : Reaches usage frames result := by
  cases result with
  | ok link =>
      obtain ⟨events, later, run⟩ := reaches
      exact ⟨_, later, run.snoc ⟨_, rfl, PipelineStep.returned rfl⟩⟩
  | error fault => exact reaches

end

section

variable {user : Signal Element Failure → World → Program World Element Failure}

/-- User code leads where every call does. -/
theorem Program.run_leads {performed : Operation Element Failure → Started World →
      Except Fault (Int × Started World)}
    (leads : ∀ operation started, Leads Element Failure started.link
      ((performed operation started).map fun answer => answer.2.link))
    (program : Program World Element Failure) (link : Link) :
    Leads Element Failure link ((program.run performed link).map Started.link) := by
  induction program generalizing link with
  | done world =>
      intro signals frames
      exact ⟨[], [], by rw [List.append_nil]; exact .nil⟩
  | operate world operation next ih =>
      intro signals frames
      have first := leads operation ⟨link, world⟩ signals frames
      unfold Program.run
      cases answered : performed operation ⟨link, world⟩ with
      | error fault =>
          rw [answered] at first
          exact first
      | ok answer =>
          obtain ⟨result, started⟩ := answer
          rw [answered] at first
          obtain ⟨events, later, run⟩ := first
          exact (ih result started.world started.link _ frames).after run rfl

end

section

variable {usage : PipelineUsage Element Failure}

/-- An operation on the connection delivers its signal. -/
theorem PipelineUsage.performs_eq (operation : Operation Element Failure) :
    usage.performs operation = .ok (
      match response operation usage.requested with
      | none => usage
      | some (signal, requested) =>
          ⟨usage.link.withRequested requested, usage.signals ++ [signal],
            .callback signal :: usage.frames⟩) := by
  unfold PipelineUsage.performs
  rw [operate_eq]
  change Except.map _ (match response operation usage.requested with
    | none => _
    | some (signal, requested) => _) = _
  cases response operation usage.requested with
  | none =>
      change Except.ok (usage.after ⟨usage.link, []⟩) = _
      unfold PipelineUsage.after
      rw [List.append_nil]
      rfl
  | some answer => rfl

/-- An inlet that has given up its connection, or that is not there, cannot be cancelled. -/
theorem pipelineInletCancel_null (source : SourceLogic World) {started : Started World}
    (absent : started.link.inlet ≠ some ⟨true⟩) :
    pipelineInletCancel source started = .error .nullPointer := by
  obtain ⟨⟨connection, inlet, worker⟩, world⟩ := started
  cases inlet with
  | none => rfl
  | some inlet =>
      obtain ⟨parent⟩ := inlet
      cases parent with
      | false => rfl
      | true => exact (absent rfl).elim

/-- The first cancellation gives up the connection and is an operation on it. -/
theorem PipelineUsage.cancel_eq (inlet : usage.link.inlet = some ⟨true⟩) :
    (pipelineInletCancel (sourceLogicOf record) ⟨usage.link, []⟩).map usage.after =
      (usage.withInlet ⟨false⟩).performs .cancel := by
  unfold pipelineInletCancel
  rw [inlet]
  change Except.map usage.after (connectionInletCancel (sourceLogicOf record)
      ⟨(usage.withInlet ⟨false⟩).link, []⟩) =
    Except.map _ (Except.map _ (connectionInletCancel (sourceLogicOf record)
      ⟨(usage.withInlet ⟨false⟩).link, []⟩))
  cases connectionInletCancel (sourceLogicOf record)
    (⟨(usage.withInlet ⟨false⟩).link, []⟩ : Started (List (Signal Element Failure))) with
  | error fault => rfl
  | ok started => rfl

end

section

variable {handle : Signal Element Failure → Action World}

/-- The link is the same with the value a call returns. -/
theorem link_of_answer (result : Except Fault (Started World)) :
    ((result.map fun started => (eok, started)).map fun answer => answer.2.link) =
      result.map Started.link := by
  cases result with
  | error fault => rfl
  | ok started => rfl

/-- Mapping the result of two computations is mapping the result of the second one. -/
theorem map_bind {α β γ : Type} (first : Except Fault α) (next : α → Except Fault β) (f : β → γ) :
    (first.bind next).map f = first.bind fun value => (next value).map f := by
  cases first with
  | error fault => rfl
  | ok value => rfl

/-- An operation on the connection, with the callback it leads to. -/
theorem operate_reaches
    (handles : ∀ signal started, Leads Element Failure started.link
      ((handle signal started).map Started.link))
    {usage : PipelineUsage Element Failure} {event : PipelineEvent Element Failure} {link : Link}
    {operation : Operation Element Failure}
    (step : PipelineStep usage event (PipelineUsage.performs { usage with link := link } operation))
    (world : World) :
    Reaches usage usage.frames
      ((operate handle operation ⟨link, world⟩).map fun answer => answer.2.link) := by
  rw [PipelineUsage.performs_eq] at step
  rw [operate_eq]
  change PipelineStep usage event (.ok (match response operation link.connection.requested with
    | none => _
    | some (signal, requested) => _)) at step
  change Reaches usage usage.frames (Except.map _
    (match response operation link.connection.requested with
    | none => _
    | some (signal, requested) => _))
  cases responds : response operation link.connection.requested with
  | none =>
      rw [responds] at step
      refine ⟨[event], [], ?_⟩
      rw [List.append_nil]
      exact Run.singleton ⟨usage, rfl, step⟩
  | some answer =>
      obtain ⟨signal, requested⟩ := answer
      rw [responds] at step
      have called := handles signal ((⟨link, world⟩ : Started World).withRequested requested)
        (usage.signals ++ [signal]) (.callback signal :: usage.frames)
      have reached := called.after (Run.singleton ⟨usage, rfl, step⟩) rfl
      have returned := reached.return
      rw [← link_of_answer] at returned
      exact returned

/-- The loop of the worker, from any of its rounds to its end. -/
theorem drain_reaches
    (handles : ∀ signal started, Leads Element Failure started.link
      ((handle signal started).map Started.link))
    (rounds : Nat) (started : Started World) (signals : List (Signal Element Failure))
    (frames : List (Frame Element Failure)) :
    Reaches ⟨started.link, signals, .worker :: frames⟩ frames
      ((workerDrain (pipelineExecutor (sourceLogicOf handle)) rounds started).map fun started =>
        { started.link with worker := { started.link.worker with wip := false } }) := by
  induction rounds generalizing started signals with
  | zero =>
      intro null
      cases null
  | succ rounds ih =>
      unfold workerDrain
      cases dequeued : workerDequeue started.link.worker with
      | none =>
          refine ⟨[.round], [], ?_⟩
          rw [List.append_nil]
          exact Run.singleton ⟨_, rfl, PipelineStep.idle rfl dequeued⟩
      | some taken =>
          obtain ⟨task, worker⟩ := taken
          have ran := operate_reaches handles
            (@PipelineStep.task Element Failure ⟨started.link, signals, .worker :: frames⟩ frames task
              worker rfl dequeued) started.world
          unfold operate at ran
          rw [link_of_answer] at ran
          have joined : Reaches ⟨started.link, signals, .worker :: frames⟩ frames _ :=
            ran.bind fun next signals => ih next signals
          rw [← map_bind] at joined
          exact joined

/-- A pull of the sink is a step of the machine, followed by the rounds of the worker where it is the
outermost one. -/
theorem pull_leads
    (handles : ∀ signal started, Leads Element Failure started.link
      ((handle signal started).map Started.link))
    (rounds : Nat) (n : Int) (started : Started World) :
    Leads Element Failure started.link
      ((pipelineInletPull (sourceLogicOf handle) rounds n started).map Started.link) := by
  intro signals frames
  have step := @PipelineStep.pull Element Failure ⟨started.link, signals, frames⟩ n
  rw [pipelineInletPull_eq_enter, map_bind]
  cases entered : pipelineInletEnter n started.link with
  | error fault =>
      rw [entered] at step
      rintro rfl
      exact ⟨_, Run.singleton ⟨_, rfl, step⟩⟩
  | ok entry =>
      obtain ⟨loops, link⟩ := entry
      rw [entered] at step
      cases loops with
      | false =>
          refine ⟨[.pull n], [], ?_⟩
          rw [List.append_nil]
          exact Run.singleton ⟨_, rfl, step⟩
      | true =>
          have drained := drain_reaches handles rounds { started with link := link } signals frames
          have reached := drained.after (Run.singleton ⟨_, rfl, step⟩)
            (List.append_nil signals).symm
          change Reaches _ _ (Except.map _ (Except.map _ (workerDrain _ _ _)))
          cases ran : workerDrain (pipelineExecutor (sourceLogicOf _)) rounds
              { started with link := link } with
          | error fault =>
              rw [ran] at reached
              exact reached
          | ok ended =>
              rw [ran] at reached
              exact reached

end

section

variable {user : Signal Element Failure → World → Program World Element Failure}

/-- **The machine covers every re-entrant execution.** A call of the sink on its inlet or of the source
on its outlet, with arbitrary user code behind the callbacks, is a run of the machine that ends with all
calls returned, and one that follows a null pointer is a run that ends there. -/
theorem performCall_leads (depth : Nat) (operation : Operation Element Failure)
    (started : Started World) :
    Leads Element Failure started.link
      ((performCall user depth operation started).map fun answer => answer.2.link) := by
  induction depth generalizing operation started with
  | zero =>
      intro signals frames null
      cases null
  | succ depth ih =>
      have handles : ∀ signal (started : Started World), Leads Element Failure started.link
          (((user signal started.world).run (performCall user depth) started.link).map
            Started.link) :=
        fun signal started => Program.run_leads ih (user signal started.world) started.link
      intro signals frames
      cases operation with
      | pull n =>
          unfold performCall
          dsimp only
          rw [link_of_answer]
          exact pull_leads handles depth n started signals frames
      | cancel =>
          have step := @PipelineStep.cancel Element Failure ⟨started.link, signals, frames⟩
          unfold performCall
          dsimp only
          by_cases inlet : started.link.inlet = some ⟨true⟩
          · rw [PipelineUsage.cancel_eq inlet] at step
            unfold pipelineInletCancel
            rw [inlet]
            exact operate_reaches handles step started.world
          · have faults : pipelineInletCancel (sourceLogicOf record)
                (⟨started.link, []⟩ : Started (List (Signal Element Failure))) =
                .error .nullPointer := pipelineInletCancel_null _ inlet
            rw [faults] at step
            rw [pipelineInletCancel_null _ inlet]
            exact fun _ => ⟨_, Run.singleton ⟨_, rfl, step⟩⟩
      | emit element =>
          exact @operate_reaches _ _ _ _ handles ⟨started.link, signals, frames⟩ _ _ _
            PipelineStep.emit started.world
      | complete =>
          exact @operate_reaches _ _ _ _ handles ⟨started.link, signals, frames⟩ _ _ _
            PipelineStep.complete started.world
      | fail failure =>
          exact @operate_reaches _ _ _ _ handles ⟨started.link, signals, frames⟩ _ _ _
            PipelineStep.fail started.world

end

end Sas.Rxc
