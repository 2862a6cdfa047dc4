import Sas.Rxc.Serving

/-! # Runs of a count pipeline

The code of a sink settles if its calls do. While the worker is busy a pull only waits, so a task of
the worker settles; every task that is served takes an element off what the source has left or ends
the stream, so the worker settles too.
-/

namespace Sas.Rxc

open Foundation

variable {Element : Type}

/-! ## Code of a sink -/

/-- The program does not cancel. -/
def SinkProgram.Patient : SinkProgram Element → Prop
  | .done => True
  | .pull _ next => ∀ events, (next events).Patient
  | .cancel _ => False

/-- The program begins with a pull, and does not cancel later. -/
def SinkProgram.Pulls (program : SinkProgram Element) : Prop :=
  ∃ n next, program = .pull n next ∧ ∀ events, (next events).Patient

/-- The sink pulls something in every callback, and never cancels. -/
structure SinkCode.Hungry (code : SinkCode Element) : Prop where
  onConnect : code.onConnect.Pulls
  onPush : ∀ element events, (code.onPush element events).Pulls

/-- The sink of `rxc_sink_foreach` pulls one element in every callback. -/
theorem sinkForeach_hungry : (sinkForeach : SinkCode Element).Hungry where
  onConnect := ⟨_, _, rfl, fun _ => trivial⟩
  onPush _ _ := ⟨_, _, rfl, fun _ => trivial⟩

section

variable {hungry : Prop} {Other : Type} {pull : Nat → Other → Int → Action (FlowWorld Unit Element)}
  {cancel : Nat → Other → Action (FlowWorld Unit Element)}
  {good : Started (FlowWorld Unit Element) → Prop} {started : Started (FlowWorld Unit Element)}

/-- A sink may pull here. -/
def PullsSettle (pull : Nat → Other → Int → Action (FlowWorld Unit Element))
    (good : Started (FlowWorld Unit Element) → Prop) (started : Started (FlowWorld Unit Element)) :
    Prop :=
  ∀ n : Amount, Settles (fun fuel other => pull fuel other n.toLong (started.noted (.pull n))) good

/-- A sink may pull wherever all is well, and cancel for the first time unless it is hungry. -/
structure CallsSettle (hungry : Prop) (pull : Nat → Other → Int → Action (FlowWorld Unit Element))
    (cancel : Nat → Other → Action (FlowWorld Unit Element))
    (good : Started (FlowWorld Unit Element) → Prop) : Prop where
  pull : ∀ started, good started → PullsSettle pull good started
  cancel : ¬ hungry → ∀ started, good started → cancelledIn started.world.events = false →
    Settles (fun fuel other => cancel fuel other (started.noted .cancel)) good

/-- Code settles if its calls do. -/
theorem run_settles (calls : CallsSettle hungry pull cancel good) (program : SinkProgram Element)
    (patient : hungry → program.Patient) (holds : good started) :
    Settles (fun fuel other => program.run (pull fuel other) (cancel fuel other) started) good := by
  induction program generalizing started with
  | done => exact Settles.pure holds
  | pull n next ih =>
      refine (calls.pull started holds n).bind fun after held => ?_
      exact ih after.world.events (fun hungry => patient hungry after.world.events) held
  | cancel next ih =>
      have fickle : ¬ hungry := patient
      have later (events : List (FlowEvent Element)) : hungry → (next events).Patient :=
        fun hungry => (fickle hungry).elim
      by_cases before : cancelledIn started.world.events = true
      · apply Settles.congr (ih started.world.events (later _) holds)
        exact fun _ _ => if_pos before
      · have cancels := calls.cancel fickle started holds (Bool.eq_false_iff.mpr before)
        apply Settles.congr (cancels.bind fun after held => ih after.world.events (later _) held)
        exact fun _ _ => if_neg before

/-- Code that begins with a pull settles wherever it may pull. -/
theorem run_settles_of_pulls (calls : CallsSettle hungry pull cancel good)
    {program : SinkProgram Element} (pulls : program.Pulls) (first : PullsSettle pull good started) :
    Settles (fun fuel other => program.run (pull fuel other) (cancel fuel other) started) good := by
  obtain ⟨n, next, rfl, patient⟩ := pulls
  refine (first n).bind fun after held => ?_
  exact run_settles calls (next after.world.events) (fun _ => patient after.world.events) held

end

/-! ## Calls on the scheduling inlet -/

section

variable {World : Type} {source : SourceLogic World} {runnable : Int → Action World}
  {started : Started World}

/-- As long as the inlet has its connection, a pull is scheduled. -/
theorem pipelineInletPull_parent (rounds : Nat) (n : Int)
    (inlet : started.link.inlet = some ⟨true⟩) :
    pipelineInletPull source rounds n started =
      workerSchedule (pipelineExecutor source) rounds n started := by
  rw [pipelineInletPull, inlet]
  rfl

/-- After the cancellation a pull does nothing. -/
theorem pipelineInletPull_released (rounds : Nat) (n : Int)
    (inlet : started.link.inlet = some ⟨false⟩) :
    pipelineInletPull source rounds n started = .ok started := by
  rw [pipelineInletPull, inlet]
  rfl

/-- The first cancellation gives up the connection and then cancels it. -/
theorem pipelineInletCancel_parent (inlet : started.link.inlet = some ⟨true⟩) :
    pipelineInletCancel source started = connectionInletCancel source started.released := by
  rw [pipelineInletCancel, inlet]
  rfl

/-- A cancellation of a closed connection is lost. -/
theorem pipelineInletCancel_closed (inlet : started.link.inlet = some ⟨true⟩)
    (closed : started.requested = longMin) :
    pipelineInletCancel source started = .ok started.released := by
  rw [pipelineInletCancel_parent inlet, connectionInletCancel]
  exact if_pos closed

/-- A cancellation closes an open connection, and the source is told. -/
theorem pipelineInletCancel_opened (inlet : started.link.inlet = some ⟨true⟩)
    (opened : started.requested ≠ longMin) :
    pipelineInletCancel source started =
      source.onDownstreamFinish (started.released.withRequested longMin) := by
  rw [pipelineInletCancel_parent inlet, connectionInletCancel]
  exact if_neg opened

/-- A busy worker puts a task behind the others. -/
theorem workerSchedule_busy (rounds : Nat) (task : Int) {queue : List Int}
    (busy : started.link.worker = ⟨queue, true⟩) :
    workerSchedule runnable rounds task started =
      .ok (started.withWorker ⟨queue ++ [task], true⟩) := by
  rw [workerSchedule, busy]
  rfl

/-- An idle worker runs a task, and all it schedules. -/
theorem workerSchedule_idle (rounds : Nat) (task : Int)
    (idle : started.link.worker = ⟨[], false⟩) :
    workerSchedule runnable rounds task started =
      (workerDrain runnable rounds (started.withWorker ⟨[task], true⟩)).map fun started =>
        started.withWorker { started.link.worker with wip := false } := by
  rw [workerSchedule, idle]
  change (workerDrain runnable rounds (started.withWorker ⟨[task], true⟩)).bind _ = _
  cases workerDrain runnable rounds (started.withWorker ⟨[task], true⟩) <;> rfl

end

/-! ## While the worker is busy -/

section

variable {hungry : Prop} {box : Int → Element} {start stop : Int} {served left spare : Nat}
  {tasks : List Amount} {wip : Bool} {worker : Worker} {code : SinkCode Element}
  {started : Started (FlowWorld Unit Element)}

/-- The first cancellation closes the connection. -/
theorem Serving.cancels (serving : Serving hungry box start stop served left tasks wip started)
    (depth rounds : Nat) :
    pipelineInletCancel (directSource box stop code (depth + 1) rounds) (started.noted .cancel) =
      .ok (((started.noted .cancel).released.withRequested longMin).noted .onDownstreamFinish) := by
  have inlet : (started.noted .cancel).link.inlet = some ⟨true⟩ := serving.inlet
  exact pipelineInletCancel_opened inlet serving.opened

/-- The first cancellation may come when the connection is closed. -/
theorem Ended.cancels (ended : Ended hungry box start stop worker started)
    (patient : cancelledIn started.world.events = false)
    (source : SourceLogic (FlowWorld Unit Element)) :
    pipelineInletCancel source (started.noted .cancel) = .ok (started.noted .cancel).released := by
  have inlet : (started.noted .cancel).link.inlet = some ⟨true⟩ :=
    refers_of_patient ended.inlet patient
  exact pipelineInletCancel_closed inlet ended.requested

variable (hungry box start stop)

/-- The worker is busy with a task, or with nothing because the connection is closed. -/
def Busy (served left : Nat) (started : Started (FlowWorld Unit Element)) : Prop :=
  (∃ tasks, Serving hungry box start stop served left tasks true started) ∨
    ∃ queue, Ended hungry box start stop ⟨queue, true⟩ started

variable {hungry box start stop}

/-- A pull waits while the worker is busy. -/
theorem Serving.pull_settles {hungry' : Prop}
    (serving : Serving hungry' box start stop served left tasks true started) :
    PullsSettle (fun _ (index : Nat × Nat) =>
      pipelineInletPull (directSource box stop code (index.2 + spare) index.1) index.1)
      (Busy hungry box start stop served left) started := by
  intro n
  have waits : Busy hungry box start stop served left _ := .inl ⟨_, serving.enqueue n true⟩
  apply Settles.congr (Settles.pure waits)
  intro _ index
  have inlet : (started.noted (.pull n)).link.inlet = some ⟨true⟩ := serving.inlet
  have busy : (started.noted (.pull n)).link.worker = ⟨tasks.map Amount.toLong, true⟩ :=
    serving.worker
  dsimp only
  rw [pipelineInletPull_parent _ _ inlet, workerSchedule_busy _ _ busy, List.map_append]
  rfl

/-- A pull inside the loop of an ended pipeline is left to this loop. -/
theorem Ended.pull_settles {queue : List Int}
    (ended : Ended hungry box start stop ⟨queue, true⟩ started) :
    PullsSettle (fun _ (index : Nat × Nat) =>
      pipelineInletPull (directSource box stop code (index.2 + spare) index.1) index.1)
      (Busy hungry box start stop served left) started := by
  intro n
  have ended := ended.pull n
  cases before : cancelledIn (started.noted (.pull n)).world.events with
  | true =>
      have waits : Busy hungry box start stop served left _ := .inr ⟨queue, ended⟩
      apply Settles.congr (Settles.pure waits)
      intro _ index
      exact pipelineInletPull_released _ _ (released_of_cancelled ended.inlet before)
  | false =>
      have waits : Busy hungry box start stop served left _ :=
        .inr ⟨_, ended.withWorker ⟨queue ++ [n.toLong], true⟩⟩
      apply Settles.congr (Settles.pure waits)
      intro _ index
      have inlet := refers_of_patient ended.inlet before
      exact (pipelineInletPull_parent _ _ inlet).trans (workerSchedule_busy _ _ ended.worker)

/-- While the worker is busy only a cancellation calls the source, for which there must be room on the
stack. -/
theorem busy_calls (roomy : ¬ hungry → 0 < spare) :
    CallsSettle hungry (fun _ (index : Nat × Nat) =>
        pipelineInletPull (directSource box stop code (index.2 + spare) index.1) index.1)
      (fun _ index => pipelineInletCancel (directSource box stop code (index.2 + spare) index.1))
      (Busy hungry box start stop served left) where
  pull started busy := by
    rcases busy with ⟨tasks, serving⟩ | ⟨queue, ended⟩
    · exact serving.pull_settles
    · exact ended.pull_settles
  cancel fickle started busy patient := by
    rcases busy with ⟨tasks, serving⟩ | ⟨queue, ended⟩
    · have closes : Busy hungry box start stop served left _ := .inr ⟨_, serving.cancel fickle⟩
      obtain ⟨room, rfl⟩ := Nat.exists_eq_succ_of_ne_zero (Nat.ne_of_gt (roomy fickle))
      apply Settles.congr (Settles.pure closes)
      exact fun _ index => serving.cancels (index.2 + room) index.1
    · have closes : Busy hungry box start stop served left _ := .inr ⟨_, ended.cancel fickle⟩
      apply Settles.congr (Settles.pure closes)
      exact fun _ index => ended.cancels patient _

/-- The sink handles an element. -/
theorem Serving.onPush_settles (roomy : ¬ hungry → 0 < spare) (greedy : hungry → code.Hungry)
    (serving : Serving False box start stop served left tasks true started) (element : Element)
    (events : List (FlowEvent Element)) :
    Settles (fun _ (index : Nat × Nat) =>
        (code.onPush element events).run
          (pipelineInletPull (directSource box stop code (index.2 + spare) index.1) index.1)
          (pipelineInletCancel (directSource box stop code (index.2 + spare) index.1)) started)
      (Busy hungry box start stop served left) := by
  by_cases holds : hungry
  · exact run_settles_of_pulls (busy_calls roomy) ((greedy holds).onPush element events)
      serving.pull_settles
  · apply run_settles (busy_calls roomy) _ fun holds' => (holds holds').elim
    exact .inl ⟨tasks, serving.relax fun holds' => holds holds'⟩

/-- The source emits its next element. -/
theorem Serving.emit_settles (roomy : ¬ hungry → 0 < spare) (greedy : hungry → code.Hungry)
    (serving : Serving hungry box start stop served (left + 1) tasks true started)
    (more : started.world.count < stop) :
    Settles (fun _ (index : Nat × Nat) =>
        outletEmit (directSink code index.1 (directSource box stop code (index.2 + spare) index.1))
          (box started.world.count) started.counted)
      (fun emitted => Busy hungry box start stop (served + 1) left emitted.2) := by
  have demanded : 0 < started.counted.requested := serving.demanded
  have handled := (serving.push more).onPush_settles roomy greedy (box started.world.count)
    ((started.counted.withRequested (demandBefore started.requested)).noted
      (.onPush (box started.world.count))).world.events
  apply Settles.congr (handled.map (fun started => (eok, started)) fun _ busy => busy)
  exact fun _ _ => outletEmit_of_pos _ _ demanded

/-! ## The loop of the source -/

/-- The source runs on without effect once the connection is closed. -/
theorem Ended.loop_settles (ended : Ended hungry box start stop worker started) (n : Nat) :
    Settles (fun _ (index : Nat × Nat) =>
        countOnPullLoop box stop
          (directSink code index.1 (directSource box stop code (index.2 + spare) index.1)) n started)
      (Ended hungry box start stop worker) := by
  induction n generalizing started with
  | zero => exact Settles.pure ended
  | succ n ih =>
      by_cases last : stop ≤ started.world.count
      · apply Settles.congr (Settles.pure ended)
        intro _ index
        rw [countOnPullLoop, if_pos last]
        exact if_pos ended.requested
      · apply Settles.congr (ih ended.counted)
        intro _ index
        have spent : started.counted.requested ≤ 0 := by
          rw [ended.counted.requested]
          exact Int.le_of_lt longMin_lt_zero
        rw [countOnPullLoop, if_neg last, outletEmit, if_pos spent]
        rfl

/-- The source serves a pull to its end, or to the end of the stream. -/
theorem Busy.loop_settles (roomy : ¬ hungry → 0 < spare) (greedy : hungry → code.Hungry) {n : Nat}
    (busy : Busy hungry box start stop served n started) :
    Settles (fun _ (index : Nat × Nat) =>
        countOnPullLoop box stop
          (directSink code index.1 (directSource box stop code (index.2 + spare) index.1)) n started)
      (Busy hungry box start stop (served + n) 0) := by
  induction n generalizing started served with
  | zero => exact Settles.pure busy
  | succ n ih =>
      rcases busy with ⟨tasks, serving⟩ | ⟨queue, ended⟩
      · by_cases last : stop ≤ started.world.count
        · have finished := serving.finish last
          rw [serving.worker] at finished
          have closed : Busy hungry box start stop (served + (n + 1)) 0 _ := .inr ⟨_, finished⟩
          apply Settles.congr (Settles.pure closed)
          intro _ index
          rw [countOnPullLoop, if_pos last]
          exact if_neg serving.opened
        · have emitted := serving.emit_settles roomy greedy (Int.not_le.mp last)
          rw [show served + (n + 1) = served + 1 + n by omega]
          apply Settles.congr (emitted.bind fun _ busy => ih busy)
          intro _ index
          rw [countOnPullLoop, if_neg last]
      · exact (ended.loop_settles (n + 1)).mono fun _ ended => .inr ⟨queue, ended⟩

/-! ## The worker -/

/-- A task of the worker. -/
theorem Serving.task_settles (roomy : ¬ hungry → 0 < spare) (greedy : hungry → code.Hungry)
    {n : Amount} (serving : Serving hungry box start stop served 0 (n :: tasks) true started) :
    Settles (fun _ (index : Nat × Nat) =>
        pipelineExecutor (directSource box stop code (index.2 + spare + 1) index.1) n.toLong
          (started.withWorker ⟨tasks.map Amount.toLong, true⟩))
      (Busy hungry box start stop (served + n.val) 0) := by
  have busy : Busy hungry box start stop served n.val _ := .inl ⟨tasks, serving.take⟩
  apply Settles.congr (busy.loop_settles roomy greedy)
  intro _ index
  exact connectionInletPull_of_ne _ _ serving.opened

/-- The worker has nothing to do. -/
def Rest (hungry : Prop) (box : Int → Element) (start stop : Int) (wip : Bool)
    (started : Started (FlowWorld Unit Element)) : Prop :=
  (∃ served, Serving hungry box start stop served 0 [] wip started) ∨
    Ended hungry box start stop ⟨[], wip⟩ started

/-- Tasks of a closed connection have no effect. -/
theorem Ended.drain_settles {queue : List Int}
    (ended : Ended hungry box start stop ⟨queue, true⟩ started) :
    Settles (fun fuel (index : Nat × Nat) =>
        workerDrain (pipelineExecutor (directSource box stop code (index.2 + spare + 1) index.1)) fuel
          started)
      (Ended hungry box start stop ⟨[], true⟩) := by
  induction queue generalizing started with
  | nil =>
      apply Settles.succ
      apply Settles.congr (Settles.pure ended)
      intro fuel index
      rw [workerDrain, ended.worker]
      rfl
  | cons task queue ih =>
      apply Settles.succ
      have taken := ended.withWorker ⟨queue, true⟩
      apply Settles.congr (ih taken)
      intro fuel index
      rw [workerDrain, ended.worker]
      change (connectionInletPull _ task (started.withWorker ⟨queue, true⟩)).bind _ = _
      rw [connectionInletPull_closed _ _ taken.requested]
      rfl

/-- The worker runs out of tasks. Each takes elements off what the source has left, or ends the
stream. -/
theorem Serving.drain_settles (roomy : ¬ hungry → 0 < spare) (greedy : hungry → code.Hungry)
    (serving : Serving hungry box start stop served 0 tasks true started) :
    Settles (fun fuel (index : Nat × Nat) =>
        workerDrain (pipelineExecutor (directSource box stop code (index.2 + spare + 1) index.1)) fuel
          started)
      (Rest hungry box start stop true) := by
  induction remaining : (stop - start).toNat - served using Nat.strong_induction_on
    generalizing started served tasks with
  | _ remaining ih =>
      subst remaining
      apply Settles.succ
      cases tasks with
      | nil =>
          have rest : Rest hungry box start stop true started := .inl ⟨served, serving⟩
          apply Settles.congr (Settles.pure rest)
          intro fuel index
          rw [workerDrain, serving.worker]
          rfl
      | cons n tasks =>
          have rest : Settles (fun fuel (index : Nat × Nat) =>
              (pipelineExecutor (directSource box stop code (index.2 + spare + 1) index.1) n.toLong
                (started.withWorker ⟨tasks.map Amount.toLong, true⟩)).bind
                (workerDrain
                  (pipelineExecutor (directSource box stop code (index.2 + spare + 1) index.1)) fuel))
              (Rest hungry box start stop true) := by
            refine (serving.task_settles roomy greedy).bind fun after busy => ?_
            rcases busy with ⟨tasks', serving'⟩ | ⟨queue, ended⟩
            · have positive := n.positive
              have within := serving'.within
              exact ih _ (by omega) serving' rfl
            · exact ended.drain_settles.mono fun _ ended => .inr ended
          apply Settles.congr rest
          intro fuel index
          rw [workerDrain, serving.worker]
          rfl

end

end Sas.Rxc
