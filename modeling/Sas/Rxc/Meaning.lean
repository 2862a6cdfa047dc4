import Sas.Rxc.Counting

/-! # The meaning of a count pipeline

Between two calls of `on_connect` the worker is idle, and each of them runs until it is idle again.
So starting a pipeline answers what its sink pulls out of the mapped elements, and it does so
wherever the flows are attached.
-/

namespace Sas.Rxc

open Foundation

variable {Element : Type}

section

variable {hungry : Prop} {box : Int → Element} {start stop : Int} {served spare : Nat}
  {code : SinkCode Element} {started : Started (FlowWorld Unit Element)}

/-! ## While the worker is idle -/

/-- A worker that has nothing to do goes idle. -/
theorem Rest.idle (rest : Rest hungry box start stop true started) :
    Rest hungry box start stop false
      (started.withWorker { started.link.worker with wip := false }) := by
  rcases rest with ⟨served, serving⟩ | ended
  · rw [serving.worker]
    exact .inl ⟨served, { serving with worker := rfl }⟩
  · rw [ended.worker]
    exact .inr (ended.withWorker ⟨[], false⟩)

/-- A worker that was idle runs a pull to the end of all it leads to. -/
theorem idle_settles (n : Amount) (idle : started.link.worker = ⟨[], false⟩)
    (inlet : started.link.inlet = some ⟨true⟩)
    (drains : Settles (fun fuel (index : Nat × Nat) =>
      workerDrain (pipelineExecutor (directSource box stop code (index.2 + spare + 1) index.1)) fuel
        (started.withWorker ⟨[n.toLong], true⟩)) (Rest hungry box start stop true)) :
    Settles (fun rounds depth =>
        pipelineInletPull (directSource box stop code (depth + spare + 1) rounds) rounds n.toLong
          started)
      (Rest hungry box start stop false) := by
  have settled := (drains.reindex fun rounds depth => (rounds, depth)).map
    (fun started => started.withWorker { started.link.worker with wip := false })
    fun _ rest => rest.idle
  apply Settles.congr settled
  intro rounds depth
  exact (pipelineInletPull_parent _ _ inlet).trans (workerSchedule_idle _ _ idle)

/-- A pull at rest is served by the loop it enters. -/
theorem Serving.pull_idle {hungry' : Prop} (roomy : ¬ hungry → 0 < spare)
    (greedy : hungry → code.Hungry)
    (serving : Serving hungry' box start stop served 0 [] false started) :
    PullsSettle (fun rounds depth =>
      pipelineInletPull (directSource box stop code (depth + spare + 1) rounds) rounds)
      (Rest hungry box start stop false) started := fun n =>
  idle_settles n serving.worker serving.inlet ((serving.enqueue n true).drain_settles roomy greedy)

/-- A pull on a pipeline that has ended finds nothing to do. -/
theorem Ended.pull_idle (ended : Ended hungry box start stop ⟨[], false⟩ started) :
    PullsSettle (fun rounds depth =>
      pipelineInletPull (directSource box stop code (depth + spare + 1) rounds) rounds)
      (Rest hungry box start stop false) started := by
  intro n
  have ended := ended.pull n
  cases before : cancelledIn (started.noted (.pull n)).world.events with
  | true =>
      have rest : Rest hungry box start stop false _ := .inr ended
      apply Settles.congr (Settles.pure rest)
      intro rounds depth
      exact pipelineInletPull_released _ _ (released_of_cancelled ended.inlet before)
  | false =>
      apply idle_settles n ended.worker (refers_of_patient ended.inlet before)
      exact (ended.withWorker ⟨[n.toLong], true⟩).drain_settles.mono fun _ ended => .inr ended

/-- A sink may pull and cancel wherever the pipeline is at rest. -/
theorem idle_calls (roomy : ¬ hungry → 0 < spare) (greedy : hungry → code.Hungry) :
    CallsSettle hungry (fun rounds depth =>
        pipelineInletPull (directSource box stop code (depth + spare + 1) rounds) rounds)
      (fun rounds depth => pipelineInletCancel (directSource box stop code (depth + spare + 1) rounds))
      (Rest hungry box start stop false) where
  pull started rest := by
    rcases rest with ⟨served, serving⟩ | ended
    · exact serving.pull_idle roomy greedy
    · exact ended.pull_idle
  cancel fickle started rest patient := by
    rcases rest with ⟨served, serving⟩ | ended
    · have closes : Rest hungry box start stop false _ := .inr (serving.cancel fickle)
      apply Settles.congr (Settles.pure closes)
      exact fun rounds depth => serving.cancels (depth + spare) rounds
    · have closes : Rest hungry box start stop false _ := .inr (ended.cancel fickle)
      apply Settles.congr (Settles.pure closes)
      exact fun rounds depth => ended.cancels patient _

/-! ## Starting -/

/-- A pipeline that has told its sink of the connection has served nothing yet. -/
theorem serving_fresh (box : Int → Element) (start stop : Int) :
    Serving False box start stop 0 0 [] false
      ((⟨Link.fresh, ⟨(), start, []⟩⟩ : Started (FlowWorld Unit Element)).noted .onConnect) where
  requested := .inl rfl
  inlet := rfl
  worker := rfl
  count := (Int.add_zero start).symm
  within := Nat.zero_le _
  signals := rfl
  pulled := rfl
  patient := rfl
  owing := False.elim

/-- A started pipeline comes to rest, on a stack that holds one callback of the source and, unless the
sink never cancels, another one. -/
theorem directStart_settles (roomy : ¬ hungry → 0 < spare) (greedy : hungry → code.Hungry) :
    Settles (fun rounds depth => directStart box start stop code (depth + spare + 1) rounds)
      (Rest hungry box start stop false) := by
  by_cases holds : hungry
  · exact run_settles_of_pulls (idle_calls roomy greedy) (greedy holds).onConnect
      ((serving_fresh box start stop).pull_idle roomy greedy)
  · apply run_settles (idle_calls roomy greedy) _ fun holds' => (holds holds').elim
    exact .inl ⟨0, (serving_fresh box start stop).relax fun holds' => holds holds'⟩

/-- A pipeline at rest has answered all that was pulled. -/
theorem Rest.answers (rest : Rest hungry box start stop false started)
    (patient : cancelledIn started.world.events = false) :
    signalsIn started.world.events =
      .onConnect :: answer (supplyOf box start stop) (pulledIn started.world.events) := by
  unfold answer
  rcases rest with ⟨served, serving⟩ | ended
  · have pulled : pulledIn started.world.events = served := serving.pulled
    have within : ¬ (supplyOf box start stop).length < served := by
      rw [length_supplyOf]
      exact Nat.not_lt.mpr serving.within
    rw [pulled, if_neg within, List.append_nil]
    exact serving.signals
  · rcases ended.told with ⟨cancelled, _⟩ | ⟨exhausted, signals⟩
    · rw [patient] at cancelled
      cases cancelled
    · rw [← length_supplyOf box] at exhausted
      rw [signals, List.take_of_length_le (Nat.le_of_lt exhausted), if_pos exhausted]

/-- A hungry sink has been pushed everything and told the end. -/
theorem Rest.exhausts (rest : Rest True box start stop false started) :
    signalsIn started.world.events =
      .onConnect :: ((supplyOf box start stop).map .onPush ++ [.onUpstreamFinish]) := by
  rcases rest with ⟨served, serving⟩ | ended
  · cases serving.owing trivial
  · rcases ended.told with ⟨_, fickle⟩ | ⟨_, signals⟩
    · exact (fickle trivial).elim
    · exact signals

end

/-! ## Pipelines with mappings -/

section

variable (box : Int → Element) (start stop : Int) (mappings : List (Element → Element))

/-- Every mapping attached to the source. -/
theorem splitPipeline_length (code : SinkCode Element) :
    splitPipeline box start stop code mappings mappings.length =
      sourceTo (sourceVia (.count box start stop) (mappings.map flowMap)) (.user code) := by
  rw [splitPipeline, List.take_length, List.drop_length]
  rfl

variable {code : SinkCode Element}

/-- A pipeline of mappings comes to rest, with the same log wherever they are attached. -/
theorem start_settles {hungry : Prop} {spare : Nat} (roomy : ¬ hungry → 0 < spare)
    (greedy : hungry → code.Hungry) :
    ∃ enough after, Rest hungry (mapped mappings ∘ box) start stop false after ∧
      ∀ split, ∃ wires : Wiring, ∀ depth more,
        (splitPipeline box start stop code mappings split).start (depth + spare + 1)
          (enough + more) = .ok (eok, after.rewired wires) := by
  have settles : Settles (fun rounds depth =>
      directStart (mapped mappings ∘ box) start stop code (depth + spare + 1) rounds)
      (Rest hungry (mapped mappings ∘ box) start stop false) := directStart_settles roomy greedy
  obtain ⟨enough, after, done, rest⟩ := settles
  refine ⟨enough, after, rest, fun split => ?_⟩
  obtain ⟨wires, starts⟩ := start_splitPipeline code mappings split box start stop
  refine ⟨wires, fun depth more => ?_⟩
  rw [starts]
  exact congrArg _ (done more depth)

variable (code)

/-- **The meaning of a count pipeline.** With enough rounds a pipeline of a count source and mappings
comes to rest. If the sink has not cancelled by then, it has been pushed the first of the mapped
elements, as many as it has pulled and as there are, and told the end once, after all elements, if
it has pulled more than there are. A sink that hands every element to a callback and pulls the next
has handed it all of them, and been told the end. -/
theorem start_answers :
    (∃ enough after,
      (∀ depth more, (sourceTo (sourceVia (.count box start stop) (mappings.map flowMap))
        (.user code)).start (depth + 2) (enough + more) = .ok (eok, after)) ∧
      (cancelledIn after.world.events = false → signalsIn after.world.events =
        .onConnect :: answer (supplyOf (mapped mappings ∘ box) start stop)
          (pulledIn after.world.events))) ∧
    ∃ enough after,
      (∀ depth more, (sourceTo (sourceVia (.count box start stop) (mappings.map flowMap))
        (.user sinkForeach)).start (depth + 2) (enough + more) = .ok (eok, after)) ∧
      signalsIn after.world.events = .onConnect ::
        ((supplyOf (mapped mappings ∘ box) start stop).map .onPush ++ [.onUpstreamFinish]) := by
  constructor
  · have patient : False → code.Hungry := False.elim
    obtain ⟨enough, after, rest, starts⟩ :=
      start_settles box start stop mappings (fun _ => Nat.one_pos) patient
    obtain ⟨wires, starts⟩ := starts mappings.length
    rw [splitPipeline_length] at starts
    exact ⟨enough, after.rewired wires, starts, rest.answers⟩
  · obtain ⟨enough, after, rest, starts⟩ :=
      start_settles box start stop mappings (fun _ => Nat.one_pos) fun _ : True => sinkForeach_hungry
    obtain ⟨wires, starts⟩ := starts mappings.length
    rw [splitPipeline_length] at starts
    exact ⟨enough, after.rewired wires, starts, rest.exhausts⟩

/-- **Attaching flows to the source or to the sink is the same pipeline.** With enough rounds every
split of the mappings has the same log: the same signals to the sink and to the source, and in the
same order among each other. -/
theorem start_same : ∃ events enough, ∀ split depth more,
    ((splitPipeline box start stop code mappings split).start (depth + 2) (enough + more)).map
      (fun returned => (returned.1, returned.2.world.events)) = .ok (eok, events) := by
  have patient : False → code.Hungry := False.elim
  obtain ⟨enough, after, _, starts⟩ :=
    start_settles box start stop mappings (fun _ => Nat.one_pos) patient
  refine ⟨after.world.events, enough, fun split depth more => ?_⟩
  obtain ⟨wires, starts⟩ := starts split
  rw [starts]
  rfl

end

end Sas.Rxc
