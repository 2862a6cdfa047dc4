import Sas.Rxc.Meaning

/-! # Which pipelines of mappings are the same

A pipeline of a count source and mappings shows its sink nothing of how the mappings are cut: two of
them behave alike for every sink exactly if they make the same elements out of the numbers that the
source counts.
-/

namespace Sas.Rxc

variable {World Element Failure : Type}

/-! ## Actions that agree -/

/-- The actions do the same wherever the invariant of the world holds, and keep it. -/
def Agree (holds : World → Prop) (first second : Action World) : Prop :=
  ∀ started, holds started.world → first started = second started ∧
    ∀ after, first started = .ok after → holds after.world

/-- The callbacks of the sources agree. -/
structure AgreeSource (holds : World → Prop) (first second : SourceLogic World) : Prop where
  onPull : ∀ n, Agree holds (first.onPull n) (second.onPull n)
  onDownstreamFinish : Agree holds first.onDownstreamFinish second.onDownstreamFinish

/-- The callbacks of the sinks agree. -/
structure AgreeSink (holds : World → Prop) (first second : SinkLogic World Element Failure) :
    Prop where
  onPush : ∀ element, Agree holds (first.onPush element) (second.onPush element)
  onUpstreamFinish : Agree holds first.onUpstreamFinish second.onUpstreamFinish

section

variable {holds : World → Prop} {first second later later' : Action World}
  {source source' : SourceLogic World}

/-- An action that succeeds where the invariant holds agrees with itself. -/
theorem agree_ok (change : Started World → Started World)
    (kept : ∀ started, holds started.world → holds (change started).world) :
    Agree holds (fun started => .ok (change started)) (fun started => .ok (change started)) := by
  intro started good
  refine ⟨rfl, ?_⟩
  rintro _ ⟨⟩
  exact kept started good

/-- An action that fails agrees with itself. -/
theorem agree_error (fault : Fault) :
    Agree holds (fun _ => .error fault) (fun _ => .error fault) := by
  intro started _
  refine ⟨rfl, fun after done => ?_⟩
  cases done

/-- Actions that agree one after the other agree as one. -/
theorem Agree.bind (earlier : Agree holds first second) (rest : Agree holds later later') :
    Agree holds (fun started => (first started).bind later)
      (fun started => (second started).bind later') := by
  intro started good
  obtain ⟨same, kept⟩ := earlier started good
  dsimp only
  rw [← same]
  cases done : first started with
  | error fault => exact agree_error fault started good
  | ok after => exact rest after (kept after done)

/-- Pulls on connections to sources that agree. -/
theorem agree_connectionInletPull (agree : AgreeSource holds source source') (n : Int) :
    Agree holds (connectionInletPull source n) (connectionInletPull source' n) := by
  intro started good
  by_cases closed : started.requested = longMin
  · rw [connectionInletPull_closed source n closed, connectionInletPull_closed source' n closed]
    exact agree_ok id (fun _ good => good) started good
  · rw [connectionInletPull_of_ne source n closed, connectionInletPull_of_ne source' n closed]
    exact agree.onPull n (started.withRequested (demandAfter started.requested n)) good

/-- Cancellations of connections to sources that agree. -/
theorem agree_connectionInletCancel (agree : AgreeSource holds source source') :
    Agree holds (connectionInletCancel source) (connectionInletCancel source') := by
  intro started good
  unfold connectionInletCancel
  by_cases closed : started.requested = longMin
  · rw [if_pos closed, if_pos closed]
    exact agree_ok id (fun _ good => good) started good
  · rw [if_neg closed, if_neg closed]
    exact agree.onDownstreamFinish (started.withRequested longMin) good

/-- Loops of the worker over tasks that agree. -/
theorem agree_workerDrain {runnable runnable' : Int → Action World}
    (agree : ∀ task, Agree holds (runnable task) (runnable' task)) (rounds : Nat) :
    Agree holds (workerDrain runnable rounds) (workerDrain runnable' rounds) := by
  induction rounds with
  | zero => exact agree_error .diverge
  | succ rounds ih =>
      intro started good
      unfold workerDrain
      cases workerDequeue started.link.worker with
      | none => exact agree_ok id (fun _ good => good) started good
      | some taken => exact (agree taken.1).bind ih (started.withWorker taken.2) good

/-- Schedulings of tasks that agree. -/
theorem agree_workerSchedule {runnable runnable' : Int → Action World}
    (agree : ∀ task, Agree holds (runnable task) (runnable' task)) (rounds : Nat) (task : Int) :
    Agree holds (workerSchedule runnable rounds task) (workerSchedule runnable' rounds task) := by
  intro started good
  unfold workerSchedule
  dsimp only
  by_cases busy : (workerEnqueue task started.link.worker).wip = true
  · rw [if_pos busy, if_pos busy]
    exact agree_ok (fun started => started.withWorker (workerEnqueue task started.link.worker))
      (fun _ good => good) started good
  · rw [if_neg busy, if_neg busy]
    exact (agree_workerDrain agree rounds).bind
      (agree_ok (fun started => started.withWorker { started.link.worker with wip := false })
        fun _ good => good)
      (started.withWorker { workerEnqueue task started.link.worker with wip := true }) good

/-- Deferred pulls to sources that agree. -/
theorem agree_pipelineInletPull (agree : AgreeSource holds source source') (rounds : Nat) (n : Int) :
    Agree holds (pipelineInletPull source rounds n) (pipelineInletPull source' rounds n) := by
  intro started good
  unfold pipelineInletPull
  cases started.link.inlet with
  | none => exact agree_error .nullPointer started good
  | some inlet =>
      dsimp only
      by_cases refers : inlet.parent = true
      · rw [if_pos refers, if_pos refers]
        exact agree_workerSchedule (agree_connectionInletPull agree) rounds n started good
      · rw [if_neg refers, if_neg refers]
        exact agree_ok id (fun _ good => good) started good

/-- Cancellations of the scheduling inlet over sources that agree. -/
theorem agree_pipelineInletCancel (agree : AgreeSource holds source source') :
    Agree holds (pipelineInletCancel source) (pipelineInletCancel source') := by
  intro started good
  unfold pipelineInletCancel
  cases started.link.inlet with
  | none => exact agree_error .nullPointer started good
  | some inlet =>
      dsimp only
      by_cases refers : inlet.parent = true
      · rw [if_pos refers, if_pos refers]
        exact agree_connectionInletCancel agree
          { started with link := { started.link with inlet := some ⟨false⟩ } } good
      · rw [if_neg refers, if_neg refers]
        exact agree_error .nullPointer started good

/-- Emissions to sinks that agree return the same. -/
theorem agree_outletEmit {sink sink' : SinkLogic World Element Failure}
    (agree : AgreeSink holds sink sink') (element : Element) (started : Started World)
    (good : holds started.world) : outletEmit sink element started = outletEmit sink' element started ∧
      ∀ emitted, outletEmit sink element started = .ok emitted → holds emitted.2.world := by
  have pushed (started : Started World) (good : holds started.world) :
      (sink.onPush element started).map (fun started => (eok, started)) =
          (sink'.onPush element started).map (fun started => (eok, started)) ∧
        ∀ emitted, (sink.onPush element started).map (fun started => (eok, started)) = .ok emitted →
          holds emitted.2.world := by
    obtain ⟨same, kept⟩ := agree.onPush element started good
    rw [← same]
    refine ⟨rfl, fun emitted done => ?_⟩
    obtain ⟨after, pushes, rfl⟩ := Foundation.map_eq_ok done
    exact kept after pushes
  unfold outletEmit
  by_cases spent : started.requested ≤ 0
  · rw [if_pos spent, if_pos spent]
    refine ⟨rfl, ?_⟩
    rintro _ ⟨⟩
    exact good
  · rw [if_neg spent, if_neg spent]
    by_cases limited : started.requested ≠ longMax
    · rw [if_pos limited]
      exact pushed (started.withRequested (started.requested - 1)) good
    · rw [if_neg limited]
      exact pushed started good

/-- Completions of sinks that agree. -/
theorem agree_outletComplete {sink sink' : SinkLogic World Element Failure}
    (agree : AgreeSink holds sink sink') :
    Agree holds (outletComplete sink) (outletComplete sink') := by
  intro started good
  unfold outletComplete
  by_cases closed : started.requested = longMin
  · rw [if_pos closed, if_pos closed]
    exact agree_ok id (fun _ good => good) started good
  · rw [if_neg closed, if_neg closed]
    exact agree.onUpstreamFinish (started.withRequested longMin) good

end

/-! ## Count sources that agree -/

section

variable {Wires : Type} {start stop : Int} {box box' : Int → Element}

/-- The source has not counted back. -/
def CountsFrom (start : Int) (world : FlowWorld Wires Element) : Prop := start ≤ world.count

/-- The elements made of the numbers that are counted. -/
def SameElements (start stop : Int) (box box' : Int → Element) : Prop :=
  ∀ index, start ≤ index → index < stop → box index = box' index

section

variable {pull pull' : Int → Action (FlowWorld Wires Element)}
  {cancel cancel' : Action (FlowWorld Wires Element)}

/-- The code of a user sink over calls that agree. -/
theorem agree_run (pulls : ∀ n, Agree (CountsFrom start) (pull n) (pull' n))
    (cancels : Agree (CountsFrom start) cancel cancel') (program : SinkProgram Element) :
    Agree (CountsFrom start) (program.run pull cancel) (program.run pull' cancel') := by
  induction program with
  | done => exact agree_ok id fun _ good => good
  | pull n next ih =>
      intro started good
      have rest : Agree (CountsFrom start)
          (fun started => (next started.world.events).run pull cancel started)
          (fun started => (next started.world.events).run pull' cancel' started) :=
        fun after good => ih after.world.events after good
      exact (pulls n.val).bind rest (started.noted (.pull n)) good
  | cancel next ih =>
      intro started good
      have rest : Agree (CountsFrom start)
          (fun started => (next started.world.events).run pull cancel started)
          (fun started => (next started.world.events).run pull' cancel' started) :=
        fun after good => ih after.world.events after good
      unfold SinkProgram.run
      by_cases before : started.world.events.any FlowEvent.isCancel = true
      · rw [if_pos before, if_pos before]
        exact ih started.world.events started good
      · rw [if_neg before, if_neg before]
        exact cancels.bind rest (started.noted .cancel) good

/-- The first callbacks of user sinks whose calls agree. -/
theorem agree_onConnect (pulls : ∀ n, Agree (CountsFrom start) (pull n) (pull' n))
    (cancels : Agree (CountsFrom start) cancel cancel') (code : SinkCode Element) :
    Agree (CountsFrom start) (code.createLogic pull cancel).onConnect
      (code.createLogic pull' cancel').onConnect :=
  fun started good => agree_run pulls cancels code.onConnect (started.noted .onConnect) good

/-- The callbacks of user sinks whose calls agree. -/
theorem agree_createLogic (pulls : ∀ n, Agree (CountsFrom start) (pull n) (pull' n))
    (cancels : Agree (CountsFrom start) cancel cancel') (code : SinkCode Element) :
    AgreeSink (CountsFrom start) (code.createLogic pull cancel) (code.createLogic pull' cancel') where
  onPush element started good :=
    agree_run pulls cancels (code.onPush element (started.noted (.onPush element)).world.events)
      (started.noted (.onPush element)) good
  onUpstreamFinish := agree_ok (fun started => started.noted .onUpstreamFinish) fun _ good => good

end

/-- Scheduled sinks over sources that agree. -/
theorem agree_directSink {source source' : SourceLogic (FlowWorld Unit Element)}
    (agree : AgreeSource (CountsFrom start) source source') (code : SinkCode Element) (rounds : Nat) :
    AgreeSink (CountsFrom start) (directSink code rounds source) (directSink code rounds source') :=
  agree_createLogic (agree_pipelineInletPull agree rounds) (agree_pipelineInletCancel agree) code

/-- The loop looks at the elements of the numbers it counts, and counts on. -/
theorem agree_countOnPullLoop {sink sink' : SinkLogic (FlowWorld Wires Element) Element Empty}
    (same : SameElements start stop box box') (agree : AgreeSink (CountsFrom start) sink sink')
    (n : Nat) :
    Agree (CountsFrom start) (countOnPullLoop box stop sink n)
      (countOnPullLoop box' stop sink' n) := by
  induction n with
  | zero => exact agree_ok id fun _ good => good
  | succ n ih =>
      intro started good
      unfold countOnPullLoop
      by_cases ended : stop ≤ started.world.count
      · rw [if_pos ended, if_pos ended]
        exact agree_outletComplete agree started good
      · have counted : CountsFrom start started.counted.world := by
          have before : start ≤ started.world.count := good
          change start ≤ started.world.count + 1
          omega
        rw [if_neg ended, if_neg ended, ← same started.world.count good (Int.not_le.mp ended)]
        obtain ⟨equal, kept⟩ :=
          agree_outletEmit agree (box started.world.count) started.counted counted
        rw [← equal]
        cases emitted : outletEmit sink (box started.world.count) started.counted with
        | error fault => exact agree_error fault started good
        | ok after => exact ih after.2 (kept after emitted)

/-- Count sources that box the same elements agree on every depth of the stack. -/
theorem agree_countLogic
    {sinkLogic : SourceLogic (FlowWorld Wires Element) →
      SinkLogic (FlowWorld Wires Element) Element Empty}
    (same : SameElements start stop box box')
    (agree : ∀ source source', AgreeSource (CountsFrom start) source source' →
      AgreeSink (CountsFrom start) (sinkLogic source) (sinkLogic source')) (depth : Nat) :
    AgreeSource (CountsFrom start) (countLogic box stop sinkLogic depth)
      (countLogic box' stop sinkLogic depth) := by
  induction depth with
  | zero => exact ⟨fun _ => agree_error .diverge, agree_error .diverge⟩
  | succ depth ih =>
      refine ⟨fun n started good => ?_, ?_⟩
      · exact agree_countOnPullLoop same (agree _ _ ih) n.toNat (started.noted (.onPull n)) good
      · exact agree_ok (fun started => started.noted .onDownstreamFinish) fun _ good => good

/-- A pipeline does the same where its source makes the same elements. -/
theorem directStart_congr (same : SameElements start stop box box') (code : SinkCode Element)
    (depth rounds : Nat) :
    directStart box start stop code depth rounds = directStart box' start stop code depth rounds := by
  have agree : AgreeSource (CountsFrom start) (directSource box stop code depth rounds)
      (directSource box' stop code depth rounds) :=
    agree_countLogic same (fun _ _ agree => agree_directSink agree code rounds) depth
  exact (agree_onConnect (agree_pipelineInletPull agree rounds) (agree_pipelineInletCancel agree)
    code ⟨Link.fresh, ⟨(), start, []⟩⟩ (Int.le_refl start)).1

end

/-! ## Pipelines of mappings -/

section

variable {start stop : Int} {box box' : Int → Element}

/-- What can be seen of a pipeline that has been started: what was returned, and its log. -/
def seen (result : Except Fault (Int × Started (FlowWorld Wiring Element))) :
    Except Fault (Int × List (FlowEvent Element)) :=
  result.map fun returned => (returned.1, returned.2.world.events)

/-- What a split pipeline shows is what its sink shows when the source boxes mapped elements. -/
theorem seen_splitPipeline (code : SinkCode Element) (mappings : List (Element → Element))
    (split depth rounds : Nat) :
    seen ((splitPipeline box start stop code mappings split).start depth rounds) =
      (directStart (mapped mappings ∘ box) start stop code depth rounds).map fun started =>
        (eok, started.world.events) := by
  obtain ⟨wires, starts⟩ := start_splitPipeline code mappings split box start stop
  rw [starts, seen]
  cases directStart (mapped mappings ∘ box) start stop code depth rounds <;> rfl

/-- Streams of the same elements are made of the same elements. -/
theorem sameElements_of_supplyOf (same : supplyOf box start stop = supplyOf box' start stop) :
    SameElements start stop box box' := by
  intro index above below
  have inside : (index - start).toNat < (stop - start).toNat := by omega
  have entry (box : Int → Element) :
      (supplyOf box start stop)[(index - start).toNat]? = some (box index) := by
    have place : start + ((index - start).toNat : Int) = index := by omega
    rw [supplyOf, List.getElem?_map, List.getElem?_range inside, Option.map_some, place]
  have first := entry box
  rw [same, entry box'] at first
  exact (Option.some.inj first).symm

end

/-- **Mappings fuse.** Two pipelines of a count source and mappings, attached wherever you like, look
the same to every sink, on every stack and with any number of rounds, exactly if they make the same
elements of the numbers that are counted. -/
theorem pipelines_same_iff (box box' : Int → Element) (start stop : Int)
    (first second : List (Element → Element)) :
    (∀ code split split' depth rounds,
        seen ((splitPipeline box start stop code first split).start depth rounds) =
          seen ((splitPipeline box' start stop code second split').start depth rounds)) ↔
      ∀ index, start ≤ index → index < stop →
        mapped first (box index) = mapped second (box' index) := by
  constructor
  · intro alike
    refine sameElements_of_supplyOf ?_
    obtain ⟨enough, after, rest, starts⟩ :=
      start_settles box start stop first (fun _ => Nat.one_pos) fun _ : True => sinkForeach_hungry
    obtain ⟨enough', after', rest', starts'⟩ :=
      start_settles box' start stop second (fun _ => Nat.one_pos) fun _ : True => sinkForeach_hungry
    obtain ⟨wires, starts⟩ := starts 0
    obtain ⟨wires', starts'⟩ := starts' 0
    have logs := alike sinkForeach 0 0 2 (enough + enough')
    rw [starts 0 enough', Nat.add_comm enough enough', starts' 0 enough] at logs
    have events : after.world.events = after'.world.events :=
      congrArg Prod.snd (Except.ok.inj logs)
    have told := rest.exhausts
    rw [events, rest'.exhausts] at told
    have pushes := List.append_cancel_right (List.cons.inj told).2
    exact (List.map_injective_iff.mpr (fun _ _ => FlowEvent.onPush.inj) pushes).symm
  · intro same code split split' depth rounds
    have alike : SameElements start stop (mapped first ∘ box) (mapped second ∘ box') := same
    rw [seen_splitPipeline, seen_splitPipeline, directStart_congr alike]

end Sas.Rxc
