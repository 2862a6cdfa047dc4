import Sas.Rxc.Pipeline

/-! # One pipeline seen in another

The library looks at the link of a pipeline only, and hands the world to the callbacks. So two
pipelines whose worlds are related by a map do the same, seen through the map, as soon as their
callbacks do.
-/

namespace Sas.Rxc

variable {World World' Element Failure : Type}

/-- The pipeline with its world taken to another. -/
def Started.through (view : World → World') (started : Started World) : Started World' :=
  ⟨started.link, view started.world⟩

/-- Through the map, the second action does what the first does. -/
def Mirrors (view : World → World') (action : Action World) (action' : Action World') : Prop :=
  ∀ started, action' (started.through view) = (action started).map (Started.through view)

/-- Through the map, the callbacks of the second source do what those of the first do. -/
structure MirrorsSource (view : World → World') (source : SourceLogic World)
    (source' : SourceLogic World') : Prop where
  onPull : ∀ n, Mirrors view (source.onPull n) (source'.onPull n)
  onDownstreamFinish : Mirrors view source.onDownstreamFinish source'.onDownstreamFinish

/-- Through the map, a sink that gets elements does what another does that gets these elements
mapped. -/
structure MirrorsSink (view : World → World') (mapping : Element → Element)
    (sink : SinkLogic World Element Failure) (sink' : SinkLogic World' Element Failure) :
    Prop where
  onPush : ∀ element, Mirrors view (sink.onPush (mapping element)) (sink'.onPush element)
  onUpstreamFinish : Mirrors view sink.onUpstreamFinish sink'.onUpstreamFinish

section

variable {view : World → World'} {source : SourceLogic World} {source' : SourceLogic World'}
  {first second : Action World} {first' second' : Action World'}

/-- Two results in a row. -/
theorem map_through_bind {result : Except Fault (Started World)} {next : Action World}
    {next' : Action World'} (mirrors : Mirrors view next next') :
    (result.map (Started.through view)).bind next' =
      (result.bind next).map (Started.through view) := by
  cases result with
  | error fault => rfl
  | ok started => exact mirrors started

/-- Actions that mirror each other one after the other do so as one. -/
theorem Mirrors.bind (earlier : Mirrors view first first') (later : Mirrors view second second') :
    Mirrors view (fun started => (first started).bind second)
      (fun started => (first' started).bind second') := by
  intro started
  dsimp only
  rw [earlier started]
  exact map_through_bind later

/-! ## The connection -/

/-- Pulls on connections to mirrored sources. -/
theorem mirrors_connectionInletPull (mirrors : MirrorsSource view source source') (n : Int) :
    Mirrors view (connectionInletPull source n) (connectionInletPull source' n) := by
  intro started
  have same : (started.through view).requested = started.requested := rfl
  by_cases closed : started.requested = longMin
  · rw [connectionInletPull_closed source n closed,
      connectionInletPull_closed source' n (same.trans closed)]
    rfl
  · rw [connectionInletPull_of_ne source n closed,
      connectionInletPull_of_ne source' n (same.symm ▸ closed)]
    exact mirrors.onPull n (started.withRequested (demandAfter started.requested n))

/-- Cancellations of connections to mirrored sources. -/
theorem mirrors_connectionInletCancel (mirrors : MirrorsSource view source source') :
    Mirrors view (connectionInletCancel source) (connectionInletCancel source') := by
  intro started
  have same : (started.through view).requested = started.requested := rfl
  unfold connectionInletCancel
  rw [same]
  by_cases closed : started.requested = longMin
  · rw [if_pos closed, if_pos closed]
    rfl
  · rw [if_neg closed, if_neg closed]
    exact mirrors.onDownstreamFinish (started.withRequested longMin)

section

variable {mapping : Element → Element} {sink : SinkLogic World Element Failure}
  {sink' : SinkLogic World' Element Failure}

/-- An emission to a sink is the emission of the mapped element to its mirror. -/
theorem mirrors_outletEmit (mirrors : MirrorsSink view mapping sink sink') (element : Element)
    (started : Started World) :
    outletEmit sink' element (started.through view) =
      (outletEmit sink (mapping element) started).map fun emitted =>
        (emitted.1, emitted.2.through view) := by
  have pushed (started : Started World) :
      (sink'.onPush element (started.through view)).map (fun started => (eok, started)) =
        ((sink.onPush (mapping element) started).map fun started => (eok, started)).map
          fun emitted => (emitted.1, emitted.2.through view) := by
    rw [mirrors.onPush element started]
    cases sink.onPush (mapping element) started <;> rfl
  have same : (started.through view).requested = started.requested := rfl
  unfold outletEmit
  rw [same]
  by_cases spent : started.requested ≤ 0
  · rw [if_pos spent, if_pos spent]
    rfl
  · rw [if_neg spent, if_neg spent]
    by_cases limited : started.requested ≠ longMax
    · rw [if_pos limited, if_pos limited]
      exact pushed (started.withRequested (started.requested - 1))
    · rw [if_neg limited, if_neg limited]
      exact pushed started

/-- Completions of mirrored sinks. -/
theorem mirrors_outletComplete (mirrors : MirrorsSink view mapping sink sink') :
    Mirrors view (outletComplete sink) (outletComplete sink') := by
  intro started
  have same : (started.through view).requested = started.requested := rfl
  unfold outletComplete
  rw [same]
  by_cases closed : started.requested = longMin
  · rw [if_pos closed, if_pos closed]
    rfl
  · rw [if_neg closed, if_neg closed]
    exact mirrors.onUpstreamFinish (started.withRequested longMin)

end

/-! ## The scheduler -/

section

variable {runnable : Int → Action World} {runnable' : Int → Action World'}

/-- Two workers do the same if their tasks do. -/
theorem mirrors_workerDrain (mirrors : ∀ task, Mirrors view (runnable task) (runnable' task))
    (rounds : Nat) : Mirrors view (workerDrain runnable rounds) (workerDrain runnable' rounds) := by
  induction rounds with
  | zero => exact fun _ => rfl
  | succ rounds ih =>
      intro started
      have same : (started.through view).link = started.link := rfl
      unfold workerDrain
      rw [same]
      cases workerDequeue started.link.worker with
      | none => rfl
      | some taken => exact (mirrors taken.1).bind ih (started.withWorker taken.2)

/-- Schedulings of mirrored tasks. -/
theorem mirrors_workerSchedule (mirrors : ∀ task, Mirrors view (runnable task) (runnable' task))
    (rounds : Nat) (task : Int) :
    Mirrors view (workerSchedule runnable rounds task) (workerSchedule runnable' rounds task) := by
  intro started
  have same : (started.through view).link = started.link := rfl
  unfold workerSchedule
  dsimp only
  rw [same]
  by_cases busy : (workerEnqueue task started.link.worker).wip = true
  · rw [if_pos busy, if_pos busy]
    rfl
  · rw [if_neg busy, if_neg busy]
    have drained := mirrors_workerDrain mirrors rounds
      (started.withWorker { workerEnqueue task started.link.worker with wip := true })
    change (workerDrain runnable' rounds ((started.withWorker _).through view)).bind _ = _
    rw [drained]
    cases workerDrain runnable rounds
      (started.withWorker { workerEnqueue task started.link.worker with wip := true }) <;> rfl

end

/-- Deferred pulls to mirrored sources. -/
theorem mirrors_pipelineInletPull (mirrors : MirrorsSource view source source') (rounds : Nat)
    (n : Int) :
    Mirrors view (pipelineInletPull source rounds n) (pipelineInletPull source' rounds n) := by
  intro started
  have same : (started.through view).link = started.link := rfl
  unfold pipelineInletPull
  rw [same]
  cases started.link.inlet with
  | none => rfl
  | some inlet =>
      cases inlet with
      | mk parent =>
          cases parent with
          | false => rfl
          | true =>
              exact mirrors_workerSchedule (mirrors_connectionInletPull mirrors) rounds n started

/-- Cancellations of the scheduling inlet over mirrored sources. -/
theorem mirrors_pipelineInletCancel (mirrors : MirrorsSource view source source') :
    Mirrors view (pipelineInletCancel source) (pipelineInletCancel source') := by
  intro started
  have same : (started.through view).link = started.link := rfl
  unfold pipelineInletCancel
  rw [same]
  cases started.link.inlet with
  | none => rfl
  | some inlet =>
      cases inlet with
      | mk parent =>
          cases parent with
          | false => rfl
          | true =>
              exact mirrors_connectionInletCancel mirrors
                { started with link := { started.link with inlet := some ⟨false⟩ } }

end

end Sas.Rxc
