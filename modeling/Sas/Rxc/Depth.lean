import Sas.Rxc.Meaning

/-! # How deep a pipeline calls

A sink that pulls from within `on_push` calls the source that is calling it. Connected directly, the
source and the sink call each other once more for every element, so the stack grows with the stream.
Started by `rxc_pipeline_start`, the pull is left to the trampoline, and the stack holds one callback of
the source at a time.
-/

namespace Sas.Rxc

open Foundation

variable {Element : Type}

/-- `connect` of a count source with a sink that no scheduler wraps. -/
def unscheduledStart (box : Int → Element) (start stop : Int) (code : SinkCode Element)
    (depth rounds : Nat) : Except Fault (Started (FlowWorld Wiring Element)) :=
  countConnect box start stop depth rounds (.user code)

section

variable {box : Int → Element} {start stop : Int} {depth rounds : Nat}
  {started : Started (FlowWorld Wiring Element)}

/-- The logic of a sink that is connected directly. -/
def unscheduledSink (code : SinkCode Element) (rounds : Nat)
    (source : SourceLogic (FlowWorld Wiring Element)) :
    SinkLogic (FlowWorld Wiring Element) Element Empty :=
  (SinkStage.user code).createLogic source rounds 0

/-- A count source over a sink that is connected directly. -/
def unscheduledSource (box : Int → Element) (stop : Int) (code : SinkCode Element) (depth rounds : Nat) :
    SourceLogic (FlowWorld Wiring Element) :=
  countLogic box stop (unscheduledSink code rounds) depth

/-- The pipeline before its sink has been connected. -/
def unscheduledFresh (start : Int) : Started (FlowWorld Wiring Element) :=
  ⟨⟨connectionCreate, none, schedulerCreateWorker⟩,
    ⟨Function.update (fun _ => none) 0 (some .connection), start, []⟩⟩

theorem one_le_longMax : ((1 : Nat) : Int) ≤ longMax := by
  decide

/-- One element. -/
def Amount.one : Amount where
  val := 1
  positive := Nat.one_pos
  bounded := one_le_longMax

/-- The pipeline waits for its sink to pull. -/
structure Waits (started : Started (FlowWorld Wiring Element)) : Prop where
  requested : started.requested = 0
  wired : started.world.wires 0 = some .connection

/-- The signals behind those of the log tell these elements and the end. -/
def Tells (elements : List Element) (before after : List (FlowEvent Element)) : Prop :=
  signalsIn after = signalsIn before ++ (elements.map .onPush ++ [.onUpstreamFinish])

/-- A count source that starts where it stops has nothing to supply. -/
theorem supplyOf_nil (done : stop ≤ start) : supplyOf box start stop = [] := by
  have none : (stop - start).toNat = 0 := Int.toNat_of_nonpos (by omega)
  rw [supplyOf, none]
  rfl

/-- A count source supplies the element it stands at, and then what comes behind it. -/
theorem supplyOf_cons (more : start < stop) :
    supplyOf box start stop = box start :: supplyOf box (start + 1) stop := by
  have count : (stop - start).toNat = (stop - (start + 1)).toNat + 1 := by omega
  rw [supplyOf, supplyOf, count, List.range_succ_eq_map, List.map_cons, List.map_map]
  refine congrArg₂ _ (congrArg box (Int.add_zero start)) (List.map_congr_left fun index _ => ?_)
  refine congrArg box ?_
  change start + ((index + 1 : Nat) : Int) = start + 1 + index
  omega

/-- The pipeline when the source has been asked for one element. -/
def askedOne (started : Started (FlowWorld Wiring Element)) : Started (FlowWorld Wiring Element) :=
  ((started.noted (.pull .one)).withRequested 1).noted (.onPull 1)

/-- A pull for one element reaches the source. -/
theorem unscheduled_pull (waits : Waits started) :
    inletPull (unscheduledSource box stop sinkForeach (depth + 1) rounds) rounds 0 1
        (started.noted (.pull .one)) =
      countOnPullLoop box stop
        (unscheduledSink sinkForeach rounds (unscheduledSource box stop sinkForeach depth rounds)) 1
        (askedOne started) := by
  have wired : (started.noted (.pull .one)).world.wires 0 =
      some .connection := waits.wired
  have requested : (started.noted (.pull .one)).requested = 0 :=
    waits.requested
  have opened : (started.noted (.pull .one)).requested ≠ longMin := by
    rw [requested]
    decide
  have one : demandAfter 0 1 = 1 := by decide
  unfold inletPull
  rw [wired]
  dsimp only
  rw [connectionInletPull_of_ne _ _ opened, requested, one]
  rfl

/-- Without room on the stack the source cannot be called. -/
theorem unscheduled_overflows (waits : Waits started) :
    inletPull (unscheduledSource box stop sinkForeach 0 rounds) rounds 0 1
      (started.noted (.pull .one)) = .error .diverge := by
  have wired : (started.noted (.pull .one)).world.wires 0 =
      some .connection := waits.wired
  have opened : (started.noted (.pull .one)).requested ≠ longMin := by
    change started.requested ≠ longMin
    rw [waits.requested]
    decide
  unfold inletPull
  rw [wired]
  dsimp only
  rw [connectionInletPull_of_ne _ _ opened]
  rfl

/-- The pipeline when the sink is pushed an element by a source that has been asked for one. -/
def pushedOne (box : Int → Element) (started : Started (FlowWorld Wiring Element)) :
    Started (FlowWorld Wiring Element) :=
  ((askedOne started).counted.withRequested 0).noted (.onPush (box started.world.count))

/-- A source that has an element left pushes it, and the sink pulls the next one from there. -/
theorem unscheduled_pushes (waits : Waits started) (more : started.world.count < stop) :
    inletPull (unscheduledSource box stop sinkForeach (depth + 1) rounds) rounds 0 1
        (started.noted (.pull .one)) =
      inletPull (unscheduledSource box stop sinkForeach depth rounds) rounds 0 1
        ((pushedOne box started).noted (.pull .one)) := by
  have left : ¬ stop ≤ (askedOne started).world.count := by
    change ¬ stop ≤ started.world.count
    omega
  have emits : outletEmit
      (unscheduledSink sinkForeach rounds (unscheduledSource box stop sinkForeach depth rounds))
      (box started.world.count) (askedOne started).counted =
      (inletPull (unscheduledSource box stop sinkForeach depth rounds) rounds 0 1
        ((pushedOne box started).noted (.pull .one))).map
          fun started => (eok, started) := by
    have demanded : ¬ (askedOne started).counted.requested ≤ 0 := Int.not_le.mpr Int.one_pos
    have bounded : (askedOne started).counted.requested ≠ longMax := by
      change (1 : Int) ≠ longMax
      decide
    rw [outletEmit, if_neg demanded, if_pos bounded]
    change ((inletPull (unscheduledSource box stop sinkForeach depth rounds) rounds 0 1
      ((pushedOne box started).noted (.pull .one))).bind .ok).map _ = _
    cases inletPull (unscheduledSource box stop sinkForeach depth rounds) rounds 0 1
      ((pushedOne box started).noted (.pull .one)) <;> rfl
  rw [unscheduled_pull waits, countOnPullLoop, if_neg left]
  change (outletEmit _ (box started.world.count) _).bind _ = _
  rw [emits]
  cases inletPull (unscheduledSource box stop sinkForeach depth rounds) rounds 0 1
    ((pushedOne box started).noted (.pull .one)) <;> rfl

/-- A source that has nothing left ends the stream. -/
theorem unscheduled_ends (waits : Waits started) (done : stop ≤ started.world.count) :
    ∃ after, inletPull (unscheduledSource box stop sinkForeach (depth + 1) rounds) rounds 0 1
        (started.noted (.pull .one)) = .ok after ∧
      Tells [] started.world.events after.world.events := by
  have ended : stop ≤ (askedOne started).world.count := done
  have opened : (askedOne started).requested ≠ longMin := by
    change (1 : Int) ≠ longMin
    decide
  refine ⟨((askedOne started).withRequested longMin).noted .onUpstreamFinish, ?_, ?_⟩
  · rw [unscheduled_pull waits, countOnPullLoop, if_pos ended, outletComplete, if_neg opened]
    rfl
  · have pulled := @signalsIn_quiet Element started.world.events _
      (.pull .one) rfl rfl
    exact signalsIn_signal .onUpstreamFinish (signalsIn_quiet (.onPull 1) pulled rfl) rfl

/-- **A pull nests.** It needs one callback of the source on the stack for every element that is left,
and one for the end. -/
theorem unscheduled_nests (left : Nat) : ∀ depth (started : Started (FlowWorld Wiring Element)),
    Waits started → (stop - started.world.count).toNat = left →
    (depth ≤ left → inletPull (unscheduledSource box stop sinkForeach depth rounds) rounds 0 1
      (started.noted (.pull .one)) = .error .diverge) ∧
    (left < depth → ∃ after,
      inletPull (unscheduledSource box stop sinkForeach depth rounds) rounds 0 1
        (started.noted (.pull .one)) = .ok after ∧
      Tells (supplyOf box started.world.count stop) started.world.events after.world.events) := by
  induction left with
  | zero =>
      intro depth started waits none
      have done : stop ≤ started.world.count := by omega
      cases depth with
      | zero => exact ⟨fun _ => unscheduled_overflows waits, fun below => (Nat.lt_irrefl 0 below).elim⟩
      | succ depth =>
          rw [supplyOf_nil done]
          exact ⟨fun deep => (Nat.not_succ_le_zero depth deep).elim,
            fun _ => unscheduled_ends waits done⟩
  | succ left ih =>
      intro depth started waits some
      have more : started.world.count < stop := by omega
      cases depth with
      | zero => exact ⟨fun _ => unscheduled_overflows waits, fun below => (Nat.not_lt_zero _ below).elim⟩
      | succ depth =>
          have waits' : Waits (pushedOne box started) := ⟨rfl, waits.wired⟩
          have left' : (stop - (pushedOne box started).world.count).toNat = left := by
            change (stop - (started.world.count + 1)).toNat = left
            omega
          obtain ⟨overflows, ends⟩ := ih depth (pushedOne box started) waits' left'
          rw [unscheduled_pushes waits more]
          refine ⟨fun deep => overflows (Nat.succ_le_succ_iff.mp deep), fun below => ?_⟩
          obtain ⟨after, done, tells⟩ := ends (Nat.succ_lt_succ_iff.mp below)
          refine ⟨after, done, ?_⟩
          have pulled := @signalsIn_quiet Element started.world.events _
            (.pull .one) rfl rfl
          have pushed : signalsIn (pushedOne box started).world.events =
              signalsIn started.world.events ++ [.onPush (box started.world.count)] :=
            signalsIn_signal _ (signalsIn_quiet (.onPull 1) pulled rfl) rfl
          rw [Tells, pushed] at tells
          rw [Tells, tells, supplyOf_cons more, List.map_cons, List.append_assoc]
          rfl

end

/-- Connecting the sink makes it pull. -/
theorem unscheduledStart_eq (box : Int → Element) (start stop : Int) (depth rounds : Nat) :
    unscheduledStart box start stop sinkForeach depth rounds =
      inletPull (unscheduledSource box stop sinkForeach depth rounds) rounds 0 1
        (((unscheduledFresh start).noted .onConnect).noted (.pull .one)) := by
  change (inletPull (unscheduledSource box stop sinkForeach depth rounds) rounds 0 1
    (((unscheduledFresh start).noted .onConnect).noted (.pull .one))).bind .ok = _
  cases inletPull (unscheduledSource box stop sinkForeach depth rounds) rounds 0 1
    (((unscheduledFresh start).noted .onConnect).noted (.pull .one)) <;> rfl

/-- Without room on the stack a pipeline cannot be started: the first pull does not reach the source. -/
theorem directStart_overflows (box : Int → Element) (start stop : Int) (rounds : Nat) :
    directStart box start stop sinkForeach 0 rounds = .error .diverge := by
  have pulls : directStart box start stop sinkForeach 0 rounds =
      (pipelineInletPull (directSource box stop sinkForeach 0 rounds) rounds 1
        (((⟨Link.fresh, ⟨(), start, []⟩⟩ : Started (FlowWorld Unit Element)).noted .onConnect).noted
          (.pull .one))).bind .ok := rfl
  have overflows : workerDrain (pipelineExecutor (directSource box stop sinkForeach 0 rounds)) rounds
      ((((⟨Link.fresh, ⟨(), start, []⟩⟩ : Started (FlowWorld Unit Element)).noted .onConnect).noted
        (.pull .one)).withWorker ⟨[1], true⟩) = .error .diverge := by
    cases rounds with
    | zero => rfl
    | succ rounds => rfl
  rw [pulls, pipelineInletPull_parent _ _ rfl, workerSchedule_idle _ _ rfl, overflows]
  rfl

/-- **The trampoline bounds the stack.** Connected directly, a count source and a sink that hands every
element to a callback and pulls the next one need room on the stack for one callback of the source more
than there are elements, and overflow it with any less. Started by `rxc_pipeline_start` with enough
rounds, they need room for one, however many elements there are. Both ways the sink is told the same:
all elements in order, and the end. -/
theorem trampoline_bounds_stack (box : Int → Element) (start stop : Int) :
    (∀ depth rounds, (depth ≤ (stop - start).toNat →
        unscheduledStart box start stop sinkForeach depth rounds = .error .diverge) ∧
      ((stop - start).toNat < depth → ∃ after,
        unscheduledStart box start stop sinkForeach depth rounds = .ok after ∧
        signalsIn after.world.events =
          .onConnect :: ((supplyOf box start stop).map .onPush ++ [.onUpstreamFinish]))) ∧
    (∀ rounds, (sourceTo (.count box start stop) (.user sinkForeach)).start 0 rounds =
      .error .diverge) ∧
    ∃ enough after, (∀ depth more, (sourceTo (.count box start stop) (.user sinkForeach)).start
        (depth + 1) (enough + more) = .ok (eok, after)) ∧
      signalsIn after.world.events =
        .onConnect :: ((supplyOf box start stop).map .onPush ++ [.onUpstreamFinish]) := by
  refine ⟨fun depth rounds => ?_, fun rounds => ?_, ?_⟩
  · have waits : Waits ((unscheduledFresh start : Started (FlowWorld Wiring Element)).noted
        .onConnect) := ⟨rfl, rfl⟩
    rw [unscheduledStart_eq]
    exact unscheduled_nests (stop - start).toNat depth _ waits rfl
  · obtain ⟨wires, starts⟩ := start_splitPipeline sinkForeach [] 0 box start stop
    have split := starts 0 rounds
    rw [directStart_overflows] at split
    exact split
  · have roomy : ¬ True → 0 < 0 := fun never => (never trivial).elim
    obtain ⟨enough, after, rest, starts⟩ :=
      start_settles box start stop [] roomy fun _ : True => sinkForeach_hungry
    obtain ⟨wires, starts⟩ := starts 0
    exact ⟨enough, after.rewired wires, starts, rest.exhausts⟩

end Sas.Rxc
