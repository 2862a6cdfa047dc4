import Sas.Rxc.Pipeline

/-! # Sources, flows and sinks

The stages pipelines are made of (`wrapper.c`, `map.c`, `count.c`, `foreach.c`, `pipeline.c`). A
flow wraps a sink, either the sink it is attached to or, when it is attached to a source, the sink
that source is connected to. Since `rxc_pipeline_start` wraps the sink of the pipeline in the
scheduler before it connects the source, the wrappers of flows attached to the source come outside
the scheduler and those of flows attached to the sink inside. Every sink logic has an `in` of its
own, and a pull goes where the `in` of the logic that makes it leads.
-/

namespace Sas.Rxc

/-- What a sink pulls: a positive `long`. -/
structure Amount where
  val : Nat
  positive : 0 < val
  bounded : (val : Int) ≤ longMax

/-- What happens at the two ends of a pipeline. -/
inductive FlowEvent (Element : Type) where
  | onConnect
  | onPush (element : Element)
  | onUpstreamFinish
  | onPull (n : Int)
  | onDownstreamFinish
  /-- The sink calls `rxc_inlet_pull`. -/
  | pull (n : Amount)
  /-- The sink calls `rxc_inlet_cancel`. -/
  | cancel

/-- What the `in` of a sink logic refers to: the inlet of the connection, or the one that schedules
what it passes on. -/
inductive Inlet where
  | connection
  | scheduler
  deriving DecidableEq, Repr

/-- The `in` of every sink logic, by its place in the chain that starts at the connection. -/
abbrev Wiring : Type := Nat → Option Inlet

/-- What the callbacks of a pipeline act on: the `in`s of its sink logics, the `count` of its source
logic, and a log of its ends. -/
structure FlowWorld (Wires Element : Type) where
  wires : Wires
  count : Int
  events : List (FlowEvent Element)

variable {Wires Element : Type}

/-- The pipeline once an event has been noted. -/
def Started.noted (started : Started (FlowWorld Wires Element)) (event : FlowEvent Element) :
    Started (FlowWorld Wires Element) :=
  { started with world := { started.world with events := started.world.events ++ [event] } }

/-- `self->count++`. -/
def Started.counted (started : Started (FlowWorld Wires Element)) :
    Started (FlowWorld Wires Element) :=
  { started with world := { started.world with count := started.world.count + 1 } }

/-- `logic->in = in`. -/
def Started.withIn (started : Started (FlowWorld Wiring Element)) (place : Nat)
    (inlet : Option Inlet) : Started (FlowWorld Wiring Element) :=
  { started with
    world := { started.world with wires := Function.update started.world.wires place inlet } }

/-! ## The code of a sink -/

/-- What a callback of a sink does: pulls and cancellations, each chosen after all that has happened
by then. -/
inductive SinkProgram (Element : Type) where
  | done
  | pull (n : Amount) (next : List (FlowEvent Element) → SinkProgram Element)
  | cancel (next : List (FlowEvent Element) → SinkProgram Element)

/-- The code of a sink: what it does in `on_connect`, and in `on_push` with an element and all that
has happened by then. -/
structure SinkCode (Element : Type) where
  onConnect : SinkProgram Element
  onPush : Element → List (FlowEvent Element) → SinkProgram Element

/-- The event is a cancellation of the sink. -/
def FlowEvent.isCancel : FlowEvent Element → Bool
  | .cancel => true
  | _ => false

/-- Run the code of a sink over the operations of its inlet. -/
def SinkProgram.run (pull : Int → Action (FlowWorld Wires Element))
    (cancel : Action (FlowWorld Wires Element)) :
    SinkProgram Element → Action (FlowWorld Wires Element)
  | .done, started => .ok started
  | .pull n next, started =>
      (pull n.val (started.noted (.pull n))).bind fun started =>
        (next started.world.events).run pull cancel started
  | .cancel next, started =>
      -- a sink cancels at most once
      if started.world.events.any FlowEvent.isCancel then
        (next started.world.events).run pull cancel started
      else
        (cancel (started.noted .cancel)).bind fun started =>
          (next started.world.events).run pull cancel started

/-- The logic of a sink with this code. No source of these pipelines fails. -/
def SinkCode.createLogic (code : SinkCode Element)
    (pull : Int → Action (FlowWorld Wires Element)) (cancel : Action (FlowWorld Wires Element)) :
    SinkLogic (FlowWorld Wires Element) Element Empty where
  onConnect started := code.onConnect.run pull cancel (started.noted .onConnect)
  onPush element started :=
    (code.onPush element (started.noted (.onPush element)).world.events).run pull cancel
      (started.noted (.onPush element))
  onUpstreamFinish started := .ok (started.noted .onUpstreamFinish)
  onUpstreamFailure := Empty.elim

/-- `rxc_sink_foreach`: it pulls one element when it is connected and one after every element it has
handed to its callback. -/
def sinkForeach : SinkCode Element where
  onConnect := .pull ⟨1, by decide, by decide⟩ fun _ => .done
  onPush _ _ := .pull ⟨1, by decide, by decide⟩ fun _ => .done

/-! ## Sinks -/

/-- `struct rxc_sink`, with whether a scheduler is among the wrappers: only `rxc_pipeline_start`
wraps a sink in one. -/
inductive SinkStage (Element : Type) : Bool → Type where
  | user (code : SinkCode Element) : SinkStage Element false
  /-- `struct rxc_sink_map`. -/
  | map {scheduled : Bool} (inner : SinkStage Element scheduled) (mapping : Element → Element) :
      SinkStage Element scheduled
  /-- `struct rxc_sink_scheduler`. -/
  | scheduler (inner : SinkStage Element false) : SinkStage Element true

/-- `rxc_inlet_pull` by the sink logic at a place of the chain. -/
def inletPull (source : SourceLogic (FlowWorld Wiring Element)) (rounds place : Nat) (n : Int) :
    Action (FlowWorld Wiring Element) := fun started =>
  match started.world.wires place with
  | none => .error .nullPointer
  | some .connection => connectionInletPull source n started
  | some .scheduler => pipelineInletPull source rounds n started

/-- `rxc_inlet_cancel` by the sink logic at a place of the chain. -/
def inletCancel (source : SourceLogic (FlowWorld Wiring Element)) (place : Nat) :
    Action (FlowWorld Wiring Element) := fun started =>
  match started.world.wires place with
  | none => .error .nullPointer
  | some .connection => connectionInletCancel source started
  | some .scheduler => pipelineInletCancel source started

/-- `create_logic` of the sinks, `sink_create_logic` and `pipeline_sink_create_logic` among them:
the logic at a place of the chain, over the source logic its connection has. -/
def SinkStage.createLogic (source : SourceLogic (FlowWorld Wiring Element)) (rounds : Nat) :
    {scheduled : Bool} → SinkStage Element scheduled → Nat →
      SinkLogic (FlowWorld Wiring Element) Element Empty
  | _, .user code, place => code.createLogic (inletPull source rounds place) (inletCancel source place)
  | _, .map inner mapping, place =>
      let logic := inner.createLogic source rounds (place + 1)
      { onConnect := fun started =>
          logic.onConnect (started.withIn (place + 1) (started.world.wires place))
        onPush := fun element => logic.onPush (mapping element)
        onUpstreamFinish := logic.onUpstreamFinish
        onUpstreamFailure := Empty.elim }
  | _, .scheduler inner, place =>
      let logic := inner.createLogic source rounds (place + 1)
      { onConnect := fun started =>
          let parent := decide (started.world.wires place = some Inlet.connection)
          logic.onConnect
            ({ started with link := { started.link with inlet := some ⟨parent⟩ } }.withIn
              (place + 1) (some .scheduler))
        onPush := logic.onPush
        onUpstreamFinish := logic.onUpstreamFinish
        onUpstreamFailure := Empty.elim }

/-! ## Flows -/

/-- `struct rxc_flow_wrapper`. -/
structure FlowStage (Element : Type) where
  wrap : {scheduled : Bool} → SinkStage Element scheduled → SinkStage Element scheduled

/-- `flow_connect_sink`, which is also `rxc_flow_to`. -/
def FlowStage.connectSink {scheduled : Bool} (flow : FlowStage Element)
    (sink : SinkStage Element scheduled) : SinkStage Element scheduled :=
  flow.wrap sink

/-- `rxc_flow_map`. -/
def flowMap (mapping : Element → Element) : FlowStage Element where
  wrap sink := .map sink mapping

/-! ## Sources -/

/-- `struct rxc_source`. The elements of a count source are the `long`s it makes; `box` is what the
pipeline takes such an element for. -/
inductive SourceStage (Element : Type) where
  /-- `struct rxc_source_count`. -/
  | count (box : Int → Element) (start stop : Int)
  /-- `struct rxc_source_wrapper`. -/
  | wrapper (inner : SourceStage Element) (flow : FlowStage Element)

/-- `flow_connect_source`, which is also `rxc_source_via`. -/
def FlowStage.connectSource (flow : FlowStage Element) (source : SourceStage Element) :
    SourceStage Element :=
  .wrapper source flow

/-- The loop of `on_pull` in `count.c`, with `n` rounds to go. -/
def countOnPullLoop (box : Int → Element) (stop : Int)
    (sink : SinkLogic (FlowWorld Wires Element) Element Empty) :
    Nat → Action (FlowWorld Wires Element)
  | 0, started => .ok started
  | n + 1, started =>
      if stop ≤ started.world.count then outletComplete sink started
      else
        (outletEmit sink (box started.world.count) started.counted).bind fun emitted =>
          countOnPullLoop box stop sink n emitted.2

/-- `create_logic` of a count source. -/
def countCreateLogic (box : Int → Element) (stop : Int)
    (sink : SinkLogic (FlowWorld Wires Element) Element Empty) :
    SourceLogic (FlowWorld Wires Element) where
  onPull n started := countOnPullLoop box stop sink n.toNat (started.noted (.onPull n))
  onDownstreamFinish started := .ok (started.noted .onDownstreamFinish)

/-- The logic of a count source over a sink logic that calls back into it, on a stack that holds this
many callbacks of the source. -/
def countLogic (box : Int → Element) (stop : Int)
    (sinkLogic : SourceLogic (FlowWorld Wires Element) →
      SinkLogic (FlowWorld Wires Element) Element Empty) :
    Nat → SourceLogic (FlowWorld Wires Element)
  | 0 => ⟨fun _ _ => .error .diverge, fun _ => .error .diverge⟩
  | depth + 1 => countCreateLogic box stop (sinkLogic (countLogic box stop sinkLogic depth))

/-- `connect` of a count source: the two logics, their connection, and `on_connect`. -/
def countConnect (box : Int → Element) (start stop : Int) (depth rounds : Nat) {scheduled : Bool}
    (sink : SinkStage Element scheduled) : Except Fault (Started (FlowWorld Wiring Element)) :=
  let sinkLogic := fun source => sink.createLogic source rounds 0
  (sinkLogic (countLogic box stop sinkLogic depth)).onConnect
    { link := ⟨connectionCreate, none, schedulerCreateWorker⟩
      world :=
        { wires := Function.update (fun _ => none) 0 (some .connection)
          count := start
          events := [] } }

/-- `connect` of a source: `source_connect` where flows are attached to it. -/
def SourceStage.connect (depth rounds : Nat) : SourceStage Element → {scheduled : Bool} →
    SinkStage Element scheduled → Except Fault (Started (FlowWorld Wiring Element))
  | .count box start stop, _, sink => countConnect box start stop depth rounds sink
  | .wrapper inner flow, _, sink => inner.connect depth rounds (flow.connectSink sink)

/-! ## Pipelines -/

/-- `struct rxc_pipeline`. -/
structure Pipeline (Element : Type) where
  source : SourceStage Element
  sink : SinkStage Element false

/-- `rxc_source_to`. -/
def sourceTo (source : SourceStage Element) (sink : SinkStage Element false) : Pipeline Element :=
  ⟨source, sink⟩

/-- `rxc_source_via` for every flow of a list, in order. -/
def sourceVia (source : SourceStage Element) (flows : List (FlowStage Element)) :
    SourceStage Element :=
  flows.foldl (fun source flow => flow.connectSource source) source

/-- `rxc_flow_to` for every flow of a list, the last one next to the sink. -/
def flowTo {scheduled : Bool} (flows : List (FlowStage Element))
    (sink : SinkStage Element scheduled) : SinkStage Element scheduled :=
  flows.foldr FlowStage.connectSink sink

/-- `pipeline_sink`. -/
def pipelineSink (sink : SinkStage Element false) : SinkStage Element true := .scheduler sink

/-- `rxc_pipeline_start` with the trampoline scheduler, with its return value. -/
def Pipeline.start (pipeline : Pipeline Element) (depth rounds : Nat) :
    Except Fault (Int × Started (FlowWorld Wiring Element)) :=
  (pipeline.source.connect depth rounds (pipelineSink pipeline.sink)).map fun started =>
    (eok, started)

end Sas.Rxc
