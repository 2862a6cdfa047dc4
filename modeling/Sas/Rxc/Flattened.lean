import Sas.Rxc.Mirror
import Sas.Rxc.Stages

/-! # Chains of flows flattened

Wherever the scheduler stands among the wrappers of a sink, the innermost `in` leads to it, and an
element is mapped by all of them on its way. So a chain does what the user's sink does directly
behind the scheduler when the source makes the mapped elements itself; the `in`s, which never change
once the chain is connected, are all that is left of it.
-/

namespace Sas.Rxc

variable {Wires Wires' Element : Type}

/-! ## The chain of a sink -/

section

/-- The code at the end of a chain. -/
def SinkStage.code : {scheduled : Bool} → SinkStage Element scheduled → SinkCode Element
  | _, .user code => code
  | _, .map inner _ => inner.code
  | _, .scheduler inner => inner.code

/-- What a chain makes of an element. -/
def SinkStage.mapping : {scheduled : Bool} → SinkStage Element scheduled → Element → Element
  | _, .user _ => id
  | _, .map inner mapping => fun element => inner.mapping (mapping element)
  | _, .scheduler inner => inner.mapping

/-- How far the code is from the beginning of a chain. -/
def SinkStage.height : {scheduled : Bool} → SinkStage Element scheduled → Nat
  | _, .user _ => 0
  | _, .map inner _ => inner.height + 1
  | _, .scheduler inner => inner.height + 1

/-- What the mappings of a list, in order, make of an element. -/
def mapped (mappings : List (Element → Element)) (element : Element) : Element :=
  mappings.foldl (fun element mapping => mapping element) element

@[simp] theorem code_flowTo {scheduled : Bool} (mappings : List (Element → Element))
    (sink : SinkStage Element scheduled) :
    (flowTo (mappings.map flowMap) sink).code = sink.code := by
  induction mappings with
  | nil => rfl
  | cons mapping mappings ih => exact ih

@[simp] theorem mapping_flowTo {scheduled : Bool} (mappings : List (Element → Element))
    (sink : SinkStage Element scheduled) :
    (flowTo (mappings.map flowMap) sink).mapping =
      fun element => sink.mapping (mapped mappings element) := by
  induction mappings with
  | nil => rfl
  | cons mapping mappings ih =>
      funext element
      exact congrFun ih (mapping element)

/-- A source with flows attached connects the sink with these flows attached. -/
theorem connect_sourceVia (depth rounds : Nat) {scheduled : Bool} (flows : List (FlowStage Element))
    (source : SourceStage Element) (sink : SinkStage Element scheduled) :
    (sourceVia source flows).connect depth rounds sink =
      source.connect depth rounds (flowTo flows sink) := by
  induction flows generalizing source with
  | nil => rfl
  | cons flow flows ih => exact ih (flow.connectSource source)

end

/-! ## The direct pipeline -/

/-- The logic of a sink that stands directly behind the scheduler. -/
def directSink (code : SinkCode Element) (rounds : Nat) (source : SourceLogic (FlowWorld Unit Element)) :
    SinkLogic (FlowWorld Unit Element) Element Empty :=
  code.createLogic (pipelineInletPull source rounds) (pipelineInletCancel source)

/-- The logic of a count source over a sink that stands directly behind the scheduler. -/
def directSource (box : Int → Element) (stop : Int) (code : SinkCode Element) (depth rounds : Nat) :
    SourceLogic (FlowWorld Unit Element) :=
  countLogic box stop (directSink code rounds) depth

/-- Start a pipeline of a count source and a sink. -/
def directStart (box : Int → Element) (start stop : Int) (code : SinkCode Element)
    (depth rounds : Nat) : Except Fault (Started (FlowWorld Unit Element)) :=
  (directSink code rounds (directSource box stop code depth rounds)).onConnect
    ⟨Link.fresh, ⟨(), start, []⟩⟩

/-- The world with other `in`s. -/
def FlowWorld.rewired (wires : Wires') (world : FlowWorld Wires Element) : FlowWorld Wires' Element :=
  ⟨wires, world.count, world.events⟩

/-- The pipeline with other `in`s. -/
abbrev Started.rewired (wires : Wires') (started : Started (FlowWorld Wires Element)) :
    Started (FlowWorld Wires' Element) :=
  started.through (FlowWorld.rewired wires)

section

variable {wires : Wires'}

/-! ## Sinks and sources under other `in`s -/

section

variable {pull : Int → Action (FlowWorld Wires Element)} {cancel : Action (FlowWorld Wires Element)}
  {pull' : Int → Action (FlowWorld Wires' Element)} {cancel' : Action (FlowWorld Wires' Element)}

/-- Code that has happened before is the code that happens now. -/
theorem mirrors_next {action : Action (FlowWorld Wires Element)}
    {action' : Action (FlowWorld Wires' Element)}
    {next : List (FlowEvent Element) → Action (FlowWorld Wires Element)}
    {next' : List (FlowEvent Element) → Action (FlowWorld Wires' Element)}
    (first : Mirrors (FlowWorld.rewired wires) action action')
    (later : ∀ events, Mirrors (FlowWorld.rewired wires) (next events) (next' events)) :
    Mirrors (FlowWorld.rewired wires)
      (fun started => (action started).bind fun started => next started.world.events started)
      (fun started => (action' started).bind fun started => next' started.world.events started) :=
  first.bind fun started => later started.world.events started

/-- The code of a sink makes the same calls whatever the `in`s are. -/
theorem mirrors_run (pulls : ∀ n, Mirrors (FlowWorld.rewired wires) (pull n) (pull' n))
    (cancels : Mirrors (FlowWorld.rewired wires) cancel cancel') (program : SinkProgram Element) :
    Mirrors (FlowWorld.rewired wires) (program.run pull cancel) (program.run pull' cancel') := by
  induction program with
  | done => exact fun _ => rfl
  | pull n next ih => exact fun started => mirrors_next (pulls n.val) ih (started.noted (.pull n))
  | cancel next ih =>
      intro started
      have same : (started.rewired wires).world.events = started.world.events := rfl
      unfold SinkProgram.run
      rw [same]
      by_cases before : started.world.events.any FlowEvent.isCancel = true
      · rw [if_pos before, if_pos before]
        exact ih _ started
      · rw [if_neg before, if_neg before]
        exact mirrors_next cancels ih (started.noted .cancel)

/-- The callbacks of a user sink make the same calls whatever the `in`s are. -/
theorem mirrors_createLogic (pulls : ∀ n, Mirrors (FlowWorld.rewired wires) (pull n) (pull' n))
    (cancels : Mirrors (FlowWorld.rewired wires) cancel cancel') (code : SinkCode Element) :
    MirrorsSink (FlowWorld.rewired wires) id (code.createLogic pull cancel)
      (code.createLogic pull' cancel') where
  onPush element started :=
    mirrors_run pulls cancels (code.onPush element (started.noted (.onPush element)).world.events)
      (started.noted (.onPush element))
  onUpstreamFinish _ := rfl

/-- The first callback of a user sink makes the same calls whatever the `in`s are. -/
theorem mirrors_onConnect (pulls : ∀ n, Mirrors (FlowWorld.rewired wires) (pull n) (pull' n))
    (cancels : Mirrors (FlowWorld.rewired wires) cancel cancel') (code : SinkCode Element) :
    Mirrors (FlowWorld.rewired wires) (code.createLogic pull cancel).onConnect
      (code.createLogic pull' cancel').onConnect :=
  fun started => mirrors_run pulls cancels code.onConnect (started.noted .onConnect)

end

section

variable {mapping : Element → Element} {sink : SinkLogic (FlowWorld Wires Element) Element Empty}
  {sink' : SinkLogic (FlowWorld Wires' Element) Element Empty}

/-- A count source does the same where it makes the mapped elements. -/
theorem mirrors_countOnPullLoop (box : Int → Element) (stop : Int)
    (mirrors : MirrorsSink (FlowWorld.rewired wires) mapping sink sink') (n : Nat) :
    Mirrors (FlowWorld.rewired wires) (countOnPullLoop (mapping ∘ box) stop sink n)
      (countOnPullLoop box stop sink' n) := by
  induction n with
  | zero => exact fun _ => rfl
  | succ n ih =>
      intro started
      have same : (started.rewired wires).world.count = started.world.count := rfl
      unfold countOnPullLoop
      rw [same]
      by_cases ended : stop ≤ started.world.count
      · rw [if_pos ended, if_pos ended]
        exact mirrors_outletComplete mirrors started
      · rw [if_neg ended, if_neg ended]
        have emitted := mirrors_outletEmit mirrors (box started.world.count) started.counted
        change (outletEmit sink' _ (started.counted.rewired wires)).bind _ = _
        rw [emitted, Function.comp_apply]
        cases outletEmit sink (mapping (box started.world.count)) started.counted with
        | error fault => rfl
        | ok emitted => exact ih emitted.2

/-- The logic of a count source that boxes mapped elements mirrors the one whose sink maps them. -/
theorem mirrors_countCreateLogic (box : Int → Element) (stop : Int)
    (mirrors : MirrorsSink (FlowWorld.rewired wires) mapping sink sink') :
    MirrorsSource (FlowWorld.rewired wires) (countCreateLogic (mapping ∘ box) stop sink)
      (countCreateLogic box stop sink') where
  onPull n started := mirrors_countOnPullLoop box stop mirrors n.toNat (started.noted (.onPull n))
  onDownstreamFinish _ := rfl

/-- On every depth of the stack a count source that maps its elements mirrors one whose sink does.
-/
theorem mirrors_countLogic (box : Int → Element) (stop : Int)
    {sinkLogic : SourceLogic (FlowWorld Wires Element) →
      SinkLogic (FlowWorld Wires Element) Element Empty}
    {sinkLogic' : SourceLogic (FlowWorld Wires' Element) →
      SinkLogic (FlowWorld Wires' Element) Element Empty}
    (mirrors : ∀ source source', MirrorsSource (FlowWorld.rewired wires) source source' →
      MirrorsSink (FlowWorld.rewired wires) mapping (sinkLogic source) (sinkLogic' source'))
    (depth : Nat) :
    MirrorsSource (FlowWorld.rewired wires) (countLogic (mapping ∘ box) stop sinkLogic depth)
      (countLogic box stop sinkLogic' depth) := by
  induction depth with
  | zero => exact ⟨fun _ _ => rfl, fun _ => rfl⟩
  | succ depth ih => exact mirrors_countCreateLogic box stop (mirrors _ _ ih)

end

end

/-! ## A chain and the direct pipeline -/

section

variable {wires : Wiring} {source : SourceLogic (FlowWorld Unit Element)}
  {source' : SourceLogic (FlowWorld Wiring Element)} {place : Nat}

/-- A pull at the place of the scheduling inlet is a pull on this inlet. -/
theorem mirrors_inletPull (mirrors : MirrorsSource (FlowWorld.rewired wires) source source')
    (leads : wires place = some .scheduler) (rounds : Nat) (n : Int) :
    Mirrors (FlowWorld.rewired wires) (pipelineInletPull source rounds n)
      (inletPull source' rounds place n) := by
  intro started
  have same : (started.rewired wires).world.wires = wires := rfl
  unfold inletPull
  rw [same, leads]
  exact mirrors_pipelineInletPull mirrors rounds n started

/-- A cancellation at the place of the scheduling inlet is one on this inlet. -/
theorem mirrors_inletCancel (mirrors : MirrorsSource (FlowWorld.rewired wires) source source')
    (leads : wires place = some .scheduler) :
    Mirrors (FlowWorld.rewired wires) (pipelineInletCancel source) (inletCancel source' place) := by
  intro started
  have same : (started.rewired wires).world.wires = wires := rfl
  unfold inletCancel
  rw [same, leads]
  exact mirrors_pipelineInletCancel mirrors started

/-- A connected chain does what its code does directly behind the scheduler with mapped elements. -/
theorem mirrors_chain (mirrors : MirrorsSource (FlowWorld.rewired wires) source source')
    {scheduled : Bool} (sink : SinkStage Element scheduled)
    (leads : wires (place + sink.height) = some .scheduler) (rounds : Nat) :
    MirrorsSink (FlowWorld.rewired wires) sink.mapping (directSink sink.code rounds source)
      (sink.createLogic source' rounds place) := by
  induction sink generalizing place with
  | user code =>
      exact mirrors_createLogic (mirrors_inletPull mirrors leads rounds)
        (mirrors_inletCancel mirrors leads) code
  | map inner mapping ih =>
      rw [SinkStage.height, ← Nat.add_assoc, Nat.add_right_comm] at leads
      have inside := ih leads
      exact ⟨fun element => inside.onPush (mapping element), inside.onUpstreamFinish⟩
  | scheduler inner ih =>
      rw [SinkStage.height, ← Nat.add_assoc, Nat.add_right_comm] at leads
      have inside := ih leads
      exact ⟨inside.onPush, inside.onUpstreamFinish⟩

end

/-! ## Connecting a chain -/

/-- The logic of the code at the end of a chain that begins at this place. -/
def SinkStage.lastLogic (source : SourceLogic (FlowWorld Wiring Element)) (rounds : Nat)
    {scheduled : Bool} (sink : SinkStage Element scheduled) (place : Nat) :
    SinkLogic (FlowWorld Wiring Element) Element Empty :=
  sink.code.createLogic (inletPull source rounds (place + sink.height))
    (inletCancel source (place + sink.height))

/-- Connecting a chain behind the scheduler leads its last `in` to the scheduler and connects its
code. -/
theorem connects_inside : ∀ (sink : SinkStage Element false) {place : Nat} {wires : Wiring},
    wires place = some .scheduler →
    ∃ wires' : Wiring, wires' (place + sink.height) = some .scheduler ∧
      ∀ source rounds (started : Started (FlowWorld Unit Element)),
        (sink.createLogic source rounds place).onConnect (started.rewired wires) =
          (sink.lastLogic source rounds place).onConnect (started.rewired wires')
  | .user _, _, wires, leads => ⟨wires, leads, fun _ _ _ => rfl⟩
  | .map inner _, place, wires, leads => by
      have next : Function.update wires (place + 1) (wires place) (place + 1) = some .scheduler := by
        rw [Function.update_self, leads]
      obtain ⟨wires', leads', connects⟩ := connects_inside inner next
      unfold SinkStage.lastLogic
      rw [SinkStage.height, ← Nat.add_assoc, Nat.add_right_comm]
      exact ⟨wires', leads', connects⟩

/-- The pipeline once the scheduling inlet has been made. -/
def Started.scheduled {World : Type} (started : Started World) : Started World :=
  { started with link := { started.link with inlet := some pipelineInletCreate } }

/-- Connecting a chain with a scheduler in it makes the scheduling inlet over the connection, leads
the last `in` to it and connects the code. -/
theorem connects : ∀ (sink : SinkStage Element true) {place : Nat} {wires : Wiring},
    wires place = some .connection →
    ∃ wires' : Wiring, wires' (place + sink.height) = some .scheduler ∧
      ∀ source rounds (started : Started (FlowWorld Unit Element)),
        (sink.createLogic source rounds place).onConnect (started.rewired wires) =
          (sink.lastLogic source rounds place).onConnect (started.scheduled.rewired wires')
  | .map inner _, place, wires, leads => by
      have next : Function.update wires (place + 1) (wires place) (place + 1) =
          some .connection := by
        rw [Function.update_self, leads]
      obtain ⟨wires', leads', connects⟩ := connects inner next
      unfold SinkStage.lastLogic
      rw [SinkStage.height, ← Nat.add_assoc, Nat.add_right_comm]
      exact ⟨wires', leads', connects⟩
  | .scheduler inner, place, wires, leads => by
      have next : Function.update wires (place + 1) (some .scheduler) (place + 1) =
          some Inlet.scheduler := Function.update_self ..
      obtain ⟨wires', leads', connects⟩ := connects_inside inner next
      unfold SinkStage.lastLogic
      rw [SinkStage.height, ← Nat.add_assoc, Nat.add_right_comm]
      refine ⟨wires', leads', fun source rounds started => ?_⟩
      refine Eq.trans ?_ (connects source rounds started.scheduled)
      have parent : decide ((started.rewired wires).world.wires place = some Inlet.connection) =
          true := decide_eq_true leads
      rw [SinkStage.createLogic]
      dsimp only
      rw [parent]
      rfl

/-- Connecting a chain to a source connects its code directly behind the scheduler. -/
theorem connect_eq_direct (sink : SinkStage Element true) : ∃ wires : Wiring,
    wires (0 + sink.height) = some .scheduler ∧
      ∀ (source : SourceLogic (FlowWorld Unit Element))
        (source' : SourceLogic (FlowWorld Wiring Element)) (rounds : Nat) (count : Int),
        MirrorsSource (FlowWorld.rewired wires) source source' →
        (sink.createLogic source' rounds 0).onConnect
            { link := ⟨connectionCreate, none, schedulerCreateWorker⟩
              world := ⟨Function.update (fun _ => none) 0 (some .connection), count, []⟩ } =
          ((directSink sink.code rounds source).onConnect ⟨Link.fresh, ⟨(), count, []⟩⟩).map
            (Started.rewired wires) := by
  have begins : Function.update (fun _ => none) 0 (some Inlet.connection) 0 =
      some Inlet.connection := Function.update_self ..
  obtain ⟨wires, leads, connects⟩ := connects sink begins
  refine ⟨wires, leads, fun source source' rounds count mirrors => ?_⟩
  have last := mirrors_onConnect (mirrors_inletPull mirrors leads rounds)
    (mirrors_inletCancel mirrors leads) sink.code ⟨Link.fresh, ⟨(), count, []⟩⟩
  exact (connects _ rounds ⟨⟨connectionCreate, none, schedulerCreateWorker⟩, ⟨(), count, []⟩⟩).trans
    last

/-- **A chain is the direct pipeline with mapped elements.** -/
theorem countConnect_eq_direct (box : Int → Element) (start stop : Int)
    (sink : SinkStage Element true) :
    ∃ wires : Wiring, ∀ depth rounds, countConnect box start stop depth rounds sink =
      (directStart (sink.mapping ∘ box) start stop sink.code depth rounds).map
        (Started.rewired wires) := by
  obtain ⟨wires, leads, connects⟩ := connect_eq_direct sink
  refine ⟨wires, fun depth rounds => connects _ _ rounds start ?_⟩
  exact mirrors_countLogic box stop
    (fun _ _ mirrors => mirrors_chain mirrors sink leads rounds) depth

/-- The pipeline of a count source and a sink with some of the mappings attached to the source and
the others to the sink. -/
def splitPipeline (box : Int → Element) (start stop : Int) (code : SinkCode Element)
    (mappings : List (Element → Element)) (split : Nat) : Pipeline Element :=
  sourceTo (sourceVia (.count box start stop) ((mappings.take split).map flowMap))
    (flowTo ((mappings.drop split).map flowMap) (.user code))

/-- The sink its count source is connected to. -/
def splitSink (code : SinkCode Element) (mappings : List (Element → Element)) (split : Nat) :
    SinkStage Element true :=
  flowTo ((mappings.take split).map flowMap)
    (pipelineSink (flowTo ((mappings.drop split).map flowMap) (.user code)))

section

variable (code : SinkCode Element) (mappings : List (Element → Element)) (split : Nat)

/-- Whatever is attached to a sink, its code stays the same. -/
theorem splitSink_code : (splitSink code mappings split).code = code := by
  rw [splitSink, code_flowTo, pipelineSink, SinkStage.code, code_flowTo, SinkStage.code]

/-- A split sink maps with all mappings, wherever they are attached. -/
theorem splitSink_mapping : (splitSink code mappings split).mapping = mapped mappings := by
  rw [splitSink, mapping_flowTo, pipelineSink, SinkStage.mapping, mapping_flowTo]
  funext element
  change (mappings.drop split).foldl _ ((mappings.take split).foldl _ element) = _
  rw [← List.foldl_append, List.take_append_drop]
  rfl

variable (box : Int → Element) (start stop : Int)

/-- A split pipeline is a count source connected to its split sink. -/
theorem splitPipeline_connect (depth rounds : Nat) :
    (splitPipeline box start stop code mappings split).start depth rounds =
      (countConnect box start stop depth rounds (splitSink code mappings split)).map
        fun started => (eok, started) := by
  rw [Pipeline.start, splitPipeline, sourceTo, connect_sourceVia]
  rfl

/-- Where the mappings are attached makes no difference but for the `in`s. -/
theorem start_splitPipeline :
    ∃ wires : Wiring, ∀ depth rounds,
      (splitPipeline box start stop code mappings split).start depth rounds =
        (directStart (mapped mappings ∘ box) start stop code depth rounds).map fun started =>
          (eok, started.rewired wires) := by
  obtain ⟨wires, starts⟩ := countConnect_eq_direct box start stop (splitSink code mappings split)
  rw [splitSink_mapping, splitSink_code] at starts
  refine ⟨wires, fun depth rounds => ?_⟩
  rw [splitPipeline_connect, starts]
  cases directStart (mapped mappings ∘ box) start stop code depth rounds <;> rfl

end

end Sas.Rxc
