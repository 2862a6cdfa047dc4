import Sas.Rxc.Flattened
import Sas.Rxc.Reentrancy

/-! # The objects of a pipeline in memory

A stage and its logic are structures that hold the addresses of their functions and of each other
(`pipeline.h`, `logic.h`, `map.c`, `pipeline.c`). A wrapping logic is handed to its callbacks as a
plain `struct rxc_sink_logic *`, and each callback finds the logic it wraps by a cast of its own.
Here an object is the words of its structure, one for every field, and a field is read at its place
whatever the object is taken for.
-/

namespace Sas.Rxc

open Foundation

variable {Element Failure : Type}

/-! ## Words and objects -/

/-- The functions whose addresses the objects hold. -/
inductive Function where
  /-- The functions of `map.c`. -/
  | sinkDealloc | sinkCreateLogic | sinkLogicDealloc | sinkLogicOnConnect | sinkLogicOnPush
  | sinkLogicOnUpstreamFinish | sinkLogicOnUpstreamFailure
  /-- The functions of `pipeline.c`. -/
  | pipelineSinkDealloc | pipelineSinkCreateLogic | pipelineSinkLogicDealloc
  | pipelineSinkLogicOnConnect | pipelineSinkLogicOnPush | pipelineSinkLogicOnUpstreamFinish
  | pipelineSinkLogicOnUpstreamFailure
  /-- The functions of the sink at the end of the chain. -/
  | userDealloc | userCreateLogic | userLogicDealloc | userOnConnect | userOnPush
  | userOnUpstreamFinish | userOnUpstreamFailure
  deriving DecidableEq, Repr

/-- A word of an object. -/
inductive Word (Element : Type) where
  | object (address : Nat)
  | function (function : Function)
  | mapping (mapping : Element → Element)
  /-- An inlet, a scheduler or a worker: objects of another kind than the stages and logics. -/
  | other

/-- The objects allocated so far; an address is the place of its object. Nobody reads an object
before its fields have been assigned, so it is allocated with their values. -/
abbrev Heap (Element : Type) := List (List (Word Element))

/-- `malloc`, and the assignment of all fields. -/
def malloc (heap : Heap Element) (words : List (Word Element)) : Heap Element × Nat :=
  (heap ++ [words], heap.length)

/-- Read the field at a place of an object. -/
def load (heap : Heap Element) (address field : Nat) : Except Fault (Word Element) :=
  match heap[address]? with
  | none => .error (.useAfterFree address)
  | some words =>
      match words[field]? with
      | none => .error .outOfBounds
      | some word => .ok word

/-- Read a field as the address of an object. -/
def loadObject (heap : Heap Element) (address field : Nat) : Except Fault Nat :=
  (load heap address field).bind fun
    | .object object => .ok object
    | _ => .error .nullPointer

/-- Read a field as the address of a function. -/
def loadFunction (heap : Heap Element) (address field : Nat) : Except Fault Function :=
  (load heap address field).bind fun
    | .function function => .ok function
    | _ => .error .nullPointer

/-- Read a field as a mapping. -/
def loadMapping (heap : Heap Element) (address field : Nat) : Except Fault (Element → Element) :=
  (load heap address field).bind fun
    | .mapping mapping => .ok mapping
    | _ => .error .nullPointer

/-! ## Structures -/

/-- The places of the fields, each a word long. -/
inductive Field where
  /-- `struct rxc_sink`. -/
  | sinkDealloc | sinkCreateLogic
  /-- `struct rxc_sink_map`, behind its base. -/
  | mapInner | mapMapping
  /-- `struct rxc_sink_scheduler`, behind its base. -/
  | schedulerInner | schedulerScheduler
  /-- `struct rxc_sink_logic`. -/
  | logicSink | logicIn | logicDealloc | logicOnConnect | logicOnPush | logicOnUpstreamFinish
  | logicOnUpstreamFailure
  /-- `struct rxc_sink_logic_map`, behind its base. -/
  | logicMapInner
  /-- `struct rxc_sink_logic_scheduler`, behind its base. -/
  | logicSchedulerInner | logicSchedulerWorker
  deriving DecidableEq, Repr

/-- `offsetof`, in words. -/
def Field.offset : Field → Nat
  | .sinkDealloc => 0
  | .sinkCreateLogic => 1
  | .mapInner => 2
  | .mapMapping => 3
  | .schedulerInner => 2
  | .schedulerScheduler => 3
  | .logicSink => 0
  | .logicIn => 1
  | .logicDealloc => 2
  | .logicOnConnect => 3
  | .logicOnPush => 4
  | .logicOnUpstreamFinish => 5
  | .logicOnUpstreamFailure => 6
  | .logicMapInner => 7
  | .logicSchedulerInner => 7
  | .logicSchedulerWorker => 8

/-- `struct rxc_sink_map`. -/
def sinkMapWords (inner : Nat) (mapping : Element → Element) : List (Word Element) :=
  [.function .sinkDealloc, .function .sinkCreateLogic, .object inner, .mapping mapping]

/-- `struct rxc_sink_scheduler`. -/
def sinkSchedulerWords (inner : Nat) : List (Word Element) :=
  [.function .pipelineSinkDealloc, .function .pipelineSinkCreateLogic, .object inner, .other]

/-- The `struct rxc_sink` of the sink at the end of the chain. -/
def sinkUserWords : List (Word Element) := [.function .userDealloc, .function .userCreateLogic]

/-- `struct rxc_sink_logic_map`. -/
def sinkLogicMapWords (sink inner : Nat) : List (Word Element) :=
  [.object sink, .other, .function .sinkLogicDealloc, .function .sinkLogicOnConnect,
    .function .sinkLogicOnPush, .function .sinkLogicOnUpstreamFinish,
    .function .sinkLogicOnUpstreamFailure, .object inner]

/-- `struct rxc_sink_logic_scheduler`. -/
def sinkLogicSchedulerWords (sink inner : Nat) : List (Word Element) :=
  [.object sink, .other, .function .pipelineSinkLogicDealloc, .function .pipelineSinkLogicOnConnect,
    .function .pipelineSinkLogicOnPush, .function .pipelineSinkLogicOnUpstreamFinish,
    .function .pipelineSinkLogicOnUpstreamFailure, .object inner, .other]

/-- The `struct rxc_sink_logic` of the sink at the end of the chain. -/
def sinkLogicUserWords (sink : Nat) : List (Word Element) :=
  [.object sink, .other, .function .userLogicDealloc, .function .userOnConnect, .function .userOnPush,
    .function .userOnUpstreamFinish, .function .userOnUpstreamFailure]

/-! ## Creation -/

/-- The sinks of a chain as they are allocated: by `sink_wrap` of `map.c`, by `pipeline_sink`, and
by the user. -/
def SinkStage.place : {scheduled : Bool} → SinkStage Element scheduled → Heap Element →
    Heap Element × Nat
  | _, .user _, heap => malloc heap sinkUserWords
  | _, .map inner mapping, heap =>
      malloc (inner.place heap).1 (sinkMapWords (inner.place heap).2 mapping)
  | _, .scheduler inner, heap =>
      malloc (inner.place heap).1 (sinkSchedulerWords (inner.place heap).2)

section

variable (createLogic : Heap Element → Nat → Except Fault (Heap Element × Nat))
  (heap : Heap Element) (sink : Nat)

/-- `sink_create_logic` of `map.c`. -/
def sinkCreateLogic : Except Fault (Heap Element × Nat) := do
  let inner ← loadObject heap sink Field.mapInner.offset
  let (heap, logic) ← createLogic heap inner
  .ok (malloc heap (sinkLogicMapWords sink logic))

/-- `pipeline_sink_create_logic`. -/
def pipelineSinkCreateLogic : Except Fault (Heap Element × Nat) := do
  let inner ← loadObject heap sink Field.schedulerInner.offset
  let (heap, logic) ← createLogic heap inner
  .ok (malloc heap (sinkLogicSchedulerWords sink logic))

end

/-- `sink->create_logic(sink)`, on a stack that holds this many calls. -/
def createLogic : Nat → Heap Element → Nat → Except Fault (Heap Element × Nat)
  | 0, _, _ => .error .diverge
  | depth + 1, heap, sink => do
      let function ← loadFunction heap sink Field.sinkCreateLogic.offset
      match function with
      | .sinkCreateLogic => Rxc.sinkCreateLogic (createLogic depth) heap sink
      | .pipelineSinkCreateLogic => Rxc.pipelineSinkCreateLogic (createLogic depth) heap sink
      | .userCreateLogic => .ok (malloc heap (sinkLogicUserWords sink))
      | _ => .error .nullPointer

/-! ## Callbacks -/

section

variable (call : Nat → Field → Signal Element Failure → Except Fault (Signal Element Failure))
  (heap : Heap Element) (self : Nat)

/-- `sink_logic_on_push` of `map.c`. -/
def sinkLogicOnPush (element : Element) : Except Fault (Signal Element Failure) := do
  let inner ← loadObject heap self Field.logicMapInner.offset
  let sink ← loadObject heap self Field.logicSink.offset
  let mapping ← loadMapping heap sink Field.mapMapping.offset
  call inner .logicOnPush (.onPush (mapping element))

/-- `sink_logic_on_upstream_finish` of `map.c`. -/
def sinkLogicOnUpstreamFinish : Except Fault (Signal Element Failure) := do
  let inner ← loadObject heap self Field.logicMapInner.offset
  call inner .logicOnUpstreamFinish .onUpstreamFinish

/-- `sink_logic_on_upstream_failure` of `map.c`. -/
def sinkLogicOnUpstreamFailure (failure : Failure) : Except Fault (Signal Element Failure) := do
  -- `self->sink`, not `self`, is cast to a `struct rxc_sink_logic_map *`
  let sink ← loadObject heap self Field.logicSink.offset
  let inner ← loadObject heap sink Field.logicMapInner.offset
  call inner .logicOnUpstreamFailure (.onUpstreamFailure failure)

/-- `pipeline_sink_logic_on_push`. -/
def pipelineSinkLogicOnPush (element : Element) : Except Fault (Signal Element Failure) := do
  let logic ← loadObject heap self Field.logicSchedulerInner.offset
  call logic .logicOnPush (.onPush element)

/-- `pipeline_sink_logic_on_upstream_finish`. -/
def pipelineSinkLogicOnUpstreamFinish : Except Fault (Signal Element Failure) := do
  let logic ← loadObject heap self Field.logicSchedulerInner.offset
  call logic .logicOnUpstreamFinish .onUpstreamFinish

/-- `pipeline_sink_logic_on_upstream_failure`. -/
def pipelineSinkLogicOnUpstreamFailure (failure : Failure) :
    Except Fault (Signal Element Failure) := do
  let logic ← loadObject heap self Field.logicSchedulerInner.offset
  call logic .logicOnUpstreamFailure (.onUpstreamFailure failure)

end

/-- Call a callback of a logic, by its field. The answer is the callback of the sink at the end of
the chain that is called in the end; `depth` calls fit on the stack. -/
def call (heap : Heap Element) : Nat → Nat → Field → Signal Element Failure →
    Except Fault (Signal Element Failure)
  | 0, _, _, _ => .error .diverge
  | depth + 1, logic, field, signal => do
      let function ← loadFunction heap logic field.offset
      match function, signal with
      | .sinkLogicOnPush, .onPush element =>
          Rxc.sinkLogicOnPush (call heap depth) heap logic element
      | .sinkLogicOnUpstreamFinish, .onUpstreamFinish =>
          Rxc.sinkLogicOnUpstreamFinish (call heap depth) heap logic
      | .sinkLogicOnUpstreamFailure, .onUpstreamFailure failure =>
          Rxc.sinkLogicOnUpstreamFailure (call heap depth) heap logic failure
      | .pipelineSinkLogicOnPush, .onPush element =>
          Rxc.pipelineSinkLogicOnPush (call heap depth) heap logic element
      | .pipelineSinkLogicOnUpstreamFinish, .onUpstreamFinish =>
          Rxc.pipelineSinkLogicOnUpstreamFinish (call heap depth) heap logic
      | .pipelineSinkLogicOnUpstreamFailure, .onUpstreamFailure failure =>
          Rxc.pipelineSinkLogicOnUpstreamFailure (call heap depth) heap logic failure
      | .userOnPush, .onPush element => .ok (.onPush element)
      | .userOnUpstreamFinish, .onUpstreamFinish => .ok .onUpstreamFinish
      | .userOnUpstreamFailure, .onUpstreamFailure failure => .ok (.onUpstreamFailure failure)
      | _, _ => .error .nullPointer

/-! ## Pipelines -/

/-- The logics behind a connection: the memory they are in, and the `sink_logic` of the
connection. -/
structure Chain (Element : Type) where
  heap : Heap Element
  logic : Nat

/-- The objects a base source has made of the sink it is connected to. -/
def connectObjects {scheduled : Bool} (sink : SinkStage Element scheduled) :
    Except Fault (Chain Element) :=
  let placed := sink.place []
  (createLogic placed.1.length placed.1 placed.2).map fun (heap, logic) => ⟨heap, logic⟩

/-- `rxc_source_via` for every flow of a list: `source_connect` of the wrappers around a source that
connects like this. -/
def connectVia {Connected : Type} (flows : List (FlowStage Element))
    (connect : SinkStage Element true → Connected) : SinkStage Element true → Connected :=
  flows.foldl (fun connect flow sink => connect (flow.connectSink sink)) connect

/-- `rxc_pipeline_start` of a pipeline whose source and sink have map flows attached. -/
def startObjects (outer inner : List (Element → Element)) (code : SinkCode Element) :
    Except Fault (Chain Element) :=
  connectVia (outer.map flowMap) connectObjects
    (pipelineSink (flowTo (inner.map flowMap) (.user code)))

/-! ## Reading fields -/

section

variable {heap heap' : Heap Element} {address field : Nat} {words : List (Word Element)}

theorem load_eq {word : Word Element} (object : heap[address]? = some words)
    (inside : words[field]? = some word) : load heap address field = .ok word := by
  simp only [load, object, inside]

theorem loadObject_eq {target : Nat} (object : heap[address]? = some words)
    (inside : words[field]? = some (.object target)) : loadObject heap address field = .ok target := by
  simp only [loadObject, load_eq object inside, Except.bind]

/-- A field behind the end of an object cannot be read. -/
theorem loadObject_outOfBounds (object : heap[address]? = some words)
    (outside : words.length ≤ field) : loadObject heap address field = .error .outOfBounds := by
  simp only [loadObject, load, object, List.getElem?_eq_none outside, Except.bind]

/-- A field that holds a function is loaded as one. -/
theorem loadFunction_eq {function : Function} (object : heap[address]? = some words)
    (inside : words[field]? = some (.function function)) :
    loadFunction heap address field = .ok function := by
  simp only [loadFunction, load_eq object inside, Except.bind]

/-- A field that holds a mapping is loaded as one. -/
theorem loadMapping_eq {mapping : Element → Element} (object : heap[address]? = some words)
    (inside : words[field]? = some (.mapping mapping)) :
    loadMapping heap address field = .ok mapping := by
  simp only [loadMapping, load_eq object inside, Except.bind]

/-- An allocation keeps the objects there are. -/
theorem malloc_prefix : heap <+: (malloc heap words).1 := List.prefix_append heap [words]

theorem malloc_object : (malloc heap words).1[(malloc heap words).2]? = some words :=
  List.getElem?_concat_length

theorem malloc_length : (malloc heap words).1.length = heap.length + 1 :=
  List.length_append

/-- Allocating more leaves an object where it is. -/
theorem object_of_prefix (longer : heap <+: heap') (object : heap[address]? = some words) :
    heap'[address]? = some words := by
  obtain ⟨rest, rfl⟩ := longer
  obtain ⟨below, _⟩ := List.getElem?_eq_some_iff.mp object
  rw [List.getElem?_append_left below, object]

end

/-! ## Chains in memory -/

/-- The sinks of a chain are in memory, the outermost at this address. -/
def SinkStage.SinkAt (heap : Heap Element) : {scheduled : Bool} → SinkStage Element scheduled →
    Nat → Prop
  | _, .user _, sink => heap[sink]? = some sinkUserWords
  | _, .map inner mapping, sink => ∃ innerSink,
      heap[sink]? = some (sinkMapWords innerSink mapping) ∧ inner.SinkAt heap innerSink
  | _, .scheduler inner, sink => ∃ innerSink,
      heap[sink]? = some (sinkSchedulerWords innerSink) ∧ inner.SinkAt heap innerSink

/-- The logics of a chain are in memory, the outermost at this address, with their sinks. -/
def SinkStage.LogicAt (heap : Heap Element) : {scheduled : Bool} → SinkStage Element scheduled →
    Nat → Prop
  | _, .user _, logic => ∃ sink, heap[logic]? = some (sinkLogicUserWords sink)
  | _, .map inner mapping, logic => ∃ sink innerSink innerLogic,
      heap[logic]? = some (sinkLogicMapWords sink innerLogic) ∧
      heap[sink]? = some (sinkMapWords innerSink mapping) ∧ inner.LogicAt heap innerLogic
  | _, .scheduler inner, logic => ∃ sink innerLogic,
      heap[logic]? = some (sinkLogicSchedulerWords sink innerLogic) ∧ inner.LogicAt heap innerLogic

section

variable {scheduled : Bool} {heap heap' : Heap Element}

/-- A sink stays where it has been placed. -/
theorem SinkStage.SinkAt.mono {stage : SinkStage Element scheduled} {sink : Nat}
    (longer : heap <+: heap') (placed : stage.SinkAt heap sink) : stage.SinkAt heap' sink := by
  induction stage generalizing sink with
  | user code => exact object_of_prefix longer placed
  | map inner mapping ih =>
      obtain ⟨innerSink, object, inner⟩ := placed
      exact ⟨innerSink, object_of_prefix longer object, ih inner⟩
  | scheduler inner ih =>
      obtain ⟨innerSink, object, inner⟩ := placed
      exact ⟨innerSink, object_of_prefix longer object, ih inner⟩

/-- A logic stays where it has been placed. -/
theorem SinkStage.LogicAt.mono {stage : SinkStage Element scheduled} {logic : Nat}
    (longer : heap <+: heap') (placed : stage.LogicAt heap logic) : stage.LogicAt heap' logic := by
  induction stage generalizing logic with
  | user code =>
      obtain ⟨sink, object⟩ := placed
      exact ⟨sink, object_of_prefix longer object⟩
  | map inner mapping ih =>
      obtain ⟨sink, innerSink, innerLogic, object, sinkObject, inner⟩ := placed
      exact ⟨sink, innerSink, innerLogic, object_of_prefix longer object,
        object_of_prefix longer sinkObject, ih inner⟩
  | scheduler inner ih =>
      obtain ⟨sink, innerLogic, object, inner⟩ := placed
      exact ⟨sink, innerLogic, object_of_prefix longer object, ih inner⟩

/-- The sinks of a chain are where they have been placed, more of them than the chain is long. -/
theorem SinkStage.place_sinkAt (stage : SinkStage Element scheduled) (heap : Heap Element) :
    stage.SinkAt (stage.place heap).1 (stage.place heap).2 ∧
      heap.length + stage.height < (stage.place heap).1.length := by
  induction stage generalizing heap with
  | user code => exact ⟨malloc_object, Nat.lt_of_lt_of_eq (Nat.lt_succ_self _) malloc_length.symm⟩
  | map inner mapping ih =>
      obtain ⟨placed, longer⟩ := ih heap
      refine ⟨⟨_, malloc_object, placed.mono malloc_prefix⟩, ?_⟩
      exact Nat.lt_of_lt_of_eq (Nat.succ_lt_succ longer) malloc_length.symm
  | scheduler inner ih =>
      obtain ⟨placed, longer⟩ := ih heap
      refine ⟨⟨_, malloc_object, placed.mono malloc_prefix⟩, ?_⟩
      exact Nat.lt_of_lt_of_eq (Nat.succ_lt_succ longer) malloc_length.symm

section

variable {sink innerSink logic depth : Nat}

/-- A user sink makes one logic. -/
theorem createLogic_user (object : heap[sink]? = some sinkUserWords) :
    createLogic (depth + 1) heap sink = .ok (malloc heap (sinkLogicUserWords sink)) := by
  have reads : loadFunction heap sink Field.sinkCreateLogic.offset = .ok .userCreateLogic :=
    loadFunction_eq object rfl
  simp only [createLogic, reads, bind, Except.bind]

/-- A mapped sink makes the logic of its inner sink and then its own. -/
theorem createLogic_map {mapping : Element → Element}
    (object : heap[sink]? = some (sinkMapWords innerSink mapping))
    (created : createLogic depth heap innerSink = .ok (heap', logic)) :
    createLogic (depth + 1) heap sink = .ok (malloc heap' (sinkLogicMapWords sink logic)) := by
  have reads : loadFunction heap sink Field.sinkCreateLogic.offset = .ok .sinkCreateLogic :=
    loadFunction_eq object rfl
  have inner : loadObject heap sink Field.mapInner.offset = .ok innerSink :=
    loadObject_eq object rfl
  simp only [createLogic, Rxc.sinkCreateLogic, reads, inner, created, bind, Except.bind]

/-- A scheduled sink makes the logic of its inner sink and then its own. -/
theorem createLogic_scheduler (object : heap[sink]? = some (sinkSchedulerWords innerSink))
    (created : createLogic depth heap innerSink = .ok (heap', logic)) :
    createLogic (depth + 1) heap sink = .ok (malloc heap' (sinkLogicSchedulerWords sink logic)) := by
  have reads : loadFunction heap sink Field.sinkCreateLogic.offset = .ok .pipelineSinkCreateLogic :=
    loadFunction_eq object rfl
  have inner : loadObject heap sink Field.schedulerInner.offset = .ok innerSink :=
    loadObject_eq object rfl
  simp only [createLogic, Rxc.pipelineSinkCreateLogic, reads, inner, created, bind, Except.bind]

end

/-- The logics of a chain are created over its sinks, on a stack as deep as the chain. -/
theorem createLogic_logicAt {stage : SinkStage Element scheduled} {sink depth : Nat}
    (placed : stage.SinkAt heap sink) (deep : stage.height < depth) :
    ∃ heap' logic, createLogic depth heap sink = .ok (heap', logic) ∧ heap <+: heap' ∧
      stage.LogicAt heap' logic := by
  induction stage generalizing sink depth with
  | user code =>
      obtain ⟨depth, rfl⟩ := Nat.exists_eq_succ_of_ne_zero (Nat.ne_zero_of_lt deep)
      exact ⟨_, _, createLogic_user placed, malloc_prefix, sink, malloc_object⟩
  | map inner mapping ih =>
      obtain ⟨depth, rfl⟩ := Nat.exists_eq_succ_of_ne_zero (Nat.ne_zero_of_lt deep)
      obtain ⟨innerSink, object, placed⟩ := placed
      obtain ⟨heap', logic, created, longer, made⟩ := ih placed (Nat.lt_of_succ_lt_succ deep)
      exact ⟨_, _, createLogic_map object created, longer.trans malloc_prefix, sink, innerSink, logic,
        malloc_object, object_of_prefix (longer.trans malloc_prefix) object, made.mono malloc_prefix⟩
  | scheduler inner ih =>
      obtain ⟨depth, rfl⟩ := Nat.exists_eq_succ_of_ne_zero (Nat.ne_zero_of_lt deep)
      obtain ⟨innerSink, object, placed⟩ := placed
      obtain ⟨heap', logic, created, longer, made⟩ := ih placed (Nat.lt_of_succ_lt_succ deep)
      exact ⟨_, _, createLogic_scheduler object created, longer.trans malloc_prefix, sink, logic,
        malloc_object, made.mono malloc_prefix⟩

/-! ## Signals through a chain -/

/-- The number of map flows in a chain. -/
def SinkStage.flows : {scheduled : Bool} → SinkStage Element scheduled → Nat
  | _, .user _ => 0
  | _, .map inner _ => inner.flows + 1
  | _, .scheduler inner => inner.flows

/-- Every mapping that is attached to a sink is one flow more. -/
theorem flows_flowTo (mappings : List (Element → Element)) (sink : SinkStage Element scheduled) :
    (flowTo (mappings.map flowMap) sink).flows = sink.flows + mappings.length := by
  induction mappings with
  | nil => rfl
  | cons mapping mappings ih => exact congrArg Nat.succ ih

section

variable {stage : SinkStage Element scheduled} {logic depth : Nat}

/-- An element is mapped by all flows on its way. -/
theorem call_onPush (made : stage.LogicAt heap logic) (deep : stage.height < depth)
    (element : Element) :
    call heap depth logic .logicOnPush (.onPush element : Signal Element Failure) =
      .ok (.onPush (stage.mapping element)) := by
  induction stage generalizing logic depth element with
  | user code =>
      obtain ⟨depth, rfl⟩ := Nat.exists_eq_succ_of_ne_zero (Nat.ne_zero_of_lt deep)
      obtain ⟨sink, object⟩ := made
      have reads : loadFunction heap logic Field.logicOnPush.offset = .ok .userOnPush :=
        loadFunction_eq object rfl
      simp only [call, reads, bind, Except.bind]
      rfl
  | map inner mapping ih =>
      obtain ⟨depth, rfl⟩ := Nat.exists_eq_succ_of_ne_zero (Nat.ne_zero_of_lt deep)
      obtain ⟨sink, innerSink, innerLogic, object, sinkObject, made⟩ := made
      have reads : loadFunction heap logic Field.logicOnPush.offset = .ok .sinkLogicOnPush :=
        loadFunction_eq object rfl
      have next : loadObject heap logic Field.logicMapInner.offset = .ok innerLogic :=
        loadObject_eq object rfl
      have owner : loadObject heap logic Field.logicSink.offset = .ok sink :=
        loadObject_eq object rfl
      have maps : loadMapping heap sink Field.mapMapping.offset = .ok mapping :=
        loadMapping_eq sinkObject rfl
      simp only [call, sinkLogicOnPush, reads, next, owner, maps, bind, Except.bind]
      exact ih made (Nat.lt_of_succ_lt_succ deep) (mapping element)
  | scheduler inner ih =>
      obtain ⟨depth, rfl⟩ := Nat.exists_eq_succ_of_ne_zero (Nat.ne_zero_of_lt deep)
      obtain ⟨sink, innerLogic, object, made⟩ := made
      have reads : loadFunction heap logic Field.logicOnPush.offset = .ok .pipelineSinkLogicOnPush :=
        loadFunction_eq object rfl
      have next : loadObject heap logic Field.logicSchedulerInner.offset = .ok innerLogic :=
        loadObject_eq object rfl
      simp only [call, pipelineSinkLogicOnPush, reads, next, bind, Except.bind]
      exact ih made (Nat.lt_of_succ_lt_succ deep) element

/-- The end of the stream passes every flow. -/
theorem call_onUpstreamFinish (made : stage.LogicAt heap logic) (deep : stage.height < depth) :
    call heap depth logic .logicOnUpstreamFinish (.onUpstreamFinish : Signal Element Failure) =
      .ok .onUpstreamFinish := by
  induction stage generalizing logic depth with
  | user code =>
      obtain ⟨depth, rfl⟩ := Nat.exists_eq_succ_of_ne_zero (Nat.ne_zero_of_lt deep)
      obtain ⟨sink, object⟩ := made
      have reads : loadFunction heap logic Field.logicOnUpstreamFinish.offset =
          .ok .userOnUpstreamFinish := loadFunction_eq object rfl
      simp only [call, reads, bind, Except.bind]
  | map inner mapping ih =>
      obtain ⟨depth, rfl⟩ := Nat.exists_eq_succ_of_ne_zero (Nat.ne_zero_of_lt deep)
      obtain ⟨sink, innerSink, innerLogic, object, sinkObject, made⟩ := made
      have reads : loadFunction heap logic Field.logicOnUpstreamFinish.offset =
          .ok .sinkLogicOnUpstreamFinish := loadFunction_eq object rfl
      have next : loadObject heap logic Field.logicMapInner.offset = .ok innerLogic :=
        loadObject_eq object rfl
      simp only [call, sinkLogicOnUpstreamFinish, reads, next, bind, Except.bind]
      exact ih made (Nat.lt_of_succ_lt_succ deep)
  | scheduler inner ih =>
      obtain ⟨depth, rfl⟩ := Nat.exists_eq_succ_of_ne_zero (Nat.ne_zero_of_lt deep)
      obtain ⟨sink, innerLogic, object, made⟩ := made
      have reads : loadFunction heap logic Field.logicOnUpstreamFinish.offset =
          .ok .pipelineSinkLogicOnUpstreamFinish := loadFunction_eq object rfl
      have next : loadObject heap logic Field.logicSchedulerInner.offset = .ok innerLogic :=
        loadObject_eq object rfl
      simp only [call, pipelineSinkLogicOnUpstreamFinish, reads, next, bind, Except.bind]
      exact ih made (Nat.lt_of_succ_lt_succ deep)

/-- A failure passes the scheduler, and at the first map flow the logic is sought behind the end of
the sink that made it. -/
theorem call_onUpstreamFailure (made : stage.LogicAt heap logic) (deep : stage.height < depth)
    (failure : Failure) :
    call heap depth logic .logicOnUpstreamFailure
        (.onUpstreamFailure failure : Signal Element Failure) =
      if stage.flows = 0 then .ok (.onUpstreamFailure failure) else .error .outOfBounds := by
  induction stage generalizing logic depth with
  | user code =>
      obtain ⟨depth, rfl⟩ := Nat.exists_eq_succ_of_ne_zero (Nat.ne_zero_of_lt deep)
      obtain ⟨sink, object⟩ := made
      have reads : loadFunction heap logic Field.logicOnUpstreamFailure.offset =
          .ok .userOnUpstreamFailure := loadFunction_eq object rfl
      simp only [call, reads, bind, Except.bind]
      rfl
  | map inner mapping ih =>
      obtain ⟨depth, rfl⟩ := Nat.exists_eq_succ_of_ne_zero (Nat.ne_zero_of_lt deep)
      obtain ⟨sink, innerSink, innerLogic, object, sinkObject, made⟩ := made
      have reads : loadFunction heap logic Field.logicOnUpstreamFailure.offset =
          .ok .sinkLogicOnUpstreamFailure := loadFunction_eq object rfl
      have owner : loadObject heap logic Field.logicSink.offset = .ok sink :=
        loadObject_eq object rfl
      -- a `struct rxc_sink_map` has four words, and the `inner` of a logic is the eighth
      have outside : loadObject heap sink Field.logicMapInner.offset = .error .outOfBounds := by
        refine loadObject_outOfBounds sinkObject ?_
        change 4 ≤ 7
        decide
      simp only [call, sinkLogicOnUpstreamFailure, reads, owner, outside, bind, Except.bind]
      rfl
  | scheduler inner ih =>
      obtain ⟨depth, rfl⟩ := Nat.exists_eq_succ_of_ne_zero (Nat.ne_zero_of_lt deep)
      obtain ⟨sink, innerLogic, object, made⟩ := made
      have reads : loadFunction heap logic Field.logicOnUpstreamFailure.offset =
          .ok .pipelineSinkLogicOnUpstreamFailure := loadFunction_eq object rfl
      have next : loadObject heap logic Field.logicSchedulerInner.offset = .ok innerLogic :=
        loadObject_eq object rfl
      simp only [call, pipelineSinkLogicOnUpstreamFailure, reads, next, bind, Except.bind]
      exact ih made (Nat.lt_of_succ_lt_succ deep)

end

/-! ## The chain of a pipeline -/

/-- The logics of this chain of sinks are the ones behind the connection. -/
structure Chain.Holds (chain : Chain Element) (stage : SinkStage Element scheduled) : Prop where
  logics : stage.LogicAt chain.heap chain.logic
  deep : stage.height < chain.heap.length

/-- A base source finds all objects it needs. -/
theorem connectObjects_holds (stage : SinkStage Element scheduled) :
    ∃ chain, connectObjects stage = .ok chain ∧ chain.Holds stage := by
  obtain ⟨placed, longer⟩ := stage.place_sinkAt []
  have deep : stage.height < (stage.place []).1.length := Nat.lt_of_le_of_lt (Nat.le_add_left _ _) longer
  obtain ⟨heap', logic, created, grown, made⟩ := createLogic_logicAt placed deep
  refine ⟨⟨heap', logic⟩, ?_, made, Nat.lt_of_lt_of_le deep grown.length_le⟩
  simp only [connectObjects, created, Except.map]

end

/-- The wrappers around a source attach their flows to the sink it is connected to. -/
theorem connectVia_eq {Connected : Type} (flows : List (FlowStage Element))
    (connect : SinkStage Element true → Connected) (sink : SinkStage Element true) :
    connectVia flows connect sink = connect (flowTo flows sink) := by
  induction flows generalizing connect with
  | nil => rfl
  | cons flow flows ih => exact ih fun sink => connect (flow.connectSink sink)

section

variable (outer inner : List (Element → Element)) (code : SinkCode Element)

/-- The sinks of a pipeline: those of the flows attached to the source, the scheduler, those of the
flows attached to the sink, and the sink itself. -/
def chainOf : SinkStage Element true :=
  flowTo (outer.map flowMap) (pipelineSink (flowTo (inner.map flowMap) (.user code)))

/-- A chain has the flows of its source and of its sink. -/
theorem flows_chainOf : (chainOf outer inner code).flows = inner.length + outer.length := by
  unfold chainOf
  rw [flows_flowTo]
  change (flowTo (inner.map flowMap) (.user code)).flows + _ = _
  rw [flows_flowTo]
  exact congrArg (· + outer.length) (Nat.zero_add _)

/-- A pipeline starts with the logics of its chain. -/
theorem startObjects_holds :
    ∃ chain, startObjects outer inner code = .ok chain ∧ chain.Holds (chainOf outer inner code) := by
  obtain ⟨chain, connected, holds⟩ := connectObjects_holds (chainOf outer inner code)
  exact ⟨chain, (connectVia_eq _ _ _).trans connected, holds⟩

end

end Sas.Rxc
