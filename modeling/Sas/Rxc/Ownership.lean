import Sas.Foundation.Fallible
import Sas.Foundation.Run
import Sas.Platform
import Mathlib.Data.List.Nodup

/-! # Releasing a pipeline

Every stage is an object of its own with a `dealloc` function (`pipeline.h`), and a wrapper holds the
address of the stage it wraps (`wrapper.c`, `map.c`). A `dealloc` function is told whether the nested
stages stay, and `rxc_pipeline_dealloc` has them stay at both ends of the pipeline.
-/

namespace Sas.Rxc.Ownership

open Foundation

variable {Element : Type}

/-! ## Objects -/

/-- The address of an object. -/
abbrev ObjectPtr := Nat

/-- The objects of a pipeline. -/
inductive Object (Element : Type) where
  /-- A `struct rxc_source` that wraps no other, as `count.c` and `empty.c` allocate one. -/
  | source
  /-- `struct rxc_source_wrapper`. -/
  | sourceWrapper (inner flow : ObjectPtr)
  /-- `struct rxc_flow_wrapper` with `sink_wrap` of `map.c`. -/
  | flowWrapper (ctx : ObjectPtr)
  /-- `struct map_ctx`. -/
  | mapCtx (mapping : Element → Element)
  /-- A `struct rxc_sink` that wraps no other, as `foreach.c`, `ignore.c` and `canceled.c` allocate
  one. -/
  | sink
  /-- `struct rxc_sink_map`. -/
  | sinkMap (inner : ObjectPtr) (mapping : Element → Element)
  /-- `struct rxc_pipeline`. -/
  | pipeline (source sink : ObjectPtr)

/-- The objects by their addresses, nothing where an object has been freed, and the stages whose
`dealloc` function has been called. -/
structure Memory (Element : Type) where
  objects : List (Option (Object Element))
  deallocs : List ObjectPtr

/-- `malloc`, and the assignment of all fields. -/
def malloc (memory : Memory Element) (object : Object Element) : Memory Element × ObjectPtr :=
  ({ memory with objects := memory.objects ++ [some object] }, memory.objects.length)

/-- The object at an address. -/
def load (memory : Memory Element) (address : ObjectPtr) : Except Fault (Object Element) :=
  match memory.objects[address]? with
  | some (some object) => .ok object
  | _ => .error (.useAfterFree address)

/-- The memory without the object at an address. -/
def Memory.without (memory : Memory Element) (address : ObjectPtr) : Memory Element :=
  { memory with objects := memory.objects.set address none }

/-- `free`. -/
def free (memory : Memory Element) (address : ObjectPtr) : Except Fault (Memory Element) :=
  (load memory address).map fun _ => memory.without address

/-! ## Building a pipeline -/

/-- `rxc_flow_wrapper` with `sink_wrap`. -/
def rxcFlowWrapper (memory : Memory Element) (ctx : ObjectPtr) : Memory Element × ObjectPtr :=
  malloc memory (.flowWrapper ctx)

/-- `rxc_flow_map`. -/
def rxcFlowMap (memory : Memory Element) (mapping : Element → Element) :
    Memory Element × ObjectPtr :=
  let allocated := malloc memory (.mapCtx mapping)
  rxcFlowWrapper allocated.1 allocated.2

/-- `sink_wrap`. -/
def sinkWrap (memory : Memory Element) (sink ctx : ObjectPtr) :
    Except Fault (Memory Element × ObjectPtr) := do
  match ← load memory ctx with
  | .mapCtx mapping => .ok (malloc memory (.sinkMap sink mapping))
  | _ => .error .nullPointer

/-- `flow_connect_source`. -/
def flowConnectSource (memory : Memory Element) (self source : ObjectPtr) :
    Memory Element × ObjectPtr :=
  malloc memory (.sourceWrapper source self)

/-- `flow_connect_sink`, where the flow has this `ctx`. -/
def flowConnectSink (memory : Memory Element) (ctx sink : ObjectPtr) :
    Except Fault (Memory Element × ObjectPtr) :=
  sinkWrap memory sink ctx

/-- `rxc_source_via`. -/
def rxcSourceVia (memory : Memory Element) (source flow : ObjectPtr) :
    Except Fault (Memory Element × ObjectPtr) := do
  match ← load memory flow with
  | .flowWrapper _ => .ok (flowConnectSource memory flow source)
  | _ => .error .nullPointer

/-- `rxc_flow_to`. -/
def rxcFlowTo (memory : Memory Element) (flow sink : ObjectPtr) :
    Except Fault (Memory Element × ObjectPtr) := do
  match ← load memory flow with
  | .flowWrapper ctx => flowConnectSink memory ctx sink
  | _ => .error .nullPointer

/-- `rxc_source_to`. -/
def rxcSourceTo (memory : Memory Element) (source sink : ObjectPtr) : Memory Element × ObjectPtr :=
  malloc memory (.pipeline source sink)

/-! ## Releasing -/

/-- The memory once the `dealloc` function of a stage has been called. -/
def Memory.called (memory : Memory Element) (self : ObjectPtr) : Memory Element :=
  { memory with deallocs := memory.deallocs ++ [self] }

/-- `dealloc` of the sources and sinks that wrap no other. -/
def baseDealloc (self : ObjectPtr) (_shallow : Bool) (memory : Memory Element) :
    Except Fault (Memory Element) :=
  free memory self

/-- `flow_dealloc`. -/
def flowDealloc (self ctx : ObjectPtr) (_shallow : Bool) (memory : Memory Element) :
    Except Fault (Memory Element) := do
  let memory ← free memory ctx
  free memory self

section

variable (dealloc : ObjectPtr → Bool → Memory Element → Except Fault (Memory Element))

/-- `source_dealloc` of `wrapper.c`: `inner` is not looked at. -/
def sourceDealloc (self flow : ObjectPtr) (shallow : Bool) (memory : Memory Element) :
    Except Fault (Memory Element) := do
  let memory ← if shallow then .ok memory else dealloc flow shallow memory
  free memory self

/-- `sink_dealloc` of `map.c`. -/
def sinkDealloc (self inner : ObjectPtr) (shallow : Bool) (memory : Memory Element) :
    Except Fault (Memory Element) := do
  let memory ← if shallow then .ok memory else dealloc inner shallow memory
  free memory self

end

/-- `self->dealloc(self, shallow)`, on a stack that holds this many calls. -/
def dealloc : Nat → ObjectPtr → Bool → Memory Element → Except Fault (Memory Element)
  | 0, _, _, _ => .error .diverge
  | depth + 1, self, shallow, memory => do
      match ← load memory self with
      | .source => baseDealloc self shallow (memory.called self)
      | .sourceWrapper _ flow =>
          sourceDealloc (dealloc depth) self flow shallow (memory.called self)
      | .flowWrapper ctx => flowDealloc self ctx shallow (memory.called self)
      | .sink => baseDealloc self shallow (memory.called self)
      | .sinkMap inner _ => sinkDealloc (dealloc depth) self inner shallow (memory.called self)
      | .mapCtx _ => .error .nullPointer
      | .pipeline _ _ => .error .nullPointer

/-- `rxc_source_dealloc`. -/
def rxcSourceDealloc (depth : Nat) (source : ObjectPtr) (memory : Memory Element) :
    Except Fault (Memory Element) :=
  dealloc depth source true memory

/-- `rxc_sink_dealloc`. -/
def rxcSinkDealloc (depth : Nat) (sink : ObjectPtr) (memory : Memory Element) :
    Except Fault (Memory Element) :=
  dealloc depth sink true memory

/-- `rxc_pipeline_dealloc`. -/
def rxcPipelineDealloc (depth : Nat) (pipeline : ObjectPtr) (memory : Memory Element) :
    Except Fault (Memory Element) := do
  match ← load memory pipeline with
  | .pipeline source sink => do
      let memory ← rxcSourceDealloc depth source memory
      let memory ← rxcSinkDealloc depth sink memory
      free memory pipeline
  | _ => .error .nullPointer

/-! ## Programs that build a pipeline -/

/-- A call of a program that builds a pipeline. -/
inductive Call (Element : Type) where
  | flowMap (mapping : Element → Element)
  | sourceVia (flow : ObjectPtr)
  | flowTo (flow : ObjectPtr)

/-- The call attaches a flow. -/
def Call.attaches : Call Element → Bool
  | .flowMap _ => false
  | .sourceVia _ => true
  | .flowTo _ => true

/-- What a program has built: the source and the sink it holds, and the stages these are made of, the
base stages last. -/
structure Parts (Element : Type) where
  memory : Memory Element
  source : ObjectPtr
  sink : ObjectPtr
  sources : List ObjectPtr
  sinks : List ObjectPtr
  flows : List ObjectPtr

/-- The stages of the pipeline. -/
def Parts.stages (parts : Parts Element) : List ObjectPtr :=
  parts.sources ++ parts.flows ++ parts.sinks

/-- A base source and a base sink. -/
def Parts.base : Parts Element where
  memory := ⟨[some .source, some .sink], []⟩
  source := 0
  sink := 1
  sources := [0]
  sinks := [1]
  flows := []

/-- A call of the program. -/
def Parts.call (parts : Parts Element) : Call Element → Except Fault (Parts Element)
  | .flowMap mapping => .ok { parts with memory := (rxcFlowMap parts.memory mapping).1 }
  | .sourceVia flow => do
      let built ← rxcSourceVia parts.memory parts.source flow
      .ok { parts with
        memory := built.1
        source := built.2
        sources := built.2 :: parts.sources
        flows := flow :: parts.flows }
  | .flowTo flow => do
      let built ← rxcFlowTo parts.memory flow parts.sink
      .ok { parts with
        memory := built.1
        sink := built.2
        sinks := built.2 :: parts.sinks
        flows := flow :: parts.flows }

/-- The steps of a program. -/
def Builds (parts : Parts Element) (call : Call Element) (next : Parts Element) : Prop :=
  parts.call call = .ok next

/-- `rxc_pipeline_dealloc` of the pipeline `rxc_source_to` makes of the parts. -/
def Parts.release (parts : Parts Element) (depth : Nat) : Except Fault (Memory Element) :=
  let built := rxcSourceTo parts.memory parts.source parts.sink
  rxcPipelineDealloc depth built.2 built.1

/-- Every one of these stages has been released exactly once. -/
def ReleasedOnce (stages : List ObjectPtr) (released : Except Fault (Memory Element)) : Prop :=
  ∃ after, released = .ok after ∧ ∀ stage ∈ stages, after.deallocs.count stage = 1

/-! ## Reading objects -/

section

variable {memory memory' : Memory Element} {address : ObjectPtr} {object : Object Element}

/-- Loading succeeds exactly on an object that has not been freed. -/
theorem load_eq_ok :
    load memory address = .ok object ↔ memory.objects[address]? = some (some object) := by
  unfold load
  split
  · next loaded => rw [loaded, Except.ok.injEq, Option.some.injEq, Option.some.injEq]
  · next missing =>
      refine iff_of_false (fun loaded => ?_) fun loaded => missing object loaded
      cases loaded

theorem load_lt (loaded : load memory address = .ok object) : address < memory.objects.length :=
  (List.getElem?_eq_some_iff.mp (load_eq_ok.mp loaded)).1

theorem load_malloc_self : load (malloc memory object).1 (malloc memory object).2 = .ok object :=
  load_eq_ok.mpr List.getElem?_concat_length

/-- An allocation keeps the objects there are. -/
theorem load_malloc (other : Object Element) (loaded : load memory address = .ok object) :
    load (malloc memory other).1 address = .ok object := by
  rw [load_eq_ok]
  exact (List.getElem?_append_left (load_lt loaded)).trans (load_eq_ok.mp loaded)

/-- Freeing an object leaves the others. -/
theorem load_without_of_ne {freed : ObjectPtr} (other : address ≠ freed) :
    load (memory.without freed) address = load memory address := by
  unfold load Memory.without
  rw [List.getElem?_set_ne other.symm]

/-- An object that can be loaded can be freed. -/
theorem free_eq (loaded : load memory address = .ok object) :
    free memory address = .ok (memory.without address) := by
  rw [free, loaded]
  rfl

/-- Objects of different kinds are not at one address. -/
theorem ne_of_load {other : ObjectPtr} {object' : Object Element}
    (loaded : load memory address = .ok object) (loaded' : load memory other = .ok object')
    (different : object ≠ object') : address ≠ other := by
  rintro rfl
  exact different (Except.ok.inj (loaded.symm.trans loaded'))

end

/-! ## Chains of wrappers -/

/-- The object is a source. -/
def Object.isSource : Object Element → Bool
  | .source => true
  | .sourceWrapper _ _ => true
  | _ => false

/-- The object is a sink. -/
def Object.isSink : Object Element → Bool
  | .sink => true
  | .sinkMap _ _ => true
  | _ => false

/-- The stage a wrapper wraps. -/
def Object.inner : Object Element → Option ObjectPtr
  | .sourceWrapper inner _ => some inner
  | .sinkMap inner _ => some inner
  | _ => none

/-- A stage of some kind is at an address: a base stage, or a wrapper around an older stage of its
kind. The list holds the stage and all stages inside. -/
inductive StageAt (kind : Object Element → Bool) (memory : Memory Element) :
    ObjectPtr → List ObjectPtr → Prop where
  | base {stage : ObjectPtr} {object : Object Element} :
      load memory stage = .ok object → kind object = true → object.inner = none →
      StageAt kind memory stage [stage]
  | wrapper {stage inner : ObjectPtr} {object : Object Element} {stages : List ObjectPtr} :
      load memory stage = .ok object → kind object = true → object.inner = some inner →
      inner < stage → StageAt kind memory inner stages → StageAt kind memory stage (stage :: stages)

namespace StageAt

variable {kind : Object Element → Bool} {memory memory' : Memory Element} {stage : ObjectPtr}
  {stages : List ObjectPtr}

/-- A stage stays where it is when objects are added. -/
theorem mono (placed : StageAt kind memory stage stages)
    (kept : ∀ address object, load memory address = .ok object → load memory' address = .ok object) :
    StageAt kind memory' stage stages := by
  induction placed with
  | base loaded isKind last => exact .base (kept _ _ loaded) isKind last
  | wrapper loaded isKind wraps older _ ih => exact .wrapper (kept _ _ loaded) isKind wraps older ih

/-- The outermost stage can be loaded. -/
theorem loaded (placed : StageAt kind memory stage stages) :
    ∃ object, load memory stage = .ok object ∧ kind object = true := by
  cases placed with
  | base loaded isKind _ => exact ⟨_, loaded, isKind⟩
  | wrapper loaded isKind _ _ _ => exact ⟨_, loaded, isKind⟩

/-- A stage comes before those inside. -/
theorem eq_cons (placed : StageAt kind memory stage stages) : ∃ inner, stages = stage :: inner := by
  cases placed with
  | base _ _ _ => exact ⟨[], rfl⟩
  | wrapper _ _ _ _ _ => exact ⟨_, rfl⟩

end StageAt

/-! ## The parts of a pipeline -/

section

variable {memory : Memory Element} {source flow sink : ObjectPtr}
  {built : Memory Element × ObjectPtr}

/-- A flow is attached to a source by a wrapper around both. -/
theorem rxcSourceVia_cases (done : rxcSourceVia memory source flow = .ok built) :
    ∃ ctx, load memory flow = .ok (.flowWrapper ctx) ∧
      built = malloc memory (.sourceWrapper source flow) := by
  obtain ⟨object, loaded, done⟩ := bind_eq_ok done
  cases object with
  | flowWrapper ctx => exact ⟨ctx, loaded, (Except.ok.inj done).symm⟩
  | _ => cases done

/-- A flow is attached to a sink by a wrapper around the sink. -/
theorem rxcFlowTo_cases (done : rxcFlowTo memory flow sink = .ok built) :
    ∃ ctx mapping, load memory flow = .ok (.flowWrapper ctx) ∧
      built = malloc memory (.sinkMap sink mapping) := by
  obtain ⟨object, loaded, done⟩ := bind_eq_ok done
  cases object with
  | flowWrapper ctx =>
      obtain ⟨object, _, done⟩ := bind_eq_ok done
      cases object with
      | mapCtx mapping => exact ⟨ctx, mapping, loaded, (Except.ok.inj done).symm⟩
      | _ => cases done
  | _ => cases done

end

/-- The parts are what they are said to be, none of them released. -/
structure Parts.Sound (parts : Parts Element) : Prop where
  sources : StageAt Object.isSource parts.memory parts.source parts.sources
  sinks : StageAt Object.isSink parts.memory parts.sink parts.sinks
  flows : ∀ flow ∈ parts.flows, ∃ ctx, load parts.memory flow = .ok (.flowWrapper ctx)
  counted : parts.sources.length + parts.sinks.length = parts.flows.length + 2
  unreleased : parts.memory.deallocs = []

/-- The two base stages are sound. -/
theorem base_sound : (Parts.base : Parts Element).Sound where
  sources := .base rfl rfl rfl
  sinks := .base rfl rfl rfl
  flows _ member := by cases member
  counted := rfl
  unreleased := rfl

section

variable {parts next : Parts Element} {call : Call Element} {calls : List (Call Element)}

/-- The parts survive an allocation. -/
theorem Parts.Sound.malloc (sound : parts.Sound) (object : Object Element) :
    { parts with memory := (malloc parts.memory object).1 : Parts Element }.Sound where
  sources := sound.sources.mono fun _ _ => load_malloc object
  sinks := sound.sinks.mono fun _ _ => load_malloc object
  flows flow member := by
    obtain ⟨ctx, loaded⟩ := sound.flows flow member
    exact ⟨ctx, load_malloc object loaded⟩
  counted := sound.counted
  unreleased := sound.unreleased

/-- A call of the program keeps the parts sound, and one flow more is attached if it attaches one. -/
theorem Parts.Sound.step (sound : parts.Sound) (done : Builds parts call next) :
    next.Sound ∧
      next.flows.length = parts.flows.length + if call.attaches then 1 else 0 := by
  cases call with
  | flowMap mapping =>
      cases done
      exact ⟨(sound.malloc (.mapCtx mapping)).malloc _, rfl⟩
  | sourceVia flow =>
      obtain ⟨built, attached, done⟩ := bind_eq_ok done
      obtain ⟨ctx, loaded, rfl⟩ := rxcSourceVia_cases attached
      cases done
      have kept := sound.malloc (.sourceWrapper parts.source flow)
      obtain ⟨_, placed, _⟩ := sound.sources.loaded
      refine ⟨?_, rfl⟩
      exact {
        sources := .wrapper load_malloc_self rfl rfl (load_lt placed) kept.sources
        sinks := kept.sinks
        flows := List.forall_mem_cons.mpr ⟨⟨ctx, load_malloc _ loaded⟩, kept.flows⟩
        counted := by
          have counted := sound.counted
          simp only [List.length_cons]
          omega
        unreleased := sound.unreleased }
  | flowTo flow =>
      obtain ⟨built, attached, done⟩ := bind_eq_ok done
      obtain ⟨ctx, mapping, loaded, rfl⟩ := rxcFlowTo_cases attached
      cases done
      have kept := sound.malloc (.sinkMap parts.sink mapping)
      obtain ⟨_, placed, _⟩ := sound.sinks.loaded
      refine ⟨?_, rfl⟩
      exact {
        sources := kept.sources
        sinks := .wrapper load_malloc_self rfl rfl (load_lt placed) kept.sinks
        flows := List.forall_mem_cons.mpr ⟨⟨ctx, load_malloc _ loaded⟩, kept.flows⟩
        counted := by
          have counted := sound.counted
          simp only [List.length_cons]
          omega
        unreleased := sound.unreleased }

/-- In a program the parts stay sound, and as many flows are attached as calls attach one. -/
theorem builds_sound (built : Run Builds Parts.base calls parts) :
    parts.Sound ∧ parts.flows.length = calls.countP Call.attaches := by
  apply built.history fun calls parts =>
    parts.Sound ∧ parts.flows.length = calls.countP Call.attaches
  · exact ⟨base_sound, rfl⟩
  · intro calls parts call next _ holds last
    obtain ⟨sound, attached⟩ := holds
    obtain ⟨sound', attached'⟩ := sound.step last
    refine ⟨sound', ?_⟩
    rw [attached', attached, List.countP_append, List.countP_singleton]

end

/-! ## The end of a pipeline -/

section

variable {memory : Memory Element} {self : ObjectPtr} {object : Object Element}

/-- A source is not a sink. -/
theorem Object.isSink_of_isSource (source : object.isSource = true) : object.isSink = false := by
  cases object with
  | source => rfl
  | sourceWrapper inner flow => rfl
  | _ => cases source

/-- A source or a sink that lets its nested stages stay releases itself only. -/
theorem dealloc_shallow (depth : Nat) (loaded : load memory self = .ok object)
    (stage : (object.isSource || object.isSink) = true) :
    dealloc (depth + 1) self true memory = .ok ((memory.called self).without self) := by
  have freed : free (memory.called self) self = .ok ((memory.called self).without self) :=
    free_eq loaded
  unfold dealloc
  rw [loaded]
  cases object with
  | source => exact freed
  | sourceWrapper inner flow => exact freed
  | sink => exact freed
  | sinkMap inner mapping => exact freed
  | _ => cases stage

end

section

variable {parts : Parts Element}

/-- The source of a pipeline is not its sink. -/
theorem Parts.Sound.source_ne_sink (sound : parts.Sound) : parts.source ≠ parts.sink := by
  obtain ⟨_, sourceLoaded, isSource⟩ := sound.sources.loaded
  obtain ⟨_, sinkLoaded, isSink⟩ := sound.sinks.loaded
  refine ne_of_load sourceLoaded sinkLoaded ?_
  rintro rfl
  rw [Object.isSink_of_isSource isSource] at isSink
  cases isSink

/-- Releasing a pipeline succeeds. It calls `dealloc` once at each end of the pipeline, and leaves
everything but these ends behind. -/
theorem Parts.Sound.release (sound : parts.Sound) (depth : Nat) :
    ∃ after, parts.release (depth + 1) = .ok after ∧
      after.deallocs = [parts.source, parts.sink] ∧
      ∀ address object, address ≠ parts.source → address ≠ parts.sink →
        load parts.memory address = .ok object → load after address = .ok object := by
  obtain ⟨_, sourceLoaded, isSource⟩ := sound.sources.loaded
  obtain ⟨sinkObject, sinkLoaded, isSink⟩ := sound.sinks.loaded
  let pipeline := parts.memory.objects.length
  let built := (rxcSourceTo parts.memory parts.source parts.sink).1
  let first := (built.called parts.source).without parts.source
  let second := (first.called parts.sink).without parts.sink
  have sinkBelow : parts.sink < pipeline := load_lt sinkLoaded
  have sourceBelow : parts.source < pipeline := load_lt sourceLoaded
  have loaded : load built pipeline = .ok (.pipeline parts.source parts.sink) := load_malloc_self
  have keeps {address : ObjectPtr} {object : Object Element} (notSource : address ≠ parts.source)
      (notSink : address ≠ parts.sink) (there : load built address = .ok object) :
      load second address = .ok object :=
    (load_without_of_ne notSink).trans ((load_without_of_ne notSource).trans there)
  have sourceReleased : rxcSourceDealloc (depth + 1) parts.source built = .ok first := by
    refine dealloc_shallow depth (load_malloc _ sourceLoaded) ?_
    rw [isSource, Bool.true_or]
  have sinkReleased : rxcSinkDealloc (depth + 1) parts.sink first = .ok second := by
    have there : load first parts.sink = .ok sinkObject :=
      (load_without_of_ne sound.source_ne_sink.symm).trans (load_malloc _ sinkLoaded)
    refine dealloc_shallow depth there ?_
    rw [isSink, Bool.or_true]
  have pipelineReleased : free second pipeline = .ok (second.without pipeline) :=
    free_eq (keeps (Nat.ne_of_gt sourceBelow) (Nat.ne_of_gt sinkBelow) loaded)
  refine ⟨second.without pipeline, ?_, ?_, ?_⟩
  · change rxcPipelineDealloc (depth + 1) pipeline built = _
    unfold rxcPipelineDealloc
    simp only [loaded, sourceReleased, sinkReleased, bind, Except.bind]
    exact pipelineReleased
  · change (parts.memory.deallocs ++ [parts.source]) ++ [parts.sink] = _
    rw [sound.unreleased]
    rfl
  · intro address object notSource notSink there
    rw [load_without_of_ne (Nat.ne_of_lt (load_lt there))]
    exact keeps notSource notSink (load_malloc _ there)

/-- A flow is neither end of the pipeline. -/
theorem Parts.Sound.flow_not_mem (sound : parts.Sound) {flow : ObjectPtr}
    (attached : flow ∈ parts.flows) : flow ∉ [parts.source, parts.sink] := by
  obtain ⟨ctx, loaded⟩ := sound.flows flow attached
  obtain ⟨_, sourceLoaded, isSource⟩ := sound.sources.loaded
  obtain ⟨_, sinkLoaded, isSink⟩ := sound.sinks.loaded
  have notSource : flow ≠ parts.source := by
    refine ne_of_load loaded sourceLoaded ?_
    rintro rfl
    cases isSource
  have notSink : flow ≠ parts.sink := by
    refine ne_of_load loaded sinkLoaded ?_
    rintro rfl
    cases isSink
  intro member
  rcases List.mem_cons.mp member with same | member
  · exact notSource same
  · exact notSink (List.mem_singleton.mp member)

/-- Without flows a pipeline is its two ends. -/
theorem Parts.Sound.stages_eq (sound : parts.Sound) (none : parts.flows = []) :
    parts.stages = [parts.source, parts.sink] := by
  obtain ⟨sources, sourcesEq⟩ := sound.sources.eq_cons
  obtain ⟨sinks, sinksEq⟩ := sound.sinks.eq_cons
  have counted := sound.counted
  rw [sourcesEq, sinksEq, none] at counted
  simp only [List.length_cons, List.length_nil] at counted
  have noSources : sources = [] := List.length_eq_zero_iff.mp (by omega)
  have noSinks : sinks = [] := List.length_eq_zero_iff.mp (by omega)
  rw [Parts.stages, sourcesEq, sinksEq, none, noSources, noSinks]
  rfl

/-- Every stage of a pipeline is released once exactly if the pipeline has no flows. -/
theorem Parts.Sound.releasedOnce_iff (sound : parts.Sound) (depth : Nat) :
    ReleasedOnce parts.stages (parts.release (depth + 1)) ↔ parts.flows = [] := by
  obtain ⟨after, done, deallocs, _⟩ := sound.release depth
  constructor
  · rintro ⟨after', done', once⟩
    cases done.symm.trans done'
    refine List.eq_nil_iff_forall_not_mem.mpr fun flow attached => ?_
    have stage : flow ∈ parts.stages :=
      List.mem_append_left _ (List.mem_append_right _ attached)
    have one : after.deallocs.count flow = 1 := once flow stage
    rw [deallocs, List.count_eq_zero.mpr (sound.flow_not_mem attached)] at one
    cases one
  · intro none
    have apart : parts.source ≠ parts.sink := sound.source_ne_sink
    refine ⟨after, done, fun stage member => ?_⟩
    rw [sound.stages_eq none] at member
    rw [deallocs]
    refine List.count_eq_one_of_mem ?_ member
    exact List.nodup_cons.mpr ⟨fun same => apart (List.mem_singleton.mp same),
      List.nodup_singleton _⟩

variable {calls : List (Call Element)}

/-- **Releasing a pipeline releases its two ends.** Every stage of a pipeline a program has built is
released exactly once if and only if the program has attached no flow. -/
theorem release_releasedOnce_iff (built : Run Builds Parts.base calls parts) (depth : Nat) :
    ReleasedOnce parts.stages (parts.release (depth + 1)) ↔
      ∀ call ∈ calls, call.attaches = false := by
  obtain ⟨sound, attached⟩ := builds_sound built
  rw [sound.releasedOnce_iff depth, ← List.length_eq_zero_iff, attached, List.countP_eq_zero]
  exact forall₂_congr fun call _ => iff_of_eq (Bool.not_eq_true _)

end

/-- A map flow on each side of a pipeline. -/
def twoFlows : List (Call Nat) :=
  [.flowMap (· + 1), .sourceVia 3, .flowMap (· * 2), .flowTo 6]

/-- Two wrappers and two flows around the base stages, not all released. -/
theorem release_twoFlows : ∃ parts : Parts Nat, parts.stages = [4, 0, 6, 3, 7, 1] ∧
    ¬ ReleasedOnce parts.stages (parts.release 1) := by
  have built : Run Builds Parts.base twoFlows _ := Run.of_foldlM rfl
  refine ⟨_, ?_, mt (release_releasedOnce_iff built 0).mp fun none => ?_⟩
  · rfl
  · cases none (.sourceVia 3) (List.mem_cons_of_mem _ List.mem_cons_self)

/-- A base source with a map flow attached is not released with its pipeline. -/
theorem release_not_releasedOnce : ∃ parts : Parts Nat,
    Run Builds Parts.base [.flowMap (· + 1), .sourceVia 3] parts ∧
      ∀ depth, ¬ ReleasedOnce parts.stages (parts.release depth) := by
  refine ⟨_, Run.of_foldlM rfl, fun depth => ?_⟩
  rintro ⟨after, done, once⟩
  cases depth with
  | zero => cases done
  | succ depth =>
      cases done
      cases once 0 (List.mem_cons_of_mem _ List.mem_cons_self)

end Sas.Rxc.Ownership
