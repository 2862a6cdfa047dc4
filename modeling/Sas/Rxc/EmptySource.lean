import Sas.Rxc.Meaning
import Sas.Rxc.Objects

/-! # The empty source

A source without elements can only tell its sink the end of the stream. A count source that starts
where it stops does so when it is pulled (`count.c`), and the empty source does not (`empty.c`). Apart
from that they are the same: a sink that cancels before it pulls anything hears nothing from either.
-/

namespace Sas.Rxc

open Foundation

variable {Wires Element : Type}

/-! ## The source -/

/-- The program begins with a pull. -/
def SinkProgram.pullsFirst : SinkProgram Element → Bool
  | .done => false
  | .pull _ _ => true
  | .cancel _ => false

section

variable (code : SinkCode Element) (mappings : List (Element → Element)) (split : Nat)

end

/-! ## Pipelines that tell their sink nothing -/

/-- The pipeline between two calls of its sink: the sink has been told these signals, and the
connection is closed if it is said to be. -/
structure Quiet (closed : Prop) (told : List (FlowEvent Element))
    (started : Started (FlowWorld Unit Element)) : Prop where
  requested : closed → started.requested = longMin
  inlet : started.link.inlet = some ⟨!cancelledIn started.world.events⟩
  worker : started.link.worker = ⟨[], false⟩
  signals : signalsIn started.world.events = told

section

variable {closed : Prop} {told : List (FlowEvent Element)} {code : SinkCode Element}
  {source : Nat → Nat → SourceLogic (FlowWorld Unit Element)}
  {started : Started (FlowWorld Unit Element)}

namespace Quiet

/-- An event that neither is a signal nor a cancellation. -/
theorem noted (quiet : Quiet closed told started) (event : FlowEvent Element)
    (signal : event.isSignal = false) (cancel : event.isCancel = false) :
    Quiet closed told (started.noted event) where
  requested := quiet.requested
  inlet := refers_until quiet.inlet (cancelledIn_snoc _ rfl cancel)
  worker := quiet.worker
  signals := signalsIn_quiet _ quiet.signals signal

/-- The first cancellation closes the connection. -/
theorem cancels (quiet : Quiet closed told started)
    (patient : cancelledIn started.world.events = false)
    (finishes : ∀ rounds depth started, (source rounds depth).onDownstreamFinish started =
      .ok (started.noted .onDownstreamFinish)) :
    Settles (fun rounds depth => pipelineInletCancel (source rounds depth) (started.noted .cancel))
      (Quiet True told) := by
  have inlet : (started.noted .cancel).link.inlet = some ⟨true⟩ :=
    refers_of_patient quiet.inlet patient
  have cancelled : signalsIn (started.noted .cancel).world.events = told :=
    signalsIn_quiet _ quiet.signals rfl
  by_cases ended : started.requested = longMin
  · have after : Quiet True told (started.noted .cancel).released :=
      ⟨fun _ => ended, refers_until rfl cancelledIn_cancel, quiet.worker, cancelled⟩
    apply Settles.congr (Settles.pure after)
    exact fun rounds depth => pipelineInletCancel_closed inlet ended
  · have after : Quiet True told
        (((started.noted .cancel).released.withRequested longMin).noted .onDownstreamFinish) :=
      ⟨fun _ => rfl, refers_until rfl (cancelledIn_snoc _ cancelledIn_cancel rfl), quiet.worker,
        signalsIn_quiet _ cancelled rfl⟩
    apply Settles.congr (Settles.pure after)
    exact fun rounds depth =>
      (pipelineInletCancel_opened inlet ended).trans (finishes rounds depth _)

/-- A pull goes as far as the source if the connection is open. -/
theorem pulls (quiet : Quiet closed told started)
    (silent : ¬ closed → ∀ rounds depth (n : Amount) started,
      (source rounds depth).onPull n.toLong started = .ok (started.noted (.onPull n.toLong))) :
    PullsSettle (fun rounds depth => pipelineInletPull (source rounds depth) rounds)
      (Quiet closed told) started := by
  intro n
  have pulled := quiet.noted (.pull n) rfl rfl
  cases cancelled : cancelledIn (started.noted (.pull n)).world.events with
  | true =>
      apply Settles.congr (Settles.pure pulled)
      exact fun rounds depth =>
        pipelineInletPull_released _ _ (released_of_cancelled pulled.inlet cancelled)
  | false =>
      have inlet := refers_of_patient pulled.inlet cancelled
      by_cases ended : started.requested = longMin
      · refine ⟨2, _, fun more depth => ?_, pulled⟩
        rw [Nat.add_comm]
        exact pipelineInletPull_closed _ more _ _ _ inlet quiet.worker ended
      · have opened : ¬ closed := fun closed => ended (quiet.requested closed)
        let asked := ((started.noted (.pull n)).withWorker ⟨[], true⟩).withRequested
          (demandAfter started.requested n.toLong)
        have still : ((started.noted (.pull n)).withWorker ⟨[], true⟩).requested ≠ longMin := ended
        have served (rounds depth : Nat) : connectionInletPull (source rounds depth) n.toLong
            ((started.noted (.pull n)).withWorker ⟨[], true⟩) =
              .ok (asked.noted (.onPull n.toLong)) :=
          (connectionInletPull_of_ne _ n.toLong still).trans (silent opened rounds depth n _)
        have after : Quiet closed told
            ((asked.noted (.onPull n.toLong)).withWorker ⟨[], false⟩) :=
          { requested := fun closed => (opened closed).elim
            inlet := refers_until pulled.inlet (cancelledIn_snoc _ rfl rfl)
            worker := rfl
            signals := signalsIn_quiet _ pulled.signals rfl }
        refine ⟨2, _, fun more depth => ?_, after⟩
        rw [Nat.add_comm]
        exact pipelineInletPull_idle _ more _ _ _ _ inlet quiet.worker (served _ depth) rfl

end Quiet

end

/-! ## Starting -/

/-- A pipeline that has told its sink of the connection. -/
def connected (count : Int) : Started (FlowWorld Unit Element) :=
  (⟨Link.fresh, ⟨(), count, []⟩⟩ : Started (FlowWorld Unit Element)).noted .onConnect

section

variable (code : SinkCode Element) (box : Int → Element) (k : Int)

/-- What a count source that starts where it stops tells a sink with this program in `on_connect`. -/
def toldBy (program : SinkProgram Element) : List (FlowEvent Element) :=
  .onConnect :: if program.pullsFirst then [.onUpstreamFinish] else []

variable (mappings : List (Element → Element))

end

end Sas.Rxc
