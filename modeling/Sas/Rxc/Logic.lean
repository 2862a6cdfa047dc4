import Sas.Platform
import Mathlib.Tactic.Common

/-! # Connections between a source and a sink

The connection of `logic.c`: its demand counter `requested`, with `LONG_MIN` as the mark of a
closed connection and `LONG_MAX` as unbounded demand, and the operations a sink performs on its
inlet and a source on its outlet. A running pipeline is the objects of the library behind one
connection (`Link`) together with a world of the caller's choice; a callback of the source or of
the sink is a function on both, so it may call back into the library.
-/

namespace Sas.Rxc

/-- `LONG_MAX`. -/
def longMax : Int := 2 ^ 63 - 1

/-- `LONG_MIN`. -/
def longMin : Int := -2 ^ 63

/-- `RXC_EOK`. -/
def eok : Int := 0

/-- The value a `long` holds after an addition that left its range. -/
def wrapLong (value : Int) : Int := value.bmod (2 ^ 64)

/-- `struct rxc_connection`, without its references to the two logics. -/
structure Connection where
  requested : Int
  deriving DecidableEq, Repr

/-- `struct rxc_inlet_scheduler`: whether `parent` still refers to the connection. It is null
once the sink has cancelled. -/
structure InletScheduler where
  parent : Bool
  deriving DecidableEq, Repr

/-- `struct trampoline_worker`: the scheduled tasks in order, and whether it is running them. -/
structure Worker where
  queue : List Int
  wip : Bool
  deriving DecidableEq, Repr

/-- What `rxc_pipeline_start` allocates between a source and a sink: the connection, the `in` of
the sink logic, which is null until the scheduling inlet has been made for it, and the worker of
that inlet. A task of the worker is the count of a deferred pull. -/
structure Link where
  connection : Connection
  inlet : Option InletScheduler
  worker : Worker
  deriving DecidableEq, Repr

/-- A pipeline that is running: its link, and everything else the callbacks act on. -/
structure Started (World : Type) where
  link : Link
  world : World

/-- A call into a running pipeline. -/
abbrev Action (World : Type) := Started World → Except Fault (Started World)

/-- `struct rxc_sink_logic`: the callbacks of a sink. -/
structure SinkLogic (World Element Failure : Type) where
  onConnect : Action World
  onPush : Element → Action World
  onUpstreamFinish : Action World
  onUpstreamFailure : Failure → Action World

/-- `struct rxc_source_logic`: the callbacks of a source. -/
structure SourceLogic (World : Type) where
  onPull : Int → Action World
  onDownstreamFinish : Action World

variable {World Element Failure : Type}

/-- The pipeline after `conn->requested` has been assigned. -/
def Started.withRequested (started : Started World) (requested : Int) : Started World :=
  { started with link := { started.link with connection := ⟨requested⟩ } }

/-- `conn->requested`. -/
def Started.requested (started : Started World) : Int := started.link.connection.requested

/-- The connection `rxc_connection_create` makes. -/
def connectionCreate : Connection := ⟨0⟩

/-- The demand a pull of `n` leaves: the sum, or `LONG_MAX` where it came out negative. -/
def demandAfter (requested n : Int) : Int :=
  if wrapLong (requested + n) < 0 then longMax else wrapLong (requested + n)

/-- `rxc_connection_inlet_pull`. -/
def connectionInletPull (source : SourceLogic World) (n : Int) : Action World := fun started =>
  if started.requested = longMin then .ok started
  else source.onPull n (started.withRequested (demandAfter started.requested n))

/-- `rxc_connection_inlet_cancel`. -/
def connectionInletCancel (source : SourceLogic World) : Action World := fun started =>
  if started.requested = longMin then .ok started
  else source.onDownstreamFinish (started.withRequested longMin)

/-- `rxc_outlet_emit`, with its return value. -/
def outletEmit (sink : SinkLogic World Element Failure) (element : Element)
    (started : Started World) : Except Fault (Int × Started World) :=
  if started.requested ≤ 0 then .ok (-1, started)
  else
    let started :=
      if started.requested ≠ longMax then started.withRequested (started.requested - 1)
      else started
    (sink.onPush element started).map fun started => (eok, started)

/-- `rxc_outlet_fail`. -/
def outletFail (sink : SinkLogic World Element Failure) (failure : Failure) : Action World :=
  fun started =>
    if started.requested = longMin then .ok started
    else sink.onUpstreamFailure failure (started.withRequested longMin)

/-- `rxc_outlet_complete`. -/
def outletComplete (sink : SinkLogic World Element Failure) : Action World := fun started =>
  if started.requested = longMin then .ok started
  else sink.onUpstreamFinish (started.withRequested longMin)

/-! ## Demand -/

/-- Demand that is not negative and stays in range after a pull is the sum. -/
theorem demandAfter_of_le {requested n : Int} (nonneg : 0 ≤ requested + n)
    (bounded : requested + n ≤ longMax) : demandAfter requested n = requested + n := by
  have same : wrapLong (requested + n) = requested + n := by
    unfold wrapLong
    unfold longMax at bounded
    exact Int.bmod_eq_of_le (by omega) (by omega)
  unfold demandAfter
  rw [same, if_neg (by omega)]

theorem longMin_lt_zero : longMin < 0 := by decide

/-- A pull does not leave the mark of a closed connection. -/
theorem demandAfter_nonneg (requested n : Int) : 0 ≤ demandAfter requested n := by
  unfold demandAfter
  split
  · decide
  · omega

/-- A closed connection stays silent on a pull. -/
theorem connectionInletPull_closed (source : SourceLogic World) (n : Int)
    {started : Started World} (closed : started.requested = longMin) :
    connectionInletPull source n started = .ok started := by
  rw [connectionInletPull, if_pos closed]

/-- A connection that is not closed adds the demand and passes the pull to its source. -/
theorem connectionInletPull_of_ne (source : SourceLogic World) (n : Int)
    {started : Started World} (opened : started.requested ≠ longMin) :
    connectionInletPull source n started =
      source.onPull n (started.withRequested (demandAfter started.requested n)) := by
  rw [connectionInletPull, if_neg opened]

end Sas.Rxc
