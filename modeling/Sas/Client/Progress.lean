import Sas.Client.Demand

/-! # Every packet is handled

The pipeline refuses a sink only a second cancellation. With a sink that cancels at most once the
state machine of the client returns for every packet, in every run.
-/

namespace Sas.Client

open Foundation Transport Rxc

/-- Whatever is pushed to it, the sink cancels its inlet at most once. -/
def Sink.CancelsOnce (sink : Sink) : Prop :=
  ∀ pushed, (sinkCalls sink pushed).count .cancel ≤ 1

/-- The worker of the link is idle, and its inlet is open unless one of these calls has cancelled
it. -/
structure Serves (link : Link) (calls : List InletCall) : Prop where
  idle : link.worker = ⟨[], false⟩
  inlet : link.inlet = some ⟨decide (.cancel ∉ calls)⟩

/-- The link of the client, where it has one, serves the calls its sink has made. -/
def Serving (sink : Sink) (world : World) : Prop :=
  ∀ link, world.session.sinkLogic = some link → Serves link (sinkCalls sink world.pushed)

section

variable {sink : Sink} {link : Link} {world : World} {calls made : List InletCall}

/-- One chunk more adds the calls the sink makes for it. -/
theorem callsAfter_snoc (sink : Sink) (earlier chunks : List Chunk) (chunk : Chunk) :
    callsAfter sink earlier (chunks ++ [chunk]) =
      callsAfter sink earlier chunks ++ sink.onPush (earlier ++ chunks) chunk := by
  induction chunks generalizing earlier with
  | nil => simp only [List.nil_append, callsAfter, List.append_nil]
  | cons first chunks ih =>
      simp only [List.cons_append, callsAfter, ih, List.append_assoc, List.nil_append]

/-- One push more is the calls of that push more. -/
theorem sinkCalls_snoc (sink : Sink) (pushed : List Chunk) (chunk : Chunk) :
    sinkCalls sink (pushed ++ [chunk]) = sinkCalls sink pushed ++ sink.onPush pushed chunk := by
  rw [sinkCalls, callsAfter_snoc, sinkCalls, List.append_assoc, List.nil_append]

/-- A pull changes nothing the link is asked for. -/
theorem Serves.pull (serves : Serves link made) (n : Int) : Serves link (made ++ [.pull n]) := by
  refine ⟨serves.idle, ?_⟩
  rw [serves.inlet]
  simp only [List.mem_append, List.mem_singleton, reduceCtorEq, or_false]

/-- A call on an inlet that serves the calls before is answered, unless it cancels once more. -/
theorem inletCall_total (serves : Serves link made) {call : InletCall}
    (once : (made ++ [call]).count .cancel ≤ 1) (world : World) :
    ∃ started, inletCall call ⟨link, world⟩ = .ok started ∧
      Serves started.link (made ++ [call]) := by
  cases call with
  | pull n =>
      change ∃ started, pipelineInletPull sessionSource (0 + 2) n ⟨link, world⟩ = .ok started ∧ _
      by_cases cancelled : .cancel ∈ made
      · have deaf : link.inlet = some ⟨false⟩ := by
          rw [serves.inlet, decide_eq_false (not_not_intro cancelled)]
        refine ⟨⟨link, world⟩, ?_, serves.pull n⟩
        rw [pipelineInletPull, deaf]
        rfl
      have linked : link.inlet = some ⟨true⟩ := by
        rw [serves.inlet, decide_eq_true cancelled]
      by_cases closed : link.connection.requested = longMin
      · exact ⟨_, pipelineInletPull_closed _ _ _ _ _ linked serves.idle closed, serves.pull n⟩
      · let running : Started World := ⟨{ link with worker := ⟨[], true⟩ }, world⟩
        have opened : running.requested ≠ longMin := closed
        have task := (connectionInletPull_of_ne sessionSource n opened).trans
          (sessionSource_onPull n _)
        exact ⟨_, pipelineInletPull_idle sessionSource 0 n link world _ linked serves.idle task rfl,
          rfl, (serves.pull n).inlet⟩
  | cancel =>
      have first : .cancel ∉ made := by
        intro earlier
        have some := List.one_le_count_iff.mpr earlier
        rw [List.count_append, List.count_singleton_self] at once
        omega
      have linked : link.inlet = some ⟨true⟩ := by
        rw [serves.inlet, decide_eq_true first]
      have after : (some ⟨false⟩ : Option InletScheduler) =
          some ⟨decide (.cancel ∉ made ++ [.cancel])⟩ := by
        rw [decide_eq_false (not_not_intro (List.mem_append_right _ (List.mem_singleton_self _)))]
      change ∃ started, pipelineInletCancel sessionSource ⟨link, world⟩ = .ok started ∧ _
      unfold pipelineInletCancel connectionInletCancel
      rw [linked]
      dsimp only
      rw [if_pos rfl]
      split
      · exact ⟨_, rfl, serves.idle, after⟩
      · exact ⟨_, rfl, serves.idle, after⟩

/-- The calls of a sink that does not cancel a second time are answered. -/
theorem inletCalls_total (serves : Serves link made)
    (once : (made ++ calls).count .cancel ≤ 1) (world : World) :
    ∃ started, inletCalls calls ⟨link, world⟩ = .ok started ∧
      Serves started.link (made ++ calls) := by
  induction calls generalizing link made world with
  | nil =>
      rw [List.append_nil]
      exact ⟨_, rfl, serves⟩
  | cons call calls ih =>
      have split : made ++ call :: calls = (made ++ [call]) ++ calls := by
        rw [List.append_assoc, List.singleton_append]
      rw [split] at once ⊢
      have first : (made ++ [call]).count .cancel ≤ 1 := by
        rw [List.count_append] at once
        omega
      obtain ⟨⟨link', world'⟩, called, serves'⟩ := inletCall_total serves first world
      obtain ⟨started, done, serves''⟩ := ih serves' once world'
      refine ⟨started, ?_, serves''⟩
      unfold inletCalls
      rw [called]
      exact done

/-- What has been pushed to the sink is not changed by its calls. -/
theorem inletCalls_pushed {started : Started World} (idle : link.worker = ⟨[], false⟩)
    (done : inletCalls calls ⟨link, world⟩ = .ok started) : started.world.pushed = world.pushed :=
  (inletCalls_acks calls idle done).2.pushed

/-- Only the link and the chunks pushed so far matter. -/
theorem Serving.congr {next : World} (serving : Serving sink world)
    (linked : next.session.sinkLogic = world.session.sinkLogic)
    (pushed : next.pushed = world.pushed) : Serving sink next := by
  intro link set
  rw [pushed]
  exact serving link (linked.symm.trans set)

theorem sessionAck_sinkLogic (world : World) :
    (sessionAck world).2.session.sinkLogic = world.session.sinkLogic := rfl

theorem sessionAck_pushed (world : World) : (sessionAck world).2.pushed = world.pushed := rfl

/-! ## The state machine -/

/-- A push to a connected sink returns. -/
theorem sessionPush_total (once : sink.CancelsOnce) (serving : Serving sink world)
    (linked : world.session.sinkLogic.isSome = true) :
    ∃ next, sessionPush sink world = .ok next ∧ Serving sink next := by
  obtain ⟨link, set⟩ := Option.isSome_iff_exists.mp linked
  have serves := serving link set
  have bound := once (world.pushed ++ [world.session.chunk])
  rw [sinkCalls_snoc] at bound
  obtain ⟨started, called, serves'⟩ := inletCalls_total serves bound (holding world)
  rw [← sinkCalls_snoc] at serves'
  have same := inletCalls_pushed serves.idle called
  refine ⟨ofStarted started, ?_, ?_⟩
  · unfold sessionPush
    rw [set]
    change (inletCalls (sink.onPush world.pushed world.session.chunk)
      ⟨link, holding world⟩).map ofStarted = _
    rw [called]
    rfl
  · intro link' set'
    cases set'
    change Serves started.link (sinkCalls sink started.world.pushed)
    rw [same]
    exact serves'

/-- What `sas_client_session_state_machine` does with a chunk it pushes as the configuration. -/
theorem sessionStart_eq (sink : Sink) (header : PacketHeader) (payload : Memory) (world : World) :
    sessionStart sink header payload world =
      (inletCalls sink.onConnect ⟨Link.fresh, world.withChunk (configChunk header payload)⟩).bind
        fun started => (sessionPush sink
          ((sessionAck (ofStarted started)).2.withState .establsh)).map fun next => (0, next) := by
  unfold sessionStart
  rw [pipelineStart_eq]
  generalize configChunk header payload = chunk
  change ((inletCalls sink.onConnect ⟨Link.fresh, world.withChunk chunk⟩).map _).bind _ = _
  cases inletCalls sink.onConnect ⟨Link.fresh, world.withChunk chunk⟩ with
  | error fault => rfl
  | ok started =>
      change (sessionPush sink ((sessionAck (ofStarted started)).2.withState .establsh)).bind _ =
        (sessionPush sink ((sessionAck (ofStarted started)).2.withState .establsh)).map _
      cases sessionPush sink ((sessionAck (ofStarted started)).2.withState .establsh) <;> rfl

/-- A client that connects its sink and has nothing pushed yet pushes the first chunk. -/
theorem connect_total (once : sink.CancelsOnce) (none : world.pushed = []) (chunk : Chunk) :
    ∃ started next,
      inletCalls sink.onConnect ⟨Link.fresh, world.withChunk chunk⟩ = .ok started ∧
      sessionPush sink ((sessionAck (ofStarted started)).2.withState .establsh) = .ok next ∧
      Serving sink next := by
  have fresh : Serves Link.fresh [] := ⟨rfl, rfl⟩
  have bound := once []
  rw [sinkCalls, callsAfter, List.append_nil] at bound
  obtain ⟨started, connected, serves⟩ := inletCalls_total fresh bound (world.withChunk chunk)
  have same : started.world.pushed = [] := (inletCalls_pushed rfl connected).trans none
  have written : Serving sink (ofStarted started) := by
    rintro _ ⟨⟩
    change Serves started.link (sinkCalls sink started.world.pushed)
    rw [same, sinkCalls, callsAfter, List.append_nil]
    exact serves
  have serving : Serving sink ((sessionAck (ofStarted started)).2.withState .establsh) :=
    written.congr (sessionAck_sinkLogic _) (sessionAck_pushed _)
  have linked : ((sessionAck (ofStarted started)).2.withState
      .establsh).session.sinkLogic.isSome = true := congrArg Option.isSome (sessionAck_sinkLogic _)
  obtain ⟨next, pushed, serving'⟩ := sessionPush_total once serving linked
  exact ⟨started, next, connected, pushed, serving'⟩

/-- The first packet is handled. -/
theorem sessionStart_total (once : sink.CancelsOnce) (header : PacketHeader) (payload : Memory)
    (none : world.pushed = []) :
    ∃ next, sessionStart sink header payload world = .ok (0, next) ∧ Serving sink next := by
  obtain ⟨started, next, connected, pushed, serving⟩ :=
    connect_total once none (configChunk header payload)
  refine ⟨next, ?_, serving⟩
  rw [sessionStart_eq, connected, Except.bind, pushed]
  rfl

/-- A connected client pushes a chunk and closes its window. -/
theorem stream_total (once : sink.CancelsOnce) (serving : Serving sink world)
    (linked : world.session.sinkLogic.isSome = true) (chunk : Chunk) :
    ∃ next, (sessionPush sink (world.withChunk chunk)).map
        (fun after => (0, (sessionAck (after.withWindow 0)).2)) = .ok ((0 : Int32), next) ∧
      Serving sink next := by
  obtain ⟨after, pushed, serving'⟩ := @sessionPush_total sink (world.withChunk chunk) once serving
    linked
  rw [pushed]
  refine ⟨(sessionAck (after.withWindow 0)).2, rfl, ?_⟩
  exact serving'.congr (sessionAck_sinkLogic _) (sessionAck_pushed _)

/-- A later packet is handled. -/
theorem sessionStream_total (once : sink.CancelsOnce) (header : PacketHeader) (payload : Memory)
    (serving : Serving sink world) (linked : world.session.sinkLogic.isSome = true) :
    ∃ next, sessionStream sink header payload world = .ok (0, next) ∧ Serving sink next := by
  rw [sessionStream_eq]
  exact stream_total once serving linked (dataChunk header payload world.session.chunk)

/-- The state machine of a client underway returns. -/
theorem stateMachine_total (once : sink.CancelsOnce) (underway : Underway world)
    (serving : Serving sink world) (header : PacketHeader) (payload : Memory) (count : Nat) :
    ∃ err next, sessionStateMachine sink header payload count world = .ok (err, next) ∧
      Serving sink next := by
  by_cases behind : header.seq < world.session.ack
  · exact ⟨0, world, if_pos behind, serving⟩
  cases reset : packetFlagIsset header.flags packetFlagRst with
  | true =>
      rw [stateMachine_reset behind reset]
      split
      · exact ⟨_, _, rfl, serving⟩
      · split
        · exact ⟨_, _, rfl, serving⟩
        · exact ⟨_, _, rfl, serving⟩
  | false =>
      have heard : Heard world header := ⟨behind, reset⟩
      by_cases waiting : world.session.state = .synSent
      · rw [stateMachine_synSent heard count waiting]
        obtain ⟨next, done, serving'⟩ := @sessionStart_total sink (acked world header) once header
          payload (underway.waiting waiting).1
        exact ⟨0, next, done, serving'⟩
      by_cases streaming : world.session.state = .establsh
      · rw [stateMachine_establsh heard count streaming]
        obtain ⟨next, done, serving'⟩ := @sessionStream_total sink (acked world header) once header
          payload serving (underway.formed.connected streaming)
        exact ⟨0, next, done, serving'⟩
      · rw [stateMachine_other heard count waiting streaming]
        exact ⟨0, _, rfl, serving⟩

/-- An iteration of a client underway returns. -/
theorem clientStep_total (once : sink.CancelsOnce) {config : Config}
    (underway : Underway config.world) (serving : Serving sink config.world) (input : Input) :
    ∃ next, clientStep sink input config = .ok next ∧ Serving sink next.world := by
  have entered : Underway (enter config.world input.env) :=
    ⟨underway.formed.enter _, underway.phase, underway.waiting, underway.streaming⟩
  unfold clientStep
  cases config.stage with
  | returned err => exact ⟨config, rfl, serving⟩
  | select =>
      cases input.wake with
      | failed errno => exact ⟨_, rfl, serving⟩
      | timedOut => exact ⟨_, rfl, serving⟩
      | readable =>
          cases input.received with
          | error errno => exact ⟨_, rfl, serving⟩
          | ok datagram =>
              obtain ⟨err, next, handled, serving'⟩ := stateMachine_total once entered serving
                (packetHeaderDecode (receiveInto input.buffer datagram))
                ((receiveInto input.buffer datagram).shift packetHeaderSize)
                (receivedCount datagram)
              change ∃ next, (sessionStateMachine sink _ _ _ (enter config.world input.env)).bind _ =
                .ok next ∧ _
              rw [handled]
              dsimp only [Except.bind]
              split
              · exact ⟨_, rfl, serving'⟩
              · exact ⟨_, rfl, serving'⟩

/-- In every run the sink is served. -/
theorem ClientRun.serving (once : sink.CancelsOnce) {name : List UInt8} {memory : Chunk} {env : Env}
    {start target : Config} {events : List ClientEvent}
    (begun : receive name memory env = .ok start) (run : ClientRun sink start events target) :
    Serving sink target.world := by
  have both := run.invariant (fun config => Underway config.world ∧ Serving sink config.world)
    ⟨underway_start begun, ?_⟩ ?_
  · exact both.2
  · obtain ⟨seq, _, _, _, _, session, _⟩ := receive_spec begun
    intro link set
    rw [session] at set
    cases set
  · rintro config event next ⟨underway, serving⟩ step
    obtain ⟨other, done, serving'⟩ := clientStep_total once underway serving event.input
    obtain rfl : other = next := Except.ok.inj (done.symm.trans step.2.1)
    exact ⟨underway.step step, serving'⟩

end

end Sas.Client
