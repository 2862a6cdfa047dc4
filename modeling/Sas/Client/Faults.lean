import Sas.Client.Progress

/-! # When a packet stops the client

The inlet of a pipeline follows a null pointer when it is cancelled a second time. Nothing else a sink
does makes the client stop; so whether a packet is handled is decided by the calls the sink has made
and those it makes for the chunk in the packet.
-/

namespace Sas.Client

open Foundation Transport Rxc

/-- The chunk the state machine pushes for a packet it takes. -/
def nextChunk (world : World) (header : PacketHeader) (payload : Memory) : Chunk :=
  if world.session.state = .synSent then configChunk header payload
  else dataChunk header payload world.session.chunk

/-- The sink has cancelled its inlet once at most when these chunks have been pushed to it. -/
def Sink.Bounded (sink : Sink) (pushed : List Chunk) : Prop :=
  (sinkCalls sink pushed).count .cancel ≤ 1

instance (sink : Sink) (pushed : List Chunk) : Decidable (sink.Bounded pushed) :=
  inferInstanceAs (Decidable (_ ≤ 1))

/-- The iteration receives a packet whose chunk makes the sink cancel once more. -/
def Breaks (sink : Sink) (config : Config) (input : Input) : Prop :=
  config.stage = .select ∧ ∃ datagram, input.datagram? = some datagram ∧
    Takes config.world (input.header datagram) ∧
    ¬ sink.Bounded (config.world.pushed ++
      [nextChunk config.world (input.header datagram) (input.payload datagram)])

/-- A client whose sink has been served so far, and has not cancelled twice. -/
structure Patient (sink : Sink) (world : World) : Prop where
  underway : Underway world
  serving : Serving sink world
  bounded : world.session.sinkLogic.isSome = true → sink.Bounded world.pushed

section

variable {sink : Sink} {link : Link} {world : World} {calls made : List InletCall}
  {header : PacketHeader} {payload : Memory}

/-! ## The inlet -/

/-- The second cancellation follows a null pointer. -/
theorem inletCall_cancel_twice (serves : Serves link made) (earlier : .cancel ∈ made) :
    inletCall .cancel ⟨link, world⟩ = .error .nullPointer := by
  have closed : link.inlet = some ⟨false⟩ := by
    rw [serves.inlet, decide_eq_false (not_not_intro earlier)]
  change pipelineInletCancel sessionSource ⟨link, world⟩ = _
  unfold pipelineInletCancel
  rw [closed]
  rfl

/-- Calls that cancel a second time stop. -/
theorem inletCalls_fault (serves : Serves link made) (before : made.count .cancel ≤ 1)
    (twice : ¬ (made ++ calls).count .cancel ≤ 1) :
    inletCalls calls ⟨link, world⟩ = .error .nullPointer := by
  induction calls generalizing link made world with
  | nil =>
      rw [List.append_nil] at twice
      exact (twice before).elim
  | cons call calls ih =>
      have split : made ++ call :: calls = (made ++ [call]) ++ calls := by
        rw [List.append_assoc, List.singleton_append]
      rw [split] at twice
      by_cases next : (made ++ [call]).count .cancel ≤ 1
      · obtain ⟨⟨link', world'⟩, called, serves'⟩ := inletCall_total serves next world
        unfold inletCalls
        rw [called]
        exact ih serves' next twice
      · have again : call = .cancel ∧ .cancel ∈ made := by
          rw [List.count_append] at next
          cases call with
          | pull n =>
              rw [List.count_singleton] at next
              exact (next before).elim
          | cancel =>
              rw [List.count_singleton_self] at next
              exact ⟨rfl, List.one_le_count_iff.mp (by omega)⟩
        obtain ⟨rfl, earlier⟩ := again
        unfold inletCalls
        rw [inletCall_cancel_twice serves earlier]
        rfl

/-! ## One push -/

/-- A push returns exactly if the sink has not cancelled twice then. -/
theorem sessionPush_decides (serving : Serving sink world)
    (linked : world.session.sinkLogic.isSome = true) (before : sink.Bounded world.pushed) :
    (sink.Bounded (world.pushed ++ [world.session.chunk]) →
      ∃ next, sessionPush sink world = .ok next ∧ Serving sink next ∧
        next.pushed = world.pushed ++ [world.session.chunk]) ∧
    (¬ sink.Bounded (world.pushed ++ [world.session.chunk]) →
      sessionPush sink world = .error .nullPointer) := by
  obtain ⟨link, set⟩ := Option.isSome_iff_exists.mp linked
  have serves := serving link set
  have same : sessionPush sink world = (inletCalls (sink.onPush world.pushed world.session.chunk)
      ⟨link, holding world⟩).map ofStarted := by
    unfold sessionPush
    rw [set]
    rfl
  unfold Sink.Bounded
  rw [same, sinkCalls_snoc]
  constructor
  · intro bounded
    obtain ⟨started, called, serves'⟩ := inletCalls_total serves bounded (holding world)
    rw [← sinkCalls_snoc] at serves'
    have pushed : started.world.pushed = world.pushed ++ [world.session.chunk] :=
      inletCalls_pushed serves.idle called
    refine ⟨ofStarted started, by rw [called]; rfl, ?_, pushed⟩
    rintro _ ⟨⟩
    change Serves started.link (sinkCalls sink started.world.pushed)
    rw [pushed]
    exact serves'
  · intro twice
    rw [inletCalls_fault serves before twice]
    rfl

/-- A sink that has cancelled twice by a chunk has done so behind it. -/
theorem Sink.Bounded.of_snoc {pushed : List Chunk} {chunk : Chunk}
    (bounded : sink.Bounded (pushed ++ [chunk])) : sink.Bounded pushed := by
  unfold Sink.Bounded at bounded ⊢
  rw [sinkCalls_snoc, List.count_append] at bounded
  omega

theorem sessionAck_chunk (world : World) :
    (sessionAck world).2.session.chunk = world.session.chunk := rfl

/-- The client that is about to push its configuration. -/
theorem connected_state (started : Started World) : ∃ asked,
    asked = (sessionAck (ofStarted started)).2.withState .establsh ∧
      asked.session.sinkLogic = (ofStarted started).session.sinkLogic ∧
      asked.pushed = (ofStarted started).pushed ∧
      asked.session.chunk = (ofStarted started).session.chunk :=
  ⟨_, rfl, sessionAck_sinkLogic _, sessionAck_pushed _, sessionAck_chunk _⟩

/-- A client that connects its sink and has nothing pushed yet pushes the first chunk, unless the
sink cancels twice. -/
theorem connect_decides (none : world.pushed = []) (chunk : Chunk) :
    (sink.Bounded [chunk] → ∃ started next,
      inletCalls sink.onConnect ⟨Link.fresh, world.withChunk chunk⟩ = .ok started ∧
      sessionPush sink ((sessionAck (ofStarted started)).2.withState .establsh) = .ok next ∧
      Serving sink next ∧ next.pushed = [chunk]) ∧
    (¬ sink.Bounded [chunk] →
      inletCalls sink.onConnect ⟨Link.fresh, world.withChunk chunk⟩ = .error .nullPointer ∨
      ∃ started,
        inletCalls sink.onConnect ⟨Link.fresh, world.withChunk chunk⟩ = .ok started ∧
        sessionPush sink ((sessionAck (ofStarted started)).2.withState .establsh) =
          .error .nullPointer) := by
  have fresh : Serves Link.fresh [] := ⟨rfl, rfl⟩
  have made : sinkCalls sink [] = [] ++ sink.onConnect := by
    rw [sinkCalls, callsAfter, List.append_nil, List.nil_append]
  by_cases connects : sink.Bounded []
  case neg =>
    refine ⟨fun bounded => (connects (Sink.Bounded.of_snoc bounded)).elim, fun _ => .inl ?_⟩
    unfold Sink.Bounded at connects
    rw [made] at connects
    exact inletCalls_fault fresh (Nat.zero_le 1) connects
  case pos =>
    have bound := connects
    unfold Sink.Bounded at bound
    rw [made] at bound
    obtain ⟨started, connected, serves⟩ := inletCalls_total fresh bound (world.withChunk chunk)
    have same : started.world.pushed = [] := (inletCalls_pushed rfl connected).trans none
    have kept : started.world.session.chunk = chunk := by
      obtain ⟨_, _, _, session⟩ := (inletCalls_acks sink.onConnect rfl connected).2.session
      rw [session]
      rfl
    rw [← made] at serves
    have written : Serving sink (ofStarted started) := by
      rintro _ ⟨⟩
      change Serves started.link (sinkCalls sink started.world.pushed)
      rw [same]
      exact serves
    obtain ⟨asked, state, linked, pushed, current⟩ := connected_state started
    have serving : Serving sink asked := written.congr linked pushed
    have before : sink.Bounded asked.pushed := by
      rw [pushed]
      change sink.Bounded started.world.pushed
      rw [same]
      exact connects
    have whole : asked.pushed ++ [asked.session.chunk] = [chunk] := by
      rw [pushed, current]
      change started.world.pushed ++ [started.world.session.chunk] = [chunk]
      rw [same, kept, List.nil_append]
    obtain ⟨returns, faults⟩ := sessionPush_decides serving (congrArg Option.isSome linked) before
    rw [whole] at returns faults
    rw [state] at returns faults
    refine ⟨fun bounded => ?_, fun twice => .inr ⟨started, connected, faults twice⟩⟩
    obtain ⟨next, returned, serving', after⟩ := returns bounded
    exact ⟨started, next, connected, returned, serving', after⟩

/-- The first packet is handled exactly if the sink has not cancelled twice then. -/
theorem sessionStart_decides (none : world.pushed = []) :
    (sink.Bounded [configChunk header payload] →
      ∃ next, sessionStart sink header payload world = .ok (0, next) ∧ Serving sink next ∧
        next.pushed = [configChunk header payload]) ∧
    (¬ sink.Bounded [configChunk header payload] →
      sessionStart sink header payload world = .error .nullPointer) := by
  obtain ⟨returns, faults⟩ :=
    @connect_decides sink world none (configChunk header payload)
  rw [sessionStart_eq]
  constructor
  · intro bounded
    obtain ⟨started, next, connected, pushed, serving, after⟩ := returns bounded
    refine ⟨next, ?_, serving, after⟩
    rw [connected, Except.bind, pushed]
    rfl
  · intro twice
    rcases faults twice with connected | ⟨started, connected, pushed⟩
    · rw [connected]
      rfl
    · rw [connected, Except.bind, pushed]
      rfl

/-- A connected client pushes a chunk and closes its window, unless the sink cancels twice. -/
theorem stream_decides (serving : Serving sink world)
    (linked : world.session.sinkLogic.isSome = true) (before : sink.Bounded world.pushed)
    (chunk : Chunk) :
    (sink.Bounded (world.pushed ++ [chunk]) →
      ∃ next, (sessionPush sink (world.withChunk chunk)).map
          (fun after => (0, (sessionAck (after.withWindow 0)).2)) = .ok ((0 : Int32), next) ∧
        Serving sink next ∧ next.pushed = world.pushed ++ [chunk]) ∧
    (¬ sink.Bounded (world.pushed ++ [chunk]) →
      (sessionPush sink (world.withChunk chunk)).map
          (fun after => ((0 : Int32), (sessionAck (after.withWindow 0)).2)) =
        .error .nullPointer) := by
  obtain ⟨returns, faults⟩ := @sessionPush_decides sink (world.withChunk chunk) serving linked
    before
  constructor
  · intro bounded
    obtain ⟨after, pushed, serving', same⟩ := returns bounded
    rw [pushed]
    refine ⟨(sessionAck (after.withWindow 0)).2, rfl, ?_, (sessionAck_pushed _).trans same⟩
    exact serving'.congr (sessionAck_sinkLogic _) (sessionAck_pushed _)
  · intro twice
    rw [faults twice]
    rfl

/-- A later packet is handled exactly if the sink has not cancelled twice then. -/
theorem sessionStream_decides (serving : Serving sink world)
    (linked : world.session.sinkLogic.isSome = true) (before : sink.Bounded world.pushed) :
    (sink.Bounded (world.pushed ++ [dataChunk header payload world.session.chunk]) →
      ∃ next, sessionStream sink header payload world = .ok (0, next) ∧ Serving sink next ∧
        next.pushed = world.pushed ++ [dataChunk header payload world.session.chunk]) ∧
    (¬ sink.Bounded (world.pushed ++ [dataChunk header payload world.session.chunk]) →
      sessionStream sink header payload world = .error .nullPointer) := by
  rw [sessionStream_eq]
  exact stream_decides serving linked before (dataChunk header payload world.session.chunk)

/-! ## The state machine -/

/-- What becomes of a packet: it breaks the client exactly under this condition. -/
def Decides (sink : Sink) (breaks : Prop) (result : Except Fault (Int32 × World)) : Prop :=
  (¬ breaks → ∃ err next, result = .ok (err, next) ∧ Serving sink next ∧
    (next.session.sinkLogic.isSome = true → sink.Bounded next.pushed)) ∧
  (breaks → result = .error .nullPointer)

/-- A packet that is not taken does no harm. -/
theorem Patient.decides_deaf (patient : Patient sink world) {breaks : Prop} (harmless : ¬ breaks)
    {err : Int32} {next : World} {result : Except Fault (Int32 × World)}
    (done : result = .ok (err, next)) (linked : next.session.sinkLogic = world.session.sinkLogic)
    (pushed : next.pushed = world.pushed) : Decides sink breaks result := by
  refine ⟨fun _ => ⟨err, next, done, patient.serving.congr linked pushed, ?_⟩,
    fun breaks => (harmless breaks).elim⟩
  rw [linked, pushed]
  exact patient.bounded

/-- A packet breaks the client if the client takes it and its chunk makes the sink cancel once
more. -/
theorem stateMachine_decides (patient : Patient sink world) (header : PacketHeader)
    (payload : Memory) (count : Nat) :
    Decides sink (Takes world header ∧
        ¬ sink.Bounded (world.pushed ++ [nextChunk world header payload]))
      (sessionStateMachine sink header payload count world) := by
  by_cases behind : header.seq < world.session.ack
  · have deaf : ¬ Takes world header := fun takes => takes.1.1 behind
    exact patient.decides_deaf (fun breaks => deaf breaks.1) (if_pos behind) rfl rfl
  cases reset : packetFlagIsset header.flags packetFlagRst with
  | true =>
      have deaf : ¬ Takes world header := fun takes => Bool.noConfusion (takes.1.2.symm.trans reset)
      rw [stateMachine_reset behind reset]
      split
      · exact patient.decides_deaf (fun breaks => deaf breaks.1) rfl rfl rfl
      · split
        · exact patient.decides_deaf (fun breaks => deaf breaks.1) rfl rfl rfl
        · exact patient.decides_deaf (fun breaks => deaf breaks.1) rfl rfl rfl
  | false =>
      have heard : Heard world header := ⟨behind, reset⟩
      by_cases waiting : world.session.state = .synSent
      · rw [stateMachine_synSent heard count waiting]
        have none := (patient.underway.waiting waiting).1
        have first : nextChunk world header payload = configChunk header payload := if_pos waiting
        obtain ⟨returns, faults⟩ :=
          @sessionStart_decides sink (acked world header) header payload none
        rw [first, none, List.nil_append]
        refine ⟨fun harmless => ?_, fun breaks => faults breaks.2⟩
        have bounded : sink.Bounded [configChunk header payload] :=
          by_contra fun twice => harmless ⟨⟨heard, .inl waiting⟩, twice⟩
        obtain ⟨next, done, serving, pushed⟩ := returns bounded
        refine ⟨0, next, done, serving, fun _ => ?_⟩
        rw [pushed]
        exact bounded
      by_cases streaming : world.session.state = .establsh
      · rw [stateMachine_establsh heard count streaming]
        have linked := patient.underway.formed.connected streaming
        have later : nextChunk world header payload =
            dataChunk header payload world.session.chunk := if_neg waiting
        obtain ⟨returns, faults⟩ := @sessionStream_decides sink (acked world header) header payload
          patient.serving linked (patient.bounded linked)
        rw [later]
        refine ⟨fun harmless => ?_, fun breaks => faults breaks.2⟩
        have bounded : sink.Bounded (world.pushed ++
            [dataChunk header payload world.session.chunk]) :=
          by_contra fun twice => harmless ⟨⟨heard, .inr streaming⟩, twice⟩
        obtain ⟨next, done, serving, pushed⟩ := returns bounded
        refine ⟨0, next, done, serving, fun _ => ?_⟩
        rw [pushed]
        exact bounded
      · have deaf : ¬ Takes world header := fun takes => takes.2.elim waiting streaming
        rw [stateMachine_other heard count waiting streaming]
        exact patient.decides_deaf (fun breaks => deaf breaks.1) rfl rfl rfl

/-! ## Iterations -/

/-- A client enters an iteration as patient as it was. -/
theorem Patient.enter (patient : Patient sink world) (env : Env) :
    Patient sink (enter world env) :=
  ⟨⟨patient.underway.formed.enter _, patient.underway.phase, patient.underway.waiting,
    patient.underway.streaming⟩, patient.serving, patient.bounded⟩

/-- An iteration that does not break a patient client is answered, and the others stop. -/
theorem Patient.iteration {config : Config} (patient : Patient sink config.world) (input : Input) :
    (¬ Breaks sink config input → ∃ next, clientStep sink input config = .ok next ∧
      Serving sink next.world ∧
      (next.world.session.sinkLogic.isSome = true → sink.Bounded next.world.pushed)) ∧
    (Breaks sink config input → clientStep sink input config = .error .nullPointer) := by
  unfold clientStep
  cases stage : config.stage with
  | returned err =>
      refine ⟨fun _ => ⟨config, rfl, patient.serving, patient.bounded⟩, ?_⟩
      rintro ⟨selecting, _⟩
      cases stage.symm.trans selecting
  | select =>
      cases wake : input.wake with
      | failed errno =>
          refine ⟨fun _ => ⟨_, rfl, patient.serving, patient.bounded⟩, ?_⟩
          rintro ⟨_, datagram, received, _⟩
          rw [Input.datagram?, wake] at received
          cases received
      | timedOut =>
          refine ⟨fun _ => ⟨_, rfl, patient.serving, patient.bounded⟩, ?_⟩
          rintro ⟨_, datagram, received, _⟩
          rw [Input.datagram?, wake] at received
          cases received
      | readable =>
          cases arrived : input.received with
          | error errno =>
              refine ⟨fun _ => ⟨_, rfl, patient.serving, patient.bounded⟩, ?_⟩
              rintro ⟨_, datagram, received, _⟩
              rw [Input.datagram?, wake, arrived] at received
              cases received
          | ok datagram =>
              have received : input.datagram? = some datagram := by
                rw [Input.datagram?, wake, arrived]
              obtain ⟨returns, faults⟩ := stateMachine_decides (patient.enter input.env)
                (input.header datagram) (input.payload datagram) (receivedCount datagram)
              change (_ → ∃ next, (sessionStateMachine sink (input.header datagram)
                (input.payload datagram) _ (Client.enter config.world input.env)).bind _ =
                  .ok next ∧ _) ∧ (_ → (sessionStateMachine sink (input.header datagram)
                (input.payload datagram) _ (Client.enter config.world input.env)).bind _ = _)
              constructor
              · intro harmless
                obtain ⟨err, next, handled, serving, bounded⟩ := returns fun breaks =>
                  harmless ⟨stage, datagram, received, breaks⟩
                rw [handled]
                dsimp only [Except.bind]
                split
                · exact ⟨_, rfl, serving, bounded⟩
                · exact ⟨_, rfl, serving, bounded⟩
              · rintro ⟨_, other, received', breaks⟩
                obtain rfl : datagram = other := Option.some.inj (received.symm.trans received')
                rw [faults breaks]
                rfl

/-- In every run the client is patient: it would not have come this far otherwise. -/
theorem ClientRun.patient {name : List UInt8} {memory : Chunk} {env : Env} {start target : Config}
    {events : List ClientEvent} (begun : receive name memory env = .ok start)
    (run : ClientRun sink start events target) : Patient sink target.world := by
  refine run.invariant (fun config => Patient sink config.world) ⟨underway_start begun, ?_, ?_⟩ ?_
  · obtain ⟨seq, _, _, _, _, session, _⟩ := receive_spec begun
    intro link set
    rw [session] at set
    cases set
  · obtain ⟨seq, _, _, _, _, session, _⟩ := receive_spec begun
    rw [session]
    rintro ⟨⟩
  · intro config event next patient step
    obtain ⟨returns, faults⟩ := patient.iteration event.input
    have harmless : ¬ Breaks sink config event.input := by
      intro breaks
      cases (faults breaks).symm.trans step.2.1
    obtain ⟨other, done, serving, bounded⟩ := returns harmless
    obtain rfl : other = next := Except.ok.inj (done.symm.trans step.2.1)
    exact ⟨patient.underway.step step, serving, bounded⟩

/-- In every run a sink that does not cancel twice on connection has not cancelled twice. -/
theorem ClientRun.bounded {name : List UInt8} {memory : Chunk} {env : Env} {start target : Config}
    {events : List ClientEvent} (connects : sink.Bounded [])
    (begun : receive name memory env = .ok start) (run : ClientRun sink start events target) :
    sink.Bounded target.world.pushed := by
  refine run.history (fun _ config => sink.Bounded config.world.pushed) ?_ ?_
  · obtain ⟨_, _, _, _, _, _, pushed, _⟩ := receive_spec begun
    rw [pushed]
    exact connects
  · intro events config event next before bounded step
    have patient := ClientRun.patient begun (before.snoc step)
    rcases step.hears_or (ClientRun.underway begun before).formed with
      ⟨_, _, heeds⟩ | ⟨_, pushed, _⟩
    · exact patient.bounded (patient.underway.formed.connected heeds.established)
    · rw [pushed]
      exact bounded

/-- An iteration of a patient client fails exactly if it breaks the client. -/
theorem Patient.fails_iff {config : Config} (patient : Patient sink config.world) (input : Input)
    (fault : Fault) :
    clientStep sink input config = .error fault ↔
      fault = .nullPointer ∧ Breaks sink config input := by
  obtain ⟨returns, faults⟩ := patient.iteration input
  constructor
  · intro failed
    by_cases breaks : Breaks sink config input
    · exact ⟨Except.error.inj (failed.symm.trans (faults breaks)), breaks⟩
    · obtain ⟨next, done, _⟩ := returns breaks
      cases failed.symm.trans done
  · rintro ⟨rfl, breaks⟩
    exact faults breaks

end

end Sas.Client
