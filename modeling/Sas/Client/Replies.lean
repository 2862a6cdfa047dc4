import Sas.Client.Progress

/-! # How much a client says

A client says nothing of its own accord behind the SYN. It acknowledges every packet it takes, and
every call of its sink makes it say one thing more at most.
-/

namespace Sas.Client

open Foundation Transport Rxc

/-- The number of datagrams sent in the calls of a client. -/
def said (world : World) : Nat := (sentBy world.kernel.calls).length

/-- What a client may have said behind its SYN once these chunks have been pushed: an ACK for each of
them, and one for each call of its sink. -/
def allowance (sink : Sink) (pushed : List Chunk) : Nat :=
  if pushed = [] then 0 else pushed.length + (sinkCalls sink pushed).length

section

variable {sink : Sink} {link : Link} {world next : World} {started : Started World}
  {calls : List InletCall} {header : PacketHeader} {payload : Memory}

/-- For the first chunk the sink is connected and pushed to. -/
theorem allowance_first (sink : Sink) (chunk : Chunk) :
    allowance sink [chunk] = sink.onConnect.length + 1 + (sink.onPush [] chunk).length := by
  rw [allowance, if_neg (List.cons_ne_nil _ _), sinkCalls, callsAfter, callsAfter, List.append_nil,
    List.length_append, List.length_singleton]
  omega

/-- Every later chunk adds one acknowledgement and the calls of the sink. -/
theorem allowance_snoc {pushed : List Chunk} (some : pushed ≠ []) (chunk : Chunk) :
    allowance sink (pushed ++ [chunk]) =
      allowance sink pushed + (sink.onPush pushed chunk).length + 1 := by
  rw [allowance, allowance, if_neg some,
    if_neg (List.append_ne_nil_of_right_ne_nil _ (List.cons_ne_nil _ _)), sinkCalls_snoc,
    List.length_append, List.length_append, List.length_singleton]
  omega

/-! ## One packet -/

/-- An acknowledgement is one datagram. -/
theorem said_sessionAck (world : World) : said (sessionAck world).2 = said world + 1 := by
  obtain ⟨datagram, failure, called, _⟩ := sessionSend_calls packetFlagAck 0 world
    (Memory.read_zero (world.kernel.garbage.shift packetHeaderSize))
  have calls : (sessionAck world).2.kernel.calls = _ := called
  rw [said, calls, sentBy_append, List.length_append]
  rfl

/-- The calls of a sink make the client say as much at most. -/
theorem inletCalls_said (calls : List InletCall) (idle : link.worker = ⟨[], false⟩)
    (done : inletCalls calls ⟨link, world⟩ = .ok started) :
    said started.world ≤ said world + calls.length := by
  induction calls generalizing link world with
  | nil =>
      cases done
      exact Nat.le_refl _
  | cons call calls ih =>
      unfold inletCalls at done
      obtain ⟨⟨link', world'⟩, first, rest⟩ := bind_eq_ok done
      obtain ⟨idle', asked⟩ := inletCall_asking call idle first
      have more := ih idle' rest
      rw [List.length_cons]
      have one : said world' ≤ said world + 1 := by
        change world' = world ∨ world' = asking world at asked
        rcases asked with same | same
        · rw [same]
          exact Nat.le_succ _
        · rw [same]
          exact Nat.le_of_eq (said_sessionAck _)
      omega

/-- A push makes the client say as much as the sink calls. -/
theorem sessionPush_said (formed : WellFormed world) (done : sessionPush sink world = .ok next) :
    said next ≤ said world + (sink.onPush world.pushed world.session.chunk).length ∧
      next.pushed = world.pushed ++ [world.session.chunk] := by
  unfold sessionPush at done
  cases set : world.session.sinkLogic with
  | none =>
      rw [set] at done
      cases done
  | some link =>
      rw [set] at done
      change (inletCalls (sink.onPush world.pushed world.session.chunk)
        ⟨link, holding world⟩).map ofStarted = .ok next at done
      obtain ⟨started, called, same⟩ := map_eq_ok done
      subst same
      have idle := formed.idle link set
      have few := @inletCalls_said link (holding world) started _ idle called
      exact ⟨few, inletCalls_pushed idle called⟩

/-- A connected client that pushes a chunk and closes its window. -/
theorem stream_said (formed : WellFormed world) (some : world.pushed ≠ []) (chunk : Chunk)
    {err : Int32}
    (done : (sessionPush sink (world.withChunk chunk)).map
      (fun after => ((0 : Int32), (sessionAck (after.withWindow 0)).2)) = .ok (err, next)) :
    said next + allowance sink world.pushed ≤ said world + allowance sink next.pushed := by
  obtain ⟨after, pushed, same⟩ := map_eq_ok done
  obtain ⟨_, rfl⟩ := Prod.mk.inj same
  obtain ⟨few, whole⟩ := sessionPush_said (formed.withChunk chunk) pushed
  have few : said after ≤ said world + (sink.onPush world.pushed chunk).length := few
  have whole : after.pushed = world.pushed ++ [chunk] := whole
  have told : said (sessionAck (after.withWindow 0)).2 = said after + 1 := said_sessionAck _
  rw [told, sessionAck_pushed]
  change _ ≤ said world + allowance sink after.pushed
  rw [whole, allowance_snoc some]
  omega

/-- A client that connects its sink and pushes the first chunk. -/
theorem connect_said (none : world.pushed = []) (chunk : Chunk)
    (connected : inletCalls sink.onConnect ⟨Link.fresh, world.withChunk chunk⟩ = .ok started)
    (done : sessionPush sink ((sessionAck (ofStarted started)).2.withState .establsh) = .ok next) :
    said next ≤ said world + allowance sink next.pushed := by
  have few := inletCalls_said sink.onConnect rfl connected
  have few : said started.world ≤ said world + sink.onConnect.length := few
  have same : started.world.pushed = [] := (inletCalls_pushed rfl connected).trans none
  have kept : started.world.session.chunk = chunk := by
    obtain ⟨_, _, _, session⟩ := (inletCalls_acks sink.onConnect rfl connected).2.session
    rw [session]
    rfl
  have idle := (inletCalls_asking sink.onConnect rfl connected).1
  have told : said (sessionAck (ofStarted started)).2 = said started.world + 1 := said_sessionAck _
  have formed : WellFormed ((sessionAck (ofStarted started)).2.withState .establsh) := by
    refine ⟨?_, fun _ => rfl⟩
    intro link set
    rcases set
    exact idle
  obtain ⟨more, whole⟩ := sessionPush_said formed done
  have more : said next ≤ said (sessionAck (ofStarted started)).2 +
      (sink.onPush started.world.pushed started.world.session.chunk).length := more
  have whole : next.pushed = started.world.pushed ++ [started.world.session.chunk] := whole
  rw [same, kept] at more whole
  rw [whole, List.nil_append, allowance_first]
  omega

/-- The state machine of the client says no more than it is allowed. -/
theorem stateMachine_said (underway : Underway world) {count : Nat} {err : Int32}
    (done : sessionStateMachine sink header payload count world = .ok (err, next)) :
    said next + allowance sink world.pushed ≤ said world + allowance sink next.pushed := by
  by_cases behind : header.seq < world.session.ack
  · rw [sessionStateMachine, if_pos behind] at done
    cases done
    exact Nat.le_refl _
  cases reset : packetFlagIsset header.flags packetFlagRst with
  | true =>
      rw [stateMachine_reset behind reset] at done
      split at done
      · cases done
        exact Nat.le_refl _
      · split at done
        · cases done
          exact Nat.le_refl _
        · cases done
          exact Nat.le_refl _
  | false =>
      have heard : Heard world header := ⟨behind, reset⟩
      by_cases waiting : world.session.state = .synSent
      · rw [stateMachine_synSent heard count waiting, sessionStart_eq] at done
        obtain ⟨started, connected, rest⟩ := bind_eq_ok done
        obtain ⟨after, pushed, same⟩ := map_eq_ok rest
        obtain ⟨_, rfl⟩ := Prod.mk.inj same
        have none := (underway.waiting waiting).1
        have few := @connect_said sink (acked world header) after started none _ connected pushed
        rw [none]
        exact few
      by_cases streaming : world.session.state = .establsh
      · rw [stateMachine_establsh heard count streaming, sessionStream_eq] at done
        exact @stream_said sink (acked world header) next (underway.formed.acked header)
          (underway.streaming streaming) _ err done
      · rw [stateMachine_other heard count waiting streaming] at done
        cases done
        exact Nat.le_refl _

/-! ## Runs -/

/-- An iteration says no more than it is allowed. -/
theorem ClientStep.said {config next : Config} {event : ClientEvent}
    (step : ClientStep sink config event next) (underway : Underway config.world) :
    (sentBy event.calls).length + allowance sink config.world.pushed ≤
      allowance sink next.world.pushed := by
  obtain ⟨selecting, done, calls⟩ := step
  have entered : Underway (enter config.world event.input.env) :=
    ⟨underway.formed.enter _, underway.phase, underway.waiting, underway.streaming⟩
  have silent : Client.said (enter config.world event.input.env) = 0 := rfl
  have own : (sentBy event.calls).length = Client.said next.world := by
    rw [Client.said, calls]
  unfold clientStep at done
  rw [selecting] at done
  rw [own]
  cases wake : event.input.wake with
  | failed errno =>
      simp only [wake] at done
      cases done
      exact Nat.le_of_eq (Nat.zero_add _)
  | timedOut =>
      simp only [wake] at done
      cases done
      exact Nat.le_of_eq (Nat.zero_add _)
  | readable =>
      simp only [wake] at done
      cases received : event.input.received with
      | error errno =>
          simp only [received] at done
          cases done
          exact Nat.le_of_eq (Nat.zero_add _)
      | ok datagram =>
          simp only [received] at done
          obtain ⟨⟨err, world⟩, ran, left⟩ := bind_eq_ok done
          have few := stateMachine_said entered ran
          rw [silent, Nat.zero_add] at few
          have after : next.world = world := by
            by_cases failed : err ≠ 0
            · cases (if_pos failed).symm.trans left
              rfl
            · cases (if_neg failed).symm.trans left
              rfl
          rw [after]
          exact few

/-- **A client says little.** In every run it has sent, behind its SYN, one ACK at most for each chunk
it has pushed and one for each call its sink has made. -/
theorem client_says_little {name : List UInt8} {memory : Chunk} {env : Env} {start target : Config}
    {events : List ClientEvent} (begun : receive name memory env = .ok start)
    (run : ClientRun sink start events target) :
    (saidBy start events).length ≤ 1 + allowance sink target.world.pushed := by
  refine run.history (fun events config => (saidBy start events).length ≤
    1 + allowance sink config.world.pushed) ?_ ?_
  · obtain ⟨_, _, _, _, _, _, pushed, calls, _⟩ := receive_spec begun
    rw [saidBy, calls, pushed]
    exact Nat.le_refl _
  · intro events config event next before few step
    have more := step.said (ClientRun.underway begun before)
    rw [saidBy_snoc, List.length_append]
    omega

end

/-- The client that has asked for the song says five things more for two packets. -/
theorem client_says_little_song : (saidBy songStart (songRun driversIgnore).1).length ≤ 6 :=
  Nat.le_trans (client_says_little songStart_begun (replay_run driversIgnore _ _)) (by decide +kernel)

end Sas.Client
