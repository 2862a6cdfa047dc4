import Sas.Client.Reaction

/-! # Runs of the client

From the SYN on, the client takes one iteration of its loop after the other. An iteration either ends
the loop or hands one datagram to the state machine; what the client has pushed and the window it has
told are invariants of the runs.
-/

namespace Sas.Client

open Foundation Transport Rxc

/-- The datagram an iteration receives, where it receives one. -/
def Input.datagram? (input : Input) : Option (List UInt8) :=
  match input.wake, input.received with
  | .readable, .ok datagram => some datagram
  | _, _ => none

/-- The receive buffer once a datagram has arrived. -/
def Input.filled (input : Input) (datagram : List UInt8) : Memory :=
  receiveInto input.buffer datagram

/-- The header the state machine sees for a datagram. -/
def Input.header (input : Input) (datagram : List UInt8) : PacketHeader :=
  packetHeaderDecode (input.filled datagram)

/-- The memory the state machine sees behind the header. -/
def Input.payload (input : Input) (datagram : List UInt8) : Memory :=
  (input.filled datagram).shift packetHeaderSize

/-- What happens to the client in one iteration: what it meets, and the calls it makes. -/
structure ClientEvent where
  input : Input
  calls : List Syscall

/-- The system calls of a sequence of iterations, in order. -/
def callsOf (events : List ClientEvent) : List Syscall := events.flatMap ClientEvent.calls

@[simp] theorem callsOf_nil : callsOf [] = [] := rfl

@[simp] theorem callsOf_append (first second : List ClientEvent) :
    callsOf (first ++ second) = callsOf first ++ callsOf second := List.flatMap_append

@[simp] theorem callsOf_singleton (event : ClientEvent) : callsOf [event] = event.calls :=
  List.flatMap_singleton _ _

/-- One iteration of a client that has not returned. -/
def ClientStep (sink : Sink) (config : Config) (event : ClientEvent) (next : Config) : Prop :=
  config.stage = .select ∧ clientStep sink event.input config = .ok next ∧
    next.world.kernel.calls = event.calls

/-- The events lead a client that has just sent its SYN to this configuration. -/
abbrev ClientRun (sink : Sink) (start : Config) (events : List ClientEvent) (target : Config) :
    Prop := Run (ClientStep sink) start events target

/-- The datagrams a client has sent, the SYN included. -/
def saidBy (start : Config) (events : List ClientEvent) : List (List UInt8) :=
  sentBy (start.world.kernel.calls ++ callsOf events)

theorem saidBy_snoc (start : Config) (events : List ClientEvent) (event : ClientEvent) :
    saidBy start (events ++ [event]) = saidBy start events ++ sentBy event.calls := by
  simp only [saidBy, callsOf_append, callsOf_singleton, sentBy_append, List.append_assoc]

section

variable {sink : Sink} {config next : Config} {event : ClientEvent}

/-- What a client does is determined by what it meets. -/
theorem clientStep_functional (config : Config) (event : ClientEvent) (next next' : Config)
    (step : ClientStep sink config event next) (step' : ClientStep sink config event next') :
    next = next' := Except.ok.inj (step.2.1.symm.trans step'.2.1)

/-- What one iteration comes to. -/
inductive Iteration (config : Config) (event : ClientEvent) (next : Config) : Prop where
  /-- The loop ends without a datagram. -/
  | stopped (err : Int32) : event.input.datagram? = none → event.calls = [] →
      next = ⟨enter config.world event.input.env, .returned err⟩ →
      Iteration config event next
  /-- The state machine has handled a datagram. -/
  | handled {datagram : List UInt8} {err : Int32} : event.input.datagram? = some datagram →
      Reaction (enter config.world event.input.env) (event.input.header datagram)
        (event.input.payload datagram) err next.world →
      next.world.kernel.calls = event.calls →
      next.stage = (if err ≠ 0 then .returned err else (loop next.world).stage) →
      Iteration config event next

@[simp] theorem enter_pushed (world : World) (env : Env) :
    (enter world env).pushed = world.pushed := rfl

@[simp] theorem enter_session (world : World) (env : Env) :
    (enter world env).session = world.session := rfl

@[simp] theorem enter_calls (world : World) (env : Env) : (enter world env).kernel.calls = [] := rfl

theorem WellFormed.enter {world : World} (formed : WellFormed world) (env : Env) :
    WellFormed (enter world env) := ⟨formed.idle, formed.connected⟩

/-- Every iteration of a well-formed client is one of these. -/
theorem ClientStep.iteration (step : ClientStep sink config event next)
    (formed : WellFormed config.world) : Iteration config event next := by
  obtain ⟨selecting, done, calls⟩ := step
  unfold clientStep at done
  rw [selecting] at done
  cases wake : event.input.wake with
  | failed errno =>
      simp only [wake] at done
      cases done
      exact .stopped errno (by rw [Input.datagram?, wake]) calls.symm rfl
  | timedOut =>
      simp only [wake] at done
      cases done
      exact .stopped etimedout (by rw [Input.datagram?, wake]) calls.symm rfl
  | readable =>
      simp only [wake] at done
      cases received : event.input.received with
      | error errno =>
          simp only [received] at done
          cases done
          exact .stopped errno (by rw [Input.datagram?, wake, received]) calls.symm rfl
      | ok datagram =>
          simp only [received] at done
          obtain ⟨⟨err, world⟩, ran, left⟩ := bind_eq_ok done
          have reaction := reaction_of_stateMachine (formed.enter event.input.env) ran
          by_cases failed : err ≠ 0
          · have left : Except.ok ⟨world, .returned err⟩ = Except.ok next :=
              (if_pos failed).symm.trans left
            cases left
            exact .handled (by rw [Input.datagram?, wake, received]) reaction calls
              (if_pos failed).symm
          · have left : Except.ok (loop world) = Except.ok next :=
              (if_neg failed).symm.trans left
            cases left
            exact .handled (by rw [Input.datagram?, wake, received]) reaction calls
              (if_neg failed).symm

end

section

variable {sink : Sink} {config next : Config} {event : ClientEvent}

/-- A client that goes on has not finished. -/
theorem ClientStep.running (step : ClientStep sink config event next)
    (formed : WellFormed config.world) (selecting : next.stage = .select) :
    next.world.session.state ≠ .finished := by
  cases step.iteration formed with
  | stopped err none quiet same =>
      rw [same] at selecting
      cases selecting
  | handled some reaction calls stage =>
      rw [stage] at selecting
      intro finished
      split at selecting
      · cases selecting
      · rw [loop] at selecting
        dsimp only at selecting
        rw [if_pos finished] at selecting
        cases selecting

end

/-! ## Packets that are pushed -/

/-- The client hears the packet while it awaits the configuration or data. -/
def Takes (world : World) (header : PacketHeader) : Prop :=
  Heard world header ∧ (world.session.state = .synSent ∨ world.session.state = .establsh)

/-- The iteration receives a packet that the client takes. -/
def Hears (config : Config) (input : Input) : Prop :=
  ∃ datagram, input.datagram? = some datagram ∧ Takes config.world (input.header datagram)

/-- A push leaves the client established, with one chunk more pushed. -/
theorem pushing_acks {world next : World} {header : PacketHeader} {chunk : Chunk}
    (acks : Acks (pushing (acked world header) chunk) next) :
    next.session.state = .establsh ∧ next.pushed = world.pushed ++ [chunk] :=
  ⟨acks.state_eq, acks.pushed⟩

/-- The state machine pushes one chunk for a packet the client takes, and neither pushes nor sends
for another. -/
theorem Reaction.takes_or {world next : World} {header : PacketHeader} {payload : Memory}
    {err : Int32} (reaction : Reaction world header payload err next) :
    (Takes world header ∧ ∃ chunk, Pushes world header payload next chunk ∧
        Acks (pushing (acked world header) chunk) next) ∨
      (¬ Takes world header ∧ next.pushed = world.pushed ∧
        next.kernel.calls = world.kernel.calls ∧
        (next.session.state = world.session.state ∨ next.session.state = .finished)) := by
  have deaf : packetFlagIsset header.flags packetFlagRst = true → ¬ Takes world header := by
    intro reset takes
    rw [takes.1.2] at reset
    cases reset
  cases reaction with
  | dropped behind => exact .inr ⟨fun takes => behind takes.1.1, rfl, rfl, .inl rfl⟩
  | failed _ reset => exact .inr ⟨deaf reset, rfl, rfl, .inl rfl⟩
  | finished _ reset => exact .inr ⟨deaf reset, rfl, rfl, .inr rfl⟩
  | reset _ reset => exact .inr ⟨deaf reset, rfl, rfl, .inl rfl⟩
  | ignored _ notWaiting notStreaming =>
      exact .inr ⟨fun takes => takes.2.elim notWaiting notStreaming, rfl, rfl, .inl rfl⟩
  | pushed heard pushes acks formed =>
      refine .inl ⟨⟨heard, ?_⟩, _, pushes, acks⟩
      cases pushes with
      | config state => exact .inl state
      | data state => exact .inr state

/-- What an iteration does that hears a datagram. -/
structure Heeds (config : Config) (event : ClientEvent) (next : Config) (datagram : List UInt8)
    (chunk : Chunk) : Prop where
  received : event.input.datagram? = some datagram
  takes : Takes config.world (event.input.header datagram)
  pushes : Pushes (enter config.world event.input.env) (event.input.header datagram)
    (event.input.payload datagram) next.world chunk
  acks : Acks (pushing (acked (enter config.world event.input.env) (event.input.header datagram))
    chunk) next.world
  pushed : next.world.pushed = config.world.pushed ++ [chunk]
  established : next.world.session.state = .establsh
  calls : next.world.kernel.calls = event.calls

theorem Heeds.hears {config next : Config} {event : ClientEvent} {datagram : List UInt8}
    {chunk : Chunk} (heeds : Heeds config event next datagram chunk) : Hears config event.input :=
  ⟨datagram, heeds.received, heeds.takes⟩

/-- An iteration pushes one chunk if it hears a packet, and neither pushes nor sends otherwise. -/
theorem ClientStep.hears_or {sink : Sink} {config next : Config} {event : ClientEvent}
    (step : ClientStep sink config event next) (formed : WellFormed config.world) :
    (∃ datagram chunk, Heeds config event next datagram chunk) ∨
      (¬ Hears config event.input ∧ next.world.pushed = config.world.pushed ∧
        event.calls = [] ∧
        (next.world.session.state = config.world.session.state ∨
          next.world.session.state = .finished)) := by
  cases step.iteration formed with
  | stopped err none quiet same =>
      subst same
      refine .inr ⟨?_, rfl, quiet, .inl rfl⟩
      rintro ⟨datagram, received, _⟩
      rw [none] at received
      cases received
  | handled received reaction calls stage =>
      rcases reaction.takes_or with ⟨takes, chunk, pushes, acks⟩ | ⟨deaf, same, quiet, state⟩
      · obtain ⟨state, pushed⟩ := pushing_acks acks
        rw [enter_pushed] at pushed
        exact .inl ⟨_, chunk, received, takes, pushes, acks, pushed, state, calls⟩
      · refine .inr ⟨?_, same, calls.symm.trans quiet, state⟩
        rintro ⟨other, received', takes⟩
        cases received.symm.trans received'
        exact deaf takes

/-! ## The invariant of the runs -/

/-- A client between two iterations: until the configuration arrives nothing has been pushed and the
window is the one it began with, and from then on the configuration has been. -/
structure Underway (world : World) : Prop where
  formed : WellFormed world
  phase : world.session.state = .synSent ∨ world.session.state = .establsh ∨
    world.session.state = .finished
  waiting : world.session.state = .synSent →
    world.pushed = [] ∧ world.session.receiveWindow = sessionWindowSize
  streaming : world.session.state = .establsh → world.pushed ≠ []

/-- The session of a client that has sent its SYN. -/
def synSession (memory : Chunk) (seq : UInt32) : Session :=
  { clientInit memory with state := .synSent, seq := seq }

/-- The SYN is one send, in the state that awaits the answer to it. -/
theorem sessionSyn_sends {name : List UInt8} {world : World} {result : Int32 × World}
    (sent : sessionSyn name world = .ok result) : ∃ length body,
      result = sessionSend packetFlagSyn length body (world.withState .synSent) := by
  unfold sessionSyn at sent
  by_cases negative : (Int16.ofNat name.length).toInt < 0
  · cases (if_pos negative).symm.trans sent
  · cases (if_neg negative).symm.trans sent
    exact ⟨_, _, rfl⟩

/-- What the client holds, and what it has sent, once the SYN is on its way. -/
theorem receive_spec {name : List UInt8} {memory : Chunk} {env : Env} {start : Config}
    (begun : receive name memory env = .ok start) :
    ∃ seq datagram failure header payload,
      start.world.session = synSession memory seq ∧ start.world.pushed = [] ∧
      start.world.kernel.calls = [.send none datagram failure] ∧
      Carries datagram header payload ∧ header.flags = packetFlagSyn ∧ header.seq = 0 ∧
      header.ack = 0 ∧ SeqChain 0 [datagram] seq := by
  obtain ⟨⟨err, world⟩, sent, left⟩ := bind_eq_ok begun
  have same : start.world = world := by
    by_cases failed : err ≠ 0
    · cases (if_pos failed).symm.trans left
      rfl
    · cases (if_neg failed).symm.trans left
      rfl
  rw [same]
  obtain ⟨length, body, sends⟩ := sessionSyn_sends sent
  cases sends
  obtain ⟨datagram, failure, called, carries, chain⟩ := sessionSend_calls packetFlagSyn length
    (World.withState ⟨clientInit memory, ⟨env, 0, []⟩, []⟩ .synSent) rfl
  exact ⟨_, datagram, failure, _, _, rfl, rfl, called, carries, rfl, rfl, rfl, chain⟩

section

variable {sink : Sink} {world next : World} {header : PacketHeader} {payload : Memory} {err : Int32}

/-- A client that has just sent its SYN is underway. -/
theorem underway_start {name : List UInt8} {memory : Chunk} {env : Env} {start : Config}
    (begun : receive name memory env = .ok start) : Underway start.world := by
  obtain ⟨seq, _, _, _, _, session, pushed, _⟩ := receive_spec begun
  refine ⟨⟨?_, ?_⟩, .inl (by rw [session]; rfl), fun _ => ⟨pushed, by rw [session]; rfl⟩, ?_⟩
  · rw [session]
    rintro _ ⟨⟩
  · rw [session]
    rintro ⟨⟩
  · rw [session]
    rintro ⟨⟩

/-- A packet keeps the invariant. -/
theorem Reaction.underway (reaction : Reaction world header payload err next)
    (underway : Underway world) : Underway next := by
  cases reaction with
  | dropped => exact underway
  | failed => exact ⟨underway.formed.acked header, underway.phase, underway.waiting,
      underway.streaming⟩
  | reset => exact ⟨underway.formed.acked header, underway.phase, underway.waiting,
      underway.streaming⟩
  | ignored => exact ⟨underway.formed.acked header, underway.phase, underway.waiting,
      underway.streaming⟩
  | finished =>
      refine ⟨⟨underway.formed.idle, ?_⟩, .inr (.inr rfl), ?_, ?_⟩
      · rintro ⟨⟩
      · rintro ⟨⟩
      · rintro ⟨⟩
  | pushed heard pushes acks formed =>
      obtain ⟨state, pushed⟩ := pushing_acks acks
      refine ⟨formed, .inr (.inl state), ?_, fun _ => ?_⟩
      · rw [state]
        rintro ⟨⟩
      · rw [pushed]
        exact List.append_ne_nil_of_right_ne_nil _ (List.cons_ne_nil _ _)

/-- An iteration keeps the invariant. -/
theorem Underway.step {config next : Config} {event : ClientEvent} (underway : Underway config.world)
    (step : ClientStep sink config event next) : Underway next.world := by
  have entered : Underway (enter config.world event.input.env) :=
    ⟨underway.formed.enter _, underway.phase, underway.waiting, underway.streaming⟩
  cases step.iteration underway.formed with
  | stopped err none quiet same =>
      subst same
      exact entered
  | handled some reaction calls stage => exact reaction.underway entered

/-- The invariant holds in every run. -/
theorem ClientRun.underway {name : List UInt8} {memory : Chunk} {env : Env} {start target : Config}
    {events : List ClientEvent} (begun : receive name memory env = .ok start)
    (run : ClientRun sink start events target) : Underway target.world :=
  run.invariant (fun config => Underway config.world) (underway_start begun)
    fun _ _ _ underway step => underway.step step

end

/-- Let a client meet one thing after the other, until its loop ends. -/
def replay (sink : Sink) (config : Config) : List Input → List ClientEvent × Config
  | [] => ([], config)
  | input :: later =>
      match config.stage with
      | .returned _ => ([], config)
      | .select =>
          match clientStep sink input config with
          | .error _ => ([], config)
          | .ok next =>
              let rest := replay sink next later
              (⟨input, next.world.kernel.calls⟩ :: rest.1, rest.2)

/-- A replay is a run. -/
theorem replay_run (sink : Sink) (config : Config) (inputs : List Input) :
    ClientRun sink config (replay sink config inputs).1 (replay sink config inputs).2 := by
  induction inputs generalizing config with
  | nil => exact .nil
  | cons input later ih =>
      unfold replay
      cases stage : config.stage with
      | returned err => exact .nil
      | select =>
          cases stepped : clientStep sink input config with
          | error fault => exact .nil
          | ok next =>
              have step : ClientStep sink config ⟨input, next.world.kernel.calls⟩ next :=
                ⟨stage, stepped, rfl⟩
              exact (Run.singleton step).append (ih next)

end Sas.Client
