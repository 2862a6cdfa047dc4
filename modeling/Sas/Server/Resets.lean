import Sas.Server.DescriptorRun
import Sas.Server.Refusal

/-! # Sessions that have been reset

By the protocol a reset closes the connection at the side that sends it. The server deletes the session
of a request it refuses; where it resets a session for want of a SYN, or at the end or the failure of
its stream, the session stays in the table and handles what comes next.
-/

namespace Sas.Server

open Foundation Transport Rxc Formats

/-- The server at one point of its loop, with the sessions it has sent a reset for. -/
abbrev Tracked := Config × List SessionPtr

/-- One of the datagrams sent sets RST. -/
def resets (calls : List Syscall) : Bool := (sentBy calls).any isRst

/-- The sessions a step resets. -/
def resetIn (config : Config) (input : Input) (next : Config) : List SessionPtr :=
  if resets next.server.kernel.calls then (actor config input).toList else []

/-- A step of the loop that keeps track of the sessions that have been reset. -/
def trackedStep (input : Input) (before : Tracked) : Except Fault Tracked :=
  (serverStep input before.1).map fun next =>
    (next, before.2 ++ resetIn before.1 input next)

/-- The loop takes a defined step. -/
def TrackedStep (before : Tracked) (input : Input) (after : Tracked) : Prop :=
  trackedStep input before = .ok after

/-- The datagram of a step is handled in the session behind a pointer, and the state machine
returns. -/
def Handles (config : Config) (input : Input) (pointer : SessionPtr) (entered after : Server) : Prop :=
  config.stage = .recvfrom ∧ ∃ addr datagram, input.received = some (addr, datagram) ∧
    sessionGet (config.server.enter input) addr input.allocation = .ok (some pointer, entered) ∧
    stateMachine entered pointer (packetHeaderDecode (receiveInto config.buffer datagram))
      ((receiveInto config.buffer datagram).shift packetHeaderSize) (receivedCount datagram) = .ok after

/-- Where the state machine resets a session, the session has left the table when it returns. -/
def Closes (config : Config) (input : Input) : Prop :=
  ∀ pointer entered after, Handles config input pointer entered after →
    resets after.kernel.calls = true → ¬ InTable after pointer

/-- The session is reset by a packet and survives it: a first packet that is not a SYN, or a pull that
reads no byte of a stream that has not ended yet. -/
def Survives (session : Session) (exchange : Exchange) : Prop :=
  Heard session exchange.header ∧
    (session.state = .initial ∧ packetFlagIsset exchange.header.flags packetFlagSyn = false ∨
      Streaming session ∧ (∃ source, session.pipeline = some source ∧ source.finished = false) ∧
        exchange.streamRead.bytes = [])

/-- The step handles a packet that resets its session and leaves it alive. -/
def Lingers (config : Config) (input : Input) : Prop :=
  config.stage = .recvfrom ∧ ∃ addr datagram pointer entered session,
    input.received = some (addr, datagram) ∧
    sessionGet (config.server.enter input) addr input.allocation = .ok (some pointer, entered) ∧
    entered.memory pointer = some session ∧
    Survives session (exchangeAt entered.kernel (receiveInto config.buffer datagram)
      (receivedCount datagram))

/-! ## One packet -/

section

variable {session : Session} {exchange : Exchange} {calls : List Syscall}

@[simp] theorem resets_open (name : List UInt8) (reply : OpenReply) :
    resets (.open name reply :: calls) = resets calls := rfl

@[simp] theorem resets_read (fd : Int) (size : Nat) (reply : ReadReply) :
    resets (.read fd size reply :: calls) = resets calls := rfl

@[simp] theorem resets_close (fd : Int) (failure : Option Int32) :
    resets (.close fd failure :: calls) = resets calls := rfl

/-- A packet that is sent resets the connection if it sets RST. -/
theorem Sends.resets_eq {flags : UInt8} {payload : List UInt8} {call : Syscall}
    (sends : Sends session flags payload call) (later : List Syscall) :
    resets (call :: later) = (packetFlagIsset flags packetFlagRst || resets later) := by
  obtain ⟨datagram, sent, _, header, _⟩ := sends.kind
  rw [resets, sent, List.any_cons, isRst, header]
  rfl

/-- A session that is left by a reaction has been reset exactly where it survives a reset. -/
theorem Reaction.resets_iff {next : Session} (reaction : Reaction session exchange calls (some next)) :
    resets calls = true ↔ Survives session exchange := by
  have initial : Heard session exchange.header → session.state = .initial →
      packetFlagIsset exchange.header.flags packetFlagSyn = true → ¬ Survives session exchange := by
    rintro heard state syn ⟨_, ⟨_, noSyn⟩ | ⟨streaming, _⟩⟩
    · cases syn.symm.trans noSyn
    · rcases streaming with other | other <;> cases state.symm.trans other
  have streaming : ∀ {source}, Streaming session → session.pipeline = some source →
      Survives session exchange → source.finished = false ∧ exchange.streamRead.bytes = [] := by
    rintro source streaming set ⟨_, ⟨state, _⟩ | ⟨_, ⟨source', set', open'⟩, none⟩⟩
    · rcases streaming with other | other <;> cases state.symm.trans other
    · cases set.symm.trans set'
      exact ⟨open', none⟩
  cases reaction with
  | dropped rejected =>
      exact iff_of_false Bool.false_ne_true fun survives => rejected survives.1.1
  | reset heard state syn sends =>
      rw [sends.resets_eq]
      exact iff_of_true rfl ⟨heard, .inl ⟨state, syn⟩⟩
  | opened heard state syn plain offered sends =>
      rw [resets_open, resets_read, sends.resets_eq]
      exact iff_of_false (by decide) (initial heard state syn)
  | silent heard stream set finished =>
      refine iff_of_false Bool.false_ne_true fun survives => ?_
      cases finished.symm.trans (streaming stream set survives).1
  | chunk heard stream set unfinished read some small sends =>
      rw [resets_read, sends.resets_eq]
      refine iff_of_false (by decide) fun survives => ?_
      have none := (streaming stream set survives).2
      rw [read] at none
      rw [ReadReply.bytes] at none
      rw [none] at some
      exact Nat.lt_irrefl 0 some
  | ended heard stream set unfinished read sends =>
      rw [resets_read, resets_close, sends.resets_eq]
      refine iff_of_true rfl ⟨heard, .inr ⟨stream, ⟨_, set, unfinished⟩, ?_⟩⟩
      rw [read]
      rfl
  | failed heard stream set unfinished read sends =>
      rw [resets_read, sends.resets_eq]
      refine iff_of_true rfl ⟨heard, .inr ⟨stream, ⟨_, set, unfinished⟩, ?_⟩⟩
      rw [read]
      rfl

/-- A session that is deleted does not survive. -/
theorem Reaction.not_survives (reaction : Reaction session exchange calls none) :
    ¬ Survives session exchange := by
  intro ⟨heard, survives⟩
  cases reaction with
  | forgotten accepted reset => cases reset.symm.trans heard.2
  | refused heard state syn refused =>
      rcases survives with ⟨_, noSyn⟩ | ⟨streaming, _⟩
      · cases syn.symm.trans noSyn
      · rcases streaming with other | other <;> cases state.symm.trans other

@[simp] theorem resets_append (first second : List Syscall) :
    resets (first ++ second) = (resets first || resets second) := by
  simp only [resets, sentBy_append, List.any_append]

/-- Closing a file resets no connection. -/
theorem resets_closeFile (kernel : Kernel) (fd : Int) :
    resets (kernel.closeFile fd).calls = resets kernel.calls := by
  rw [Kernel.closeFile, resets_append, resets_close]
  exact Bool.or_false _

/-- Deleting a session resets nothing. -/
theorem resets_release (session : Session) (kernel : Kernel) :
    resets (release session kernel).calls = resets kernel.calls := by
  have pipeline : resets (pipelineDealloc session kernel).calls = resets kernel.calls := by
    unfold pipelineDealloc Wav.dealloc
    cases session.pipeline with
    | none => rfl
    | some source =>
        by_cases opened : source.fd ≥ 0
        · simp only [if_pos opened, resets_closeFile]
        · simp only [if_neg opened]
  unfold release
  by_cases opened : session.fd ≥ 0
  · simp only [if_pos opened, resets_closeFile, pipeline]
  · simp only [if_neg opened, pipeline]

end

/-! ## One step -/

section

variable {config next : Config} {input : Input} {server entered after : Server}
  {pointer : SessionPtr} {session : Session} {chains : Nat → List SessionPtr}

/-- The state machine returns, and has deleted its session or not. -/
theorem stateMachine_returns (inv : TableInv entered chains)
    (live : entered.memory pointer = some session) (formed : WellFormed session)
    (fresh : entered.kernel.calls = []) (buffer : Memory) (count : Nat) :
    ∃ outcome after, (exchangeAt entered.kernel buffer count).handledBy session = .ok outcome ∧
      stateMachine entered pointer (packetHeaderDecode buffer) (buffer.shift packetHeaderSize) count =
        .ok after ∧
      (∃ chains, TableInv after chains) ∧
      (outcome.deleted = true ∧ after.memory pointer = none ∨
        outcome.deleted = false ∧ after = afterStateMachine entered pointer outcome) := by
  obtain ⟨outcome, handled, _⟩ := handledBy_reacts formed (exchangeAt entered.kernel buffer count)
  have place := handledBy_place formed handled
  have machine := handled
  rw [handledBy_exchangeAt entered.kernel fresh] at machine
  have ran := stateMachine_eq live machine
  have replaced : TableInv (afterStateMachine entered pointer outcome) chains :=
    inv.replace live place.1 place.2 outcome.kernel entered.clock
  cases deleted : outcome.deleted with
  | true =>
      have live' : (afterStateMachine entered pointer outcome).memory pointer =
          some outcome.session := Function.update_self _ _ _
      obtain ⟨after, removes, gone⟩ := sessionDelete_spec replaced live'
      rw [deleted, if_pos rfl, removes] at ran
      exact ⟨outcome, after, handled, ran, gone.table, .inl ⟨deleted, gone.freed⟩⟩
  | false =>
      rw [deleted, if_neg Bool.false_ne_true] at ran
      exact ⟨outcome, _, handled, ran, ⟨chains, replaced⟩, .inr ⟨deleted, rfl⟩⟩

/-- A session that is found or made for a datagram can handle it. -/
theorem Sound.got (sound : Sound config) {addr : SockaddrIn6}
    (got : sessionGet (config.server.enter input) addr input.allocation =
      .ok (some pointer, entered)) : ∃ session, (∃ chains, TableInv entered chains) ∧
      entered.memory pointer = some session ∧ WellFormed session ∧ entered.kernel.calls = [] := by
  obtain ⟨chains, inv⟩ := sound.table
  have inv' : TableInv (config.server.enter input) chains := inv.congr rfl rfl fun _ => rfl
  rcases sessionGet_got inv' addr input.allocation with missing |
    ⟨pointer', entered', session, found, got'⟩
  · cases missing.symm.trans got
  · cases found.symm.trans got
    refine ⟨session, got'.table, got'.live, got'.formed sound.formed, ?_⟩
    rw [got'.kernel]
    rfl

/-- **One reset.** The state machine leaves a session that it has reset in the table exactly where the
session survives the packet. -/
theorem closes_iff (sound : Sound config) : Closes config input ↔ ¬ Lingers config input := by
  constructor
  · rintro closes ⟨stage, addr, datagram, pointer, entered, session, received, got, live, survives⟩
    obtain ⟨session', ⟨chains, inv⟩, live', formed, fresh⟩ := sound.got got
    cases live.symm.trans live'
    obtain ⟨outcome, after, handled, ran, ⟨chains', inv'⟩, left⟩ := stateMachine_returns inv live formed
      fresh (receiveInto config.buffer datagram) (receivedCount datagram)
    have reaction := reaction_of_handledBy formed handled
    rcases left with ⟨deleted, _⟩ | ⟨kept, rfl⟩
    · rw [deleted] at reaction
      exact reaction.not_survives survives
    · rw [kept] at reaction
      refine closes pointer entered _ ⟨stage, addr, datagram, received, got, ran⟩
        (reaction.resets_iff.mpr survives) (inv'.inTable_iff.mpr ⟨outcome.session, ?_⟩)
      exact Function.update_self _ _ _
  · rintro quiet pointer entered after ⟨stage, addr, datagram, received, got, ran⟩ reset member
    obtain ⟨session, ⟨chains, inv⟩, live, formed, fresh⟩ := sound.got got
    obtain ⟨outcome, after', handled, ran', ⟨chains', inv'⟩, left⟩ := stateMachine_returns inv live
      formed fresh (receiveInto config.buffer datagram) (receivedCount datagram)
    cases ran'.symm.trans ran
    have reaction := reaction_of_handledBy formed handled
    rcases left with ⟨_, gone⟩ | ⟨kept, rfl⟩
    · obtain ⟨session', live'⟩ := inv'.inTable_iff.mp member
      cases gone.symm.trans live'
    · rw [kept] at reaction
      exact quiet ⟨stage, addr, datagram, pointer, entered, session, received, got, live,
        reaction.resets_iff.mp reset⟩

theorem resetIn_eq_nil (none : resets next.server.kernel.calls = false) :
    resetIn config input next = [] := by
  rw [resetIn, none, if_neg Bool.false_ne_true]

/-- A step that lets no session linger resets none. -/
theorem resetIn_quiet (sound : Sound config) (step : Steps config input next)
    (quiet : ¬ Lingers config input) : resetIn config input next = [] := by
  cases stage : config.stage with
  | returned err =>
      have nobody : actor config input = none := by
        rw [actor, stage]
      rw [resetIn, nobody, Option.toList_none, ite_self]
  | _ =>
      have running : ∀ err, config.stage ≠ .returned err := by
        intro err same
        cases stage.symm.trans same
      obtain ⟨effect, _⟩ := step.effect sound running
      apply resetIn_eq_nil
      cases effect with
      | kept still => rw [still.calls]; rfl
      | dropped _ _ _ _ still => rw [still.calls]; rfl
      | returned err _ still => rw [still.calls]; rfl
      | expired _ _ _ _ calls =>
          rw [calls, resets_release]
          rfl
      | handled recvfrom received got entered handled kept _ reheaped =>
          rw [reheaped.kernel]
          have reaction := reaction_of_handledBy (entered.formed sound.formed) handled
          rw [kept] at reaction
          refine Bool.eq_false_iff.mpr fun reset => quiet ?_
          exact ⟨recvfrom, _, _, _, _, _, received, got, entered.live, reaction.resets_iff.mp reset⟩

/-- A step that lets a session linger resets it and leaves it in the table. -/
theorem resetIn_lingers (sound : Sound config) (step : Steps config input next)
    (lingers : Lingers config input) :
    ∃ pointer ∈ resetIn config input next, InTable next.server pointer := by
  obtain ⟨stage, addr, datagram, pointer, entered, session, received, got, live, survives⟩ := lingers
  have running : ∀ err, config.stage ≠ .returned err := by
    intro err same
    cases stage.symm.trans same
  obtain ⟨effect, sound'⟩ := step.effect sound running
  have deaf : ¬ Undisturbed config input next := by
    intro still
    cases (still.received stage).symm.trans received
  cases effect with
  | kept still => exact (deaf still).elim
  | dropped _ _ _ _ still => exact (deaf still).elim
  | returned err _ still => exact (deaf still).elim
  | expired expires =>
      have waiting := expires.waiting
      rw [stage] at waiting
      cases waiting
  | handled _ received' got' entered' handled kept _ reheaped =>
      cases received.symm.trans received'
      cases got.symm.trans got'
      cases live.symm.trans entered'.live
      have reaction := reaction_of_handledBy (entered'.formed sound.formed) handled
      rw [kept] at reaction
      have reset : resets next.server.kernel.calls = true := by
        rw [reheaped.kernel]
        exact reaction.resets_iff.mpr survives
      refine ⟨pointer, ?_, ?_⟩
      · rw [resetIn, reset, if_pos rfl, actor_of_got stage received got]
        exact List.mem_singleton_self pointer
      · obtain ⟨chains, inv⟩ := sound'.table
        refine inv.inTable_iff.mpr ?_
        rw [reheaped.memory]
        exact ⟨_, Function.update_self _ _ _⟩

end

/-! ## Runs -/

/-- The sessions that have been reset are not in the table, and no packet is handled in one. -/
def Settled (tracked : Tracked) : Prop :=
  ∀ pointer ∈ tracked.2, ¬ InTable tracked.1.server pointer ∧
    ∀ input entered after, ¬ Handles tracked.1 input pointer entered after

theorem trackedStep_functional (before : Tracked) (input : Input) (after after' : Tracked)
    (step : TrackedStep before input after) (step' : TrackedStep before input after') :
    after = after' := Except.ok.inj (step.symm.trans step')

/-- **Resets close.** In a run of the loop and the state machine called next, every session that is
reset leaves the table at once and handles no packet any more, exactly if no step lets a session
linger. -/
theorem resets_close_iff {source config : Config} {inputs : List Input} {reset : List SessionPtr}
    (initial : Initial source) (run : Run TrackedStep (source, []) inputs (config, reset))
    (input : Input) :
    Run.Always TrackedStep (source, []) inputs Settled ∧ Closes config input ↔
      Run (fun before input after => TrackedStep before input after ∧ ¬ Lingers before.1 input)
        (source, []) inputs (config, reset) ∧ ¬ Lingers config input := by
  have begins : Sound source ∧ ([] : List SessionPtr) = [] := ⟨sound_initial initial, rfl⟩
  have sound : Sound config := by
    refine run.invariant (fun tracked => Sound tracked.1) begins.1 ?_
    intro before input after sound step
    obtain ⟨next, steps, rfl⟩ := map_eq_ok step
    exact Steps.sound sound steps
  rw [closes_iff sound]
  refine and_congr_left fun _ => ?_
  refine @Run.always_iff_of_invariant _ _ TrackedStep _ _
    (fun tracked => Sound tracked.1 ∧ tracked.2 = []) trackedStep_functional _ _ _ run begins
    ?_ ?_ ?_
  · rintro ⟨config, reset⟩ ⟨_, rfl⟩ pointer member
    exact (List.not_mem_nil member).elim
  · rintro before input after ⟨sound, none⟩ step quiet
    obtain ⟨next, steps, rfl⟩ := map_eq_ok step
    refine ⟨Steps.sound sound steps, ?_⟩
    rw [none, List.nil_append]
    exact resetIn_quiet sound steps quiet
  · rintro before input after ⟨sound, _⟩ step settled lingers
    obtain ⟨next, steps, rfl⟩ := map_eq_ok step
    obtain ⟨pointer, member, stays⟩ := resetIn_lingers sound steps lingers
    exact (settled pointer (List.mem_append_right _ member)).1 stays

/-! ## A first packet that is not a SYN -/

/-- The server after some steps of the loop that meet one input, with the sessions it has reset. -/
def trackedAfter (input : Input) (steps : Nat) : Tracked :=
  ((List.replicate steps input).foldlM (fun tracked input => trackedStep input tracked)
    (beginning, [])).toOption.getD (beginning, [])

/-- The sessions of the example are tracked over a run. -/
theorem trackedAfter_run {input : Input} {steps : Nat}
    (fine : ((List.replicate steps input).foldlM (fun tracked input => trackedStep input tracked)
      (beginning, [])).isOk = true) :
    Run TrackedStep (beginning, []) (List.replicate steps input) (trackedAfter input steps) :=
  Run.of_foldlM (eq_ok_getD fine (beginning, []))

/-- No session lingers where a file is asked for that cannot be opened. -/
theorem resets_close_missing :
    Run.Always TrackedStep (beginning, []) (List.replicate 3 (requesting noFiles)) Settled ∧
        Closes (trackedAfter (requesting noFiles) 3).1 (requesting noFiles) ↔
      Run (fun before input after => TrackedStep before input after ∧ ¬ Lingers before.1 input)
          (beginning, []) (List.replicate 3 (requesting noFiles))
          (trackedAfter (requesting noFiles) 3) ∧
        ¬ Lingers (trackedAfter (requesting noFiles) 3).1 (requesting noFiles) :=
  resets_close_iff initial_beginning (trackedAfter_run (by decide +kernel)) (requesting noFiles)

/-- A client that starts with a packet without SYN is answered with a reset, and its next packet is
handled in the session that has been reset. -/
theorem reset_not_closed :
    ¬ ∀ (source config : Config) (inputs : List Input) (reset : List SessionPtr) (input : Input)
      (pointer : SessionPtr) (entered after : Server), Initial source →
      Run TrackedStep (source, []) inputs (config, reset) →
      Handles config input pointer entered after → pointer ∉ reset := by
  intro closed
  have run := @trackedAfter_run arrival 7 (by decide +kernel)
  have got : sessionGet ((trackedAfter arrival 7).1.server.enter arrival) firstClient
      (some zeroedSession) = .ok (some 0, (trackedAfter arrival 7).1.server.enter arrival) := by
    rfl
  have ran := @eq_ok_getD Fault Server (stateMachine
    ((trackedAfter arrival 7).1.server.enter arrival) 0
    (packetHeaderDecode (receiveInto (trackedAfter arrival 7).1.buffer
      (List.replicate packetHeaderSize 0)))
    ((receiveInto (trackedAfter arrival 7).1.buffer (List.replicate packetHeaderSize 0)).shift
      packetHeaderSize) 16) (by decide +kernel) beginning.server
  have handles : Handles (trackedAfter arrival 7).1 arrival 0 _ _ :=
    ⟨by decide +kernel, firstClient, List.replicate packetHeaderSize 0, rfl, got, ran⟩
  exact closed _ _ _ _ arrival 0 _ _ initial_beginning run handles (by decide +kernel)

end Sas.Server
