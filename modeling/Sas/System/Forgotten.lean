import Sas.System.Handshake

/-! # Forgotten sessions

A session that has expired is forgotten by the server and not by its client. A later packet of the client
meets a new session, which knows nothing of the stream, counts from zero again and answers with a reset;
the client compares the reset with what it has received from the session before.
-/

namespace Sas.System

open Foundation Transport

/-- In a run that has led to `pair`, the server has forgotten the session of an established client, and
has then answered a packet, for which it had no session, with the reset `answer`. -/
def Answered (sink : Client.Sink) (addr : SockaddrIn6) (start : Client.Config) (answer : List UInt8)
    (pair : Pair) : Prop :=
  ∃ (known asking answered : Pair) (before between after : List PairEvent) (event : PairEvent),
    PairRun anyOrder sink addr start before known ∧
    known.client.world.session.state = .establsh ∧ known.session.isSome = true ∧
    Run (PairStep anyOrder sink addr) { known with session := none } between asking ∧
    asking.session = none ∧ PairStep anyOrder sink addr asking event answered ∧
    answer ∈ answered.toClient.sent.drop asking.toClient.sent.length ∧ isRst answer = true ∧
    Run (PairStep anyOrder sink addr) answered after pair

section

variable {addr : SockaddrIn6} {memory : Server.Uninitialized} {exchange : Server.Exchange}
  {calls : List Syscall} {after : Option Server.Session} {answer : List UInt8}

/-- A session that is new counts from zero. -/
theorem fresh_seq {header : PacketHeader} {flags : UInt8} {payload : List UInt8} {call : Syscall}
    (sends : Server.Sends (Server.acked (Server.sessionCreate addr memory) header) flags payload call)
    (member : answer ∈ sentBy [call]) :
    ∃ sent, Carries answer sent payload ∧ sent.seq = 0 ∧ sent.flags = flags := by
  obtain ⟨datagram, failure, rfl, carries⟩ := sends
  rw [List.mem_singleton.mp member]
  exact ⟨_, carries, rfl, rfl⟩

/-- The first answer of a session has the sequence number zero. -/
theorem fresh_answer (reaction : Server.Reaction (Server.sessionCreate addr memory) exchange calls after)
    (member : answer ∈ sentBy calls) :
    ∃ header payload, Carries answer header payload ∧ header.seq = 0 := by
  have early : ¬ Server.Streaming (Server.sessionCreate addr memory) := by
    rintro (state | state) <;> cases state
  cases reaction with
  | dropped => exact (List.not_mem_nil member).elim
  | forgotten => exact (List.not_mem_nil member).elim
  | reset heard state syn sends =>
      obtain ⟨header, carries, first, _⟩ := fresh_seq sends member
      exact ⟨header, _, carries, first⟩
  | refused heard state syn unfit sends before =>
      rw [sentBy_append, before, List.nil_append] at member
      obtain ⟨header, carries, first, _⟩ := fresh_seq sends member
      exact ⟨header, _, carries, first⟩
  | opened heard state syn plain offered sends =>
      rw [sentBy_open, sentBy_read] at member
      obtain ⟨header, carries, first, _⟩ := fresh_seq sends member
      exact ⟨header, _, carries, first⟩
  | silent heard streaming => exact (early streaming).elim
  | chunk heard streaming => exact (early streaming).elim
  | ended heard streaming => exact (early streaming).elim
  | failed heard streaming => exact (early streaming).elim

end

section

variable {sink : Client.Sink} {addr : SockaddrIn6} {start : Client.Config} {pair : Pair}
  {answer : List UInt8}

/-- What the server answers without a session has the sequence number zero. -/
theorem Answered.seq (answered : Answered sink addr start answer pair) :
    ∃ header payload, Carries answer header payload ∧ header.seq = 0 := by
  obtain ⟨known, asking, next, _, _, _, event, _, _, _, _, none, step, member, _⟩ := answered
  cases step with
  | client stepped arrives =>
      rw [Pair.clientTurn, Channel.deliver, List.drop_length] at member
      exact (List.not_mem_nil member).elim
  | server receives arrives stepped =>
      rw [Pair.serverTurn, Channel.send, List.drop_left] at member
      rw [Pair.current, none] at stepped
      exact fresh_answer (stepped.reaction (Server.wellFormed_create addr _)) member
  | marked live => cases none.symm.trans live
  | expired =>
      rw [List.drop_length] at member
      exact (List.not_mem_nil member).elim

/-- The pair that has been answered has come about in a run. -/
theorem Answered.pairRun (answered : Answered sink addr start answer pair) :
    ∃ events, PairRun anyOrder sink addr start events pair := by
  obtain ⟨known, asking, next, before, between, after, event, run, _, _, run', _, step, _, _, run''⟩ :=
    answered
  exact ⟨_, (((run.snoc .expired).append run').snoc step).append run''⟩

/-- **Forgotten sessions.** When the reset of a forgotten session is delivered, its client accepts it
exactly if it acknowledges nothing, and otherwise drops it. -/
theorem forgotten_reset_iff {name : List UInt8} {memory : Chunk} {env : Env}
    (begun : Client.receive name memory env = .ok start)
    (answered : Answered sink addr start answer pair) {event : Client.ClientEvent}
    {next : Client.Config} (step : Client.ClientStep sink pair.client event next)
    (delivered : event.input.datagram? = some answer) :
    (Accepted (event.input.header answer) pair.client.world.session.ack ↔
        pair.client.world.session.ack = 0) ∧
      (pair.client.world.session.ack ≠ 0 →
        next.world.session = pair.client.world.session ∧ event.calls = []) := by
  obtain ⟨header, payload, carries, first⟩ := answered.seq
  have accepted : Accepted (event.input.header answer) pair.client.world.session.ack ↔
      pair.client.world.session.ack = 0 := by
    rw [input_header_eq _ carries, Accepted, first, UInt32.pos_iff_ne_zero, not_not]
  refine ⟨accepted, fun some => ?_⟩
  obtain ⟨events, run⟩ := answered.pairRun
  have formed := (PairRun.formed begun run).1.formed
  cases step.iteration formed with
  | stopped err none => cases none.symm.trans delivered
  | handled received reaction calls stage =>
      cases received.symm.trans delivered
      have behind : ¬ Accepted (event.input.header answer)
          (Client.enter pair.client.world event.input.env).session.ack :=
        fun hears => some (accepted.mp hears)
      obtain ⟨same, _⟩ := reaction.of_not_accepted behind
      rw [same] at calls
      rw [same, Client.enter_session]
      exact ⟨rfl, calls.symm⟩

end

/-! ## The song, forgotten -/

/-- The client of the song has its configuration. -/
def songKnown : List PairEvent × Pair :=
  (Pair.start Client.songStart).replay anyOrder Client.driversIgnore Server.listener
    [.server 0 (Server.songEnv fun _ => .data Server.songHeader), .client 0 Client.calmEnv]

/-- The server has forgotten the client of the song, and answers its ACK. -/
def songForgotten : PairEvent × Pair :=
  (Pair.take anyOrder Client.driversIgnore Server.listener { songKnown.2 with session := none }
    (.server 1 (Server.songEnv fun _ => .data []))).getD (.expired, songKnown.2)

/-- The reset of the session for the ACK. -/
def songReset : List UInt8 := songForgotten.2.toClient.sent.getD 1 []

/-- The client of the song after it has received the reset. -/
def songDropped : Client.Config :=
  (Client.clientStep Client.driversIgnore (Client.receiving songReset)
    songForgotten.2.client).toOption.getD Client.songStart

/-- In the example the forgotten session has been answered. -/
theorem songReset_answered :
    Answered Client.driversIgnore Server.listener Client.songStart songReset songForgotten.2 := by
  have taken : Pair.take anyOrder Client.driversIgnore Server.listener
      { songKnown.2 with session := none } (.server 1 (Server.songEnv fun _ => .data [])) =
      some songForgotten := by
    obtain ⟨outcome, taken⟩ := Option.isSome_iff_exists.mp (by decide +kernel :
      (Pair.take anyOrder Client.driversIgnore Server.listener { songKnown.2 with session := none }
        (.server 1 (Server.songEnv fun _ => .data []))).isSome = true)
    rw [songForgotten, taken]
    rfl
  exact ⟨songKnown.2, _, _, _, [], [], songForgotten.1, Pair.replay_run _ _, by decide +kernel,
    by decide +kernel, .nil, rfl, Pair.take_step taken, by decide +kernel, by decide +kernel, .nil⟩

/-- The client of the example is handed the reset. -/
theorem songReset_delivered : Client.ClientStep Client.driversIgnore songForgotten.2.client
    ⟨Client.receiving songReset, songDropped.world.kernel.calls⟩ songDropped :=
  ⟨by decide +kernel, eq_ok_getD (by decide +kernel) _, rfl⟩

/-- The client of the song, which has received eight bytes of configuration, drops the reset. -/
theorem forgotten_reset_song :
    songDropped.world.session = songForgotten.2.client.world.session :=
  ((forgotten_reset_iff Client.songStart_begun songReset_answered songReset_delivered rfl).2
    (by decide +kernel)).1

/-- A forgotten client is not told. -/
theorem forgotten_not_reset :
    ¬ ∀ (sink : Client.Sink) (addr : SockaddrIn6) (name : List UInt8) (memory : Chunk) (env : Env)
      (start : Client.Config) (answer : List UInt8) (pair : Pair) (event : Client.ClientEvent)
      (next : Client.Config), Client.receive name memory env = .ok start →
      Answered sink addr start answer pair → Client.ClientStep sink pair.client event next →
      event.input.datagram? = some answer →
      Accepted (event.input.header answer) pair.client.world.session.ack := by
  intro accepted
  have first := accepted _ _ _ _ _ _ _ _ _ _ Client.songStart_begun songReset_answered
    songReset_delivered rfl
  exact absurd first (by decide +kernel)

end Sas.System
