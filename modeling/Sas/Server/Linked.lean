import Sas.Server.Stream

/-! # The links of a session

The state machine pulls through the sink logic of a session, the inlet of that logic, and the
connection behind the inlet. None of them is set by the state machine itself: the sink and the
wrapper around it set them while the pipeline starts. They are set in every state in which a pull
is made.
-/

namespace Sas.Server

open Foundation Transport Rxc Formats

/-- A session for which no stream has been set up. -/
structure Bare (session : Session) : Prop where
  pipeline : session.pipeline = none
  sinkLogic : session.sinkLogic = none
  fd : session.fd = -1

/-- Every link a pull follows is set: the pipeline with its source, the sink logic, its inlet, and
the parent of the inlet, which is the connection. -/
def Linked (session : Session) : Prop :=
  ∃ source link inlet, session.pipeline = some source ∧ session.sinkLogic = some link ∧
    link.inlet = some inlet ∧ inlet.parent = true

section

variable {session : Session}

/-- A session that has not been opened is bare. -/
theorem WellFormed.bare (formed : WellFormed session) (state : session.state = .initial) :
    Bare session := by
  simp only [WellFormed, state] at formed
  exact ⟨formed.1, formed.2.1, formed.2.2⟩

/-- A session that streams is linked. -/
theorem WellFormed.linked (formed : WellFormed session) (streaming : Streaming session) :
    Linked session := by
  obtain ⟨source, pipeline, _, linked⟩ := (wellFormed_streaming streaming).mp formed
  exact ⟨source, _, _, pipeline, linked, rfl, rfl⟩

/-- No packet makes the state machine follow a null link. -/
theorem WellFormed.handledBy_ok (formed : WellFormed session) (exchange : Exchange) :
    ∃ outcome, exchange.handledBy session = .ok outcome := by
  obtain ⟨outcome, returned, _⟩ := handledBy_reacts formed exchange
  exact ⟨outcome, returned⟩

end

/-- **The links of a session are set when they are followed.** After any events a session is in one
of three states; before its handshake it holds nothing, past it every link of a pull is set; and
whatever packet comes next, the state machine returns. -/
theorem session_linked {addr : SockaddrIn6} {memory : Uninitialized} {events : List SessionEvent}
    {session : Session} (run : SessionRun addr memory events (some session)) :
    (session.state = .initial ∨ session.state = .sackSent ∨ session.state = .establsh) ∧
    (session.state = .initial → Bare session) ∧
    (session.state = .sackSent ∨ session.state = .establsh → Linked session) ∧
    ∀ exchange : Exchange, ∃ outcome, exchange.handledBy session = .ok outcome := by
  have formed := SessionRun.wellFormed run session rfl
  exact ⟨formed.initial_or_streaming, formed.bare, formed.linked, formed.handledBy_ok⟩

/-- A session that has begun to stream the song. -/
theorem session_linked_song : ∃ session : Session, session.state = .establsh ∧
    Linked session := by
  have run : SessionRun listener ⟨0, 0, 0, 0, 0⟩ songEvents.1 songEvents.2 := replay_run _ _
  have live : songEvents.2.isSome = true := by decide +kernel
  obtain ⟨session, left⟩ := Option.isSome_iff_exists.mp live
  have state : songEvents.2.map Session.state = some .establsh := by decide +kernel
  rw [left] at run state
  have state : session.state = .establsh := Option.some.inj state
  exact ⟨session, state, (session_linked run).2.2.1 (.inr state)⟩

end Sas.Server
