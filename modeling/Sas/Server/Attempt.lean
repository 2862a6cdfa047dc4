import Sas.Server.Refusal

/-! # Steps that may fail

A step of the loop makes all of its system calls before it can fail: what fails is the use of a session
that has been freed, or of memory there was not, once the state machine has returned or a session has
expired. `reached` is the server at that point, whether or not the step is taken.
-/

namespace Sas.Server

open Foundation Transport

/-- The server once a step has made its system calls: the state machine has returned, or the session
that was due has been deleted. -/
def reached (config : Config) (input : Input) : Server :=
  let server := config.server.enter input
  match config.stage with
  | .expiry (some session) now =>
      match server.load session with
      | .ok current =>
          if now ≥ current.timeout then
            (serverTimeout server session input.elapsed).toOption.getD server
          else server
      | .error _ => server
  | .select (some session) _ =>
      if input.wake = .timedOut then
        (serverTimeout server session input.elapsed).toOption.getD server
      else server
  | .recvfrom =>
      match input.received with
      | none => server
      | some (addr, datagram) =>
          match sessionGet server addr input.allocation with
          | .ok (some session, entered) =>
              let buffer := receiveInto config.buffer datagram
              (stateMachine entered session (packetHeaderDecode buffer)
                (buffer.shift packetHeaderSize) (receivedCount datagram)).toOption.getD entered
          | _ => server
  | _ => server

/-- What has become of the sessions when a step has made its calls. -/
inductive Touch (config : Config) (input : Input) (after : Server) : Prop where
  /-- Nothing, and no calls have been made. -/
  | none : after.memory = config.server.memory → after.fresh = config.server.fresh →
      after.kernel.calls = [] → (∀ pointer session, ¬ Expires config input pointer session) →
      (config.stage = .recvfrom → ∀ addr datagram pointer entered,
        input.received = some (addr, datagram) →
        sessionGet (config.server.enter input) addr input.allocation ≠ .ok (some pointer, entered)) →
      Touch config input after
  /-- The session that has been waited for is deleted. -/
  | expired {pointer : SessionPtr} {session : Session} : Expires config input pointer session →
      Deleted { config.server.enter input with clock := config.server.clock + input.elapsed }
        pointer session after → Touch config input after
  /-- A session has handled a packet. -/
  | handled {addr : SockaddrIn6} {datagram : List UInt8} {pointer : SessionPtr} {entered : Server}
      {session : Session} {outcome : Outcome} : config.stage = .recvfrom →
      input.received = some (addr, datagram) →
      sessionGet (config.server.enter input) addr input.allocation = .ok (some pointer, entered) →
      Got (config.server.enter input) addr pointer entered session →
      (exchangeAt entered.kernel (receiveInto config.buffer datagram)
        (receivedCount datagram)).handledBy session = .ok outcome →
      outcome.deleted = false → after = afterStateMachine entered pointer outcome →
      Touch config input after
  /-- A session has been deleted by the packet it has handled. -/
  | deleted {addr : SockaddrIn6} {datagram : List UInt8} {pointer : SessionPtr} {entered : Server}
      {session : Session} {outcome : Outcome} : config.stage = .recvfrom →
      input.received = some (addr, datagram) →
      sessionGet (config.server.enter input) addr input.allocation = .ok (some pointer, entered) →
      Got (config.server.enter input) addr pointer entered session →
      (exchangeAt entered.kernel (receiveInto config.buffer datagram)
        (receivedCount datagram)).handledBy session = .ok outcome →
      outcome.deleted = true →
      Deleted (afterStateMachine entered pointer outcome) pointer outcome.session after →
      Touch config input after

/-- A packet that deletes its session is a reset that is accepted, or a request that is refused. -/
theorem reset_or_refused {session : Session} {exchange : Exchange} {outcome : Outcome}
    (formed : WellFormed session) (ran : exchange.handledBy session = .ok outcome)
    (deleted : outcome.deleted = true) :
    (Accepted exchange.header session.ack ∧
      packetFlagIsset exchange.header.flags packetFlagRst = true ∧
      outcome.session.pipeline = session.pipeline ∧ WellFormed outcome.session ∧
      outcome.kernel.calls = []) ∨
    (Refuses session exchange ∧ Refused session exchange outcome) := by
  have reaction := reaction_of_handledBy formed ran
  rw [deleted, if_pos rfl] at reaction
  generalize outcome.kernel.calls = calls at reaction
  cases reaction with
  | forgotten accepted reset =>
      cases Except.ok.inj (ran.symm.trans (handledBy_reset accepted reset))
      exact .inl ⟨accepted, reset, rfl, formed, rfl⟩
  | refused heard state syn missing =>
      have refuses : Refuses session exchange := ⟨heard, state, syn, missing⟩
      obtain ⟨outcome', ran', refused⟩ := handledBy_refused formed refuses
      cases ran.symm.trans ran'
      exact .inr ⟨refuses, refused⟩

section

variable {config : Config} {input : Input} {pointer : SessionPtr} {session : Session}

/-- The session that is waited for is deleted if it is due, and left alone if it is not. -/
theorem touch_timeout (sound : Sound config) (known : config.server.memory pointer = some session)
    (due : session.timeout ≤ config.server.clock + input.elapsed →
      Expires config input pointer session)
    (elsewhere : config.stage ≠ .recvfrom)
    (early : ¬ session.timeout ≤ config.server.clock + input.elapsed →
      ∀ pointer session, ¬ Expires config input pointer session) :
    Touch config input ((serverTimeout (config.server.enter input) pointer
      input.elapsed).toOption.getD (config.server.enter input)) := by
  obtain ⟨chains, inv⟩ := sound.table
  have entered : TableInv (config.server.enter input) chains := inv.congr rfl rfl fun _ => rfl
  have known' : (config.server.enter input).memory pointer = some session := known
  by_cases passed : session.timeout ≤ config.server.clock + input.elapsed
  · obtain ⟨after, timed, deleted⟩ := serverTimeout_deleted entered known' passed
    rw [timed]
    exact .expired (due passed) deleted
  · have still := (serverTimeout_eq known' input.elapsed).trans (if_neg passed)
    rw [still]
    exact .none rfl rfl rfl (early passed) fun stage => (elsewhere stage).elim

/-- What a step of the loop has done when it ends or fails. -/
theorem touch_reached (sound : Sound config) : Touch config input (reached config input) := by
  have idle (waits : config.stage.waiting = none) (elsewhere : config.stage ≠ .recvfrom) :
      Touch config input (config.server.enter input) :=
    .none rfl rfl rfl (not_expires_of_waiting waits) fun stage => (elsewhere stage).elim
  cases stage : config.stage with
  | top =>
      unfold reached
      rw [stage]
      refine idle (by rw [stage]; rfl) fun same => ?_
      cases stage.symm.trans same
  | expiry waiting now =>
      have elsewhere : config.stage ≠ .recvfrom := fun same => by cases stage.symm.trans same
      unfold reached
      rw [stage]
      cases waiting with
      | none => exact idle (by rw [stage]; rfl) elsewhere
      | some pointer =>
          have only {other : SessionPtr} {session : Session}
              (expires : Expires config input other session) :
              other = pointer ∧ session.timeout ≤ now := by
            obtain ⟨_, due⟩ := expires
            rw [stage] at due
            exact ⟨(Option.some.inj due.1).symm, due.2⟩
          cases known : config.server.memory pointer with
          | none =>
              have failed : (config.server.enter input).load pointer =
                  .error (.useAfterFree pointer) := load_of_none known
              simp only [failed]
              refine .none rfl rfl rfl (fun other session expires => ?_)
                fun same => (elsewhere same).elim
              obtain ⟨rfl, _⟩ := only expires
              cases known.symm.trans expires.1
          | some session =>
              have loaded : (config.server.enter input).load pointer = .ok session :=
                load_of_some known
              simp only [loaded]
              by_cases due : session.timeout ≤ now
              · rw [if_pos due]
                have timely := sound.timely
                rw [stage] at timely
                change now ≤ config.server.clock at timely
                refine touch_timeout sound known (fun _ => ⟨known, ?_⟩) elsewhere fun early => ?_
                · rw [stage]
                  exact ⟨rfl, due⟩
                · exact (early (by omega)).elim
              · rw [if_neg due]
                refine .none rfl rfl rfl (fun other session' expires => ?_)
                  fun same => (elsewhere same).elim
                obtain ⟨rfl, passed⟩ := only expires
                cases known.symm.trans expires.1
                exact due passed
  | select waiting now =>
      have elsewhere : config.stage ≠ .recvfrom := fun same => by cases stage.symm.trans same
      unfold reached
      rw [stage]
      cases waiting with
      | none => exact idle (by rw [stage]; rfl) elsewhere
      | some pointer =>
          by_cases wake : input.wake = .timedOut
          · have only {other : SessionPtr} {session : Session}
                (expires : Expires config input other session) :
                other = pointer ∧ session.timeout ≤ config.server.clock + input.elapsed := by
              obtain ⟨_, due⟩ := expires
              rw [stage] at due
              exact ⟨(Option.some.inj due.1).symm, due.2.2⟩
            simp only [wake, ↓reduceIte]
            cases known : config.server.memory pointer with
            | none =>
                have failed : serverTimeout (config.server.enter input) pointer input.elapsed =
                    .error (.useAfterFree pointer) :=
                  @serverTimeout_of_none (config.server.enter input) pointer known input.elapsed
                rw [failed]
                refine .none rfl rfl rfl (fun other session expires => ?_)
                  fun same => (elsewhere same).elim
                obtain ⟨rfl, _⟩ := only expires
                cases known.symm.trans expires.1
            | some session =>
                refine touch_timeout sound known (fun passed => ⟨known, ?_⟩) elsewhere
                  fun early other session' expires => ?_
                · rw [stage]
                  exact ⟨rfl, wake, passed⟩
                · obtain ⟨rfl, passed⟩ := only expires
                  cases known.symm.trans expires.1
                  exact early passed
          · simp only [wake, ↓reduceIte]
            exact .none rfl rfl rfl (not_expires_of_wake stage wake)
              fun same => (elsewhere same).elim
  | recvfrom =>
      have waits : config.stage.waiting = none := by rw [stage]; rfl
      obtain ⟨chains, inv⟩ := sound.table
      have inv' : TableInv (config.server.enter input) chains := inv.congr rfl rfl fun _ => rfl
      unfold reached
      rw [stage]
      cases received : input.received with
      | none =>
          refine .none rfl rfl rfl (not_expires_of_waiting waits) fun _ _ _ _ _ some => ?_
          cases received.symm.trans some
      | some both =>
          obtain ⟨addr, datagram⟩ := both
          dsimp only
          rcases sessionGet_got inv' addr input.allocation with missing |
            ⟨pointer, entered, session, found, got⟩
          · rw [missing]
            refine .none rfl rfl rfl (not_expires_of_waiting waits) fun _ _ _ _ _ some same => ?_
            cases received.symm.trans some
            cases missing.symm.trans same
          · rw [found]
            have formed := got.formed sound.formed
            have fresh : entered.kernel.calls = [] := by
              rw [got.kernel]
              rfl
            obtain ⟨outcome, handled, _⟩ := handledBy_reacts formed (exchangeAt entered.kernel
              (receiveInto config.buffer datagram) (receivedCount datagram))
            have machine := handled
            rw [handledBy_exchangeAt entered.kernel fresh] at machine
            have ran := stateMachine_eq got.live machine
            dsimp only
            cases deleted : outcome.deleted with
            | false =>
                rw [ran, deleted, if_neg Bool.false_ne_true]
                exact .handled stage received found got handled deleted rfl
            | true =>
                obtain ⟨grown, table⟩ := got.table
                obtain ⟨place, link⟩ := handledBy_place formed handled
                have replaced : TableInv (afterStateMachine entered pointer outcome) grown :=
                  table.replace got.live place link outcome.kernel entered.clock
                have live : (afterStateMachine entered pointer outcome).memory pointer =
                    some outcome.session := Function.update_self _ _ _
                obtain ⟨after, removes, gone⟩ := sessionDelete_spec replaced live
                rw [ran, deleted, if_pos rfl, removes]
                exact .deleted stage received found got handled deleted gone
  | returned err =>
      unfold reached
      rw [stage]
      refine idle (by rw [stage]; rfl) fun same => ?_
      cases stage.symm.trans same

end

end Sas.Server
