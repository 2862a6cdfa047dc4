import Sas.Server.Reaction

/-! # Runs of a session

From the moment the session table has created it, a session handles packets until one of them
deletes it. Between two packets the server loop writes its timeout and the table its link, which
the state machine does not read.
-/

namespace Sas.Server

open Foundation Transport Rxc Formats

/-- What happens to a session. -/
inductive SessionEvent where
  /-- A packet is handled by these system calls. -/
  | packet (exchange : Exchange) (calls : List Syscall)
  /-- The loop and the table write their fields. -/
  | marked (timeout : Int) (next : Option SessionPtr)

/-- The system calls of an event. -/
def SessionEvent.calls : SessionEvent → List Syscall
  | .packet _ calls => calls
  | .marked _ _ => []

/-- The system calls of a sequence of events, in order. -/
def callsOf (events : List SessionEvent) : List Syscall := events.flatMap SessionEvent.calls

/-- One event in the life of a session; a deleted session has none. -/
def SessionStep (before : Option Session) (event : SessionEvent) (after : Option Session) : Prop :=
  match before, event with
  | some session, .packet exchange calls => ∃ outcome,
      exchange.handledBy session = .ok outcome ∧ outcome.kernel.calls = calls ∧
      after = if outcome.deleted then none else some outcome.session
  | some session, .marked timeout next =>
      after = some { session with timeout := timeout, next := next }
  | none, _ => False

/-- The events lead a session from its creation to this state. -/
abbrev SessionRun (addr : SockaddrIn6) (memory : Uninitialized) (events : List SessionEvent)
    (target : Option Session) : Prop :=
  Run SessionStep (some (sessionCreate addr memory)) events target

@[simp] theorem callsOf_append (first second : List SessionEvent) :
    callsOf (first ++ second) = callsOf first ++ callsOf second := List.flatMap_append

@[simp] theorem callsOf_singleton (event : SessionEvent) : callsOf [event] = event.calls :=
  List.flatMap_singleton _ _

section

variable {session : Session} {exchange : Exchange} {calls : List Syscall}
  {before after : Option Session} {event : SessionEvent}

/-- What an event leaves is determined by what the session meets in it. -/
theorem sessionStep_functional (before : Option Session) (event : SessionEvent)
    (after after' : Option Session) (step : SessionStep before event after)
    (step' : SessionStep before event after') : after = after' := by
  cases before with
  | none => exact step.elim
  | some session =>
      cases event with
      | packet exchange calls =>
          obtain ⟨outcome, returned, _, rfl⟩ := step
          obtain ⟨outcome', returned', _, rfl⟩ := step'
          cases returned.symm.trans returned'
          rfl
      | marked timeout next => exact Eq.trans step (Eq.symm step')

/-- A packet of a well-formed session is handled in one of the ways of `Reaction`. -/
theorem SessionStep.reaction (step : SessionStep (some session) (.packet exchange calls) after)
    (formed : WellFormed session) : Reaction session exchange calls after := by
  obtain ⟨outcome, returned, rfl, rfl⟩ := step
  exact reaction_of_handledBy formed returned

/-- The events of a session are the reactions to packets and the writes of the loop. -/
theorem SessionStep.cases (step : SessionStep before event after)
    (formed : ∀ session, before = some session → WellFormed session) :
    ∃ session, before = some session ∧
      ((∃ exchange calls, event = .packet exchange calls ∧
          Reaction session exchange calls after) ∨
        ∃ timeout next, event = .marked timeout next ∧
          after = some { session with timeout := timeout, next := next }) := by
  cases before with
  | none => exact step.elim
  | some session =>
      refine ⟨session, rfl, ?_⟩
      cases event with
      | packet exchange calls => exact .inl ⟨_, _, rfl, step.reaction (formed session rfl)⟩
      | marked timeout next => exact .inr ⟨_, _, rfl, step⟩

/-- An event leaves a session well-formed. -/
theorem SessionStep.wellFormed (step : SessionStep before event after)
    (formed : ∀ session, before = some session → WellFormed session) :
    ∀ session, after = some session → WellFormed session := by
  obtain ⟨session, rfl, reacted | written⟩ := step.cases formed
  · obtain ⟨exchange, calls, rfl, reaction⟩ := reacted
    rintro next rfl
    exact reaction.wellFormed (formed session rfl)
  · obtain ⟨timeout, next, rfl, rfl⟩ := written
    rintro _ ⟨⟩
    exact formed session rfl

end

variable {addr : SockaddrIn6} {memory : Uninitialized} {events : List SessionEvent}

/-- Sessions are well-formed in every run. -/
theorem SessionRun.wellFormed {target : Option Session}
    (run : SessionRun addr memory events target) :
    ∀ session, target = some session → WellFormed session := by
  refine run.invariant (fun state => ∀ session, state = some session → WellFormed session) ?_
    fun _ _ _ formed step => step.wellFormed formed
  rintro _ ⟨⟩
  exact wellFormed_create addr memory

/-- Hand packets to a session one after the other, until it is deleted. -/
def replay (before : Option Session) : List Exchange → List SessionEvent × Option Session
  | [] => ([], before)
  | exchange :: later =>
      match before with
      | none => ([], none)
      | some session =>
          match exchange.handledBy session with
          | .error _ => ([], some session)
          | .ok outcome =>
              let rest := replay (if outcome.deleted then none else some outcome.session) later
              (.packet exchange outcome.kernel.calls :: rest.1, rest.2)

/-- A replay is a run. -/
theorem replay_run (before : Option Session) (exchanges : List Exchange) :
    Run SessionStep before (replay before exchanges).1 (replay before exchanges).2 := by
  induction exchanges generalizing before with
  | nil => exact .nil
  | cons exchange later ih =>
      unfold replay
      cases before with
      | none => exact .nil
      | some session =>
          cases handled : exchange.handledBy session with
          | error fault =>
              simp only [handled]
              exact .nil
          | ok outcome =>
              simp only [handled]
              have step : SessionStep (some session) (.packet exchange outcome.kernel.calls)
                  (if outcome.deleted then none else some outcome.session) :=
                ⟨outcome, handled, rfl, rfl⟩
              exact (Run.singleton step).append (ih _)

end Sas.Server
