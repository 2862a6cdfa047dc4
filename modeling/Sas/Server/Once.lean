import Sas.Once
import Sas.Server.Numbering

/-! # Packets a session accepts once

A session drops what it has accepted, as long as no packet it accepts and survives takes a number
behind the last one.
-/

namespace Sas.Server

open Foundation Transport

/-- A session with the ledger of what it has heard. -/
abbrev Audited := Option Session × Ledger

/-- The ledger after an event in the life of a session. -/
def noteEvent (session : Session) (ledger : Ledger) : SessionEvent → Ledger
  | .packet exchange _ => ledger.note session.ack exchange.header
  | .marked _ _ => ledger

/-- One event in the life of a session, entered in its ledger. -/
def AuditedStep (before : Audited) (event : SessionEvent) (after : Audited) : Prop :=
  ∃ session, before.1 = some session ∧ SessionStep (some session) event after.1 ∧
    after.2 = noteEvent session before.2 event

/-- Everything the session has accepted it now drops: the state machine returns at once, leaves the
session as it is and sends nothing. The packets it has accepted share no numbers, and its `ack` has
never been greater. -/
def ProcessesOnce (audited : Audited) : Prop :=
  ∀ session, audited.1 = some session → audited.2.Once session.ack ∧
    ∀ exchange : Exchange, exchange.header ∈ audited.2.accepted →
      exchange.handledBy session = .ok ⟨session, exchange.kernel, false⟩

/-- The packet deletes a session that accepts it: it sets RST, or it asks for a stream that is
refused. -/
def Deletes (session : Session) (exchange : Exchange) : Prop :=
  packetFlagIsset exchange.header.flags packetFlagRst = true ∨
    session.state = .initial ∧ packetFlagIsset exchange.header.flags packetFlagSyn = true ∧
      (exchange.codec ≠ 0 ∨ exchange.offered = none)

/-- The session accepts a packet that takes numbers behind the last one, and is not deleted by it. -/
def StartsOver (session : Session) (exchange : Exchange) : Prop :=
  Accepted exchange.header session.ack ∧ ¬ exchange.header.Fits ∧ ¬ Deletes session exchange

/-- The event is not a packet that makes the session start over. -/
def Contained (before : Audited) (event : SessionEvent) : Prop :=
  ∀ session exchange calls, before.1 = some session → event = .packet exchange calls →
    ¬ StartsOver session exchange

section

variable {session : Session} {exchange : Exchange} {calls : List Syscall}

/-- A session that accepts a packet is deleted exactly by the packets that delete. -/
theorem Reaction.none_iff {after : Option Session} (reaction : Reaction session exchange calls after)
    (accepted : Accepted exchange.header session.ack) : after = none ↔ Deletes session exchange := by
  have stays {next : Session} (heard : Heard session exchange.header)
      (other : session.state = .initial →
        packetFlagIsset exchange.header.flags packetFlagSyn = true →
        exchange.codec = 0 ∧ exchange.offered.isSome) :
      some next = none ↔ Deletes session exchange := by
    refine iff_of_false (Option.some_ne_none next) ?_
    rintro (reset | ⟨state, syn, foreign | missing⟩)
    · cases reset.symm.trans heard.2
    · exact foreign (other state syn).1
    · have some := (other state syn).2
      rw [missing] at some
      cases some
  have streaming (stream : Streaming session) : session.state ≠ .initial := by
    intro initial
    rcases stream with state | state <;> cases initial.symm.trans state
  cases reaction with
  | dropped behind => exact (behind accepted).elim
  | forgotten _ reset => exact iff_of_true rfl (.inl reset)
  | reset heard state noSyn =>
      refine stays heard fun _ syn => ?_
      cases noSyn.symm.trans syn
  | refused heard state syn unfit => exact iff_of_true rfl (.inr ⟨state, syn, unfit⟩)
  | opened heard state syn plain offered =>
      exact stays heard fun _ _ => ⟨plain, by rw [offered]; rfl⟩
  | silent heard stream => exact stays heard fun state => (streaming stream state).elim
  | chunk heard stream => exact stays heard fun state => (streaming stream state).elim
  | ended heard stream => exact stays heard fun state => (streaming stream state).elim
  | failed heard stream => exact stays heard fun state => (streaming stream state).elim

end

/-- The session is well-formed, and the packets it has accepted lie below its `ack` in order. -/
def InOrder (audited : Audited) : Prop :=
  ∀ session, audited.1 = some session →
    WellFormed session ∧ audited.2.Ordered session.ack

section

variable {before after : Audited} {event : SessionEvent}

/-- An event determines what the session does. -/
theorem auditedStep_functional (before : Audited) (event : SessionEvent) (after after' : Audited)
    (step : AuditedStep before event after) (step' : AuditedStep before event after') :
    after = after' := by
  obtain ⟨session, alive, one, noted⟩ := step
  obtain ⟨session', alive', one', noted'⟩ := step'
  cases alive.symm.trans alive'
  exact Prod.ext (sessionStep_functional _ _ _ _ one one') (noted.trans noted'.symm)

/-- Packets that are processed in order are processed once. -/
theorem InOrder.processesOnce {audited : Audited} (inOrder : InOrder audited) :
    ProcessesOnce audited := by
  intro session alive
  have once := (inOrder session alive).2.once
  exact ⟨once, fun exchange member => handledBy_behind (once.dropped _ member)⟩

/-- An event that does not make the session start over keeps the order. -/
theorem InOrder.step (inOrder : InOrder before) (step : AuditedStep before event after)
    (contained : Contained before event) : InOrder after := by
  obtain ⟨session, alive, one, noted⟩ := step
  obtain ⟨formed, ordered⟩ := inOrder session alive
  intro next left
  rw [left] at one
  have formed' := one.wellFormed (by rintro _ ⟨⟩; exact formed) next rfl
  refine ⟨formed', ?_⟩
  rw [noted]
  cases event with
  | marked timeout link =>
      cases one
      exact ordered
  | packet exchange calls =>
      have reaction := one.reaction formed
      by_cases accepted : Accepted exchange.header session.ack
      · have kept : ¬ Deletes session exchange := fun deletes =>
          Option.some_ne_none next ((reaction.none_iff accepted).mpr deletes)
        have fits : exchange.header.Fits := by
          by_contra beyond
          exact contained session exchange calls alive rfl ⟨accepted, beyond, kept⟩
        rw [reaction.ack_eq accepted next rfl]
        exact ordered.note accepted fits
      · obtain ⟨_, same⟩ := reaction.of_not_accepted accepted
        cases same
        rw [noteEvent, before.2.note_of_not_accepted accepted]
        exact ordered

/-- An event that makes the session start over ends the order. -/
theorem ProcessesOnce.contained (inOrder : InOrder before) (step : AuditedStep before event after)
    (once : ProcessesOnce after) : Contained before event := by
  rintro session exchange calls alive rfl ⟨accepted, beyond, kept⟩
  obtain ⟨session', alive', one, noted⟩ := step
  cases alive.symm.trans alive'
  have reaction := one.reaction (inOrder session alive).1
  cases left : after.1 with
  | none => exact kept ((reaction.none_iff accepted).mp left)
  | some next =>
      have once := (once next left).1
      rw [noted, noteEvent, reaction.ack_eq accepted next left] at once
      exact beyond (once.fits accepted)

end

/-- A new session has heard nothing. -/
theorem inOrder_create (addr : SockaddrIn6) (memory : Uninitialized) :
    InOrder (some (sessionCreate addr memory), .empty) := by
  rintro _ ⟨⟩
  exact ⟨wellFormed_create addr memory, Ledger.ordered_empty _⟩

/-- The ledger can be kept in every run. -/
theorem audited_of_run {source target : Option Session} {events : List SessionEvent}
    (run : Run SessionStep source events target) (ledger : Ledger) :
    ∃ ledger', Run AuditedStep (source, ledger) events (target, ledger') := by
  induction run with
  | nil => exact ⟨ledger, .nil⟩
  | @snoc events middle target event _ last ih =>
      obtain ⟨ledger', audited⟩ := ih
      cases middle with
      | none => exact last.elim
      | some session => exact ⟨_, audited.snoc ⟨session, rfl, last, rfl⟩⟩

/-- The session processes every packet once exactly if no packet makes it start over. -/
theorem processesOnce_iff {addr : SockaddrIn6} {memory : Uninitialized}
    {events : List SessionEvent} {target : Audited}
    (run : Run AuditedStep (some (sessionCreate addr memory), .empty) events target) :
    Run.Always AuditedStep (some (sessionCreate addr memory), .empty) events ProcessesOnce ↔
      Run (fun before event after => AuditedStep before event after ∧ Contained before event)
        (some (sessionCreate addr memory), .empty) events target :=
  run.always_iff_of_invariant auditedStep_functional (inOrder_create addr memory)
    (fun _ inOrder => inOrder.processesOnce) (fun _ _ _ inOrder step => inOrder.step step)
    fun _ _ _ inOrder step once => once.contained inOrder step

end Sas.Server
