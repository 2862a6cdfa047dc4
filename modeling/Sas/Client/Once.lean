import Sas.Once
import Sas.Client.Numbering

/-! # Packets the client accepts once

The client drops what it has accepted, as long as no packet it accepts takes a number behind the last
one. Packets are delivered to its state machine as they come, whatever the loop would do in between.
-/

namespace Sas.Client

open Foundation Transport Rxc

/-- A packet as the state machine meets it: the decoded header, the memory behind the header, the
number of bytes received, and the answers of the kernel. -/
structure Delivery where
  header : PacketHeader
  payload : Memory
  count : Nat
  env : Env

/-- Hand the packet to the state machine of a client. -/
def Delivery.handledBy (sink : Sink) (delivery : Delivery) (world : World) :
    Except Fault (Int32 × World) :=
  sessionStateMachine sink delivery.header delivery.payload delivery.count
    (enter world delivery.env)

/-- A client with the ledger of what it has heard. -/
abbrev Audited := World × Ledger

/-- One packet, entered in the ledger of the client. -/
def AuditedStep (sink : Sink) (before : Audited) (delivery : Delivery) (after : Audited) : Prop :=
  ∃ err, delivery.handledBy sink before.1 = .ok (err, after.1) ∧
    after.2 = before.2.note before.1.session.ack delivery.header

/-- Everything the client has accepted it now drops: the state machine returns at once, leaves the
client as it is, and neither sends nor pushes anything. The packets it has accepted share no numbers,
and its `ack` has never been greater. -/
def ProcessesOnce (sink : Sink) (audited : Audited) : Prop :=
  audited.2.Once audited.1.session.ack ∧
    ∀ delivery : Delivery, delivery.header ∈ audited.2.accepted →
      delivery.handledBy sink audited.1 = .ok (0, enter audited.1 delivery.env)

/-- The client accepts a packet that takes numbers behind the last one. -/
def StartsOver (world : World) (delivery : Delivery) : Prop :=
  Accepted delivery.header world.session.ack ∧ ¬ delivery.header.Fits

/-- The client is well-formed, and the packets it has accepted lie below its `ack` in order. -/
def InOrder (audited : Audited) : Prop :=
  WellFormed audited.1 ∧ audited.2.Ordered audited.1.session.ack

section

variable {sink : Sink} {before after : Audited} {delivery : Delivery}

/-- A delivery determines what the client does. -/
theorem auditedStep_functional (before : Audited) (delivery : Delivery) (after after' : Audited)
    (step : AuditedStep sink before delivery after)
    (step' : AuditedStep sink before delivery after') : after = after' := by
  obtain ⟨err, handled, noted⟩ := step
  obtain ⟨err', handled', noted'⟩ := step'
  obtain ⟨_, same⟩ := Prod.mk.inj (Except.ok.inj (handled.symm.trans handled'))
  exact Prod.ext same (noted.trans noted'.symm)

/-- The client drops what is below its `ack`. -/
theorem handledBy_behind (sink : Sink) {world : World}
    (behind : delivery.header.seq < world.session.ack) :
    delivery.handledBy sink world = .ok (0, enter world delivery.env) :=
  if_pos behind

/-- Packets that are processed in order are processed once. -/
theorem InOrder.processesOnce {audited : Audited} (inOrder : InOrder audited) :
    ProcessesOnce sink audited := by
  have once := inOrder.2.once
  exact ⟨once, fun delivery member => handledBy_behind sink (once.dropped _ member)⟩

/-- What a packet does to the client. -/
theorem AuditedStep.reaction (step : AuditedStep sink before delivery after)
    (formed : WellFormed before.1) : ∃ err,
      Reaction (enter before.1 delivery.env) delivery.header delivery.payload err after.1 := by
  obtain ⟨err, handled, _⟩ := step
  exact ⟨err, reaction_of_stateMachine (formed.enter delivery.env) handled⟩

/-- A packet that does not make the client start over keeps the order. -/
theorem InOrder.step (inOrder : InOrder before) (step : AuditedStep sink before delivery after)
    (contained : ¬ StartsOver before.1 delivery) : InOrder after := by
  obtain ⟨formed, ordered⟩ := inOrder
  obtain ⟨err, reaction⟩ := step.reaction formed
  obtain ⟨_, _, noted⟩ := step
  unfold InOrder
  rw [noted]
  refine ⟨reaction.wellFormed (formed.enter delivery.env), ?_⟩
  by_cases accepted : Accepted delivery.header before.1.session.ack
  · have fits : delivery.header.Fits := not_not.mp fun beyond => contained ⟨accepted, beyond⟩
    rw [reaction.ack_eq accepted]
    exact ordered.note accepted fits
  · obtain ⟨same, _⟩ := reaction.of_not_accepted accepted
    rw [same, before.2.note_of_not_accepted accepted]
    exact ordered

/-- A packet that makes the client start over ends the order. -/
theorem ProcessesOnce.contained (inOrder : InOrder before)
    (step : AuditedStep sink before delivery after) (once : ProcessesOnce sink after) :
    ¬ StartsOver before.1 delivery := by
  intro ⟨accepted, beyond⟩
  obtain ⟨err, reaction⟩ := step.reaction inOrder.1
  obtain ⟨_, _, noted⟩ := step
  have once := once.1
  rw [noted, reaction.ack_eq accepted] at once
  exact beyond (once.fits accepted)

end

/-- The client processes every packet once exactly if no packet makes it start over. -/
theorem processesOnce_iff {sink : Sink} {name : List UInt8} {memory : Chunk} {env : Env}
    {start : Config} {deliveries : List Delivery} {target : Audited}
    (begun : receive name memory env = .ok start)
    (run : Run (AuditedStep sink) (start.world, .empty) deliveries target) :
    Run.Always (AuditedStep sink) (start.world, .empty) deliveries (ProcessesOnce sink) ↔
      Run (fun before delivery after => AuditedStep sink before delivery after ∧
        ¬ StartsOver before.1 delivery) (start.world, .empty) deliveries target :=
  run.always_iff_of_invariant auditedStep_functional
    ⟨(underway_start begun).formed, Ledger.ordered_empty _⟩
    (fun _ inOrder => inOrder.processesOnce) (fun _ _ _ inOrder step => inOrder.step step)
    fun _ _ _ inOrder step once => once.contained inOrder step

end Sas.Client
