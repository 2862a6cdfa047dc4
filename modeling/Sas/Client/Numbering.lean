import Sas.Client.Run

/-! # The sequence numbers of a client

Everything a client sends takes the next sequence numbers, and every packet it accepts moves its
acknowledgement behind the packet.
-/

namespace Sas.Client

open Foundation Transport Rxc

section

variable {world next : World} {header : PacketHeader} {payload : Memory} {err : Int32}

@[simp] theorem acked_seq (world : World) (header : PacketHeader) :
    (acked world header).session.seq = world.session.seq := rfl

@[simp] theorem acked_ack (world : World) (header : PacketHeader) :
    (acked world header).session.ack = header.seq + span header.length := rfl

@[simp] theorem pushing_seq (world : World) (chunk : Chunk) :
    (pushing world chunk).session.seq = world.session.seq := rfl

@[simp] theorem pushing_ack (world : World) (chunk : Chunk) :
    (pushing world chunk).session.ack = world.session.ack := rfl

@[simp] theorem pushing_kernel (world : World) (chunk : Chunk) :
    (pushing world chunk).kernel = world.kernel := rfl

/-- A reaction that sends nothing takes no numbers. -/
theorem silent_seqChain (seq : next.session.seq = world.session.seq)
    (calls : next.kernel.calls = world.kernel.calls) :
    ∃ calls, next.kernel.calls = world.kernel.calls ++ calls ∧
      SeqChain world.session.seq (sentBy calls) next.session.seq := by
  refine ⟨[], by rw [calls, List.append_nil], ?_⟩
  rw [seq]
  rfl

/-- A reaction sends packets with the next sequence numbers. -/
theorem Reaction.seqChain (reaction : Reaction world header payload err next) :
    ∃ calls, next.kernel.calls = world.kernel.calls ++ calls ∧
      SeqChain world.session.seq (sentBy calls) next.session.seq := by
  cases reaction with
  | dropped => exact silent_seqChain rfl rfl
  | failed => exact silent_seqChain (acked_seq _ _) rfl
  | finished => exact silent_seqChain rfl rfl
  | reset => exact silent_seqChain (acked_seq _ _) rfl
  | ignored => exact silent_seqChain (acked_seq _ _) rfl
  | pushed heard pushes acks formed =>
      obtain ⟨calls, called, chain, _⟩ := acks.calls
      rw [pushing_kernel, acked_kernel] at called
      rw [pushing_seq, acked_seq] at chain
      exact ⟨calls, called, chain⟩

/-- A client that accepts a packet acknowledges it. -/
theorem Reaction.ack_eq (reaction : Reaction world header payload err next)
    (accepted : Accepted header world.session.ack) :
    next.session.ack = header.seq + span header.length := by
  cases reaction with
  | dropped behind => exact (behind accepted).elim
  | failed => exact acked_ack _ _
  | finished => rfl
  | reset => exact acked_ack _ _
  | ignored => exact acked_ack _ _
  | pushed heard pushes acks formed =>
      have ack := acks.ack_eq
      rwa [pushing_ack, acked_ack] at ack

end

section

variable {sink : Sink} {config next : Config} {event : ClientEvent}

/-- An iteration sends packets with the next sequence numbers. -/
theorem ClientStep.seqChain (step : ClientStep sink config event next)
    (formed : WellFormed config.world) :
    SeqChain config.world.session.seq (sentBy event.calls) next.world.session.seq := by
  cases step.iteration formed with
  | stopped err none quiet same =>
      subst same
      rw [quiet]
      rfl
  | handled some reaction calls stage =>
      obtain ⟨calls', called, chain⟩ := reaction.seqChain
      have same : event.calls = calls' := calls.symm.trans called
      rw [same]
      exact chain

/-- An iteration that accepts a packet acknowledges it. -/
theorem ClientStep.ack_eq (step : ClientStep sink config event next)
    (formed : WellFormed config.world) {datagram : List UInt8}
    (received : event.input.datagram? = some datagram)
    (accepted : Accepted (event.input.header datagram) config.world.session.ack) :
    next.world.session.ack =
      (event.input.header datagram).seq + span (event.input.header datagram).length := by
  cases step.iteration formed with
  | stopped err none quiet same =>
      rw [none] at received
      cases received
  | handled some reaction calls stage =>
      cases received.symm.trans some
      exact reaction.ack_eq accepted

/-- An iteration moves the acknowledgement only where it accepts a packet. -/
theorem ClientStep.accepts_or (step : ClientStep sink config event next)
    (formed : WellFormed config.world) :
    (∃ datagram, event.input.datagram? = some datagram ∧
        Accepted (event.input.header datagram) config.world.session.ack) ∨
      next.world.session.ack = config.world.session.ack := by
  cases step.iteration formed with
  | stopped err none quiet same =>
      rw [same]
      exact .inr rfl
  | @handled datagram _ received reaction calls stage =>
      by_cases accepted : Accepted (event.input.header datagram) config.world.session.ack
      · exact .inl ⟨datagram, received, accepted⟩
      · rw [(reaction.of_not_accepted accepted).1]
        exact .inr rfl

/-- An iteration without a datagram leaves the session as it was. -/
theorem ClientStep.session_eq (step : ClientStep sink config event next)
    (formed : WellFormed config.world) (nothing : event.input.datagram? = none) :
    next.world.session = config.world.session := by
  cases step.iteration formed with
  | stopped err none quiet same => rw [same, enter_session]
  | handled some reaction calls stage =>
      rw [nothing] at some
      cases some

end

end Sas.Client
