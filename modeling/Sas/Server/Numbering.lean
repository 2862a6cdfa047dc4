import Sas.Server.SessionRun

/-! # The sequence numbers of a session

Everything a session sends takes the next sequence numbers, and every packet it accepts moves its
acknowledgement behind the packet.
-/

namespace Sas.Server

open Foundation Transport Rxc Formats

section

variable {session : Session} {exchange : Exchange} {calls : List Syscall} {after : Option Session}

/-- One packet takes its sequence numbers. -/
theorem Sends.seqChain {flags : UInt8} {payload : List UInt8} {call : Syscall}
    (sends : Sends session flags payload call) :
    SeqChain session.seq (sentBy [call])
      (session.seq + span (UInt16.ofNat payload.length)) := by
  obtain ⟨datagram, failure, rfl, carries⟩ := sends
  refine SeqChain.singleton ?_ ?_
  · rw [carries.headerOf_eq]
    rfl
  · rw [carries.headerOf_eq]
    rfl

/-- A reaction sends packets with the next sequence numbers. -/
theorem Reaction.seqChain (reaction : Reaction session exchange calls after) :
    ∃ seq, SeqChain session.seq (sentBy calls) seq ∧ ∀ next, after = some next → next.seq = seq := by
  cases reaction with
  | dropped => exact ⟨_, rfl, by rintro _ ⟨⟩; rfl⟩
  | forgotten => exact ⟨_, rfl, by rintro _ ⟨⟩⟩
  | reset heard state syn sends => exact ⟨_, sends.seqChain, by rintro _ ⟨⟩; rfl⟩
  | refused heard state syn unfit sends before =>
      rw [sentBy_append, before]
      exact ⟨_, sends.seqChain, by rintro _ ⟨⟩⟩
  | opened heard state syn codec offered sends =>
      exact ⟨_, sends.seqChain, by rintro _ ⟨⟩; rfl⟩
  | silent => exact ⟨_, rfl, by rintro _ ⟨⟩; rfl⟩
  | chunk heard streaming pipeline opened read some small sends =>
      have chain := sends.seqChain
      rw [span_ofNat_length some small] at chain
      exact ⟨_, chain, by rintro _ ⟨⟩; rfl⟩
  | ended heard streaming pipeline opened read sends =>
      exact ⟨_, sends.seqChain, by rintro _ ⟨⟩; rfl⟩
  | failed heard streaming pipeline opened read sends =>
      exact ⟨_, sends.seqChain, by rintro _ ⟨⟩; rfl⟩

/-- A session that accepts a packet acknowledges it. -/
theorem Reaction.ack_eq (reaction : Reaction session exchange calls after)
    (accepted : Accepted exchange.header session.ack) :
    ∀ next, after = some next →
      next.ack = exchange.header.seq + span exchange.header.length := by
  cases reaction with
  | dropped behind => exact (behind accepted).elim
  | forgotten => rintro _ ⟨⟩
  | refused => rintro _ ⟨⟩
  | reset => rintro _ ⟨⟩; rfl
  | opened => rintro _ ⟨⟩; rfl
  | silent => rintro _ ⟨⟩; rfl
  | chunk => rintro _ ⟨⟩; rfl
  | ended => rintro _ ⟨⟩; rfl
  | failed => rintro _ ⟨⟩; rfl

end

end Sas.Server
