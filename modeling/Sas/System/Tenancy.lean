import Sas.System.Course

/-! # The session behind a pair

Over lossless channels the server keeps one session for its client from the SYN on, and never opens a
second one. What it has read and sent for the client is what this session has read and sent, so all
that holds of the stream of a session holds of the datagrams on the way to the client.
-/

namespace Sas.System

open Foundation Transport Formats

/-- What the session of a pair meets in an event. -/
def sessionEvent? : PairEvent → Option Server.SessionEvent
  | .server _ exchange _ calls => some (.packet exchange calls)
  | .marked timeout next => some (.marked timeout next)
  | .client _ => none
  | .expired => none

/-- What the session of a pair meets, in order. -/
def sessionEvents (events : List PairEvent) : List Server.SessionEvent :=
  events.filterMap sessionEvent?

/-- What the server has done for its client, as one session. -/
inductive Tenant (addr : SockaddrIn6) (events : List PairEvent) (pair : Pair) : Prop where
  | none : sessionEvents events = [] → pair.session = .none → pair.toClient.sent = [] →
      Tenant addr events pair
  | one (memory : Server.Uninitialized) : pair.toClient.sent ≠ [] →
      Server.SessionRun addr memory (sessionEvents events) pair.session → Tenant addr events pair

/-- What has been sent to the client and read for it are the calls of its session. -/
structure Let (addr : SockaddrIn6) (events : List PairEvent) (pair : Pair) : Prop where
  tenant : Tenant addr events pair
  sent : sentBy (Server.callsOf (sessionEvents events)) = pair.toClient.sent
  reads : readsBy (Server.callsOf (sessionEvents events)) = readsOf events

section

variable {sink : Client.Sink} {addr : SockaddrIn6} {start : Client.Config}
  {pair next : Pair} {event : PairEvent} {events : List PairEvent} {file : List UInt8}

/-- One event more adds what it is for the session. -/
theorem sessionEvents_snoc (events : List PairEvent) (event : PairEvent) :
    sessionEvents (events ++ [event]) = sessionEvents events ++ (sessionEvent? event).toList := by
  rw [sessionEvents, List.filterMap_append, List.filterMap_cons, List.filterMap_nil]
  cases sessionEvent? event <;> rfl

/-- A packet is handled by the one session, or opens it. -/
theorem Let.serverTurn {datagram : List UInt8} {exchange : Server.Exchange}
    {memory : Server.Uninitialized} {calls : List Syscall} {after : Option Server.Session}
    (lets : Let addr events pair) (attended : Attended pair)
    (receives : Receives exchange datagram)
    (arrives : inOrder pair.toServer.sent pair.toServer.arrived datagram)
    (stepped : Server.SessionStep (some (pair.current addr memory)) (.packet exchange calls) after) :
    Let addr (events ++ [.server datagram exchange memory calls]) (pair.serverTurn calls after) := by
  have snoc : sessionEvents (events ++ [.server datagram exchange memory calls]) =
      sessionEvents events ++ [.packet exchange calls] := sessionEvents_snoc _ _
  have sent : sentBy (Server.callsOf (sessionEvents events ++ [.packet exchange calls])) =
      pair.toClient.sent ++ sentBy calls := by
    rw [Server.callsOf_append, Server.callsOf_singleton, sentBy_append, lets.sent]
    rfl
  have reads : readsBy (Server.callsOf (sessionEvents events ++ [.packet exchange calls])) =
      readsOf events ++ readsBy calls := by
    rw [Server.callsOf_append, Server.callsOf_singleton, readsBy_append, lets.reads]
    rfl
  have same : readsOf (events ++ [.server datagram exchange memory calls]) =
      readsOf events ++ readsBy calls := by
    rw [readsOf_append, readsOf_singleton]
    rfl
  refine ⟨?_, by rw [snoc]; exact sent, by rw [snoc, same]; exact reads⟩
  cases lets.tenant with
  | none idle vacant silent =>
      refine .one memory ?_ ?_
      · obtain ⟨initial, heard, syn, _⟩ :=
          attended.backlog.hears_syn silent vacant receives arrives
        have reaction := attended.backlog.agreement.formed.reaction stepped
        change pair.toClient.sent ++ sentBy calls ≠ []
        rcases reaction_begins reaction initial heard syn with ⟨last, one, _⟩ | ⟨synAck, _, one, _⟩
        · rw [one]
          exact List.append_ne_nil_of_right_ne_nil _ (List.cons_ne_nil _ _)
        · rw [one]
          exact List.append_ne_nil_of_right_ne_nil _ (List.cons_ne_nil _ _)
      · rw [snoc, idle]
        rw [Pair.current, vacant] at stepped
        exact Run.singleton stepped
  | one memory loud run =>
      refine .one memory (List.append_ne_nil_of_left_ne_nil loud _) ?_
      rw [snoc]
      cases live : pair.session with
      | none => exact (attended.backlog.nothing_arrives live loud arrives).elim
      | some session =>
          rw [live] at run
          rw [Pair.current, live] at stepped
          exact run.snoc stepped

/-- Over lossless channels, the server keeps one session for its client. -/
theorem LosslessRun.lets {name : List UInt8} {memory : Chunk} {env : Env}
    (begun : Client.receive name memory env = .ok start) (waits : start.stage = .select)
    (run : LosslessRun sink addr start events pair) : Let addr events pair := by
  refine run.history (Let addr) ⟨.none rfl rfl rfl, rfl, rfl⟩ ?_
  intro events pair event next before lets step
  have attended := LosslessRun.attended begun waits before
  obtain ⟨step, lossless⟩ := step
  cases step with
  | client stepped arrives =>
      have same : ∀ {clientEvent : Client.ClientEvent},
          sessionEvents (events ++ [.client clientEvent]) = sessionEvents events := fun {_} => by
        rw [sessionEvents_snoc]
        exact List.append_nil _
      refine ⟨?_, by rw [same]; exact lets.sent, ?_⟩
      · cases lets.tenant with
        | none idle vacant silent => exact .none (same.trans idle) vacant silent
        | one memory loud run =>
            refine .one memory loud ?_
            rw [same]
            exact run
      · rw [same, readsOf_append, readsOf_singleton, PairEvent.reads, List.append_nil]
        exact lets.reads
  | server receives arrives stepped => exact lets.serverTurn attended receives arrives stepped
  | @marked session timeout link live =>
      have same : sessionEvents (events ++ [.marked timeout link]) =
          sessionEvents events ++ [.marked timeout link] := sessionEvents_snoc _ _
      have calls : Server.callsOf (sessionEvents (events ++ [.marked timeout link])) =
          Server.callsOf (sessionEvents events) := by
        rw [same, Server.callsOf_append, Server.callsOf_singleton]
        exact List.append_nil _
      refine ⟨?_, by rw [calls]; exact lets.sent, ?_⟩
      · cases lets.tenant with
        | none idle vacant => cases vacant.symm.trans live
        | one memory loud run =>
            refine .one memory loud ?_
            rw [same]
            rw [live] at run
            have marking : Server.SessionStep (some session) (.marked timeout link)
                (some { session with timeout := timeout, next := link }) := rfl
            exact run.snoc marking
      · rw [calls, readsOf_append, readsOf_singleton, PairEvent.reads, List.append_nil]
        exact lets.reads
  | expired => exact lossless.elim

/-! ## The stream on its way -/

/-- The stream of a file is what the data packets on their way to the client carry. -/
theorem FileRun.inStream {name : List UInt8} {memory : Chunk} {env : Env}
    (begun : Client.receive name memory env = .ok start) (waits : start.stage = .select)
    (run : FileRun sink addr file start events pair) :
    streamOf pair.toClient.sent <+: file.drop Wav.waveHeaderSize ∧
      Each (Server.InStream file) pair.toClient.sent := by
  have lets := LosslessRun.lets begun waits run.run
  have delivers := run.delivers
  have header := run.header
  rw [← lets.reads] at delivers header
  rw [← lets.sent]
  cases lets.tenant with
  | none idle =>
      rw [idle]
      exact ⟨List.nil_prefix, Each.nil⟩
  | one memory loud run => exact ⟨run.streamOf_isPrefix delivers header, run.inStream delivers header⟩

/-- Where every data packet carries something, there are no more of them than bytes in their stream. -/
theorem countP_isData_le {datagrams : List (List UInt8)}
    (some : ∀ datagram ∈ datagrams, isData datagram = true → 1 ≤ (payloadOf datagram).length) :
    datagrams.countP isData ≤ (streamOf datagrams).length := by
  induction datagrams with
  | nil => exact Nat.le_refl _
  | cons datagram datagrams ih =>
      obtain ⟨first, rest⟩ := List.forall_mem_cons.mp some
      have more := ih rest
      rw [← List.singleton_append, streamOf_append, List.length_append, List.singleton_append]
      cases data : isData datagram with
      | true =>
          have one := first data
          rw [List.countP_cons_of_pos data, streamOf_singleton data]
          omega
      | false =>
          rw [List.countP_cons_of_neg (by rw [data]; decide), streamOf_singleton_eq_nil data]
          exact Nat.le_add_left_of_le more

/-- Beside the data there are a SYN-ACK and the packet that ends the stream. -/
theorem Course.length_le (course : Course pair) :
    pair.toClient.sent.length ≤ pair.toClient.sent.countP isData + 2 := by
  have all : ∀ {chunks : List (List UInt8)}, (∀ datagram ∈ chunks, isData datagram = true) →
      chunks.countP isData = chunks.length := fun data => List.countP_eq_length.mpr data
  cases course with
  | asked silent =>
      rw [silent]
      exact Nat.zero_le _
  | refused sent =>
      rw [sent, List.length_singleton]
      omega
  | streaming sent syn other data =>
      rw [sent, List.countP_cons_of_neg (by rw [isData_of_isSyn syn]; decide), all data,
        List.length_cons]
      omega
  | ended sent syn other data =>
      rw [sent, List.countP_cons_of_neg (by rw [isData_of_isSyn syn]; decide), List.countP_append,
        all data, List.length_cons, List.length_append, List.length_singleton]
      omega

/-- The server sends no more datagrams than the file has bytes, and two. -/
theorem FileRun.length_le {name : List UInt8} {memory : Chunk} {env : Env}
    (begun : Client.receive name memory env = .ok start) (waits : start.stage = .select)
    (run : FileRun sink addr file start events pair) :
    pair.toClient.sent.length ≤ (file.drop Wav.waveHeaderSize).length + 2 := by
  obtain ⟨within, each⟩ := run.inStream begun waits
  have few := (LosslessRun.attended begun waits run.run).course.length_le
  have some : ∀ datagram ∈ pair.toClient.sent, isData datagram = true →
      1 ≤ (payloadOf datagram).length := by
    intro datagram member data
    obtain ⟨before, after, split⟩ := List.append_of_mem member
    exact ((each before datagram after split).1 data).1
  have chunks := countP_isData_le some
  have short := within.length_le
  omega

end

end Sas.System
