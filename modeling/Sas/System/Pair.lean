import Sas.Client.Run
import Sas.Server.SessionRun

/-! # A client and its server over a channel

One client, the session the server keeps for its address, and a channel in each direction. A channel
remembers everything that has been sent on it; how it delivers is a parameter, so the same machine
describes a lossless channel and one that loses, duplicates and reorders. The server creates the
session when a packet arrives and there is none, and forgets it when it expires.
-/

namespace Sas.System

open Foundation Transport

/-- Which datagram may arrive next on a channel, given all that have been sent on it and how many
have arrived. -/
abbrev Delivery := List (List UInt8) → Nat → List UInt8 → Prop

/-- A channel that may lose, duplicate and reorder. -/
def anyOrder : Delivery := fun sent _ datagram => datagram ∈ sent

/-- A channel that delivers everything once, in the order in which it was sent. -/
def inOrder : Delivery := fun sent arrived datagram => sent[arrived]? = some datagram

/-- What has been sent on a channel, and how many datagrams have arrived. -/
structure Channel where
  sent : List (List UInt8)
  arrived : Nat

/-- The channel once more datagrams have been sent on it. -/
def Channel.send (channel : Channel) (datagrams : List (List UInt8)) : Channel :=
  { channel with sent := channel.sent ++ datagrams }

/-- The channel once more datagrams have arrived. -/
def Channel.deliver (channel : Channel) (more : Nat) : Channel :=
  { channel with arrived := channel.arrived + more }

/-- A client, the session of its address, and the channels between them. -/
structure Pair where
  client : Client.Config
  session : Option Server.Session
  toServer : Channel
  toClient : Channel

/-- The pair when the client has sent its SYN. -/
def Pair.start (client : Client.Config) : Pair :=
  ⟨client, none, ⟨sentBy client.world.kernel.calls, 0⟩, ⟨[], 0⟩⟩

/-- The server meets the datagram in its receive buffer, behind which the buffer holds whatever it
held before. -/
def Receives (exchange : Server.Exchange) (datagram : List UInt8) : Prop :=
  ∃ buffer, exchange.header = packetHeaderDecode (receiveInto buffer datagram) ∧
    exchange.payload = (receiveInto buffer datagram).shift packetHeaderSize ∧
    exchange.count = receivedCount datagram

/-- What happens to a pair. -/
inductive PairEvent where
  /-- The client takes an iteration of its loop. -/
  | client (event : Client.ClientEvent)
  /-- A datagram arrives at the server. Where the session is new, `malloc` returned this memory. -/
  | server (datagram : List UInt8) (exchange : Server.Exchange) (memory : Server.Uninitialized)
      (calls : List Syscall)
  /-- The server loop and the session table write their fields. -/
  | marked (timeout : Int) (next : Option Server.SessionPtr)
  /-- The session expires. -/
  | expired

/-- The session that handles a packet: the one there is, or a new one. -/
def Pair.current (pair : Pair) (addr : SockaddrIn6) (memory : Server.Uninitialized) :
    Server.Session := pair.session.getD (Server.sessionCreate addr memory)

/-- The number of datagrams an iteration of the client takes from its channel. -/
def takenBy (input : Client.Input) : Nat := if input.datagram?.isSome then 1 else 0

/-- The pair after an iteration of the client. -/
def Pair.clientTurn (pair : Pair) (event : Client.ClientEvent) (client : Client.Config) : Pair :=
  { pair with
    client := client
    toServer := pair.toServer.send (sentBy event.calls)
    toClient := pair.toClient.deliver (takenBy event.input) }

/-- The pair after a packet has been handled by the server. -/
def Pair.serverTurn (pair : Pair) (calls : List Syscall) (session : Option Server.Session) : Pair :=
  { pair with
    session := session
    toServer := pair.toServer.deliver 1
    toClient := pair.toClient.send (sentBy calls) }

/-- One event of a pair with this delivery, sink and address of the client. -/
inductive PairStep (delivery : Delivery) (sink : Client.Sink) (addr : SockaddrIn6) :
    Pair → PairEvent → Pair → Prop where
  | client {pair : Pair} {event : Client.ClientEvent} {client : Client.Config} :
      Client.ClientStep sink pair.client event client →
      (∀ datagram, event.input.datagram? = some datagram →
        delivery pair.toClient.sent pair.toClient.arrived datagram) →
      PairStep delivery sink addr pair (.client event) (pair.clientTurn event client)
  | server {pair : Pair} {datagram : List UInt8} {exchange : Server.Exchange}
      {memory : Server.Uninitialized} {calls : List Syscall} {session : Option Server.Session} :
      Receives exchange datagram →
      delivery pair.toServer.sent pair.toServer.arrived datagram →
      Server.SessionStep (some (pair.current addr memory)) (.packet exchange calls) session →
      PairStep delivery sink addr pair (.server datagram exchange memory calls)
        (pair.serverTurn calls session)
  | marked {pair : Pair} {session : Server.Session} {timeout : Int}
      {next : Option Server.SessionPtr} : pair.session = some session →
      PairStep delivery sink addr pair (.marked timeout next)
        { pair with session := some { session with timeout := timeout, next := next } }
  | expired {pair : Pair} :
      PairStep delivery sink addr pair .expired { pair with session := none }

/-- The events lead a pair from the SYN of its client to this state. -/
abbrev PairRun (delivery : Delivery) (sink : Client.Sink) (addr : SockaddrIn6)
    (start : Client.Config) (events : List PairEvent) (pair : Pair) : Prop :=
  Run (PairStep delivery sink addr) (Pair.start start) events pair

section

variable {delivery : Delivery} {sink : Client.Sink} {addr : SockaddrIn6} {start : Client.Config}
  {pair next : Pair} {event : PairEvent} {events : List PairEvent}

/-- A channel that delivers in order also delivers in any order. -/
theorem PairStep.anyOrder (step : PairStep inOrder sink addr pair event next) :
    PairStep anyOrder sink addr pair event next := by
  cases step with
  | client stepped arrives =>
      exact .client stepped fun datagram received =>
        List.mem_of_getElem? (arrives datagram received)
  | server receives arrives stepped =>
      exact .server receives (List.mem_of_getElem? arrives) stepped
  | marked live => exact .marked live
  | expired => exact .expired

/-- What happens to a pair in an event is determined by what it meets. -/
theorem pairStep_functional (pair : Pair) (event : PairEvent) (next next' : Pair)
    (step : PairStep delivery sink addr pair event next)
    (step' : PairStep delivery sink addr pair event next') : next = next' := by
  cases step with
  | client stepped arrives =>
      cases step' with
      | client stepped' arrives' =>
          rw [Client.clientStep_functional _ _ _ _ stepped stepped']
  | server receives arrives stepped =>
      cases step' with
      | server receives' arrives' stepped' =>
          rw [Server.sessionStep_functional _ _ _ _ stepped stepped']
  | marked live =>
      cases step' with
      | marked live' =>
          cases live.symm.trans live'
          rfl
  | expired =>
      cases step' with
      | expired => rfl

/-- The session of a pair is well-formed. -/
def Formed (pair : Pair) : Prop :=
  Client.Underway pair.client.world ∧
    ∀ session, pair.session = some session → Server.WellFormed session

/-- The session that a packet meets is well formed. -/
theorem Formed.current (formed : Formed pair) (addr : SockaddrIn6)
    (memory : Server.Uninitialized) : Server.WellFormed (pair.current addr memory) := by
  unfold Pair.current
  cases live : pair.session with
  | none => exact Server.wellFormed_create addr memory
  | some session => exact formed.2 session live

/-- A turn of the server keeps the pair well formed. -/
theorem Formed.server (formed : Formed pair) {exchange : Server.Exchange}
    {memory : Server.Uninitialized} {calls : List Syscall} {session : Option Server.Session}
    (stepped : Server.SessionStep (some (pair.current addr memory)) (.packet exchange calls) session) :
    Formed (pair.serverTurn calls session) := by
  refine ⟨formed.1, stepped.wellFormed ?_⟩
  rintro _ ⟨⟩
  exact formed.current addr _

/-- A step keeps the pair well formed. -/
theorem Formed.step (formed : Formed pair) (step : PairStep delivery sink addr pair event next) :
    Formed next := by
  cases step with
  | client stepped arrives => exact ⟨formed.1.step stepped, formed.2⟩
  | server receives arrives stepped => exact formed.server stepped
  | marked live =>
      have kept := formed.2 _ live
      refine ⟨formed.1, ?_⟩
      rintro _ ⟨⟩
      exact kept
  | expired => exact ⟨formed.1, by rintro _ ⟨⟩⟩

/-- Both parties of a pair are well-formed in every run. -/
theorem PairRun.formed {name : List UInt8} {memory : Chunk} {env : Env}
    (begun : Client.receive name memory env = .ok start)
    (run : PairRun delivery sink addr start events pair) : Formed pair := by
  refine run.invariant Formed ⟨Client.underway_start begun, ?_⟩
    fun _ _ _ formed step => formed.step step
  rintro _ ⟨⟩

/-- A packet at the server of a pair is handled in one of the ways of `Reaction`. -/
theorem Formed.reaction (formed : Formed pair) {exchange : Server.Exchange}
    {memory : Server.Uninitialized} {calls : List Syscall} {session : Option Server.Session}
    (step : Server.SessionStep (some (pair.current addr memory)) (.packet exchange calls) session) :
    Server.Reaction (pair.current addr memory) exchange calls session :=
  step.reaction (formed.current addr memory)

end

/-! ## What arrives -/

section

variable {datagram payload : List UInt8} {header : PacketHeader}

/-- However long a datagram is, its header arrives. -/
theorem decode_received (carries : Carries datagram header payload) (buffer : Memory) :
    packetHeaderDecode (receiveInto buffer datagram) = header := by
  obtain ⟨_, padding, rfl⟩ := carries
  have long : (packetHeaderEncode header ++ [padding.1, padding.2]).length ≤ bufferSize := by
    simp only [List.length_append, length_packetHeaderEncode, List.length_cons, List.length_nil,
      bufferSize]
    decide
  rw [receiveInto, List.take_append, List.take_of_length_le long, List.append_assoc,
    packetHeaderDecode_write]

/-- The header that is received is the one that was sent. -/
theorem Receives.header_eq {exchange : Server.Exchange} (receives : Receives exchange datagram)
    (carries : Carries datagram header payload) : exchange.header = header := by
  obtain ⟨buffer, decoded, _⟩ := receives
  rw [decoded, decode_received carries]

theorem input_header_eq (input : Client.Input) (carries : Carries datagram header payload) :
    input.header datagram = header := decode_received carries input.buffer

end

/-! ## Replaying a pair -/

/-- A turn to take: a datagram arrives at one of the parties, in this environment. It is given by the
number of datagrams sent before it. -/
inductive Turn where
  | server (number : Nat) (env : Env)
  | client (number : Nat) (env : Env)

/-- Memory of zeroes. -/
def blank : Memory := fun _ => 0

/-- What the server meets when the datagram arrives in an empty buffer. -/
def exchangeOf (datagram : List UInt8) (env : Env) : Server.Exchange where
  header := packetHeaderDecode (receiveInto blank datagram)
  payload := (receiveInto blank datagram).shift packetHeaderSize
  count := receivedCount datagram
  env := env
  errno := 0

instance : ∀ sent arrived datagram, Decidable (anyOrder sent arrived datagram) :=
  fun sent _ datagram => inferInstanceAs (Decidable (datagram ∈ sent))

instance : ∀ sent arrived datagram, Decidable (inOrder sent arrived datagram) :=
  fun sent arrived datagram => inferInstanceAs (Decidable (sent[arrived]? = some datagram))

section

variable (delivery : Delivery) [∀ sent arrived datagram, Decidable (delivery sent arrived datagram)]
  (sink : Client.Sink) (addr : SockaddrIn6)

/-- Take a turn, if the channel delivers the datagram and the party handles it. -/
def Pair.take (pair : Pair) : Turn → Option (PairEvent × Pair)
  | .server number env =>
      let datagram := pair.toServer.sent.getD number []
      let exchange := exchangeOf datagram env
      if delivery pair.toServer.sent pair.toServer.arrived datagram then
        match exchange.handledBy (pair.current addr ⟨0, 0, 0, 0, 0⟩) with
        | .error _ => none
        | .ok outcome => some
            (.server datagram exchange ⟨0, 0, 0, 0, 0⟩ outcome.kernel.calls,
              pair.serverTurn outcome.kernel.calls
                (if outcome.deleted then none else some outcome.session))
      else none
  | .client number env =>
      let datagram := pair.toClient.sent.getD number []
      let input : Client.Input := ⟨env, .readable, .ok datagram, blank⟩
      if delivery pair.toClient.sent pair.toClient.arrived datagram ∧
          pair.client.stage = .select then
        match Client.clientStep sink input pair.client with
        | .error _ => none
        | .ok client => some
            (.client ⟨input, client.world.kernel.calls⟩,
              pair.clientTurn ⟨input, client.world.kernel.calls⟩ client)
      else none

/-- Take turns until one is refused. -/
def Pair.replay (pair : Pair) : List Turn → List PairEvent × Pair
  | [] => ([], pair)
  | turn :: turns =>
      match pair.take delivery sink addr turn with
      | none => ([], pair)
      | some (event, next) =>
          let rest := next.replay turns
          (event :: rest.1, rest.2)

variable {delivery sink addr}

/-- A turn is a step. -/
theorem Pair.take_step {pair next : Pair} {turn : Turn} {event : PairEvent}
    (taken : pair.take delivery sink addr turn = some (event, next)) :
    PairStep delivery sink addr pair event next := by
  cases turn with
  | server number env =>
      unfold Pair.take at taken
      dsimp only at taken
      split at taken
      case isFalse => cases taken
      case isTrue arrives =>
        cases handled : (exchangeOf (pair.toServer.sent.getD number []) env).handledBy
            (pair.current addr ⟨0, 0, 0, 0, 0⟩) with
        | error fault =>
            rw [handled] at taken
            cases taken
        | ok outcome =>
            rw [handled] at taken
            cases taken
            exact .server ⟨blank, rfl, rfl, rfl⟩ arrives ⟨outcome, handled, rfl, rfl⟩
  | client number env =>
      unfold Pair.take at taken
      dsimp only at taken
      split at taken
      case isFalse => cases taken
      case isTrue possible =>
        obtain ⟨arrives, selecting⟩ := possible
        cases stepped : Client.clientStep sink
            ⟨env, .readable, .ok (pair.toClient.sent.getD number []), blank⟩ pair.client with
        | error fault =>
            rw [stepped] at taken
            cases taken
        | ok client =>
            rw [stepped] at taken
            cases taken
            refine .client ⟨selecting, stepped, rfl⟩ ?_
            rintro datagram ⟨⟩
            exact arrives

/-- A replay is a run. -/
theorem Pair.replay_run (pair : Pair) (turns : List Turn) :
    Run (PairStep delivery sink addr) pair (pair.replay delivery sink addr turns).1
      (pair.replay delivery sink addr turns).2 := by
  induction turns generalizing pair with
  | nil => exact .nil
  | cons turn turns ih =>
      unfold Pair.replay
      cases taken : pair.take delivery sink addr turn with
      | none => exact .nil
      | some outcome => exact (Run.singleton (Pair.take_step taken)).append (ih outcome.2)

variable (delivery sink addr) in
/-- All events of a replay pass a check. -/
def Pair.checks (check : Pair → PairEvent → Bool) (pair : Pair) : List Turn → Bool
  | [] => true
  | turn :: turns =>
      match pair.take delivery sink addr turn with
      | none => true
      | some (event, next) => check pair event && next.checks check turns

/-- A replay whose events pass a check is a run whose events meet what the check stands for. -/
theorem Pair.replay_checked {check : Pair → PairEvent → Bool} {meets : Pair → PairEvent → Prop}
    (sound : ∀ pair event, check pair event = true → meets pair event) (pair : Pair)
    (turns : List Turn) (checked : pair.checks delivery sink addr check turns = true) :
    Run (fun pair event next => PairStep delivery sink addr pair event next ∧ meets pair event) pair
      (pair.replay delivery sink addr turns).1 (pair.replay delivery sink addr turns).2 := by
  induction turns generalizing pair with
  | nil => exact .nil
  | cons turn turns ih =>
      unfold Pair.checks at checked
      unfold Pair.replay
      cases taken : pair.take delivery sink addr turn with
      | none => exact .nil
      | some outcome =>
          rw [taken] at checked
          obtain ⟨first, rest⟩ := Bool.and_eq_true_iff.mp checked
          exact (Run.singleton ⟨Pair.take_step taken, sound pair outcome.1 first⟩).append
            (ih outcome.2 rest)

end

end Sas.System
