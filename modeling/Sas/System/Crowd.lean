import Sas.Server.Clients
import Sas.System.Pair
import Sas.Client.Demand

/-! # One client among others

The server has one loop for all its clients. Whatever the others send it, what passes between the loop
and one client is a run of the pair of that client and its session, as long as no packet that falls
into its bucket of the session table meets a session of another host there.
-/

namespace Sas.System

open Foundation Transport

/-- The datagrams sent to an address. -/
def sentTo (addr : SockaddrIn6) (calls : List Syscall) : List (List UInt8) :=
  calls.filterMap fun call =>
    match call with
    | .send (some destination) datagram _ =>
        if Server.keyOf destination = Server.keyOf addr then some datagram else none
    | _ => none

/-- A client, the server with all its sessions, and the channels between the client and the server.
The other clients are whatever else the server receives. -/
structure Crowd where
  client : Client.Config
  server : Server.Config
  toServer : Channel
  toClient : Channel

/-- What happens: the client takes an iteration of its loop, or the server takes a step, in which it
does this for the client. -/
inductive CrowdEvent where
  | client (event : Client.ClientEvent)
  | server (input : Server.Input) (made : Option Server.Deed)

/-- The packet of this client that the server takes in a step. -/
def heard (addr : SockaddrIn6) (config : Server.Config) (input : Server.Input) :
    Option (SockaddrIn6 × List UInt8) :=
  match config.stage with
  | .recvfrom => input.received.filter fun packet => Server.keyOf packet.1 = Server.keyOf addr
  | _ => none

/-- What the server does for this client in a step that makes these calls: it hands it a packet of the
client, or it deletes its session. -/
def deedFor (addr : SockaddrIn6) (config : Server.Config) (input : Server.Input)
    (calls : List Syscall) : Option Server.Deed :=
  match Server.deed config input calls with
  | some (_, .packet sender exchange calls) =>
      if Server.keyOf sender = Server.keyOf addr then some (.packet sender exchange calls) else none
  | some (pointer, .expiry calls) =>
      if ∃ session ∈ config.server.memory pointer, Server.keyOf session.addr = Server.keyOf addr then
        some (.expiry calls)
      else none
  | none => none

/-- The client has sent its SYN, and the server has not begun. -/
def Crowd.start (client : Client.Config) (server : Server.Config) : Crowd :=
  ⟨client, server, ⟨sentBy client.world.kernel.calls, 0⟩, ⟨[], 0⟩⟩

/-- The crowd after an iteration of the client. -/
def Crowd.clientTurn (crowd : Crowd) (event : Client.ClientEvent) (client : Client.Config) : Crowd :=
  { crowd with
    client := client
    toServer := crowd.toServer.send (sentBy event.calls)
    toClient := crowd.toClient.deliver (takenBy event.input) }

/-- The crowd after a step of the server. -/
def Crowd.serverTurn (crowd : Crowd) (addr : SockaddrIn6) (input : Server.Input)
    (server : Server.Config) : Crowd :=
  { crowd with
    server := server
    toServer := crowd.toServer.deliver (heard addr crowd.server input).toList.length
    toClient := crowd.toClient.send (sentTo addr (Server.madeIn crowd.server server)) }

/-- One event of a crowd. What the server receives from the client comes from its channel, what it
receives from the others may be anything. -/
inductive CrowdStep (delivery : Delivery) (sink : Client.Sink) (addr : SockaddrIn6) :
    Crowd → CrowdEvent → Crowd → Prop where
  | client {crowd : Crowd} {event : Client.ClientEvent} {client : Client.Config} :
      Client.ClientStep sink crowd.client event client →
      (∀ datagram, event.input.datagram? = some datagram →
        delivery crowd.toClient.sent crowd.toClient.arrived datagram) →
      CrowdStep delivery sink addr crowd (.client event) (crowd.clientTurn event client)
  | server {crowd : Crowd} {input : Server.Input} {server : Server.Config} :
      Server.Steps crowd.server input server →
      (∀ sender datagram, heard addr crowd.server input = some (sender, datagram) →
        sender = addr ∧ delivery crowd.toServer.sent crowd.toServer.arrived datagram) →
      CrowdStep delivery sink addr crowd
        (.server input (deedFor addr crowd.server input (Server.madeIn crowd.server server)))
        (crowd.serverTurn addr input server)

/-- A packet that falls into the bucket of this client meets sessions of its own host there only. -/
def Untangled (addr : SockaddrIn6) (crowd : Crowd) : CrowdEvent → Prop
  | .client _ => True
  | .server input _ => ∀ sender datagram, crowd.server.stage = .recvfrom →
      input.received = some (sender, datagram) →
      Server.bucketIndex crowd.server.server sender = Server.bucketIndex crowd.server.server addr →
      Server.SameHostBucket crowd.server.server sender

/-- One event of a crowd in which no client is taken for this one. -/
def UntangledStep (delivery : Delivery) (sink : Client.Sink) (addr : SockaddrIn6) (crowd : Crowd)
    (event : CrowdEvent) (next : Crowd) : Prop :=
  CrowdStep delivery sink addr crowd event next ∧ Untangled addr crowd event

/-! ## What both show -/

/-- What a client and the server do for each other. -/
inductive Glimpse where
  | client (event : Client.ClientEvent)
  | answer (exchange : Server.Exchange) (calls : List Syscall)
  | expiry

/-- What an event of a pair shows. -/
def PairEvent.glimpses : PairEvent → List Glimpse
  | .client event => [.client event]
  | .server _ exchange _ calls => [.answer exchange calls]
  | .marked _ _ => []
  | .expired => [.expiry]

/-- What a step for a client shows. -/
def glimpseOf : Server.Deed → Glimpse
  | .packet _ exchange calls => .answer exchange calls
  | .expiry _ => .expiry

/-- What an event of a crowd shows of this client. -/
def CrowdEvent.glimpses : CrowdEvent → List Glimpse
  | .client event => [.client event]
  | .server _ made => made.toList.map glimpseOf

/-- The server has this session for a client. -/
def Serves (addr : SockaddrIn6) (server : Server) : Option Server.Session → Prop
  | some session => ∃ pointer, server.memory pointer = some session ∧ session.addr = addr
  | none => ∀ pointer session, server.memory pointer = some session →
      Server.keyOf session.addr ≠ Server.keyOf addr

/-- The pair is what the crowd looks like to its client. -/
structure Projects (addr : SockaddrIn6) (crowd : Crowd) (pair : Pair) : Prop where
  client : pair.client = crowd.client
  toServer : pair.toServer = crowd.toServer
  toClient : pair.toClient = crowd.toClient
  sound : Server.Sound crowd.server
  serves : Serves addr crowd.server.server pair.session

/-- The pair goes on as the crowd has done, and shows the same. -/
def Follows (delivery : Delivery) (sink : Client.Sink) (addr : SockaddrIn6) (pair : Pair)
    (glimpses : List Glimpse) (crowd : Crowd) : Prop :=
  ∃ events next, Run (PairStep delivery sink addr) pair events next ∧ Projects addr crowd next ∧
    events.flatMap PairEvent.glimpses = glimpses

section

variable {delivery : Delivery} {sink : Client.Sink} {addr sender : SockaddrIn6}
  {crowd next : Crowd} {pair : Pair} {event : CrowdEvent} {input : Server.Input}
  {server : Server.Config} {session : Server.Session} {pointer : Server.SessionPtr}
  {calls : List Syscall}

/-! ## What is sent to whom -/

/-- Calls that send nothing send nothing to anyone. -/
theorem sentTo_of_silent (silent : sentBy calls = []) : sentTo addr calls = [] := by
  rw [sentTo, List.filterMap_eq_nil_iff]
  intro call member
  have quiet := List.filterMap_eq_nil_iff.mp silent call member
  cases call with
  | send destination datagram failure => cases quiet
  | _ => rfl

/-- Calls for one client send to it alone. -/
theorem sentTo_of_addressedTo (addressed : ∀ call ∈ calls, Server.AddressedTo addr call) :
    sentTo addr calls = sentBy calls := by
  refine List.filterMap_congr fun call member => ?_
  have towards := addressed call member
  cases call with
  | send destination datagram failure =>
      cases towards
      exact if_pos rfl
  | _ => rfl

/-- Calls for one client send nothing to another. -/
theorem sentTo_of_other (addressed : ∀ call ∈ calls, Server.AddressedTo sender call)
    (differ : Server.keyOf sender ≠ Server.keyOf addr) : sentTo addr calls = [] := by
  rw [sentTo, List.filterMap_eq_nil_iff]
  intro call member
  have towards := addressed call member
  cases call with
  | send destination datagram failure =>
      cases towards
      exact if_neg differ
  | _ => rfl

/-! ## The session of the client -/

/-- The session of the client is the only one under its address. -/
theorem Serves.unique {table : Server} {chains : Nat → List Server.SessionPtr}
    {state : Option Server.Session} (serves : Serves addr table state)
    (inv : Server.TableInv table chains) (live : table.memory pointer = some session)
    (key : Server.keyOf session.addr = Server.keyOf addr) : state = some session := by
  cases state with
  | none => exact (serves pointer session live key).elim
  | some own =>
      obtain ⟨place, live', rfl⟩ := serves
      cases inv.distinct pointer session place own live live' key
      exact (live'.symm.trans live)

/-- What happens to the session of another client changes no more than the link of this one. -/
theorem Serves.elsewhere {before after : Server} {state : Option Server.Session}
    (serves : Serves addr before state)
    (others : ∀ other, other ≠ pointer → (after.memory other).map Server.Session.detached =
      (before.memory other).map Server.Session.detached)
    (old : ∀ session, before.memory pointer = some session →
      Server.keyOf session.addr ≠ Server.keyOf addr)
    (new : ∀ session, after.memory pointer = some session →
      Server.keyOf session.addr ≠ Server.keyOf addr) :
    ∃ state', Serves addr after state' ∧
      state'.map Server.Session.detached = state.map Server.Session.detached := by
  cases state with
  | none =>
      refine ⟨none, fun other session live key => ?_, rfl⟩
      by_cases same : other = pointer
      · subst same
        exact new session live key
      · obtain ⟨earlier, known, detached⟩ := Server.detached_of_live (others other same) live
        rw [Server.addr_of_detached detached] at key
        exact serves other earlier known key
  | some own =>
      obtain ⟨place, live, rfl⟩ := serves
      have apart : place ≠ pointer := by
        rintro rfl
        exact old own live rfl
      obtain ⟨kept, known, detached⟩ := Server.detached_of_live (others place apart).symm live
      refine ⟨some kept, ⟨place, known, (Server.addr_of_detached detached).symm⟩, ?_⟩
      rw [Option.map_some, Option.map_some, detached]

/-- The pair goes on where only the link of the session has changed. -/
theorem Pair.relinked (pair : Pair) {state : Option Server.Session}
    (same : state.map Server.Session.detached = pair.session.map Server.Session.detached) :
    ∃ events, Run (PairStep delivery sink addr) pair events { pair with session := state } ∧
      events.flatMap PairEvent.glimpses = [] := by
  cases state with
  | none =>
      have none : pair.session = none := Option.map_eq_none_iff.mp same.symm
      obtain ⟨client, session, toServer, toClient⟩ := pair
      cases none
      exact ⟨[], .nil, rfl⟩
  | some kept =>
      obtain ⟨own, live, detached⟩ := Server.detached_of_live same rfl
      have equal : kept = { own with timeout := own.timeout, next := kept.next } := by
        cases kept
        cases own
        cases detached
        rfl
      refine ⟨[.marked own.timeout kept.next], ?_, rfl⟩
      rw [equal]
      exact Run.singleton (.marked live)

/-- A step of the server that takes no packet of the client and sends it nothing. -/
theorem Projects.settles (projects : Projects addr crowd pair) (sound : Server.Sound server)
    {state : Option Server.Session} (serves : Serves addr server.server state)
    (same : state.map Server.Session.detached = pair.session.map Server.Session.detached)
    (unheard : heard addr crowd.server input = none)
    (unsent : sentTo addr (Server.madeIn crowd.server server) = []) :
    Follows delivery sink addr pair [] (crowd.serverTurn addr input server) := by
  obtain ⟨events, run, shown⟩ := @Pair.relinked delivery sink addr pair state same
  refine ⟨events, _, run, ⟨projects.client, ?_, ?_, sound, serves⟩, shown⟩
  · change pair.toServer = crowd.toServer.deliver (heard addr crowd.server input).toList.length
    rw [unheard]
    exact projects.toServer
  · change pair.toClient = crowd.toClient.send _
    rw [unsent, projects.toClient, Channel.send, List.append_nil]

/-! ## One step of the server -/

/-- Away from `recvfrom` no client is heard. -/
theorem heard_of_elsewhere (elsewhere : crowd.server.stage ≠ .recvfrom) :
    heard addr crowd.server input = none := by
  unfold heard
  cases stage : crowd.server.stage with
  | recvfrom => exact (elsewhere stage).elim
  | _ => rfl

/-- At `recvfrom` the client is heard whose datagram has arrived. -/
theorem heard_of_received {datagram : List UInt8} (stage : crowd.server.stage = .recvfrom)
    (received : input.received = some (sender, datagram)) :
    heard addr crowd.server input =
      if Server.keyOf sender = Server.keyOf addr then some (sender, datagram) else none := by
  unfold heard
  rw [stage, received]
  by_cases key : Server.keyOf sender = Server.keyOf addr
  · rw [if_pos key]
    exact Option.filter_some_pos (decide_eq_true key)
  · rw [if_neg key]
    exact Option.filter_some_neg (by simpa using key)

/-- A step that is for no session is not for this client. -/
theorem Projects.quiet (projects : Projects addr crowd pair) (sound : Server.Sound server)
    (quiet : Server.Undisturbed crowd.server input server)
    (made : Server.madeIn crowd.server server = []) :
    Follows delivery sink addr pair
      ((deedFor addr crowd.server input (Server.madeIn crowd.server server)).toList.map glimpseOf)
      (crowd.serverTurn addr input server) := by
  have idle : deedFor addr crowd.server input (Server.madeIn crowd.server server) = none := by
    unfold deedFor
    rw [quiet.deed]
  have unheard : heard addr crowd.server input = none := by
    unfold heard
    cases stage : crowd.server.stage with
    | recvfrom => rw [quiet.received stage]; rfl
    | _ => rfl
  have serves : Serves addr server.server pair.session := by
    have before := projects.serves
    unfold Serves at before ⊢
    rw [quiet.memory]
    exact before
  rw [idle]
  refine projects.settles sound serves rfl unheard ?_
  rw [made]
  rfl

/-- The server deletes a session whose time has passed: the one of this client, or another. -/
theorem Projects.expired (projects : Projects addr crowd pair) (sound : Server.Sound server)
    (expires : Server.Expires crowd.server input pointer session)
    (freed : server.server.memory pointer = none)
    (others : ∀ other, other ≠ pointer →
      (server.server.memory other).map Server.Session.detached =
        (crowd.server.server.memory other).map Server.Session.detached)
    (silent : sentBy (Server.madeIn crowd.server server) = []) :
    Follows delivery sink addr pair
      ((deedFor addr crowd.server input (Server.madeIn crowd.server server)).toList.map glimpseOf)
      (crowd.serverTurn addr input server) := by
  obtain ⟨chains, inv⟩ := projects.sound.table
  have elsewhere : crowd.server.stage ≠ .recvfrom := by
    intro stage
    have waiting := expires.waiting
    rw [stage] at waiting
    cases waiting
  have unheard : heard addr crowd.server input = none := heard_of_elsewhere elsewhere
  have unsent : sentTo addr (Server.madeIn crowd.server server) = [] := sentTo_of_silent silent
  have live := expires.1
  have made : deedFor addr crowd.server input (Server.madeIn crowd.server server) =
      if Server.keyOf session.addr = Server.keyOf addr then
        some (.expiry (Server.madeIn crowd.server server)) else none := by
    unfold deedFor
    rw [Server.deed_expires expires]
    simp only [live, Option.mem_def, Option.some.injEq, exists_eq_left']
  rw [made]
  by_cases key : Server.keyOf session.addr = Server.keyOf addr
  · have gone : Serves addr server.server none := by
      intro other session' live' key'
      by_cases same : other = pointer
      · rw [same, freed] at live'
        cases live'
      · obtain ⟨earlier, known, detached⟩ := Server.detached_of_live (others other same) live'
        rw [Server.addr_of_detached detached] at key'
        exact same (inv.distinct other earlier pointer session known live (key'.trans key.symm))
    rw [if_pos key]
    obtain ⟨events, next, run, after, shown⟩ : Follows delivery sink addr { pair with session := none }
        [] (crowd.serverTurn addr input server) := by
      refine ⟨[], _, .nil, ⟨projects.client, ?_, ?_, sound, gone⟩, rfl⟩
      · change pair.toServer = crowd.toServer.deliver (heard addr crowd.server input).toList.length
        rw [unheard]
        exact projects.toServer
      · change pair.toClient = crowd.toClient.send _
        rw [unsent, projects.toClient, Channel.send, List.append_nil]
    refine ⟨.expired :: events, next, ?_, after, ?_⟩
    · exact (Run.singleton PairStep.expired).append run
    · rw [List.flatMap_cons, shown]
      rfl
  · obtain ⟨state, serves, same⟩ := projects.serves.elsewhere others
      (fun session' live' => by cases live.symm.trans live'; exact key)
      (fun session' live' => by rw [freed] at live'; cases live')
    rw [if_neg key]
    exact projects.settles sound serves same unheard unsent

/-- The server gets the session of this client, or makes one, for a packet of the client. -/
theorem Serves.got {table entered : Server} {chains : Nat → List Server.SessionPtr}
    {state : Option Server.Session} {allocation : Option Server.Uninitialized}
    (serves : Serves addr table state) (inv : Server.TableInv table chains)
    (host : Server.SameHostBucket table addr)
    (found : Server.sessionGet table addr allocation = .ok (some pointer, entered))
    (got : Server.Got table addr pointer entered session) :
    ∃ memory, session = state.getD (Server.sessionCreate addr memory) := by
  cases known : table.memory pointer with
  | some before =>
      cases search : (chains (Server.bucketIndex table addr)).find? (table.stopsAt addr) with
      | some place =>
          cases (inv.sessionGet_found allocation search).symm.trans found
          obtain ⟨own, live, key⟩ := (inv.find?_eq_some_iff host pointer).mp search
          cases got.live.symm.trans live
          exact ⟨⟨0, 0, 0, 0, 0⟩, by rw [serves.unique inv live key]; rfl⟩
      | none =>
          cases allocation with
          | none => cases (inv.sessionGet_no_memory search).symm.trans found
          | some memory =>
              cases (inv.sessionGet_missing memory search).symm.trans found
              rw [inv.memory_fresh] at known
              cases known
  | none =>
      obtain ⟨_, memory, rfl⟩ := got.new known
      cases state with
      | none => exact ⟨memory, rfl⟩
      | some own =>
          obtain ⟨place, live, rfl⟩ := serves
          have search := (inv.find?_eq_some_iff host place).mpr ⟨own, live, rfl⟩
          cases (inv.sessionGet_found allocation search).symm.trans found
          rw [live] at known
          cases known

/-- The session the server gets for another client is not the one of this client. -/
theorem keyOf_got {table entered : Server} {chains : Nat → List Server.SessionPtr}
    {allocation : Option Server.Uninitialized} (inv : Server.TableInv table chains)
    (host : Server.bucketIndex table sender = Server.bucketIndex table addr →
      Server.SameHostBucket table sender)
    (differ : Server.keyOf sender ≠ Server.keyOf addr)
    (found : Server.sessionGet table sender allocation = .ok (some pointer, entered))
    (got : Server.Got table sender pointer entered session) :
    Server.keyOf session.addr ≠ Server.keyOf addr := by
  cases known : table.memory pointer with
  | none =>
      obtain ⟨_, memory, rfl⟩ := got.new known
      exact differ
  | some before =>
      cases search : (chains (Server.bucketIndex table sender)).find? (table.stopsAt sender) with
      | some place =>
          cases (inv.sessionGet_found allocation search).symm.trans found
          intro key
          obtain ⟨own, live, placed⟩ := inv.placed _ pointer (List.mem_of_find?_eq_some search)
          cases got.live.symm.trans live
          have together := placed.symm.trans (Server.bucketIndex_congr table key)
          obtain ⟨own, live', key'⟩ :=
            (inv.find?_eq_some_iff (host together) pointer).mp search
          cases live.symm.trans live'
          exact differ (key'.symm.trans key)
      | none =>
          cases allocation with
          | none => cases (inv.sessionGet_no_memory search).symm.trans found
          | some memory =>
              cases (inv.sessionGet_missing memory search).symm.trans found
              rw [inv.memory_fresh] at known
              cases known

/-- The server has handled a packet in a session. -/
structure Handles (config : Server.Config) (input : Server.Input) (sender : SockaddrIn6)
    (datagram : List UInt8) (pointer : Server.SessionPtr) (session : Server.Session)
    (outcome : Server.Outcome) (next : Server.Config) : Prop where
  stage : config.stage = .recvfrom
  received : input.received = some (sender, datagram)
  handled : (Server.exchangeAt (config.server.enter input).kernel
    (receiveInto config.buffer datagram) (receivedCount datagram)).handledBy session = .ok outcome
  kept : outcome.deleted = false
  calls : Server.madeIn config next = outcome.kernel.calls
  own : next.server.memory pointer = some { outcome.session with
    timeout := config.server.clock + input.elapsed + Server.sessionTimeout }
  others : ∀ other, other ≠ pointer → (next.server.memory other).map Server.Session.detached =
    (config.server.memory other).map Server.Session.detached
  deed : Server.deed config input (Server.madeIn config next) = some (pointer, .packet sender
    (Server.exchangeAt (config.server.enter input).kernel (receiveInto config.buffer datagram)
      (receivedCount datagram)) (Server.madeIn config next))

section

variable {datagram : List UInt8} {outcome : Server.Outcome}

/-- What is sent for a session goes to its address. -/
theorem Handles.addressed (handles : Handles crowd.server input sender datagram pointer session
      outcome server) (formed : Server.WellFormed session) :
    ∀ call ∈ Server.madeIn crowd.server server, Server.AddressedTo session.addr call := by
  have reaction := Server.reaction_of_handledBy formed handles.handled
  rw [handles.calls]
  exact reaction.modest.2

/-- A packet of another client is handled. -/
theorem Projects.elsewhere (projects : Projects addr crowd pair) (sound : Server.Sound server)
    (handles : Handles crowd.server input sender datagram pointer session outcome server)
    (formed : Server.WellFormed session) (differ : Server.keyOf sender ≠ Server.keyOf addr)
    (apart : Server.keyOf session.addr ≠ Server.keyOf addr)
    (old : ∀ before, crowd.server.server.memory pointer = some before →
      Server.keyOf before.addr ≠ Server.keyOf addr) :
    Follows delivery sink addr pair
      ((deedFor addr crowd.server input (Server.madeIn crowd.server server)).toList.map glimpseOf)
      (crowd.serverTurn addr input server) := by
  have idle : deedFor addr crowd.server input (Server.madeIn crowd.server server) = none := by
    unfold deedFor
    rw [handles.deed]
    exact if_neg differ
  have unheard : heard addr crowd.server input = none := by
    rw [heard_of_received handles.stage handles.received, if_neg differ]
  have unsent := sentTo_of_other (handles.addressed formed) apart
  have new : ∀ after, server.server.memory pointer = some after →
      Server.keyOf after.addr ≠ Server.keyOf addr := by
    intro after live
    cases handles.own.symm.trans live
    obtain ⟨place, _⟩ := Server.handledBy_place formed handles.handled
    change Server.keyOf outcome.session.addr ≠ Server.keyOf addr
    rwa [place]
  obtain ⟨state, serves, same⟩ := projects.serves.elsewhere handles.others old new
  rw [idle]
  exact projects.settles sound serves same unheard unsent

/-- A packet of this client is handled. -/
theorem Projects.hears (projects : Projects addr crowd pair) (sound : Server.Sound server)
    (handles : Handles crowd.server input addr datagram pointer session outcome server)
    (formed : Server.WellFormed session) {memory : Server.Uninitialized}
    (current : session = pair.current addr memory) (place : session.addr = addr)
    (arrives : delivery crowd.toServer.sent crowd.toServer.arrived datagram) :
    Follows delivery sink addr pair
      ((deedFor addr crowd.server input (Server.madeIn crowd.server server)).toList.map glimpseOf)
      (crowd.serverTurn addr input server) := by
  have made : deedFor addr crowd.server input (Server.madeIn crowd.server server) =
      some (.packet addr (Server.exchangeAt (crowd.server.server.enter input).kernel
        (receiveInto crowd.server.buffer datagram) (receivedCount datagram))
          (Server.madeIn crowd.server server)) := by
    unfold deedFor
    rw [handles.deed]
    exact if_pos rfl
  have heard : heard addr crowd.server input = some (addr, datagram) := by
    rw [heard_of_received handles.stage handles.received, if_pos rfl]
  have sent : sentTo addr (Server.madeIn crowd.server server) =
      sentBy (Server.madeIn crowd.server server) := by
    refine sentTo_of_addressedTo ?_
    rw [← place]
    exact handles.addressed formed
  have receives : Receives (Server.exchangeAt (crowd.server.server.enter input).kernel
      (receiveInto crowd.server.buffer datagram) (receivedCount datagram)) datagram :=
    ⟨crowd.server.buffer, rfl, rfl, rfl⟩
  have stepped : Server.SessionStep (some (pair.current addr memory))
      (.packet (Server.exchangeAt (crowd.server.server.enter input).kernel
        (receiveInto crowd.server.buffer datagram) (receivedCount datagram))
          (Server.madeIn crowd.server server)) (some outcome.session) := by
    rw [← current]
    refine ⟨outcome, handles.handled, handles.calls.symm, ?_⟩
    rw [handles.kept, if_neg Bool.false_ne_true]
  rw [← projects.toServer] at arrives
  have handled : PairStep delivery sink addr pair (.server datagram _ memory _) _ :=
    .server receives arrives stepped
  have marked : PairStep delivery sink addr
      (pair.serverTurn (Server.madeIn crowd.server server) (some outcome.session))
      (.marked (crowd.server.server.clock + input.elapsed + Server.sessionTimeout)
        outcome.session.next) _ := .marked rfl
  refine ⟨_, _, (Run.singleton handled).append (Run.singleton marked), ?_, ?_⟩
  · refine ⟨projects.client, ?_, ?_, sound, pointer, handles.own, ?_⟩
    · change pair.toServer.deliver 1 = crowd.toServer.deliver _
      rw [heard, projects.toServer]
      rfl
    · change pair.toClient.send (sentBy _) = crowd.toClient.send _
      rw [sent, projects.toClient]
    · obtain ⟨kept, _⟩ := Server.handledBy_place formed handles.handled
      exact kept.trans place
  · rw [made]
    rfl

end

/-- What a step of the server does, the pair does too. -/
theorem Projects.serverStep (projects : Projects addr crowd pair)
    (steps : Server.Steps crowd.server input server)
    (arrives : ∀ sender datagram, heard addr crowd.server input = some (sender, datagram) →
      sender = addr ∧ delivery crowd.toServer.sent crowd.toServer.arrived datagram)
    (untangled : ∀ sender datagram, crowd.server.stage = .recvfrom →
      input.received = some (sender, datagram) →
      Server.bucketIndex crowd.server.server sender = Server.bucketIndex crowd.server.server addr →
      Server.SameHostBucket crowd.server.server sender) :
    Follows delivery sink addr pair
      ((deedFor addr crowd.server input (Server.madeIn crowd.server server)).toList.map glimpseOf)
      (crowd.serverTurn addr input server) := by
  by_cases running : ∀ err, crowd.server.stage ≠ .returned err
  case neg =>
    obtain ⟨err, stage⟩ := not_forall_not.mp running
    have same := steps.returned stage
    have made : Server.madeIn crowd.server server = [] := by
      unfold Server.madeIn
      rw [stage]
    have idle : deedFor addr crowd.server input (Server.madeIn crowd.server server) = none := by
      unfold deedFor Server.deed Server.expiring
      simp only [stage, Option.map_none]
    have unheard : heard addr crowd.server input = none :=
      heard_of_elsewhere fun recvfrom => by cases stage.symm.trans recvfrom
    have serves : Serves addr server.server pair.session := by
      rw [same]
      exact projects.serves
    rw [idle]
    refine projects.settles (steps.sound projects.sound) serves rfl unheard ?_
    rw [made]
    rfl
  case pos =>
    obtain ⟨effect, sound⟩ := steps.effect projects.sound running
    have calls : Server.madeIn crowd.server server = server.server.kernel.calls :=
      Server.madeIn_eq running
    cases effect with
    | kept quiet => exact projects.quiet sound quiet (calls.trans quiet.calls)
    | dropped _ _ _ _ quiet => exact projects.quiet sound quiet (calls.trans quiet.calls)
    | returned err returns quiet => exact projects.quiet sound quiet (calls.trans quiet.calls)
    | expired expires freed others fresh released whole =>
        refine projects.expired sound expires freed others ?_
        rw [calls, released, (Server.release_quiet _ _).1]
        rfl
    | @handled sender datagram pointer entered session outcome stage received found got ran kept top
        reheaped =>
        obtain ⟨chains, inv⟩ := projects.sound.table
        have inside : Server.TableInv (crowd.server.server.enter input) chains :=
          inv.congr rfl rfl fun _ => rfl
        have formed := got.formed projects.sound.formed
        have memory : ∀ other, server.server.memory other =
            (Server.afterHandling entered pointer outcome
              (crowd.server.server.clock + input.elapsed)).memory other := congrFun reheaped.memory
        have made : Server.madeIn crowd.server server = outcome.kernel.calls := by
          rw [calls, reheaped.kernel]
          rfl
        have handled := ran
        rw [got.kernel] at handled
        have handles : Handles crowd.server input sender datagram pointer session outcome server := by
          refine ⟨stage, received, handled, kept, made, ?_, ?_, ?_⟩
          · rw [memory]
            exact Function.update_self _ _ _
          · intro other differ
            rw [memory]
            change (Function.update entered.memory pointer _ other).map _ = _
            rw [Function.update_of_ne differ]
            exact got.others other differ
          · exact Server.deed_got stage received found _
        have hosts := untangled sender datagram stage received
        by_cases key : Server.keyOf sender = Server.keyOf addr
        · have own : heard addr crowd.server input = some (sender, datagram) := by
            rw [heard_of_received stage received, if_pos key]
          obtain ⟨rfl, delivered⟩ := arrives sender datagram own
          have before : Serves sender (crowd.server.server.enter input) pair.session :=
            projects.serves
          obtain ⟨contents, current⟩ := before.got inside (hosts rfl) found got
          refine projects.hears sound handles formed current ?_ delivered
          rw [current]
          have serves := projects.serves
          cases live : pair.session with
          | none => rfl
          | some before =>
              rw [live] at serves
              obtain ⟨_, _, place⟩ := serves
              exact place
        · have apart := keyOf_got inside hosts key found got
          refine projects.elsewhere sound handles formed key apart fun before known => ?_
          have live := got.live
          rw [got.old before known] at live
          cases known.symm.trans live
          exact apart

/-- What an event of the crowd does, the pair does too. -/
theorem Projects.step (projects : Projects addr crowd pair)
    (step : UntangledStep delivery sink addr crowd event next) :
    Follows delivery sink addr pair event.glimpses next := by
  obtain ⟨step, untangled⟩ := step
  cases step with
  | @client clientEvent client stepped arrives =>
      rw [← projects.toClient] at arrives
      rw [← projects.client] at stepped
      refine ⟨_, _, Run.singleton (.client stepped arrives), ?_, rfl⟩
      refine ⟨rfl, ?_, ?_, projects.sound, projects.serves⟩
      · change pair.toServer.send _ = crowd.toServer.send _
        rw [projects.toServer]
      · change pair.toClient.deliver _ = crowd.toClient.deliver _
        rw [projects.toClient]
  | server steps arrives => exact projects.serverStep steps arrives untangled

/-- At the start the crowd looks to every client like a pair. -/
theorem projects_start {start : Client.Config} {config : Server.Config}
    (initial : Server.Initial config) : Projects addr (.start start config) (.start start) := by
  have sound := Server.sound_initial initial
  obtain ⟨kernel, clock, buffer, rfl⟩ := initial
  exact ⟨rfl, rfl, rfl, sound, fun _ _ live => by cases live⟩

end

/-- **Every client has the server to itself.** In every run of a client with a server that others use
too, whatever they send, where no packet in its bucket of the table meets a session of another host:
what the client and the server have done for each other, and what is in the channels between them, is
what a run of the pair of the client and its session leaves. -/
theorem crowd_is_pair {delivery : Delivery} {sink : Client.Sink} {addr : SockaddrIn6}
    {start : Client.Config} {config : Server.Config} {events : List CrowdEvent} {crowd : Crowd}
    (initial : Server.Initial config)
    (run : Run (UntangledStep delivery sink addr) (.start start config) events crowd) :
    ∃ pairEvents session, PairRun delivery sink addr start pairEvents
        ⟨crowd.client, session, crowd.toServer, crowd.toClient⟩ ∧
      Serves addr crowd.server.server session ∧
      pairEvents.flatMap PairEvent.glimpses = events.flatMap CrowdEvent.glimpses := by
  obtain ⟨pairEvents, pair, run', projects, shown⟩ := run.matched (Projects addr)
    (fun _ _ _ _ projects step => projects.step step) (projects_start initial)
  obtain ⟨client, session, toServer, toClient⟩ := pair
  obtain ⟨rfl, rfl, rfl, _, serves⟩ := projects
  exact ⟨pairEvents, session, run', serves, shown⟩

/-! ## Replaying a crowd -/

/-- A turn to take: a datagram arrives at the client in this environment, or the server takes a step. -/
inductive CrowdTurn where
  | client (number : Nat) (env : Env)
  | server (input : Server.Input)

/-- The sessions in the bucket of a sender are of its host, as far as memory has been handed out. -/
def hostsMeet (server : Server) (sender : SockaddrIn6) : Bool :=
  decide (∀ pointer < server.fresh, ∀ session ∈ server.memory pointer,
    Server.bucketIndex server session.addr = Server.bucketIndex server sender →
      session.addr.sin6Addr = sender.sin6Addr)

/-- The check for a bucket of one host is sound. -/
theorem sameHostBucket_of_hostsMeet {server : Server} {chains : Nat → List Server.SessionPtr}
    {sender : SockaddrIn6} (inv : Server.TableInv server chains)
    (meet : hostsMeet server sender = true) : Server.SameHostBucket server sender :=
  fun pointer session live together =>
    of_decide_eq_true meet pointer (inv.below pointer session live) session live together

section

variable (delivery : Delivery) [∀ sent arrived datagram, Decidable (delivery sent arrived datagram)]
  (sink : Client.Sink) (addr : SockaddrIn6)

/-- Take a turn, if the channels deliver what arrives in it and the party handles it. -/
def Crowd.take (crowd : Crowd) : CrowdTurn → Option (CrowdEvent × Crowd)
  | .client number env =>
      let datagram := crowd.toClient.sent.getD number []
      let input : Client.Input := ⟨env, .readable, .ok datagram, blank⟩
      if delivery crowd.toClient.sent crowd.toClient.arrived datagram ∧
          crowd.client.stage = .select then
        match Client.clientStep sink input crowd.client with
        | .error _ => none
        | .ok client => some (.client ⟨input, client.world.kernel.calls⟩,
            crowd.clientTurn ⟨input, client.world.kernel.calls⟩ client)
      else none
  | .server input =>
      if (∀ packet ∈ heard addr crowd.server input, packet.1 = addr ∧
            delivery crowd.toServer.sent crowd.toServer.arrived packet.2) ∧
          ∀ packet ∈ input.received, hostsMeet crowd.server.server packet.1 = true then
        match Server.serverStep input crowd.server with
        | .error _ => none
        | .ok server => some
            (.server input (deedFor addr crowd.server input (Server.madeIn crowd.server server)),
              crowd.serverTurn addr input server)
      else none

/-- Take turns until one is refused. -/
def Crowd.replay (crowd : Crowd) : List CrowdTurn → List CrowdEvent × Crowd
  | [] => ([], crowd)
  | turn :: turns =>
      match crowd.take delivery sink addr turn with
      | none => ([], crowd)
      | some (event, next) =>
          let rest := next.replay turns
          (event :: rest.1, rest.2)

variable {delivery sink addr}

/-- A turn is a step. -/
theorem Crowd.take_step {crowd next : Crowd} {turn : CrowdTurn} {event : CrowdEvent}
    (sound : Server.Sound crowd.server)
    (taken : crowd.take delivery sink addr turn = some (event, next)) :
    UntangledStep delivery sink addr crowd event next ∧ Server.Sound next.server := by
  cases turn with
  | client number env =>
      unfold Crowd.take at taken
      dsimp only at taken
      split at taken
      case isFalse => cases taken
      case isTrue possible =>
        obtain ⟨arrives, selecting⟩ := possible
        cases stepped : Client.clientStep sink
            ⟨env, .readable, .ok (crowd.toClient.sent.getD number []), blank⟩ crowd.client with
        | error fault =>
            rw [stepped] at taken
            cases taken
        | ok client =>
            rw [stepped] at taken
            cases taken
            refine ⟨⟨.client ⟨selecting, stepped, rfl⟩ ?_, trivial⟩, sound⟩
            rintro datagram ⟨⟩
            exact arrives
  | server input =>
      unfold Crowd.take at taken
      dsimp only at taken
      split at taken
      case isFalse => cases taken
      case isTrue possible =>
        obtain ⟨arrives, meet⟩ := possible
        cases stepped : Server.serverStep input crowd.server with
        | error fault =>
            rw [stepped] at taken
            cases taken
        | ok server =>
            rw [stepped] at taken
            cases taken
            obtain ⟨chains, inv⟩ := sound.table
            have steps : Server.Steps crowd.server input server := stepped
            refine ⟨⟨.server steps fun sender datagram own => arrives _ own, ?_⟩, steps.sound sound⟩
            intro sender datagram _ received _
            exact sameHostBucket_of_hostsMeet inv (meet _ received)

/-- A replay is a run. -/
theorem Crowd.replay_run (crowd : Crowd) (sound : Server.Sound crowd.server)
    (turns : List CrowdTurn) :
    Run (UntangledStep delivery sink addr) crowd (crowd.replay delivery sink addr turns).1
      (crowd.replay delivery sink addr turns).2 := by
  induction turns generalizing crowd with
  | nil => exact .nil
  | cons turn turns ih =>
      unfold Crowd.replay
      cases taken : crowd.take delivery sink addr turn with
      | none => exact .nil
      | some outcome =>
          obtain ⟨step, sound'⟩ := Crowd.take_step sound taken
          exact (Run.singleton step).append (ih outcome.2 sound')

end

/-- An iteration of the server loop takes four steps. -/
def iteration (input : Server.Input) : List CrowdTurn := List.replicate 4 (.server input)

/-- The server receives the datagram with this number of those the client sends. -/
def fromListener (sent : List (List UInt8)) (number : Nat) (env : Env) : Server.Input :=
  ⟨env, 0, .readable, some (Server.listener, sent.getD number []), some Server.zeroedSession⟩

/-- The client that asks for the song, and the server. -/
def songCrowd : Crowd := .start Client.songStart Server.beginning

/-- Another client opens a file, and the song is asked for. -/
def sharedTurns : List CrowdTurn :=
  iteration (Server.datagramFrom Server.secondClient 0 packetFlagSyn Server.opening 0) ++
    iteration (fromListener songCrowd.toServer.sent 0
      (Server.songEnv fun _ => .data Server.songHeader)) ++
    [.client 0 Client.calmEnv]

/-- What happens then. -/
def shared : List CrowdEvent × Crowd :=
  songCrowd.replay anyOrder Client.driversIgnore Server.listener sharedTurns

theorem shared_run : Run (UntangledStep anyOrder Client.driversIgnore Server.listener) songCrowd
    shared.1 shared.2 :=
  Crowd.replay_run _ (Server.sound_initial Server.initial_beginning) _

/-- The client that has asked for the song next to another client has the server to itself. -/
theorem crowd_is_pair_shared : ∃ pairEvents session,
    PairRun anyOrder Client.driversIgnore Server.listener Client.songStart pairEvents
      ⟨shared.2.client, session, shared.2.toServer, shared.2.toClient⟩ ∧
    Serves Server.listener shared.2.server.server session ∧
    pairEvents.flatMap PairEvent.glimpses = shared.1.flatMap CrowdEvent.glimpses :=
  crowd_is_pair Server.initial_beginning shared_run

example : shared.1.length = 9 ∧ shared.2.toClient.sent.length = 1 ∧
    shared.2.toServer.sent.length = 4 := by decide +kernel

end Sas.System
