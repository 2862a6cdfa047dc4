import Sas.System.Backlog
import Sas.Once
import Mathlib.Data.List.Sort

/-! # Data in order, with gaps

The client drops a packet that is behind its acknowledgement and processes every other one, also one
that is ahead. So it processes data in the order in which the server has sent it, and nothing twice.
But it waits for nothing, and the server sends nothing again: what is lost or overtaken is missing.
-/

namespace Sas.System

open Foundation Transport

/-! ## Datagrams in order -/

/-- The second datagram takes its numbers behind the first one. -/
def Before (first second : List UInt8) : Prop :=
  (headerOf first).behind ≤ (headerOf second).seq.toNat

theorem not_before_self (datagram : List UInt8) : ¬ Before datagram datagram :=
  Nat.not_le.mpr (seq_lt_behind (headerOf datagram))

/-- Packets before one another. -/
theorem Before.trans {first second third : List UInt8} (left : Before first second)
    (right : Before second third) : Before first third :=
  Nat.le_trans left (Nat.le_trans (Nat.le_of_lt (seq_lt_behind _)) right)

instance : Std.Irrefl Before := ⟨not_before_self⟩

instance : Std.Antisymm Before :=
  ⟨fun first _ left right => (not_before_self first (left.trans right)).elim⟩

/-- Datagrams in order are a part of others in order that contain them. -/
theorem sublist_of_before {few all : List (List UInt8)} (few_inOrder : few.Pairwise Before)
    (all_inOrder : all.Pairwise Before) (subset : few ⊆ all) : few.Sublist all :=
  List.sublist_of_subperm_of_pairwise (List.subperm_of_subset few_inOrder.nodup subset) few_inOrder
    all_inOrder

/-- Where no number starts over, a chain of packets is in order, between its first number and the
one behind its last. -/
theorem seqChain_before {datagrams : List (List UInt8)} {first next : UInt32}
    (chain : SeqChain first datagrams next)
    (fits : ∀ datagram ∈ datagrams, (headerOf datagram).Fits) :
    first.toNat ≤ next.toNat ∧ datagrams.Pairwise Before ∧
      ∀ datagram ∈ datagrams, first.toNat ≤ (headerOf datagram).seq.toNat ∧
        (headerOf datagram).behind ≤ next.toNat := by
  induction datagrams generalizing first with
  | nil =>
      rw [chain]
      exact ⟨Nat.le_refl _, .nil, fun _ member => (List.not_mem_nil member).elim⟩
  | cons datagram datagrams ih =>
      obtain ⟨rfl, rest⟩ := chain
      obtain ⟨fit, fits⟩ := List.forall_mem_cons.mp fits
      obtain ⟨less, inOrder, between⟩ := ih rest fits
      rw [next_toNat_of_fits fit] at less between
      have own := Nat.le_of_lt (seq_lt_behind (headerOf datagram))
      refine ⟨Nat.le_trans own less, List.pairwise_cons.mpr ⟨fun other member =>
        (between other member).1, inOrder⟩, ?_⟩
      rw [List.forall_mem_cons]
      exact ⟨⟨Nat.le_refl _, less⟩, fun other member =>
        ⟨Nat.le_trans own (between other member).1, (between other member).2⟩⟩

/-! ## What the client processes -/

/-- The data packet the client processes in an event: one that it hears once it is established. -/
def processedBy (pair : Pair) : PairEvent → List (List UInt8)
  | .client event =>
      match event.input.datagram? with
      | some datagram =>
          if pair.client.world.session.state = .establsh ∧
              Client.Heard pair.client.world (event.input.header datagram) then [datagram]
          else []
      | none => []
  | .server _ _ _ _ => []
  | .marked _ _ => []
  | .expired => []

/-- One event over a channel that loses, duplicates and reorders, with all that the client has
processed. -/
def TracedStep (sink : Client.Sink) (addr : SockaddrIn6) (before : Pair × List (List UInt8))
    (event : PairEvent) (after : Pair × List (List UInt8)) : Prop :=
  PairStep anyOrder sink addr before.1 event after.1 ∧
    after.2 = before.2 ++ processedBy before.1 event

/-- The events lead a pair from the SYN of its client to this state, and this is what the client has
processed. -/
abbrev TracedRun (sink : Client.Sink) (addr : SockaddrIn6) (start : Client.Config)
    (events : List PairEvent) (pair : Pair) (processed : List (List UInt8)) : Prop :=
  Run (TracedStep sink addr) (Pair.start start, []) events (pair, processed)

/-- The SYN arrives at the server. -/
def PairEvent.asks : PairEvent → Bool
  | .server datagram _ _ _ => isSyn datagram
  | .client _ => false
  | .marked _ _ => false
  | .expired => false

/-- The channel does not duplicate the SYN of the client, so that the server serves one session. -/
def AsksOnce (events : List PairEvent) : Prop := events.countP PairEvent.asks ≤ 1

instance (events : List PairEvent) : Decidable (AsksOnce events) :=
  inferInstanceAs (Decidable (_ ≤ _))

/-- The packet is not a reset. -/
def isLoud (datagram : List UInt8) : Bool := !isRst datagram

/-- A data packet is loud. -/
theorem isLoud_of_isData {datagram : List UInt8} (data : isData datagram = true) :
    isLoud datagram = true := by
  unfold isLoud
  cases reset : isRst datagram with
  | false => rfl
  | true =>
      rw [isData_of_isRst reset] at data
      cases data

/-- Among packets that are not loud there is no loud one. -/
theorem filter_isLoud_eq_nil {datagrams : List (List UInt8)}
    (deaf : ∀ datagram ∈ datagrams, isLoud datagram = false) : datagrams.filter isLoud = [] := by
  refine List.filter_eq_nil_iff.mpr fun datagram member => ?_
  rw [deaf datagram member]
  exact Bool.false_ne_true

/-- A loud packet that is no SYN carries data. -/
theorem isData_of_isLoud {datagram : List UInt8} (loud : isLoud datagram = true)
    (other : isSyn datagram = false) : isData datagram = true := by
  have syn : packetFlagIsset (headerOf datagram).flags packetFlagSyn = false := other
  rw [isData, syn, Bool.not_false, Bool.true_and]
  exact loud

/-! ## What the server sends -/

/-- What the server has sent, once the SYN has arrived this many times: the SYN-ACK and the data behind
it are in order, and a session that streams stands behind them. -/
structure Layout (asked : Nat) (pair : Pair) : Prop where
  carried : ∀ datagram ∈ pair.toClient.sent, ∃ header payload, Carries datagram header payload
  unasked : asked = 0 → (∀ datagram ∈ pair.toClient.sent, isLoud datagram = false) ∧
    ∀ session, pair.session = some session → ¬ Server.Streaming session
  ordered : (pair.toClient.sent.filter isLoud).Pairwise Before
  ahead : ∀ session, pair.session = some session → Server.Streaming session →
    ∀ datagram ∈ pair.toClient.sent, isLoud datagram = true →
      (headerOf datagram).behind ≤ session.seq.toNat
  synAck : ∀ datagram ∈ pair.toClient.sent, isSyn datagram = true → isLoud datagram = true →
    ∀ other ∈ pair.toClient.sent, isLoud other = true → other = datagram ∨ Before datagram other

section

variable {session : Server.Session} {exchange : Server.Exchange} {calls : List Syscall}
  {after : Option Server.Session}

/-- In its initial state a session sends resets and stays in it, or it answers a SYN with one
SYN-ACK. -/
theorem reaction_initial (reaction : Server.Reaction session exchange calls after)
    (state : session.state = .initial) :
    ((∀ datagram ∈ sentBy calls, isLoud datagram = false) ∧
        ∀ next, after = some next → ¬ Server.Streaming next) ∨
      (packetFlagIsset exchange.header.flags packetFlagSyn = true ∧
        ∃ datagram, sentBy calls = [datagram]) := by
  have early := @Server.not_streaming_of_initial session state
  have deaf : ∀ {flags payload call},
      Server.Sends (Server.acked session exchange.header) flags payload call →
      packetFlagIsset flags packetFlagRst = true →
      ∀ datagram ∈ sentBy [call], isLoud datagram = false := by
    intro flags payload call sends reset datagram member
    rw [isLoud, isRst, flags_of_sends sends datagram member, reset]
    rfl
  cases reaction with
  | dropped =>
      refine .inl ⟨fun _ member => (List.not_mem_nil member).elim, ?_⟩
      rintro _ ⟨⟩
      exact early
  | forgotten => exact .inl ⟨fun _ member => (List.not_mem_nil member).elim, by rintro _ ⟨⟩⟩
  | reset heard _ syn sends =>
      refine .inl ⟨deaf sends (by decide), ?_⟩
      rintro _ ⟨⟩
      exact early
  | refused heard _ syn unfit sends before =>
      refine .inl ⟨?_, by rintro _ ⟨⟩⟩
      rw [sentBy_append, before, List.nil_append]
      exact deaf sends (by decide)
  | opened heard _ syn codec offered sends =>
      obtain ⟨datagram, sent, _⟩ := sentBy_of_sends sends
      refine .inr ⟨syn, datagram, ?_⟩
      rw [sentBy_open, sentBy_read, sent]
  | silent heard streaming => exact (early streaming).elim
  | chunk heard streaming => exact (early streaming).elim
  | ended heard streaming => exact (early streaming).elim
  | failed heard streaming => exact (early streaming).elim

end

section

variable {sink : Client.Sink} {addr : SockaddrIn6} {start : Client.Config} {asked : Nat}
  {pair next : Pair} {event : PairEvent} {events : List PairEvent}

/-- Resets keep the layout, where the session does not stream. -/
theorem Layout.deaf (layout : Layout asked pair) {calls : List Syscall}
    {after : Option Server.Session} {more : Nat}
    (carried : ∀ datagram ∈ sentBy calls, ∃ header payload, Carries datagram header payload)
    (deaf : ∀ datagram ∈ sentBy calls, isLoud datagram = false)
    (stays : ∀ session, after = some session → ¬ Server.Streaming session) :
    Layout (asked + more) (pair.serverTurn calls after) := by
  have old : ∀ other ∈ pair.toClient.sent ++ sentBy calls, isLoud other = true →
      other ∈ pair.toClient.sent := by
    intro other member loud
    rcases List.mem_append.mp member with old | new
    · exact old
    · cases (deaf other new).symm.trans loud
  refine ⟨List.forall_mem_append.mpr ⟨layout.carried, carried⟩, fun zero => ⟨?_, stays⟩, ?_,
    fun session live streaming => (stays session live streaming).elim,
    fun first member syn loud other member' loud' =>
      layout.synAck first (old first member loud) syn loud other (old other member' loud') loud'⟩
  · exact List.forall_mem_append.mpr ⟨(layout.unasked (Nat.add_eq_zero_iff.mp zero).1).1, deaf⟩
  · change ((pair.toClient.sent ++ sentBy calls).filter isLoud).Pairwise Before
    rw [List.filter_append, filter_isLoud_eq_nil deaf, List.append_nil]
    exact layout.ordered

/-- The first answer that is not a reset begins the layout. -/
theorem Layout.answer (layout : Layout 0 pair) {calls : List Syscall} {answer : List UInt8}
    {after : Option Server.Session} {seq : UInt32}
    (carried : ∀ datagram ∈ sentBy calls, ∃ header payload, Carries datagram header payload)
    (sent : sentBy calls = [answer]) (behind : (headerOf answer).behind ≤ seq.toNat)
    (left : ∀ session, after = some session → session.seq = seq) :
    Layout 1 (pair.serverTurn calls after) := by
  have quiet := (layout.unasked rfl).1
  have only : ∀ other ∈ pair.toClient.sent ++ sentBy calls, isLoud other = true →
      other = answer := by
    intro other member loud
    rcases List.mem_append.mp member with old | new
    · cases (quiet other old).symm.trans loud
    · rw [sent] at new
      exact List.mem_singleton.mp new
  refine ⟨List.forall_mem_append.mpr ⟨layout.carried, carried⟩, fun zero => ?_, ?_,
    fun session live streaming other member loud => ?_,
    fun first member syn loud other member' loud' =>
      .inl ((only other member' loud').trans (only first member loud).symm)⟩
  · cases zero
  · change ((pair.toClient.sent ++ sentBy calls).filter isLoud).Pairwise Before
    rw [List.filter_append, filter_isLoud_eq_nil quiet, List.nil_append, sent]
    exact (List.pairwise_singleton _ _).sublist List.filter_sublist
  · rw [left session live, only other member loud]
    exact behind

/-- What a session that streams sends without SYN comes behind everything. -/
theorem Layout.stream (layout : Layout asked pair) {calls : List Syscall} {more : Nat}
    {session next : Server.Session} (live : pair.session = some session)
    (streaming : Server.Streaming session)
    (carried : ∀ datagram ∈ sentBy calls, ∃ header payload, Carries datagram header payload)
    (plain : ∀ datagram ∈ sentBy calls, isSyn datagram = false)
    (chain : SeqChain session.seq (sentBy calls) next.seq)
    (fits : ∀ datagram ∈ sentBy calls, (headerOf datagram).Fits) :
    Layout (asked + more) (pair.serverTurn calls (some next)) := by
  obtain ⟨grows, inOrder, between⟩ := seqChain_before chain fits
  have stands := layout.ahead session live streaming
  have cross : ∀ other ∈ pair.toClient.sent, isLoud other = true →
      ∀ later ∈ sentBy calls, Before other later := fun other member loud later member' =>
    Nat.le_trans (stands other member loud) (between later member').1
  refine ⟨List.forall_mem_append.mpr ⟨layout.carried, carried⟩, fun zero => ?_, ?_, ?_,
    fun first member syn loud other member' loud' => ?_⟩
  · exact ((layout.unasked (Nat.add_eq_zero_iff.mp zero).1).2 session live streaming).elim
  · change ((pair.toClient.sent ++ sentBy calls).filter isLoud).Pairwise Before
    rw [List.filter_append]
    refine List.pairwise_append.mpr ⟨layout.ordered, inOrder.sublist List.filter_sublist, ?_⟩
    intro other member later member'
    obtain ⟨old, loud⟩ := List.mem_filter.mp member
    exact cross other old loud later (List.mem_filter.mp member').1
  · rintro _ ⟨⟩ _ other member loud
    rcases List.mem_append.mp member with old | new
    · exact Nat.le_trans (stands other old loud) grows
    · exact (between other new).2
  · rcases List.mem_append.mp member with old | new
    · rcases List.mem_append.mp member' with old' | new'
      · exact layout.synAck first old syn loud other old' loud'
      · exact .inr (cross first old loud other new')
    · cases (plain first new).symm.trans syn

/-- A packet at the server keeps what it sends in order, unless it is a second SYN. -/
theorem Layout.serverTurn (layout : Layout asked pair) (handshaking : Handshaking pair)
    {datagram : List UInt8} {exchange : Server.Exchange} {memory : Server.Uninitialized}
    {calls : List Syscall} {after : Option Server.Session} (receives : Receives exchange datagram)
    (arrives : datagram ∈ pair.toServer.sent)
    (reaction : Server.Reaction (pair.current addr memory) exchange calls after)
    (fits : ∀ datagram ∈ sentBy calls, (headerOf datagram).Fits)
    (once : isSyn datagram = true → asked = 0) :
    Layout (asked + if isSyn datagram then 1 else 0) (pair.serverTurn calls after) := by
  have said := handshaking.said datagram arrives
  have same := said.header_eq receives
  have carried := reaction_carried reaction
  obtain ⟨seq, chain, left⟩ := reaction.seqChain
  rcases (handshaking.formed.current addr memory).initial_or_streaming with state | streaming
  · rcases reaction_initial reaction state with ⟨deaf, stays⟩ | ⟨syn, answer, sent⟩
    · exact layout.deaf carried deaf stays
    · have asks : isSyn datagram = true := by
        rw [isSyn, ← same]
        exact syn
      obtain ⟨_, _, between⟩ := seqChain_before chain fits
      rw [once asks] at layout
      rw [once asks, if_pos asks]
      exact layout.answer carried sent
        (between answer (by rw [sent]; exact List.mem_singleton_self answer)).2 left
  · have kind : packetFlagIsset exchange.header.flags packetFlagRst = false := by
      rw [same]
      exact said.no_rst
    obtain ⟨plain, session, rfl, _⟩ := reaction_goes_on reaction streaming kind
    rw [← left session rfl] at chain
    exact layout.stream (current_of_streaming streaming) streaming carried plain chain fits

/-- A SYN-ACK answers a SYN. -/
theorem asks_of_synAck (handshaking : Handshaking pair) {datagram : List UInt8}
    {exchange : Server.Exchange} {memory : Server.Uninitialized} {calls : List Syscall}
    {after : Option Server.Session} (receives : Receives exchange datagram)
    (arrives : datagram ∈ pair.toServer.sent)
    (reaction : Server.Reaction (pair.current addr memory) exchange calls after)
    {synAck : List UInt8} (member : synAck ∈ sentBy calls) (syn : isSyn synAck = true)
    (loud : isLoud synAck = true) : isSyn datagram = true := by
  have said := handshaking.said datagram arrives
  have same := said.header_eq receives
  rcases (handshaking.formed.current addr memory).initial_or_streaming with state | streaming
  · rcases reaction_initial reaction state with ⟨deaf, _⟩ | ⟨asks, _⟩
    · cases (deaf synAck member).symm.trans loud
    · rwa [same] at asks
  · obtain ⟨plain, _⟩ := reaction_goes_on reaction streaming (by rw [same]; exact said.no_rst)
    cases (plain synAck member).symm.trans syn

/-! ## What the client takes -/

/-- What the client has processed is data the server has sent, in order and behind its
acknowledgement; an established client has acknowledged the SYN-ACK; and every packet it has processed
has been pushed as a chunk. -/
structure Intake (pair : Pair) (processed : List (List UInt8)) : Prop where
  known : pair.client.world.session.state = .establsh →
    ∃ datagram ∈ pair.toClient.sent, isLoud datagram = true
  configured : pair.client.world.session.state = .establsh →
    ∀ datagram ∈ pair.toClient.sent, isSyn datagram = true → isLoud datagram = true →
      (headerOf datagram).behind ≤ pair.client.world.session.ack.toNat
  consumed : ∀ datagram ∈ processed, datagram ∈ pair.toClient.sent ∧ isData datagram = true ∧
    (headerOf datagram).behind ≤ pair.client.world.session.ack.toNat
  ordered : processed.Pairwise Before
  counted : processed.length = pair.chunksPushed

variable {processed : List (List UInt8)}

/-- A packet at the server leaves the client alone. -/
theorem Intake.serverTurn (intake : Intake pair processed) (layout : Layout asked pair)
    (handshaking : Handshaking pair) {datagram : List UInt8} {exchange : Server.Exchange}
    {memory : Server.Uninitialized} {calls : List Syscall} {after : Option Server.Session}
    (receives : Receives exchange datagram) (arrives : datagram ∈ pair.toServer.sent)
    (reaction : Server.Reaction (pair.current addr memory) exchange calls after)
    (once : isSyn datagram = true → asked = 0) :
    Intake (pair.serverTurn calls after) processed := by
  refine ⟨fun state => ?_, fun state other member syn loud => ?_, fun other member => ?_,
    intake.ordered, intake.counted⟩
  · obtain ⟨known, member, loud⟩ := intake.known state
    exact ⟨known, List.mem_append_left _ member, loud⟩
  · rcases List.mem_append.mp member with old | new
    · exact intake.configured state other old syn loud
    · have zero := once (asks_of_synAck handshaking receives arrives reaction new syn loud)
      obtain ⟨known, member', loud'⟩ := intake.known state
      cases ((layout.unasked zero).1 known member').symm.trans loud'
  · obtain ⟨sent, rest⟩ := intake.consumed other member
    exact ⟨List.mem_append_left _ sent, rest⟩

section

variable {clientEvent : Client.ClientEvent}

/-- A client processes nothing of what it does not hear. -/
theorem processedBy_deaf (deaf : ¬ Client.Hears pair.client clientEvent.input) :
    processedBy pair (.client clientEvent) = [] := by
  rw [processedBy]
  cases received : clientEvent.input.datagram? with
  | none => rfl
  | some datagram =>
      refine if_neg ?_
      rintro ⟨established, heard⟩
      exact deaf ⟨datagram, received, heard, .inr established⟩

/-- A client that awaits its configuration processes no data. -/
theorem processedBy_waiting (waiting : pair.client.world.session.state = .synSent) :
    processedBy pair (.client clientEvent) = [] := by
  rw [processedBy]
  cases clientEvent.input.datagram? with
  | none => rfl
  | some datagram =>
      refine if_neg ?_
      rintro ⟨established, _⟩
      cases waiting.symm.trans established

/-- An established client processes what it hears. -/
theorem processedBy_established {datagram : List UInt8}
    (received : clientEvent.input.datagram? = some datagram)
    (established : pair.client.world.session.state = .establsh)
    (heard : Client.Heard pair.client.world (clientEvent.input.header datagram)) :
    processedBy pair (.client clientEvent) = [datagram] := by
  rw [processedBy, received]
  exact if_pos ⟨established, heard⟩

end

section

variable {clientEvent : Client.ClientEvent} {client : Client.Config}

/-- The acknowledgement of the client does not go back. -/
theorem ack_mono (layout : Layout asked pair) (handshaking : Handshaking pair)
    (stepped : Client.ClientStep sink pair.client clientEvent client)
    (arrives : ∀ datagram, clientEvent.input.datagram? = some datagram →
      datagram ∈ pair.toClient.sent)
    (fits : ∀ datagram ∈ pair.toClient.sent, (headerOf datagram).Fits) :
    pair.client.world.session.ack.toNat ≤ client.world.session.ack.toNat := by
  have formed := handshaking.formed.1.formed
  rcases stepped.accepts_or formed with ⟨datagram, received, accepted⟩ | same
  · have member := arrives datagram received
    obtain ⟨header, payload, carries⟩ := layout.carried datagram member
    have fit := fits datagram member
    rw [stepped.ack_eq formed received accepted]
    rw [input_header_eq clientEvent.input carries] at accepted ⊢
    rw [carries.headerOf_eq] at fit
    rw [next_toNat_of_fits fit]
    exact Nat.le_trans (ack_le_of_accepted accepted) (Nat.le_of_lt (seq_lt_behind header))
  · rw [same]

/-- The client takes packets that are not resets and not behind, and stands behind them then. -/
theorem taken_of_heeds (layout : Layout asked pair) (handshaking : Handshaking pair)
    (stepped : Client.ClientStep sink pair.client clientEvent client) {datagram : List UInt8}
    {chunk : Chunk} (heeds : Client.Heeds pair.client clientEvent client datagram chunk)
    (member : datagram ∈ pair.toClient.sent) (fit : (headerOf datagram).Fits) :
    isLoud datagram = true ∧
      pair.client.world.session.ack.toNat ≤ (headerOf datagram).seq.toNat ∧
      client.world.session.ack.toNat = (headerOf datagram).behind := by
  obtain ⟨header, payload, carries⟩ := layout.carried datagram member
  have same : clientEvent.input.header datagram = headerOf datagram := by
    rw [input_header_eq clientEvent.input carries, carries.headerOf_eq]
  obtain ⟨accepted, heard⟩ := heeds.takes.1
  have ack := stepped.ack_eq handshaking.formed.1.formed heeds.received accepted
  rw [same] at accepted heard ack
  refine ⟨?_, ack_le_of_accepted accepted, ?_⟩
  · rw [isLoud, isRst, heard]
    rfl
  · rw [ack, next_toNat_of_fits fit]

/-- The chunk of a packet that is taken is the last one pushed. -/
theorem chunksPushed_of_heeds {datagram : List UInt8} {chunk : Chunk}
    (heeds : Client.Heeds pair.client clientEvent client datagram chunk) :
    (pair.clientTurn clientEvent client).chunksPushed = pair.client.world.pushed.length := by
  change client.world.pushed.length - 1 = _
  rw [heeds.pushed, List.length_append]
  rfl

/-- The packet that configures the client is the SYN-ACK, or comes behind it. -/
theorem Intake.configure (intake : Intake pair processed) (layout : Layout asked pair)
    (formed : Client.Underway pair.client.world) {datagram : List UInt8} {chunk : Chunk}
    (heeds : Client.Heeds pair.client clientEvent client datagram chunk)
    (waiting : pair.client.world.session.state = .synSent)
    (member : datagram ∈ pair.toClient.sent) (loud : isLoud datagram = true)
    (taken : client.world.session.ack.toNat = (headerOf datagram).behind) :
    Intake (pair.clientTurn clientEvent client) processed := by
  have none : pair.client.world.pushed.length = 0 := by
    rw [(formed.waiting waiting).1]
    rfl
  have nothing : processed = [] := by
    refine List.eq_nil_of_length_eq_zero ?_
    rw [intake.counted, Pair.chunksPushed, none]
  refine ⟨fun _ => ⟨datagram, member, loud⟩, fun _ other member' syn loud' => ?_, ?_,
    intake.ordered, ?_⟩
  · change _ ≤ client.world.session.ack.toNat
    rw [taken]
    rcases layout.synAck other member' syn loud' datagram member loud with rfl | before
    · exact Nat.le_refl _
    · exact Nat.le_trans before (Nat.le_of_lt (seq_lt_behind _))
  · rw [nothing]
    exact fun _ member => (List.not_mem_nil member).elim
  · rw [chunksPushed_of_heeds heeds, none, nothing]
    rfl

/-- What an established client takes is data behind all that it has processed. -/
theorem Intake.process (intake : Intake pair processed)
    (formed : Client.Underway pair.client.world) {datagram : List UInt8} {chunk : Chunk}
    (heeds : Client.Heeds pair.client clientEvent client datagram chunk)
    (established : pair.client.world.session.state = .establsh)
    (member : datagram ∈ pair.toClient.sent) (loud : isLoud datagram = true)
    (after : pair.client.world.session.ack.toNat ≤ (headerOf datagram).seq.toNat)
    (taken : client.world.session.ack.toNat = (headerOf datagram).behind) :
    Intake (pair.clientTurn clientEvent client) (processed ++ [datagram]) := by
  have own := seq_lt_behind (headerOf datagram)
  have mono : pair.client.world.session.ack.toNat ≤ client.world.session.ack.toNat := by
    rw [taken]
    exact Nat.le_trans after (Nat.le_of_lt own)
  have data : isData datagram = true := by
    refine isData_of_isLoud loud ?_
    cases syn : isSyn datagram with
    | false => rfl
    | true =>
        have behind := intake.configured established datagram member syn loud
        exact (Nat.not_lt.mpr (Nat.le_trans behind after) own).elim
  refine ⟨fun _ => intake.known established, fun _ other member' syn loud' =>
    Nat.le_trans (intake.configured established other member' syn loud') mono, ?_, ?_, ?_⟩
  · intro other member'
    rcases List.mem_append.mp member' with old | new
    · obtain ⟨sent, data', behind⟩ := intake.consumed other old
      exact ⟨sent, data', Nat.le_trans behind mono⟩
    · rw [List.mem_singleton.mp new]
      exact ⟨member, data, Nat.le_of_eq taken.symm⟩
  · refine List.pairwise_append.mpr ⟨intake.ordered, List.pairwise_singleton _ _, ?_⟩
    intro other old last new
    rw [List.mem_singleton.mp new]
    exact Nat.le_trans (intake.consumed other old).2.2 after
  · have some := List.length_pos_of_ne_nil (formed.streaming established)
    rw [chunksPushed_of_heeds heeds, List.length_append, intake.counted, Pair.chunksPushed,
      List.length_singleton, Nat.sub_add_cancel some]

/-- What the client does not hear leaves what it has processed behind its acknowledgement. -/
theorem Intake.deaf (intake : Intake pair processed)
    (mono : pair.client.world.session.ack.toNat ≤ client.world.session.ack.toNat)
    (pushed : client.world.pushed = pair.client.world.pushed)
    (state : client.world.session.state = pair.client.world.session.state ∨
      client.world.session.state = .finished) :
    Intake (pair.clientTurn clientEvent client) processed := by
  have before : client.world.session.state = .establsh →
      pair.client.world.session.state = .establsh := by
    intro established
    rcases state with same | finished
    · rw [← same, established]
    · exact absurd (established.symm.trans finished) (by decide)
  refine ⟨fun state => intake.known (before state), fun state other member syn loud =>
    Nat.le_trans (intake.configured (before state) other member syn loud) mono,
    fun other member => ?_, intake.ordered, ?_⟩
  · obtain ⟨sent, data, behind⟩ := intake.consumed other member
    exact ⟨sent, data, Nat.le_trans behind mono⟩
  · rw [intake.counted]
    exact congrArg (·.length - 1) pushed.symm

/-- An iteration of the client keeps what it processes in order. -/
theorem Intake.clientTurn (intake : Intake pair processed) (layout : Layout asked pair)
    (handshaking : Handshaking pair)
    (stepped : Client.ClientStep sink pair.client clientEvent client)
    (arrives : ∀ datagram, clientEvent.input.datagram? = some datagram →
      datagram ∈ pair.toClient.sent)
    (fits : ∀ datagram ∈ pair.toClient.sent, (headerOf datagram).Fits) :
    Intake (pair.clientTurn clientEvent client)
      (processed ++ processedBy pair (.client clientEvent)) := by
  have formed := handshaking.formed.1
  rcases stepped.hears_or formed.formed with ⟨datagram, chunk, heeds⟩ | ⟨deaf, pushed, _, state⟩
  · have member := arrives datagram heeds.received
    obtain ⟨loud, after, taken⟩ :=
      taken_of_heeds layout handshaking stepped heeds member (fits datagram member)
    rcases heeds.takes.2 with waiting | established
    · rw [processedBy_waiting waiting, List.append_nil]
      exact intake.configure layout formed heeds waiting member loud taken
    · rw [processedBy_established heeds.received established heeds.takes.1]
      exact intake.process formed heeds established member loud after taken
  · rw [processedBy_deaf deaf, List.append_nil]
    exact intake.deaf (ack_mono layout handshaking stepped arrives fits) pushed state

end

/-- When the client has sent its SYN, nothing has been sent to it. -/
theorem layout_start (start : Client.Config) : Layout 0 (Pair.start start) :=
  ⟨fun _ member => (List.not_mem_nil member).elim, fun _ =>
    ⟨fun _ member => (List.not_mem_nil member).elim, by rintro _ ⟨⟩⟩, .nil, by rintro _ ⟨⟩,
    fun _ member => (List.not_mem_nil member).elim⟩

/-- When the client has sent its SYN, it has processed nothing. -/
theorem intake_start {name : List UInt8} {memory : Chunk} {env : Env}
    (begun : Client.receive name memory env = .ok start) : Intake (Pair.start start) [] := by
  obtain ⟨_, _, _, _, _, session, pushed, _⟩ := Client.receive_spec begun
  have waiting : start.world.session.state ≠ .establsh := by
    rw [session]
    rintro ⟨⟩
  refine ⟨fun state => (waiting state).elim, fun state => (waiting state).elim,
    fun _ member => (List.not_mem_nil member).elim, .nil, ?_⟩
  change 0 = start.world.pushed.length - 1
  rw [pushed]
  rfl

/-- In every run in which the SYN arrives once and no number starts over, what the server sends and
what the client processes are in order. -/
theorem TracedRun.ordered {name : List UInt8} {memory : Chunk} {env : Env}
    (begun : Client.receive name memory env = .ok start)
    (run : TracedRun sink addr start events pair processed) :
    AsksOnce events → (∀ datagram ∈ pair.toClient.sent, (headerOf datagram).Fits) →
      Layout (events.countP PairEvent.asks) pair ∧ Intake pair processed := by
  refine (run.history (fun events state => Handshaking state.1 ∧ (AsksOnce events →
    (∀ datagram ∈ state.1.toClient.sent, (headerOf datagram).Fits) →
      Layout (events.countP PairEvent.asks) state.1 ∧ Intake state.1 state.2))
    ⟨handshaking_start begun, fun _ _ => ?_⟩ ?_).2
  · exact ⟨layout_start start, intake_start begun⟩
  rintro events ⟨pair, processed⟩ event ⟨next, processed'⟩ before ⟨handshaking, holds⟩ ⟨step, rfl⟩
  refine ⟨handshaking.step step, fun once fits => ?_⟩
  unfold AsksOnce at once
  rw [List.countP_append, List.countP_singleton] at once
  have earlier := holds (Nat.le_trans (Nat.le_add_right _ _) once)
  rw [List.countP_append, List.countP_singleton]
  cases step with
  | client stepped arrives =>
      obtain ⟨layout, intake⟩ := earlier fits
      exact ⟨⟨layout.carried, layout.unasked, layout.ordered, layout.ahead, layout.synAck⟩,
        intake.clientTurn layout handshaking stepped arrives fits⟩
  | @server datagram exchange _ calls after receives arrives stepped =>
      obtain ⟨layout, intake⟩ := earlier fun other member =>
        fits other (List.mem_append_left _ member)
      have first : isSyn datagram = true → events.countP PairEvent.asks = 0 := by
        intro asks
        rw [PairEvent.asks, if_pos asks] at once
        omega
      rw [processedBy, List.append_nil]
      have reaction := handshaking.formed.reaction stepped
      exact ⟨layout.serverTurn handshaking receives arrives reaction (fun other member =>
          fits other (List.mem_append_right _ member)) first,
        intake.serverTurn layout handshaking receives arrives reaction first⟩
  | marked live =>
      obtain ⟨layout, intake⟩ := earlier fits
      rw [processedBy, List.append_nil]
      refine ⟨⟨layout.carried, fun zero => ⟨(layout.unasked zero).1, ?_⟩, layout.ordered, ?_,
        layout.synAck⟩, ⟨intake.known, intake.configured, intake.consumed, intake.ordered,
        intake.counted⟩⟩
      · have streams := (layout.unasked zero).2 _ live
        rintro _ ⟨⟩
        exact streams
      · have stands := layout.ahead _ live
        rintro _ ⟨⟩
        exact stands
  | expired =>
      obtain ⟨layout, intake⟩ := earlier fits
      rw [processedBy, List.append_nil]
      exact ⟨⟨layout.carried, fun zero => ⟨(layout.unasked zero).1, by rintro _ ⟨⟩⟩,
          layout.ordered, by rintro _ ⟨⟩, layout.synAck⟩,
        ⟨intake.known, intake.configured, intake.consumed, intake.ordered, intake.counted⟩⟩

end

/-! ## Data in order -/

/-- **Data is processed in order, with gaps.** In every run over a channel that loses, duplicates and
reorders, the data packets the client processes in the established state are a part of those the
server has sent, in the same order and none of them twice, as long as the SYN is not duplicated and no
packet of the server takes a number behind the last one. Each of them has been pushed. -/
theorem data_in_order {sink : Client.Sink} {addr : SockaddrIn6} {name : List UInt8}
    {memory : Chunk} {env : Env} {start : Client.Config} {events : List PairEvent} {pair : Pair}
    {processed : List (List UInt8)} (begun : Client.receive name memory env = .ok start)
    (run : TracedRun sink addr start events pair processed) (once : AsksOnce events)
    (fits : ∀ datagram ∈ pair.toClient.sent, (headerOf datagram).Fits) :
    processed.Sublist (pair.toClient.sent.filter isData) ∧
      (pair.toClient.sent.filter isData).Nodup ∧ processed.length = pair.chunksPushed := by
  obtain ⟨layout, intake⟩ := TracedRun.ordered begun run once fits
  have data : (pair.toClient.sent.filter isData).Pairwise Before :=
    layout.ordered.sublist (List.monotone_filter_right _ fun _ => isLoud_of_isData)
  refine ⟨sublist_of_before intake.ordered data fun datagram member => ?_, data.nodup,
    intake.counted⟩
  obtain ⟨sent, isData, _⟩ := intake.consumed datagram member
  exact List.mem_filter.mpr ⟨sent, isData⟩

/-! ## A song with a gap -/

section

variable (sink : Client.Sink) (addr : SockaddrIn6)

/-- What the client processes while turns are taken. -/
def Pair.trace (pair : Pair) : List Turn → List (List UInt8)
  | [] => []
  | turn :: turns =>
      match pair.take anyOrder sink addr turn with
      | none => []
      | some (event, next) => processedBy pair event ++ next.trace turns

/-- A replay is a run in which the client processes what is traced. -/
theorem Pair.replay_traced (pair : Pair) (processed : List (List UInt8)) (turns : List Turn) :
    Run (TracedStep sink addr) (pair, processed) (pair.replay anyOrder sink addr turns).1
      ((pair.replay anyOrder sink addr turns).2, processed ++ pair.trace sink addr turns) := by
  induction turns generalizing pair processed with
  | nil =>
      rw [Pair.trace, List.append_nil]
      exact .nil
  | cons turn turns ih =>
      unfold Pair.replay Pair.trace
      cases taken : pair.take anyOrder sink addr turn with
      | none =>
          rw [List.append_nil]
          exact .nil
      | some outcome =>
          have rest := ih outcome.2 (processed ++ processedBy pair outcome.1)
          rw [List.append_assoc] at rest
          exact (Run.singleton ⟨Pair.take_step taken, rfl⟩).append rest

end

/-- The song is streamed in two pieces, the first of which is lost. -/
def gapTurns : List Turn :=
  [.server 0 (Server.songEnv fun _ => .data Server.songHeader), .client 0 Client.calmEnv,
    .server 1 (Server.songEnv fun _ => .data [7]), .server 2 (Server.songEnv fun _ => .data [8, 9]),
    .client 2 Client.calmEnv, .server 3 (Server.songEnv fun _ => .data []), .client 3 Client.calmEnv]

/-- What happens then. -/
def gapStreamed : List PairEvent × Pair :=
  (Pair.start Client.songStart).replay anyOrder Client.driversIgnore Server.listener gapTurns

/-- What the client processes then. -/
def gapProcessed : List (List UInt8) :=
  (Pair.start Client.songStart).trace Client.driversIgnore Server.listener gapTurns

/-- The example loses a packet in a run. -/
theorem gapStreamed_run : TracedRun Client.driversIgnore Server.listener Client.songStart
    gapStreamed.1 gapStreamed.2 gapProcessed :=
  Pair.replay_traced Client.driversIgnore Server.listener (Pair.start Client.songStart) [] gapTurns

/-- The second piece is processed behind the gap. -/
theorem data_in_order_gap : gapProcessed.Sublist (gapStreamed.2.toClient.sent.filter isData) ∧
    (gapStreamed.2.toClient.sent.filter isData).Nodup ∧
      gapProcessed.length = gapStreamed.2.chunksPushed :=
  data_in_order Client.songStart_begun gapStreamed_run (by decide +kernel) (by decide +kernel)

/-- The client goes on behind a gap, and returns success. -/
theorem data_not_gapless : ¬ ∀ (sink : Client.Sink) (addr : SockaddrIn6) (name : List UInt8)
    (memory : Chunk) (env : Env) (start : Client.Config) (events : List PairEvent) (pair : Pair)
    (processed : List (List UInt8)), Client.receive name memory env = .ok start →
    TracedRun sink addr start events pair processed → AsksOnce events →
    processed <+: pair.toClient.sent.filter isData ∧
      (pair.client.stage = .returned 0 → processed = pair.toClient.sent.filter isData) := by
  intro gapless
  obtain ⟨early, _⟩ := gapless _ _ _ _ _ _ _ _ _ Client.songStart_begun gapStreamed_run
    (by decide +kernel)
  exact absurd early (by decide +kernel)

example : gapProcessed.map payloadOf = [[8, 9]] ∧ gapStreamed.2.client.stage = .returned 0 := by
  decide +kernel

end Sas.System
