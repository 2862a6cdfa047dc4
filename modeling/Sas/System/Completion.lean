import Sas.System.Tenancy
import Sas.System.FileName
import Sas.Client.Replies
import Sas.Server.Acceptance

/-! # Transfers complete

Over lossless channels, where the file is there, is accepted, and is read without a failure, the
client cannot return before all of it has been delivered, and then returns success. Until then the
transfer can go on, and it does not go on forever: the datagrams that arrive in all are bounded by the
length of the file and the calls of the sink.
-/

namespace Sas.System

open Foundation Transport Formats

/-- A datagram arrives in the event. -/
def PairEvent.delivers : PairEvent → Bool
  | .client _ => true
  | .server _ _ _ _ => true
  | .marked _ _ => false
  | .expired => false

/-- The call has failed to open a file. -/
def Misses : Syscall → Prop
  | .open _ (.failed _) => True
  | _ => False

/-- No file has been missed in the event. -/
def Found : PairEvent → Prop
  | .server _ _ _ calls => ∀ call ∈ calls, ¬ Misses call
  | .client _ => True
  | .marked _ _ => True
  | .expired => True

instance : DecidablePred Misses
  | .open _ (.failed _) => isTrue trivial
  | .open _ (.descriptor _) | .read _ _ _ | .close _ _ | .send _ _ _ => isFalse not_false

instance : DecidablePred Found
  | .server _ _ _ calls => List.decidableBAll (fun call => ¬ Misses call) calls
  | .client _ | .marked _ _ | .expired => isTrue trivial

/-- A run over lossless channels in which the server finds the file and reads it without a failure. -/
structure Transfer (sink : Client.Sink) (addr : SockaddrIn6) (file : List UInt8)
    (start : Client.Config) (events : List PairEvent) (pair : Pair) : Prop where
  run : FileRun sink addr file start events pair
  found : ∀ event ∈ events, Found event

/-! ## What the server meets -/

section

variable {session : Server.Session} {exchange : Server.Exchange} {calls : List Syscall}
  {after : Option Server.Session}

/-- A SYN makes the server read the header of the file it asks for, or miss the file. -/
theorem syn_calls (stepped : Server.SessionStep (some session) (.packet exchange calls) after)
    (initial : session.state = .initial) (heard : Server.Heard session exchange.header)
    (syn : packetFlagIsset exchange.header.flags packetFlagSyn = true)
    (plain : exchange.codec = 0) :
    ((∃ errno, exchange.env.openReply 0 = .failed errno) ∧ ∃ call ∈ calls, Misses call) ∨
      ∃ fd, exchange.env.openReply 0 = .descriptor fd ∧ readsBy calls = [exchange.headerRead] ∧
        ∀ call ∈ calls, ¬ Misses call := by
  obtain ⟨outcome, handled, rfl, _⟩ := stepped
  rw [Server.handledBy_heard heard, initial] at handled
  cases opening : exchange.env.openReply 0 with
  | failed errno =>
      cases (Server.sessionOpen_missing syn plain opening).symm.trans handled
      refine .inl ⟨⟨errno, rfl⟩, .open exchange.name (.failed errno), ?_, trivial⟩
      exact List.mem_append_left _ (List.mem_singleton_self _)
  | descriptor fd =>
      obtain ⟨kernel, read, made⟩ := Server.formatsWav_exchange exchange fd
      have outside : ∀ {destination datagram failure},
          readsBy (kernel.calls ++ [.send destination datagram failure]) = [exchange.headerRead] ∧
            ∀ call ∈ kernel.calls ++ [.send destination datagram failure], ¬ Misses call := by
        intro destination datagram failure
        rw [made]
        refine ⟨rfl, fun call member misses => ?_⟩
        simp only [List.cons_append, List.nil_append, List.mem_cons, List.not_mem_nil,
          or_false] at member
        rcases member with rfl | rfl | rfl
        · exact misses
        · exact misses
        · exact misses
      refine .inr ⟨fd, rfl, ?_⟩
      cases format : Wav.sourceOf fd exchange.waveHeader with
      | none =>
          rw [format] at read
          cases (Server.sessionOpen_format syn plain opening read).symm.trans handled
          exact outside
      | some source =>
          rw [format] at read
          cases (Server.sessionOpen_format syn plain opening read).symm.trans handled
          exact outside

/-- A file that is accepted and whose header has been read is offered. -/
theorem offered_of_header {file : List UInt8} (accepted : Accepts file) {fd : Nat}
    (opening : exchange.env.openReply 0 = .descriptor fd)
    (read : exchange.headerRead = .data (file.take Wav.waveHeaderSize)) :
    ∃ source, exchange.offered = some (fd, source) := by
  have header : exchange.waveHeader =
      Wav.waveHeader (blank.write (file.take Wav.waveHeaderSize)) := by
    unfold Server.Exchange.waveHeader
    rw [read]
    exact Wav.waveHeader_write accepted.1 _ _
  have some : (Wav.sourceOf fd exchange.waveHeader).isSome = true := by
    rw [header, Wav.sourceOf_isSome, ← @Wav.sourceOf_isSome 3]
    exact accepted.2
  obtain ⟨source, offers⟩ := Option.isSome_iff_exists.mp some
  refine ⟨source, ?_⟩
  rw [Server.Exchange.offered, opening]
  change (Wav.sourceOf fd exchange.waveHeader).map _ = _
  rw [offers]
  rfl

/-- A packet that a session with an open stream hears makes it read the stream once; where the read
succeeds, it reports no error. -/
theorem reaction_pulls (reaction : Server.Reaction session exchange calls after)
    (heard : Server.Heard session exchange.header) (streaming : Server.Streaming session)
    (opened : Server.Open session) :
    readsBy calls = [exchange.streamRead] ∧ (∀ call ∈ calls, ¬ Misses call) ∧
      (Succeeds exchange.streamRead → ∀ datagram ∈ sentBy calls, isErr datagram = false) := by
  have late : session.state ≠ .initial := fun state =>
    Server.not_streaming_of_initial state streaming
  cases reaction with
  | dropped behind => exact (behind heard.1).elim
  | forgotten _ reset => exact absurd (heard.2.symm.trans reset) Bool.false_ne_true
  | reset _ state => exact (late state).elim
  | refused _ state => exact (late state).elim
  | opened _ state => exact (late state).elim
  | silent _ _ pipeline finished =>
      exact (Server.not_open_of_finished ⟨_, pipeline, finished⟩ opened).elim
  | chunk _ _ pipeline unfinished read some small sends =>
      obtain ⟨datagram, sent, unread, _, _, _, _, _, err⟩ := sends.kind
      obtain ⟨_, failure, rfl, _⟩ := sends
      refine ⟨by rw [readsBy_read, unread, readsBy_nil, read], fun call member misses => ?_,
        fun _ other member => ?_⟩
      · rcases List.mem_cons.mp member with rfl | last
        · exact misses
        · rw [List.mem_singleton.mp last] at misses
          exact misses
      · rw [sentBy_read, sent, sentBy_nil] at member
        rw [List.mem_singleton.mp member, err]
        decide
  | ended _ _ pipeline unfinished read sends =>
      obtain ⟨datagram, sent, unread, _, _, _, _, _, err⟩ := sends.kind
      obtain ⟨_, failure, rfl, _⟩ := sends
      refine ⟨by rw [readsBy_read, readsBy_close, unread, readsBy_nil, read],
        fun call member misses => ?_, fun _ other member => ?_⟩
      · simp only [List.mem_cons, List.not_mem_nil, or_false] at member
        rcases member with rfl | rfl | rfl
        · exact misses
        · exact misses
        · exact misses
      · rw [sentBy_read, sentBy_close, sent, sentBy_nil] at member
        rw [List.mem_singleton.mp member, err]
        decide
  | failed _ _ pipeline unfinished read sends =>
      obtain ⟨datagram, sent, unread, _⟩ := sends.kind
      obtain ⟨_, failure, rfl, _⟩ := sends
      refine ⟨by rw [readsBy_read, unread, readsBy_close, readsBy_nil, read],
        fun call member misses => ?_, fun succeeds => ?_⟩
      · simp only [List.mem_cons, List.not_mem_nil, or_false] at member
        rcases member with rfl | rfl | rfl
        · exact misses
        · exact misses
        · exact misses
      · rw [read] at succeeds
        exact succeeds.elim

end

/-! ## The SYN -/

section

variable {sink : Client.Sink} {addr : SockaddrIn6} {start : Client.Config}
  {pair next : Pair} {event : PairEvent} {events : List PairEvent} {file : List UInt8}
  {name : List UInt8} {memory : Chunk} {env : Env}

/-- The SYN asks for the codec zero. -/
theorem syn_carries (begun : Client.receive name memory env = .ok start) :
    ∃ syn header asked, sentBy start.world.kernel.calls = [syn] ∧
      Carries syn header (0 :: asked) := by
  obtain ⟨⟨err, world⟩, sent, left⟩ := bind_eq_ok begun
  have same : start.world = world := by
    by_cases failed : err ≠ 0
    · cases (if_pos failed).symm.trans left
      rfl
    · cases (if_neg failed).symm.trans left
      rfl
  have positive : name.length % 2 ^ 16 < 2 ^ 15 := by
    by_contra high
    have negative : (Int16.ofNat name.length).toInt < 0 :=
      (toInt_length_neg name.length).mpr (not_lt.mp high)
    unfold Client.sessionSyn at sent
    simp only [if_pos negative] at sent
    cases sent
  rw [sessionSyn_eq positive] at sent
  have short : (packetCfgEncode ⟨0⟩ ++ name.take (name.length % 2 ^ 16)).length =
      packetCfgSize + name.length % 2 ^ 16 := by
    rw [List.length_append, List.length_take, Nat.min_eq_left (Nat.mod_le _ _)]
    rfl
  have announced : (UInt16.ofNat (packetCfgSize + name.length % 2 ^ 16)).toNat =
      packetCfgSize + name.length % 2 ^ 16 :=
    UInt16.toNat_ofNat_of_lt' (by rw [packetCfgSize, UInt16.size]; omega)
  obtain ⟨syn, failure, called, carries, _⟩ := Client.sessionSend_calls packetFlagSyn _
    (Client.World.withState ⟨Client.clientInit memory, ⟨env, 0, []⟩, []⟩ .synSent)
    (Server.read_write_ofNat (Memory.shift (Kernel.garbage ⟨env, 0, []⟩) packetHeaderSize)
      (announced.trans short.symm))
  have after : world = _ := (congrArg Prod.snd (Except.ok.inj sent)).symm
  refine ⟨syn, _, name.take (name.length % 2 ^ 16), ?_, carries⟩
  rw [same, after]
  exact congrArg sentBy called

/-- The first thing the client has sent is its SYN. -/
theorem PairRun.head {delivery : Delivery} {syn : List UInt8}
    (asks : sentBy start.world.kernel.calls = [syn])
    (run : PairRun delivery sink addr start events pair) :
    ∃ later, pair.toServer.sent = syn :: later := by
  refine run.invariant (fun pair => ∃ later, pair.toServer.sent = syn :: later) ⟨[], asks⟩ ?_
  rintro before event next ⟨later, first⟩ step
  cases step with
  | @client event _ stepped =>
      refine ⟨later ++ sentBy event.calls, ?_⟩
      change before.toServer.sent ++ sentBy event.calls = _
      rw [first]
      rfl
  | server => exact ⟨later, first⟩
  | marked => exact ⟨later, first⟩
  | expired => exact ⟨later, first⟩

/-- A SYN for the codec zero is received as one. -/
theorem codec_of_carries {datagram asked : List UInt8} {header : PacketHeader}
    {exchange : Server.Exchange} (carries : Carries datagram header (0 :: asked))
    (receives : Receives exchange datagram) : exchange.codec = 0 := by
  obtain ⟨buffer, _, payload, _⟩ := receives
  have length := carries.length_eq
  have behind := carries.payloadOf_eq
  have there : datagram[packetHeaderSize]? = some 0 := by
    have first := congrArg (fun bytes : List UInt8 => bytes[0]?) behind
    rwa [payloadOf, List.getElem?_drop] at first
  obtain ⟨below, same⟩ := List.getElem?_eq_some_iff.mp there
  have within : packetHeaderSize < (datagram.take bufferSize).length := by
    rw [List.length_take]
    exact Nat.lt_min.mpr ⟨by decide, below⟩
  rw [Server.Exchange.codec, payload]
  change receiveInto buffer datagram packetHeaderSize = 0
  rw [receiveInto, Memory.write_of_lt _ _ within, List.getElem_take, same]

/-! ## Nothing fails -/

/-- A server that has sent nothing handles the SYN, which it has not read anything for. -/
theorem Attended.begins (attended : Attended pair) (lets : Let addr events pair)
    (silent : pair.toClient.sent = []) (vacant : pair.session = none)
    (begun : Client.receive name memory env = .ok start)
    (ran : PairRun anyOrder sink addr start events pair)
    {datagram : List UInt8} {exchange : Server.Exchange} {contents : Server.Uninitialized}
    {calls : List Syscall} {after : Option Server.Session}
    (receives : Receives exchange datagram)
    (arrives : inOrder pair.toServer.sent pair.toServer.arrived datagram)
    (stepped : Server.SessionStep (some (pair.current addr contents)) (.packet exchange calls)
      after) :
    readsOf events = [] ∧
      (((∃ errno, exchange.env.openReply 0 = .failed errno) ∧ ∃ call ∈ calls, Misses call) ∨
        (readsBy calls = [exchange.headerRead] ∧ (∀ call ∈ calls, ¬ Misses call) ∧
          (Accepts file → exchange.headerRead = .data (file.take Wav.waveHeaderSize) →
            ∀ datagram ∈ sentBy calls, isErr datagram = false))) := by
  obtain ⟨syn, header, asked, asks, carries⟩ := syn_carries begun
  obtain ⟨later, first⟩ := ran.head asks
  obtain ⟨initial, heard, flag, head⟩ :=
    attended.backlog.hears_syn silent vacant receives arrives
  have own : syn = datagram := by
    rw [first] at head
    exact Option.some.inj head
  subst own
  have plain := codec_of_carries carries receives
  refine ⟨?_, ?_⟩
  · cases lets.tenant with
    | none idle =>
        rw [← lets.reads, idle]
        rfl
    | one _ loud => exact (loud silent).elim
  · rcases syn_calls stepped initial heard flag plain with missed | ⟨fd, opening, reads, finds⟩
    · exact .inl missed
    · refine .inr ⟨reads, finds, fun accepted read answer member => ?_⟩
      obtain ⟨source, offered⟩ := offered_of_header accepted opening read
      have reaction := attended.backlog.agreement.formed.reaction stepped
      obtain ⟨_, ⟨synAck, sent, loud⟩, _⟩ :=
        reaction_opens reaction initial heard flag plain offered
      rw [sent] at member
      rw [List.mem_singleton.mp member]
      cases err : isErr synAck with
      | false => rfl
      | true => exact absurd (loud.symm.trans (isRst_of_isErr err)) Bool.false_ne_true

/-- The first read of a whole header returns the one of the file. -/
theorem header_of_delivers {reply : ReadReply} (delivers : Delivers file [reply])
    (header : Server.HeaderRead [reply]) : reply = .data (file.take Wav.waveHeaderSize) := by
  have whole := header reply [] rfl
  cases reply with
  | data bytes =>
      obtain ⟨⟨rest, rfl⟩, _⟩ := delivers
      have length : bytes.length = Wav.waveHeaderSize := whole
      rw [← length, List.take_left]
  | failed errno => cases whole

/-- The server of a transfer reports no error. -/
theorem Transfer.no_errors (accepted : Accepts file)
    (begun : Client.receive name memory env = .ok start) (waits : start.stage = .select)
    (transfer : Transfer sink addr file start events pair) :
    ∀ datagram ∈ pair.toClient.sent, isErr datagram = false := by
  obtain ⟨⟨run, delivers, header, succeeds⟩, found⟩ := transfer
  refine run.history (fun events pair => Delivers file (readsOf events) →
    Server.HeaderRead (readsOf events) → (∀ reply ∈ readsOf events, Succeeds reply) →
    (∀ event ∈ events, Found event) → ∀ datagram ∈ pair.toClient.sent, isErr datagram = false)
    (fun _ _ _ _ _ member => (List.not_mem_nil member).elim) ?_ delivers header succeeds found
  intro events pair event next before fine step delivers header succeeds found
  have attended := LosslessRun.attended begun waits before
  have lets := LosslessRun.lets begun waits before
  rw [readsOf_append, readsOf_singleton] at delivers header succeeds
  have earlier := fine delivers.of_append.choose_spec.2.1 (Server.headerRead_of_append header)
    (fun reply member => succeeds reply (List.mem_append_left _ member))
    fun event member => found event (List.mem_append_left _ member)
  have finds : Found event := found event (List.mem_append_right _ (List.mem_singleton_self _))
  obtain ⟨step, lossless⟩ := step
  cases step with
  | client stepped arrives => exact earlier
  | marked live => exact earlier
  | expired => exact lossless.elim
  | @server datagram exchange contents calls after receives arrives stepped =>
      have more : ∀ datagram ∈ sentBy calls, isErr datagram = false := by
        cases attended.course with
        | asked silent vacant =>
            obtain ⟨unread, missed | ⟨reads, _, answers⟩⟩ :=
              @Attended.begins sink addr start pair events file name memory env attended lets silent
                vacant begun (before.mono fun _ _ _ step => step.1.anyOrder) datagram exchange
                contents calls after receives arrives stepped
            · obtain ⟨_, call, made, misses⟩ := missed
              exact (finds call made misses).elim
            · rw [PairEvent.reads, unread, reads, List.nil_append] at delivers header
              exact answers accepted (header_of_delivers delivers header)
        | refused sent _ _ vacant =>
            refine (attended.backlog.nothing_arrives vacant ?_ arrives).elim
            rw [sent]
            exact List.cons_ne_nil _ _
        | @streaming _ _ session sent syn other data live streams opened =>
            have heard := @Agreement.hears addr pair datagram exchange contents
              attended.backlog.agreement receives arrives
            have reaction := attended.backlog.agreement.formed.reaction stepped
            rw [Pair.current, live] at reaction heard
            obtain ⟨reads, _, answers⟩ := reaction_pulls reaction heard streams opened
            refine answers (succeeds _ (List.mem_append_right _ ?_))
            rw [PairEvent.reads, reads]
            exact List.mem_singleton_self _
        | ended sent syn other data ends live streams finished =>
            have reaction := attended.backlog.agreement.formed.reaction stepped
            rw [Pair.current, live] at reaction
            have formed := attended.backlog.agreement.formed.2 _ live
            rw [(reaction.silent_of_finished formed finished).1]
            exact fun _ member => (List.not_mem_nil member).elim
      intro other member
      rcases List.mem_append.mp member with old | new
      · exact earlier other old
      · exact more other new

/-! ## The end -/

/-- A client that has returned has returned success, and everything has been delivered. -/
theorem Transfer.returned (accepted : Accepts file)
    (begun : Client.receive name memory env = .ok start) (waits : start.stage = .select)
    (transfer : Transfer sink addr file start events pair) {code : Int32}
    (returned : pair.client.stage = .returned code) :
    code = 0 ∧ streamOf pair.toClient.delivered = file.drop Wav.waveHeaderSize := by
  have attended := LosslessRun.attended begun waits transfer.run.run
  have fine := transfer.no_errors accepted begun waits
  obtain ⟨datagram, arrived, reset, _, same⟩ := attended.returns code returned
  have member : datagram ∈ pair.toClient.sent := List.mem_of_mem_take arrived
  have zero : code = 0 := by
    rw [same, resultOf, fine datagram member, if_neg Bool.false_ne_true]
  refine ⟨zero, ?_⟩
  have fin : isFin datagram = true := by
    cases attended.course.ends member reset with
    | finished fin => exact fin
    | failed err => exact absurd ((fine datagram member).symm.trans err) Bool.false_ne_true
  obtain ⟨before, after, split⟩ := List.append_of_mem arrived
  have whole : pair.toClient.sent = before ++ datagram :: (after ++ pair.toClient.inFlight) := by
    rw [← pair.toClient.delivered_append, split, List.append_assoc, List.cons_append]
  obtain ⟨within, each⟩ := transfer.run.inStream begun waits
  have all := (each before datagram _ whole).2 fin
  have other : isData datagram = false := isData_of_isRst reset
  rw [whole, streamOf_append, all] at within
  have none : streamOf after = [] := by
    have short := within.length_le
    rw [← List.singleton_append, streamOf_append, streamOf_append, streamOf_singleton_eq_nil other,
      List.nil_append, List.length_append, List.length_append] at short
    exact List.eq_nil_of_length_eq_zero (by omega)
  rw [split, streamOf_append, ← List.singleton_append, streamOf_append,
    streamOf_singleton_eq_nil other, none, all]
  exact List.append_nil _

/-! ## Going on -/

/-- In a run of a pair its client runs. -/
theorem PairRun.clientRun {delivery : Delivery} (run : PairRun delivery sink addr start events pair) :
    ∃ iterations, Client.ClientRun sink start iterations pair.client := by
  refine run.invariant (fun pair => ∃ iterations, Client.ClientRun sink start iterations pair.client)
    ⟨[], .nil⟩ ?_
  rintro before event next ⟨iterations, earlier⟩ step
  cases step with
  | client stepped => exact ⟨_, earlier.snoc stepped⟩
  | server | marked | expired => exact ⟨iterations, earlier⟩

/-- The sink of the client of a pair is served. -/
theorem PairRun.serving {delivery : Delivery} (once : sink.CancelsOnce)
    (begun : Client.receive name memory env = .ok start)
    (run : PairRun delivery sink addr start events pair) :
    Client.Serving sink pair.client.world := by
  obtain ⟨_, iterations⟩ := run.clientRun
  exact Client.ClientRun.serving once begun iterations

/-- The next read of a file continues the reads before. -/
theorem delivers_snoc {replies : List ReadReply} {bytes : List UInt8}
    (delivers : Delivers file replies) (next : bytes <+: file.drop (bytesRead replies).length)
    (ends : bytes = [] → file.drop (bytesRead replies).length = []) :
    Delivers file (replies ++ [.data bytes]) := by
  induction replies generalizing file with
  | nil => exact ⟨next, ends, trivial⟩
  | cons reply replies ih =>
      cases reply with
      | data first =>
          obtain ⟨within, ended, rest⟩ := delivers
          rw [bytesRead_cons, ReadReply.bytes, List.length_append, ← List.drop_drop] at next ends
          exact ⟨within, ended, ih rest next ends⟩
      | failed errno => exact ih delivers next ends

/-- The environment in which the file is there and the next read returns what it still has. -/
def readingOn (file : List UInt8) (replies : List ReadReply) : Env :=
  Server.songEnv fun _ => .data (file.drop (bytesRead replies).length)

/-- What the next read returns of a file is delivered behind what has been read. -/
theorem delivers_atMost {replies : List ReadReply} {size : Nat} (delivers : Delivers file replies)
    (some : 0 < size) : Delivers file (replies ++
      [ReadReply.atMost size (.data (file.drop (bytesRead replies).length))]) := by
  refine delivers_snoc delivers (List.take_prefix _ _) fun none => ?_
  rcases List.take_eq_nil_iff.mp none with zero | nothing
  · omega
  · exact nothing

/-- An event that reads on continues a transfer. -/
theorem Transfer.snoc (transfer : Transfer sink addr file start events pair)
    (step : LosslessStep sink addr pair event next)
    (delivers : Delivers file (readsOf events ++ event.reads))
    (header : readsOf events = [] → Server.HeaderRead event.reads)
    (succeeds : ∀ reply ∈ event.reads, Succeeds reply) (found : Found event) :
    Transfer sink addr file start (events ++ [event]) next := by
  have reads : readsOf (events ++ [event]) = readsOf events ++ event.reads := by
    rw [readsOf_append, readsOf_singleton]
  refine ⟨⟨transfer.run.run.snoc step, by rw [reads]; exact delivers, ?_, ?_⟩, ?_⟩
  · rw [reads]
    cases before : readsOf events with
    | nil => exact header before
    | cons first rest =>
        rintro _ _ ⟨⟩
        exact transfer.run.header first rest before
  · rw [reads]
    exact List.forall_mem_append.mpr ⟨transfer.run.succeeds, succeeds⟩
  · exact List.forall_mem_append.mpr ⟨transfer.found, List.forall_mem_singleton.mpr found⟩

/-- A datagram on its way to the client of a transfer can arrive. -/
theorem Transfer.client_goes_on (once : sink.CancelsOnce)
    (begun : Client.receive name memory env = .ok start)
    (transfer : Transfer sink addr file start events pair) (selecting : pair.client.stage = .select)
    {datagram : List UInt8}
    (arrives : inOrder pair.toClient.sent pair.toClient.arrived datagram) :
    ∃ event next, event.delivers = true ∧
      Transfer sink addr file start (events ++ [event]) next := by
  have formed := (LosslessRun.agreement begun transfer.run.run).formed
  have serving := PairRun.serving once begun (transfer.run.run.mono fun _ _ _ step => step.1)
  obtain ⟨calls, client, _, step, _⟩ := formed.takes once serving selecting arrives
    (rfl : Client.calmEnv.sendReply = fun _ => none) addr blank
  refine ⟨_, _, rfl, transfer.snoc step ?_ ?_ ?_ trivial⟩
  · rw [PairEvent.reads, List.append_nil]
    exact transfer.run.delivers
  · rintro _ header rest ⟨⟩
  · exact fun _ member => (List.not_mem_nil member).elim

/-- A datagram on its way to the server of a transfer whose client has been sent no reset can
arrive, and the server reads on. -/
theorem Transfer.server_goes_on (accepted : Accepts file)
    (begun : Client.receive name memory env = .ok start) (waits : start.stage = .select)
    (transfer : Transfer sink addr file start events pair)
    (plain : ∀ datagram ∈ pair.toClient.sent, isRst datagram = false) {datagram : List UInt8}
    (arrives : inOrder pair.toServer.sent pair.toServer.arrived datagram) :
    ∃ event next, event.delivers = true ∧
      Transfer sink addr file start (events ++ [event]) next := by
  have run := transfer.run.run
  have attended := LosslessRun.attended begun waits run
  have formed := attended.backlog.agreement.formed
  have calm : (readingOn file (readsOf events)).sendReply = fun _ => none := rfl
  obtain ⟨calls, after, step, reaction⟩ := @Formed.serves sink pair datagram _ formed arrives calm
    addr
  have receives : Receives (exchangeOf datagram (readingOn file (readsOf events))) datagram :=
    ⟨blank, rfl, rfl, rfl⟩
  refine ⟨.server datagram (exchangeOf datagram (readingOn file (readsOf events))) blankSession calls,
    pair.serverTurn calls after, rfl, ?_⟩
  cases attended.course with
  | asked silent vacant =>
      have stepped := step.1
      cases stepped with
      | server _ _ stepped =>
          obtain ⟨unread, missed | ⟨reads, finds, _⟩⟩ :=
            @Attended.begins sink addr start pair events file name memory env attended
              (LosslessRun.lets begun waits run) silent vacant begun
              (run.mono fun _ _ _ step => step.1.anyOrder) datagram _ blankSession calls after
              receives arrives stepped
          · obtain ⟨⟨errno, other⟩, _⟩ := missed
            cases other
          · have whole : Server.Exchange.headerRead
                (exchangeOf datagram (readingOn file (readsOf events))) =
                .data (file.take Wav.waveHeaderSize) := by
              rw [unread]
              rfl
            rw [whole] at reads
            refine transfer.snoc step ?_ ?_ ?_ finds
            · rw [PairEvent.reads, reads, unread]
              exact @delivers_atMost file [] Wav.waveHeaderSize trivial (by decide)
            · rintro _ header rest same
              rw [PairEvent.reads, reads] at same
              cases same
              exact List.length_take_of_le accepted.1
            · rw [PairEvent.reads, reads]
              exact List.forall_mem_singleton.mpr trivial
  | refused sent ends _ _ =>
      have reset := plain _ (by rw [sent]; exact List.mem_singleton_self _)
      exact absurd (reset.symm.trans ends.isRst) Bool.false_ne_true
  | @streaming _ _ session sent syn other data live streams opened =>
      have heard := @Agreement.hears addr pair datagram _ blankSession
        attended.backlog.agreement receives arrives
      rw [Pair.current, live] at reaction heard
      obtain ⟨reads, finds, _⟩ := reaction_pulls reaction heard streams opened
      have piece : Server.Exchange.streamRead
          (exchangeOf datagram (readingOn file (readsOf events))) =
          ReadReply.atMost Wav.bufferSize
            (.data (file.drop (bytesRead (readsOf events)).length)) := rfl
      rw [piece] at reads
      refine transfer.snoc step ?_ ?_ ?_ finds
      · rw [PairEvent.reads, reads]
        exact delivers_atMost transfer.run.delivers (by decide)
      · intro nothing
        exact ((LosslessRun.explained begun run).streaming session live streams nothing).elim
      · rw [PairEvent.reads, reads]
        exact List.forall_mem_singleton.mpr trivial
  | @ended _ last _ _ sent _ _ _ ends =>
      have reset := plain last (by
        rw [sent]
        exact List.mem_cons_of_mem _ (List.mem_append_right _ (List.mem_singleton_self _)))
      exact absurd (reset.symm.trans ends.isRst) Bool.false_ne_true

/-- As long as the client waits, the transfer can go on. -/
theorem Transfer.goes_on (once : sink.CancelsOnce) (accepted : Accepts file)
    (begun : Client.receive name memory env = .ok start) (waits : start.stage = .select)
    (transfer : Transfer sink addr file start events pair)
    (selecting : pair.client.stage = .select) :
    ∃ event next, event.delivers = true ∧
      Transfer sink addr file start (events ++ [event]) next := by
  have attended := LosslessRun.attended begun waits transfer.run.run
  have flying : ∀ {channel : Channel}, channel.inFlight ≠ [] →
      ∃ datagram, inOrder channel.sent channel.arrived datagram := by
    intro channel flies
    have below : channel.arrived < channel.sent.length := by
      by_contra past
      exact flies (List.drop_eq_nil_of_le (not_lt.mp past))
    exact ⟨_, List.getElem?_eq_getElem below⟩
  by_cases taken : pair.toClient.inFlight = []
  case neg =>
    obtain ⟨datagram, arrives⟩ := flying taken
    exact transfer.client_goes_on once begun selecting arrives
  case pos =>
    have whole : pair.toClient.delivered = pair.toClient.sent := by
      rw [← pair.toClient.delivered_append, taken, List.append_nil]
    have stops := attended.waits selecting
    rw [whole] at stops
    have plain : ∀ datagram ∈ pair.toClient.sent, isRst datagram = false := by
      intro datagram member
      cases reset : isRst datagram with
      | false => rfl
      | true =>
          have fine := transfer.no_errors accepted begun waits datagram member
          exact absurd (fine.symm.trans (stops datagram member reset).1) Bool.false_ne_true
    rcases attended.pending with ⟨datagram, member, reset⟩ | onWay | onWay
    · exact absurd ((plain datagram member).symm.trans reset) Bool.false_ne_true
    · obtain ⟨datagram, arrives⟩ := flying onWay
      exact transfer.server_goes_on accepted begun waits plain arrives
    · exact (onWay taken).elim

/-! ## Not forever -/

/-- Over lossless channels, a datagram arrives in an event for each one that has arrived. -/
theorem LosslessRun.countP_delivers (run : LosslessRun sink addr start events pair) :
    events.countP PairEvent.delivers = pair.toServer.arrived + pair.toClient.arrived := by
  refine run.history (fun events pair => events.countP PairEvent.delivers =
    pair.toServer.arrived + pair.toClient.arrived) rfl ?_
  rintro events pair event next _ same ⟨step, lossless⟩
  rw [List.countP_append, List.countP_singleton, same]
  cases step with
  | @client clientEvent client stepped =>
      have one : takenBy clientEvent.input = 1 := if_pos lossless.1
      change _ + 1 = pair.toServer.arrived + (pair.toClient.arrived + takenBy clientEvent.input)
      omega
  | server =>
      change _ + 1 = (pair.toServer.arrived + 1) + pair.toClient.arrived
      omega
  | marked => rfl
  | expired => rfl

/-- The client of a pair says no more than it is allowed. -/
theorem PairRun.said {delivery : Delivery} (begun : Client.receive name memory env = .ok start)
    (run : PairRun delivery sink addr start events pair) :
    pair.toServer.sent.length ≤ 1 + Client.allowance sink pair.client.world.pushed := by
  refine run.history (fun _ pair => pair.toServer.sent.length ≤
    1 + Client.allowance sink pair.client.world.pushed) ?_ ?_
  · obtain ⟨_, _, _, _, _, _, pushed, calls, _⟩ := Client.receive_spec begun
    change (sentBy start.world.kernel.calls).length ≤ 1 + Client.allowance sink start.world.pushed
    rw [calls, pushed]
    exact Nat.le_refl _
  · intro events pair event next before few step
    have formed := PairRun.formed begun before
    cases step with
    | @client clientEvent client stepped =>
        have more := stepped.said formed.1
        change (pair.toServer.sent ++ sentBy clientEvent.calls).length ≤
          1 + Client.allowance sink client.world.pushed
        rw [List.length_append]
        omega
    | server => exact few
    | marked => exact few
    | expired => exact few

/-- The datagrams that arrive in a transfer are bounded by the file and the calls of the sink. -/
theorem Transfer.countP_delivers (begun : Client.receive name memory env = .ok start)
    (waits : start.stage = .select) (transfer : Transfer sink addr file start events pair) :
    events.countP PairEvent.delivers ≤ 2 * (file.drop Wav.waveHeaderSize).length + 5 +
      (Client.sinkCalls sink pair.client.world.pushed).length := by
  have run := transfer.run.run
  have backlog := LosslessRun.backlog begun run
  have answers := transfer.run.length_le begun waits
  have requests := PairRun.said begun (run.mono fun _ _ _ step => step.1)
  have served := backlog.agreement.served
  have taken := backlog.agreement.taken
  unfold Channel.Bounded at served taken
  have pushed : pair.client.world.pushed.length ≤ pair.toClient.sent.length := by
    rw [backlog.pushed]
    exact Nat.le_trans List.countP_le_length (List.length_take_le' _ _)
  have allowed : Client.allowance sink pair.client.world.pushed ≤
      pair.client.world.pushed.length + (Client.sinkCalls sink pair.client.world.pushed).length := by
    unfold Client.allowance
    split
    · exact Nat.zero_le _
    · exact Nat.le_refl _
  rw [LosslessRun.countP_delivers run]
  omega

/-- **A transfer completes.** Over lossless channels, with a sink that cancels at most once and a file
that the server finds, accepts and reads: a client that has returned has returned success and has been
sent the whole file behind its header; one that has not returned can be sent something more; and no
more datagrams arrive than twice the bytes of the file, five, and the calls of the sink. -/
theorem transfer_completes (once : sink.CancelsOnce) (accepted : Accepts file)
    (begun : Client.receive name memory env = .ok start) (waits : start.stage = .select)
    (transfer : Transfer sink addr file start events pair) :
    (∀ code, pair.client.stage = .returned code →
        code = 0 ∧ streamOf pair.toClient.delivered = file.drop Wav.waveHeaderSize) ∧
      (pair.client.stage = .select → ∃ event next, event.delivers = true ∧
        Transfer sink addr file start (events ++ [event]) next) ∧
      events.countP PairEvent.delivers ≤ 2 * (file.drop Wav.waveHeaderSize).length + 5 +
        (Client.sinkCalls sink pair.client.world.pushed).length :=
  ⟨fun _ returned => transfer.returned accepted begun waits returned,
    fun selecting => transfer.goes_on once accepted begun waits selecting,
    transfer.countP_delivers begun waits⟩

end

/-- The song of nine bytes is transferred. -/
theorem transfer_completes_nine :
    streamOf nineStreamed.2.toClient.delivered = nineBytes.drop Wav.waveHeaderSize :=
  ((transfer_completes driversIgnore_once (by decide +kernel) Client.songStart_begun
    (by decide +kernel) ⟨nineStreamed_run, by decide +kernel⟩).1 0 (by decide +kernel)).2

end Sas.System
