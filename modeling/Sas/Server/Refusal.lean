import Sas.Server.Loop
import Sas.Server.Descriptors
import Sas.Server.Waiting

/-! # Refused requests

A SYN that cannot be served is answered with an error packet, and its session is deleted before it has
been anything but a place in the table. The code in the packet is `EINVAL` for a foreign codec and
otherwise whatever `errno` holds, which a file that opens and is no WAV file has not set.
-/

namespace Sas.Server

open Foundation Transport Rxc Formats

/-- The packet is a SYN for a stream that the server does not offer. -/
structure Refuses (session : Session) (exchange : Exchange) : Prop where
  heard : Heard session exchange.header
  state : session.state = .initial
  syn : packetFlagIsset exchange.header.flags packetFlagSyn = true
  refused : exchange.codec ≠ 0 ∨ exchange.offered = none

/-- The value of `errno` once the file has been opened and its header read: that of the call that has
failed, or the one before the request. -/
def Exchange.errnoLeft (exchange : Exchange) : Int32 :=
  match exchange.env.openReply 0 with
  | .failed errno => errno
  | .descriptor _ =>
      match exchange.headerRead with
      | .failed errno => errno
      | .data _ => exchange.errno

/-- The code a request is refused with. -/
def Exchange.refusal (exchange : Exchange) : Int32 :=
  if exchange.codec ≠ 0 then einval else exchange.errnoLeft

/-- The descriptor the request has made the server open. -/
def Exchange.descriptor (exchange : Exchange) : Option Nat :=
  if exchange.codec ≠ 0 then none
  else match exchange.env.openReply 0 with
    | .failed _ => none
    | .descriptor fd => some fd

/-! ## The state machine -/

/-- What the state machine leaves of a refused request, up to the deletion of its session. -/
structure Refused (session : Session) (exchange : Exchange) (outcome : Outcome) : Prop where
  deleted : outcome.deleted = true
  pipeline : outcome.session.pipeline = none
  fd : outcome.session.fd = exchange.descriptor.elim (-1) Int.ofNat
  calls : ∃ before call, outcome.kernel.calls = before ++ [call] ∧ sentBy before = [] ∧
    (∀ fd, obtained fd before = if exchange.descriptor = some fd then 1 else 0) ∧
    (∀ fd, relinquished fd before = 0) ∧
    Sends (acked session exchange.header) (packetFlagRst ||| packetFlagErr)
      (packetErrEncode ⟨exchange.refusal⟩) call

section

variable {session : Session} {exchange : Exchange}

/-- The kernel after the header of an opened file has been read. -/
theorem formatsWav_errno (exchange : Exchange) {fd : Nat}
    (opening : exchange.env.openReply 0 = .descriptor fd) : ∃ kernel,
    Wav.formatsWav fd
      { exchange.kernel with calls := [.open exchange.name (.descriptor fd)] } =
      (Wav.sourceOf fd exchange.waveHeader, kernel) ∧
    kernel.calls = [.open exchange.name (.descriptor fd),
      .read fd Wav.waveHeaderSize exchange.headerRead] ∧
    kernel.errno = exchange.errnoLeft := by
  unfold Wav.formatsWav Kernel.readFile Kernel.garbage Exchange.waveHeader Exchange.errnoLeft
  have reply : (exchange.kernel.env.readReply
      [Syscall.open exchange.name (.descriptor fd)].length).atMost Wav.waveHeaderSize =
      exchange.headerRead := rfl
  simp only [reply, opening]
  cases exchange.headerRead <;> exact ⟨_, rfl, rfl, rfl⟩

/-- The error packet of a session. -/
theorem sends_error (session : Session) (kernel : Kernel) (code : Int32) (failure : Option Int32) :
    Sends session (packetFlagRst ||| packetFlagErr) (packetErrEncode ⟨code⟩)
      (.send (some session.addr)
        (packetDatagram (sessionHeader session (packetFlagRst ||| packetFlagErr)
          (UInt16.ofNat packetErrSize)) kernel.garbage
          ((kernel.garbage.shift packetHeaderSize).write (packetErrEncode ⟨code⟩))) failure) :=
  sends_packetDatagram session _ _ _
    (read_write_ofNat (kernel.garbage.shift packetHeaderSize) (error_length ⟨code⟩)) failure

/-- A request is refused with one packet, whatever has made it fail. -/
theorem handledBy_refused (formed : WellFormed session) (refuses : Refuses session exchange) :
    ∃ outcome, exchange.handledBy session = .ok outcome ∧ Refused session exchange outcome := by
  obtain ⟨heard, state, syn, refused⟩ := refuses
  have bare : session.pipeline = none ∧ session.fd = -1 := by
    unfold WellFormed at formed
    rw [state] at formed
    exact ⟨formed.1, formed.2.2⟩
  have open_eq : exchange.handledBy session = sessionOpen exchange.header exchange.payload
      (acked session exchange.header) exchange.kernel := by
    rw [handledBy_heard heard, state]
  rw [open_eq]
  by_cases plain : exchange.codec = 0
  case neg =>
    have code : exchange.refusal = einval := if_pos plain
    have none : exchange.descriptor = none := if_pos plain
    refine ⟨_, sessionOpen_codec syn plain, rfl, bare.1, ?_, [], _, rfl, rfl, ?_, fun _ => rfl, ?_⟩
    · rw [none]
      exact bare.2
    · intro fd
      rw [none, if_neg (Option.some_ne_none fd).symm]
      rfl
    · rw [code]
      exact sends_error _ _ _ _
  case pos =>
    have code : exchange.refusal = exchange.errnoLeft := if_neg (not_not.mpr plain)
    cases opening : exchange.env.openReply 0 with
    | failed errno =>
        have descriptor : exchange.descriptor = none := by
          rw [Exchange.descriptor, if_neg (not_not.mpr plain), opening]
        have left : exchange.errnoLeft = errno := by
          rw [Exchange.errnoLeft, opening]
        refine ⟨_, sessionOpen_missing syn plain opening, rfl, bare.1, ?_, [_], _, rfl, rfl, ?_,
          fun _ => rfl, ?_⟩
        · rw [descriptor]
          rfl
        · intro fd
          rw [descriptor, if_neg (Option.some_ne_none fd).symm]
          rfl
        · rw [code, left]
          exact sends_error _ _ _ _
    | descriptor fd =>
        have descriptor : exchange.descriptor = some fd := by
          rw [Exchange.descriptor, if_neg (not_not.mpr plain), opening]
        obtain ⟨kernel, read, calls, errno⟩ := formatsWav_errno exchange opening
        have none : Wav.sourceOf fd exchange.waveHeader = none := by
          rcases refused with foreign | missing
          · exact (foreign plain).elim
          · rw [Exchange.offered, opening] at missing
            exact Option.map_eq_none_iff.mp missing
        rw [none] at read
        refine ⟨_, sessionOpen_format syn plain opening read, rfl, bare.1, ?_, kernel.calls, _, rfl,
          ?_, ?_, ?_, ?_⟩
        · rw [descriptor]
          rfl
        · rw [calls]
          rfl
        · intro other
          rw [descriptor, calls]
          simp only [obtained, List.countP_cons, List.countP_nil, Syscall.obtains, Option.some.injEq,
            Bool.false_eq_true, ↓reduceIte, Nat.zero_add, decide_eq_true_eq]
        · intro other
          rw [calls]
          rfl
        · rw [code, ← errno]
          exact sends_error _ _ _ _

end

/-! ## The table -/

/-- One error packet with a code has been sent, and nothing else. -/
def Reported (calls : List Syscall) : Prop :=
  ∃ datagram, sentBy calls = [datagram] ∧ isErr datagram = true ∧
    (packetErrDecode (Memory.write (fun _ => 0) (payloadOf datagram))).err ≠ 0

/-- The session behind a pointer is gone, and the table is what it is without that session. -/
structure Undone (server : Server) (pointer : SessionPtr) (after : Server) : Prop where
  freed : after.memory pointer = none
  others : ∀ other, other ≠ pointer →
    (after.memory other).map Session.detached = (server.memory other).map Session.detached
  chains : ∀ index nodes, Chain server.nextOf (server.sessions.table index) nodes →
    Chain after.nextOf (after.sessions.table index) (nodes.erase pointer)
  restored : server.memory pointer = none → ∀ index nodes,
    Chain server.nextOf (server.sessions.table index) nodes →
      Chain after.nextOf (after.sessions.table index) nodes

/-- Every descriptor that has been opened has been closed once. -/
def Tidied (calls : List Syscall) : Prop :=
  ∀ fd, relinquished fd calls = obtained fd calls ∧ obtained fd calls ≤ 1

section

variable {server entered : Server} {pointer : SessionPtr} {session : Session}
  {chains : Nat → List SessionPtr} {addr : SockaddrIn6} {memory : Option Uninitialized}

/-- Getting a session puts it into its chain, where it has not been there before. -/
theorem sessionGet_chains (inv : TableInv server chains)
    (got : sessionGet server addr memory = .ok (some pointer, entered)) :
    ∃ grown, TableInv entered grown ∧
      ∀ index, (grown index).erase pointer = (chains index).erase pointer := by
  cases found : (chains (bucketIndex server addr)).find? (server.stopsAt addr) with
  | some other =>
      cases (inv.sessionGet_found memory found).symm.trans got
      exact ⟨chains, inv, fun _ => rfl⟩
  | none =>
      cases memory with
      | none => cases (inv.sessionGet_no_memory found).symm.trans got
      | some contents =>
          cases (inv.sessionGet_missing contents found).symm.trans got
          refine ⟨_, inv.created_inv contents found, fun index => ?_⟩
          by_cases own : index = bucketIndex server addr
          · subst own
            have absent : server.fresh ∉ chains (bucketIndex server addr) :=
              fun member => inv.ne_fresh_of_mem member rfl
            rw [Function.update_self, List.erase_append_right _ absent, List.erase_cons_head,
              List.append_nil, List.erase_of_not_mem absent]
          · rw [Function.update_of_ne own]

/-- Deleting a session takes it out of its chain. -/
theorem sessionDelete_chains (inv : TableInv server chains)
    (live : server.memory pointer = some session) : ∃ after left,
    sessionDelete server pointer = .ok after ∧ Deleted server pointer session after ∧
      TableInv after left ∧ ∀ index, left index = (chains index).erase pointer := by
  obtain ⟨before, rest, split⟩ := List.append_of_mem (inv.listed pointer session live)
  obtain ⟨after, removes, deleted⟩ := sessionDelete_spec inv live
  cases (inv.sessionDelete_eq live split).symm.trans removes
  exact ⟨_, _, removes, deleted, inv.removed_inv live split, inv.update_eq_erase live split⟩

/-- The call that closes what a request has opened. -/
def closing (exchange : Exchange) (failure : Option Int32) : List Syscall :=
  match exchange.descriptor with
  | none => []
  | some fd => [.close fd failure]

/-- Closing the file sends nothing. -/
theorem sentBy_closing (exchange : Exchange) (failure : Option Int32) :
    sentBy (closing exchange failure) = [] := by
  unfold closing
  cases exchange.descriptor <;> rfl

/-- Closing the file obtains nothing. -/
theorem obtained_closing (exchange : Exchange) (failure : Option Int32) (fd : Nat) :
    obtained fd (closing exchange failure) = 0 := by
  unfold closing
  cases exchange.descriptor <;> rfl

/-- Closing the file relinquishes its descriptor. -/
theorem relinquished_closing (exchange : Exchange) (failure : Option Int32) (fd : Nat) :
    relinquished fd (closing exchange failure) =
      if exchange.descriptor = some fd then 1 else 0 := by
  unfold closing
  cases exchange.descriptor with
  | none =>
      rw [if_neg (Option.some_ne_none fd).symm]
      rfl
  | some own =>
      simp only [relinquished, List.countP_cons, List.countP_nil, Syscall.closes, Nat.zero_add,
        decide_eq_true_eq, Int.natCast_inj, Option.some.injEq]

/-- What a refused request leaves to close is the descriptor it has opened. -/
theorem Refused.release {exchange : Exchange} {outcome : Outcome}
    (refused : Refused session exchange outcome) : ∃ failure,
    (release outcome.session outcome.kernel).calls =
      outcome.kernel.calls ++ closing exchange failure := by
  unfold Server.release closing
  have held := refused.fd
  simp only [pipelineDealloc, refused.pipeline]
  cases descriptor : exchange.descriptor with
  | none =>
      rw [descriptor] at held
      have negative : ¬ outcome.session.fd ≥ 0 := by
        rw [held]
        decide
      rw [if_neg negative]
      exact ⟨none, (List.append_nil _).symm⟩
  | some fd =>
      rw [descriptor] at held
      have opened : outcome.session.fd = fd := held
      rw [opened, if_pos (Int.natCast_nonneg fd)]
      exact ⟨_, rfl⟩

/-- The calls made for a refused request: its report, and what opens and closes the file. -/
theorem Refused.calls_after {exchange : Exchange} {outcome : Outcome}
    (refused : Refused session exchange outcome) :
    Tidied (Server.release outcome.session outcome.kernel).calls ∧
      (Reported (Server.release outcome.session outcome.kernel).calls ↔ exchange.refusal ≠ 0) := by
  obtain ⟨before, call, calls, quiet, opens, closes, sends⟩ := refused.calls
  have neutral := neutral_singleton sends.neutral
  obtain ⟨datagram, sentOf, _, _, payload, _, _, _, err⟩ := sends.kind
  obtain ⟨failure, after⟩ := refused.release
  rw [after, calls]
  constructor
  · intro fd
    rw [obtained_append, obtained_append, relinquished_append, relinquished_append,
      obtained_neutral neutral, relinquished_neutral neutral, obtained_closing,
      relinquished_closing, opens, closes, Nat.add_zero, Nat.add_zero, Nat.zero_add]
    refine ⟨rfl, ?_⟩
    split
    · exact le_refl 1
    · exact Nat.zero_le 1
  · have sent : sentBy (before ++ [call] ++ closing exchange failure) = [datagram] := by
      rw [sentBy_append, sentBy_append, quiet, sentBy_closing, List.append_nil, List.nil_append,
        sentOf, sentBy_nil]
    have code : (packetErrDecode (Memory.write (fun _ => 0) (payloadOf datagram))).err =
        exchange.refusal := by
      rw [payload, packetErrDecode_write]
    constructor
    · intro ⟨other, only, _, nonzero⟩
      cases sent.symm.trans only
      rwa [code] at nonzero
    · intro nonzero
      exact ⟨datagram, sent, err, by rwa [code]⟩

/-- A refused request deletes its session in place. -/
theorem stateMachine_refused {header : PacketHeader} {payload : Memory} {count : Nat}
    {outcome : Outcome} (inv : TableInv server chains)
    (got : sessionGet server addr memory = .ok (some pointer, entered))
    (live : entered.memory pointer = some session) (deleted : outcome.deleted = true)
    (place : outcome.session.addr = session.addr ∧ outcome.session.next = session.next)
    (ran : sessionStateMachine header payload count session entered.kernel = .ok outcome) :
    ∃ after, stateMachine entered pointer header payload count = .ok after ∧
      Undone server pointer after ∧
      after.kernel = Server.release outcome.session outcome.kernel := by
  obtain ⟨grown, inv', same⟩ := sessionGet_chains inv got
  have replaced : TableInv (afterStateMachine entered pointer outcome) grown :=
    inv'.replace live place.1 place.2 outcome.kernel entered.clock
  have live' : (afterStateMachine entered pointer outcome).memory pointer = some outcome.session :=
    Function.update_self _ _ _
  obtain ⟨after, left, removes, gone, table, chainsEq⟩ := sessionDelete_chains replaced live'
  have erased : ∀ index nodes, Chain server.nextOf (server.sessions.table index) nodes →
      Chain after.nextOf (after.sessions.table index) (nodes.erase pointer) := by
    intro index nodes chain
    rw [chain.unique (inv.chain index), ← same index, ← chainsEq index]
    exact table.chain index
  refine ⟨after, ?_, ⟨gone.freed, fun other differ => ?_, erased, fun absent index nodes chain => ?_⟩,
    gone.kernel⟩
  · rw [stateMachine_eq live ran, deleted, if_pos rfl]
    exact removes
  · rw [gone.others other differ]
    change (Function.update entered.memory pointer (some outcome.session) other).map _ = _
    rw [Function.update_of_ne differ]
    rcases sessionGet_got inv addr memory with missing | ⟨pointer', entered', session', found, got'⟩
    · cases missing.symm.trans got
    · cases found.symm.trans got
      exact got'.others other differ
  · have without : pointer ∉ nodes := by
      intro member
      rw [chain.unique (inv.chain index)] at member
      obtain ⟨session', live⟩ := @TableInv.live_of_mem server chains inv _ _ member
      cases absent.symm.trans live
    have kept := erased index nodes chain
    rwa [List.erase_of_not_mem without] at kept

end

/-! ## Runs of the server -/

/-- The server refuses the request in its buffer as it should: the one packet it sends reports an
error, the session is gone as if it had not been there, and the file is closed. -/
def RefusesCleanly (server entered : Server) (pointer : SessionPtr) (buffer : Memory) (count : Nat) :
    Prop :=
  ∃ after, stateMachine entered pointer (packetHeaderDecode buffer)
      (buffer.shift packetHeaderSize) count = .ok after ∧
    Reported after.kernel.calls ∧ Undone server pointer after ∧ Tidied after.kernel.calls

/-- **Refused requests.** In every run, a request that the server refuses is reported and undone
exactly if its codec is foreign or `errno` does not hold zero once the file has been tried. -/
theorem refused_cleanly_iff {source config : Config} {inputs : List Input} {input : Input}
    {addr : SockaddrIn6} {datagram : List UInt8} {pointer : SessionPtr} {entered : Server}
    {session : Session} (initial : Initial source) (run : Run Steps source inputs config)
    (got : sessionGet (config.server.enter input) addr input.allocation =
      .ok (some pointer, entered))
    (live : entered.memory pointer = some session)
    (refuses : Refuses session (exchangeAt entered.kernel (receiveInto config.buffer datagram)
      (receivedCount datagram))) :
    RefusesCleanly (config.server.enter input) entered pointer (receiveInto config.buffer datagram)
        (receivedCount datagram) ↔
      (exchangeAt entered.kernel (receiveInto config.buffer datagram)
          (receivedCount datagram)).codec ≠ 0 ∨
        (exchangeAt entered.kernel (receiveInto config.buffer datagram)
          (receivedCount datagram)).errnoLeft ≠ 0 := by
  have sound := sound_run initial run
  obtain ⟨chains, inv⟩ := sound.table
  have inv' : TableInv (config.server.enter input) chains := inv.congr rfl rfl fun _ => rfl
  obtain ⟨formed, fresh⟩ : WellFormed session ∧ entered.kernel.calls = [] := by
    rcases sessionGet_got inv' addr input.allocation with missing |
      ⟨pointer', entered', session', found, got'⟩
    · cases missing.symm.trans got
    · cases found.symm.trans got
      cases live.symm.trans got'.live
      refine ⟨got'.formed sound.formed, ?_⟩
      rw [got'.kernel]
      rfl
  generalize exchange : exchangeAt entered.kernel (receiveInto config.buffer datagram)
    (receivedCount datagram) = request at refuses ⊢
  obtain ⟨outcome, handled, refused⟩ := handledBy_refused formed refuses
  have place := handledBy_place formed handled
  rw [← exchange, handledBy_exchangeAt entered.kernel fresh] at handled
  obtain ⟨after, ran, undone, kernel⟩ :=
    stateMachine_refused inv' got live refused.deleted place handled
  obtain ⟨tidied, reported⟩ := refused.calls_after
  have code : request.refusal ≠ 0 ↔ request.codec ≠ 0 ∨ request.errnoLeft ≠ 0 := by
    unfold Exchange.refusal
    by_cases foreign : request.codec ≠ 0
    · rw [if_pos foreign]
      exact iff_of_true (by decide) (.inl foreign)
    · rw [if_neg foreign]
      exact (or_iff_right foreign).symm
  rw [← code, ← reported, ← kernel]
  constructor
  · intro ⟨after', ran', reported', _⟩
    cases ran.symm.trans ran'
    exact reported'
  · intro reported'
    exact ⟨after, ran, reported', undone, by rwa [kernel]⟩

/-! ## A file without a header -/

/-- The SYN of `songSyn`, for whichever call of the loop asks for a datagram. -/
def requesting (env : Env) : Input :=
  ⟨env, 0, .readable, some (firstClient, packetDatagram songSyn.header (fun _ => 0) songSyn.payload),
    some zeroedSession⟩

/-- The server that has been asked for the song. -/
def asked (env : Env) : Server :=
  TableInv.created ((repeated (requesting env) 3).server.enter (requesting env)) firstClient
    zeroedSession none

/-- No file can be opened. -/
def noFiles : Env := { songEnv fun _ => .data [] with openReply := fun _ => .failed 2 }

/-- The song is an empty file. -/
def emptyFile : Env := songEnv fun _ => .data []

theorem asked_got (env : Env) : sessionGet ((repeated (requesting env) 3).server.enter (requesting env))
    firstClient (some zeroedSession) = .ok (some 0, asked env) := by
  rfl

/-- The loop receives the request for a file that is missing. -/
theorem noFiles_run : Run Steps beginning (List.replicate 3 (requesting noFiles))
    (repeated (requesting noFiles) 3) :=
  repeated_run (by decide +kernel)

/-- A file that does not exist is refused cleanly. -/
theorem refused_cleanly_missing : RefusesCleanly
    ((repeated (requesting noFiles) 3).server.enter (requesting noFiles)) (asked noFiles) 0
    (receiveInto (repeated (requesting noFiles) 3).buffer
      (packetDatagram songSyn.header (fun _ => 0) songSyn.payload)) 21 := by
  refine (refused_cleanly_iff initial_beginning noFiles_run (asked_got noFiles) rfl
    ⟨⟨by decide +kernel, by decide +kernel⟩, rfl, by decide +kernel, .inr rfl⟩).mpr (.inr ?_)
  decide +kernel

/-- The report of a file that is empty says that nothing has gone wrong. -/
theorem refused_not_reported :
    ¬ ∀ (source config : Config) (inputs : List Input) (input : Input) (addr : SockaddrIn6)
      (datagram : List UInt8) (pointer : SessionPtr) (entered : Server) (session : Session),
      Initial source → Run Steps source inputs config →
      sessionGet (config.server.enter input) addr input.allocation = .ok (some pointer, entered) →
      entered.memory pointer = some session →
      Refuses session (exchangeAt entered.kernel (receiveInto config.buffer datagram)
        (receivedCount datagram)) →
      RefusesCleanly (config.server.enter input) entered pointer (receiveInto config.buffer datagram)
        (receivedCount datagram) := by
  intro cleanly
  have run := @repeated_run (requesting emptyFile) 3 (by decide +kernel)
  have refuses : Refuses (sessionCreate firstClient zeroedSession)
      (exchangeAt (asked emptyFile).kernel
        (receiveInto (repeated (requesting emptyFile) 3).buffer
          (packetDatagram songSyn.header (fun _ => 0) songSyn.payload)) 21) :=
    ⟨⟨by decide +kernel, by decide +kernel⟩, rfl, by decide +kernel, .inr (by decide +kernel)⟩
  have clean := cleanly beginning _ _ (requesting emptyFile) firstClient _ 0 _ _ initial_beginning
    run (asked_got emptyFile) rfl refuses
  rcases (refused_cleanly_iff initial_beginning run (asked_got emptyFile) rfl refuses).mp clean with
    foreign | left
  · exact foreign (by decide +kernel)
  · exact left (by decide +kernel)

end Sas.Server
