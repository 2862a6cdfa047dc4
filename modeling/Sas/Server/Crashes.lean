import Sas.Server.Expiry

/-! # When the server crashes

As long as no session expires that the heap still lists, every step of the loop is taken, whatever
arrives, but for four kinds: a SYN whose name does not end in the receive buffer, a packet that deletes
the session whose timeout is moved next, a packet for whose session there is no memory, and a timeout
that nobody has set. There is memory for everything but sessions here: the chunks, the stages of the
pipelines and the heap itself are allocated without a check, too.
-/

namespace Sas.Server

open Foundation Transport

/-- The step receives a packet of a client that has no session, and there is no memory for one. -/
def Starves (config : Config) (input : Input) : Prop :=
  config.stage = .recvfrom ∧ input.allocation = none ∧ ∃ addr datagram,
    input.received = some (addr, datagram) ∧
      sessionFind (config.server.enter input) addr = .ok none

/-- `select` tells that the time has passed where none has been set. -/
def WakesIdle (config : Config) (input : Input) : Prop :=
  (∃ now, config.stage = .select none now) ∧ input.wake = .timedOut

/-- `strndup` for a string in an object that ends after `room` more bytes. -/
def strndup : Nat → Nat → Memory → Except Fault (List UInt8)
  | limit, 0, _ => if limit = 0 then .ok [] else .error .outOfBounds
  | limit, room + 1, memory =>
      if limit = 0 ∨ memory 0 = 0 then .ok []
      else (strndup (limit - 1) room (memory.shift 1)).map fun name => memory 0 :: name

/-- The bytes of the receive buffer behind the header and the codec of a packet. -/
def nameRoom : Nat := bufferSize - packetHeaderSize - packetCfgSize

/-- The copy of the name where the state machine makes one: in a SYN to a new session. -/
def nameCopied (input : Input) (config : Config) : Except Fault Unit :=
  match config.stage, input.received with
  | .recvfrom, some (addr, datagram) => do
      let buffer := receiveInto config.buffer datagram
      let header := packetHeaderDecode buffer
      match ← sessionGet (config.server.enter input) addr input.allocation with
      | (some pointer, entered) =>
          let session ← entered.load pointer
          if (¬ header.seq < session.ack ∧ packetFlagIsset header.flags packetFlagRst = false) ∧
              session.state = .initial ∧ packetFlagIsset header.flags packetFlagSyn = true then
            (strndup (sizeSub header.length.toNat packetCfgSize) nameRoom
              (buffer.shift (packetHeaderSize + packetCfgSize))).map fun _ => ()
          else .ok ()
      | (none, _) => .ok ()
  | _, _ => .ok ()

/-- One step of `sas_server_run` in which no byte behind the receive buffer is read. -/
def boundedStep (input : Input) (config : Config) : Except Fault Config := do
  nameCopied input config
  serverStep input config

/-- The loop takes a defined step, all of whose reads are inside the receive buffer. -/
def BoundedSteps (config : Config) (input : Input) (next : Config) : Prop :=
  boundedStep input config = .ok next

/-- The step copies the name in a SYN to a new session, and neither its length nor a zero byte ends
the name in the receive buffer. -/
def Overreads (config : Config) (input : Input) : Prop :=
  ∃ addr datagram pointer entered session, config.stage = .recvfrom ∧
    input.received = some (addr, datagram) ∧
    sessionGet (config.server.enter input) addr input.allocation = .ok (some pointer, entered) ∧
    entered.memory pointer = some session ∧
    Heard session (packetHeaderDecode (receiveInto config.buffer datagram)) ∧
    session.state = .initial ∧
    packetFlagIsset (packetHeaderDecode (receiveInto config.buffer datagram)).flags
      packetFlagSyn = true ∧
    nameRoom < sizeSub (packetHeaderDecode (receiveInto config.buffer datagram)).length.toNat
      packetCfgSize ∧
    ∀ index < nameRoom,
      receiveInto config.buffer datagram (packetHeaderSize + packetCfgSize + index) ≠ 0

/-- What becomes of a step. -/
inductive Fate (config : Config) (input : Input) : Except Fault Config → Prop where
  /-- It is taken. -/
  | taken (next : Config) : ¬ Discards config input → ¬ Starves config input →
      ¬ WakesIdle config input → Fate config input (.ok next)
  /-- It uses the session that the packet has deleted. -/
  | freed (pointer : SessionPtr) : Discards config input → ¬ Starves config input →
      ¬ WakesIdle config input → Fate config input (.error (.useAfterFree pointer))
  /-- It follows a pointer to a session that is not there. -/
  | null : ¬ Discards config input → Starves config input ∨ WakesIdle config input →
      Fate config input (.error .nullPointer)

section

variable {config : Config} {input : Input} {next : Config} {pointer : SessionPtr}

/-- A step that is taken away from `recvfrom` and `select` is ordinary. -/
theorem fate_elsewhere (done : serverStep input config = .ok next)
    (elsewhere : config.stage ≠ .recvfrom) (wakes : ¬ WakesIdle config input) :
    Fate config input (serverStep input config) := by
  rw [done]
  refine .taken next ?_ ?_ wakes
  · rintro ⟨_, _, _, _, _, stage, _⟩
    exact elsewhere stage
  · rintro ⟨stage, _⟩
    exact elsewhere stage

/-- Only a call of `select` without a session can wake up idle. -/
theorem not_wakesIdle (away : ∀ now, config.stage ≠ .select none now) :
    ¬ WakesIdle config input := by
  rintro ⟨⟨now, stage⟩, _⟩
  exact away now stage

/-- The step that looks at the popped session. -/
theorem Intact.expiry_fate {waiting : Option SessionPtr} {now : Int} (intact : Intact config)
    (ordinary : ¬ Orphans config input) (stage : config.stage = .expiry waiting now) :
    Fate config input (serverStep input config) := by
  obtain ⟨sound, live⟩ := intact
  have elsewhere : config.stage ≠ .recvfrom := fun same => by cases stage.symm.trans same
  have wakes : ¬ WakesIdle config input := not_wakesIdle fun _ same => by cases stage.symm.trans same
  cases waiting with
  | none =>
      have done : serverStep input config = .ok ⟨config.server.enter input, .select none now,
          config.buffer⟩ := by
        rw [serverStep, stage]
      exact fate_elsewhere done elsewhere wakes
  | some pointer =>
      have waits : config.stage.waiting = some pointer := by rw [stage]; rfl
      obtain ⟨session, known⟩ := live.waiting waits
      by_cases due : session.timeout ≤ now
      · obtain ⟨removed, deleted, step⟩ := serverStep_due sound stage known due
        have expires : Expires config input pointer session := by
          refine ⟨known, ?_⟩
          rw [stage]
          exact ⟨rfl, due⟩
        have absent : ¬ HasEntry config.server pointer := fun entry =>
          ordinary ⟨pointer, session, expires, entry⟩
        have alive : Alive (config.server.enter input) := live.alive sound
        obtain ⟨popped, after, pop⟩ := timeoutPop_ok (deleted.alive alive absent)
        rw [pop] at step
        exact fate_elsewhere step elsewhere wakes
      · have loaded : (config.server.enter input).load pointer = .ok session := load_of_some known
        have done : serverStep input config = .ok ⟨config.server.enter input,
            .select (some pointer) now, config.buffer⟩ := by
          rw [serverStep, stage]
          simp only [loaded, bind, Except.bind, ge_iff_le, due, ↓reduceIte]
        exact fate_elsewhere done elsewhere wakes

/-- The step that waits for the socket. -/
theorem Intact.select_fate {waiting : Option SessionPtr} {now : Int} (intact : Intact config)
    (stage : config.stage = .select waiting now) : Fate config input (serverStep input config) := by
  obtain ⟨sound, live⟩ := intact
  obtain ⟨chains, inv⟩ := sound.table
  have entered : TableInv (config.server.enter input) chains := inv.congr rfl rfl fun _ => rfl
  have alive : Alive (config.server.enter input) := live.alive sound
  have elsewhere : config.stage ≠ .recvfrom := fun same => by cases stage.symm.trans same
  cases wake : input.wake with
  | failed errno =>
      have awake : ¬ WakesIdle config input := fun idle => by cases idle.2.symm.trans wake
      have done : serverStep input config = .ok ⟨config.server.enter input, .returned errno,
          config.buffer⟩ := by
        rw [serverStep, stage]
        simp only [wake]
      exact fate_elsewhere done elsewhere awake
  | readable =>
      have awake : ¬ WakesIdle config input := fun idle => by cases idle.2.symm.trans wake
      cases waiting with
      | none =>
          have done : serverStep input config = .ok ⟨config.server.enter input, .recvfrom,
              config.buffer⟩ := by
            rw [serverStep, stage]
            simp only [wake, bind, Except.bind]
          exact fate_elsewhere done elsewhere awake
      | some pointer =>
          have waits : config.stage.waiting = some pointer := by rw [stage]; rfl
          obtain ⟨session, known⟩ := live.waiting waits
          obtain ⟨after, added⟩ := timeoutAdd_ok alive known
          have done : serverStep input config = .ok ⟨after, .recvfrom, config.buffer⟩ := by
            rw [serverStep, stage]
            simp only [wake, added, bind, Except.bind]
          exact fate_elsewhere done elsewhere awake
  | timedOut =>
      cases waiting with
      | none =>
          have failed : serverStep input config = .error .nullPointer := by
            rw [serverStep, stage]
            simp only [wake]
          rw [failed]
          refine .null ?_ (.inr ⟨⟨now, stage⟩, wake⟩)
          rintro ⟨_, _, _, _, _, same, _⟩
          exact elsewhere same
      | some pointer =>
          have awake : ¬ WakesIdle config input :=
            not_wakesIdle fun _ same => by cases stage.symm.trans same
          have waits : config.stage.waiting = some pointer := by rw [stage]; rfl
          obtain ⟨session, known⟩ := live.waiting waits
          obtain ⟨after, timedOut⟩ := serverTimeout_ok entered known input.elapsed
          have done : serverStep input config = .ok ⟨after, .top, config.buffer⟩ := by
            rw [serverStep, stage]
            simp only [wake, timedOut, bind, Except.bind]
          exact fate_elsewhere done elsewhere awake

/-- A search that does not stop makes the server ask for memory. -/
theorem sessionGet_starved {server : Server} {chains : Nat → List SessionPtr}
    (inv : TableInv server chains) (addr : SockaddrIn6) (memory : Option Uninitialized) :
    sessionGet server addr memory = .ok (none, server) ↔
      memory = none ∧ sessionFind server addr = .ok none := by
  rw [inv.sessionFind_eq]
  cases search : (chains (bucketIndex server addr)).find? (server.stopsAt addr) with
  | some pointer =>
      rw [inv.sessionGet_found memory search]
      refine iff_of_false (fun same => ?_) fun both => ?_
      · cases same
      · cases both.2
  | none =>
      cases memory with
      | none => exact iff_of_true (inv.sessionGet_no_memory search) ⟨rfl, rfl⟩
      | some contents =>
          rw [inv.sessionGet_missing contents search]
          refine iff_of_false (fun same => ?_) fun both => ?_
          · cases same
          · cases both.1

/-- The step that receives. -/
theorem Intact.recvfrom_fate (intact : Intact config) (stage : config.stage = .recvfrom) :
    Fate config input (serverStep input config) := by
  obtain ⟨sound, live⟩ := intact
  obtain ⟨chains, inv⟩ := sound.table
  have inside : TableInv (config.server.enter input) chains := inv.congr rfl rfl fun _ => rfl
  have wakes : ¬ WakesIdle config input := not_wakesIdle fun _ same => by cases stage.symm.trans same
  cases received : input.received with
  | none =>
      have done : serverStep input config = .ok ⟨config.server.enter input, .top,
          config.buffer⟩ := by
        rw [serverStep, stage]
        simp only [received]
      rw [done]
      refine .taken _ ?_ ?_ wakes
      · rintro ⟨_, _, _, _, _, _, some, _⟩
        cases received.symm.trans some
      · rintro ⟨_, _, _, _, some, _⟩
        cases received.symm.trans some
  | some both =>
      obtain ⟨addr, datagram⟩ := both
      have step : serverStep input config = (serverReceive (config.server.enter input)
          (receiveInto config.buffer datagram) (receivedCount datagram) addr input).map fun server =>
            ⟨server, .top, packetHeaderDecoded (receiveInto config.buffer datagram)⟩ := by
        rw [serverStep, stage]
        simp only [received]
        rfl
      have starves : Starves config input ↔ sessionGet (config.server.enter input) addr
          input.allocation = .ok (none, config.server.enter input) := by
        rw [sessionGet_starved inside]
        constructor
        · rintro ⟨_, starved, _, _, same, missing⟩
          cases received.symm.trans same
          exact ⟨starved, missing⟩
        · rintro ⟨starved, missing⟩
          exact ⟨stage, starved, addr, datagram, received, missing⟩
      rcases sessionGet_got inside addr input.allocation with missing |
        ⟨pointer, entered, session, found, got⟩
      · rw [step, serverReceive, missing]
        refine .null ?_ (.inl (starves.mpr missing))
        rintro ⟨_, _, _, _, _, _, same, found, _⟩
        cases received.symm.trans same
        cases missing.symm.trans found
      · have fed : ¬ Starves config input := by
          rw [starves, found]
          intro same
          cases same
        have formed := got.formed sound.formed
        have fresh : entered.kernel.calls = [] := by
          rw [got.kernel]
          rfl
        obtain ⟨outcome, handled, _⟩ := handledBy_reacts formed (exchangeAt entered.kernel
          (receiveInto config.buffer datagram) (receivedCount datagram))
        have discards := (discards_iff stage received found got.live).trans
          (deleted_iff formed handled).symm
        obtain ⟨chains', table⟩ := got.table
        cases deleted : outcome.deleted with
        | true =>
            rw [step, serverReceive_deleted table found got.live formed fresh handled deleted]
            exact .freed pointer (discards.mpr deleted) fed wakes
        | false =>
            have alive : Alive (config.server.enter input) := live.alive sound
            have written : (afterHandling entered pointer outcome
                (entered.clock + input.elapsed)).memory pointer =
                  some { outcome.session with
                    timeout := entered.clock + input.elapsed + sessionTimeout } :=
              Function.update_self _ _ _
            obtain ⟨after, added⟩ := timeoutAdd_ok (got.alive alive) written
            rw [step, serverReceive_kept found got.live fresh handled deleted, added]
            refine .taken _ (fun discarded => ?_) fed wakes
            cases deleted.symm.trans (discards.mp discarded)

/-- The fate of a step of an intact loop. -/
theorem Intact.fate (intact : Intact config) (ordinary : ¬ Orphans config input) :
    Fate config input (serverStep input config) := by
  cases stage : config.stage with
  | top =>
      have alive : Alive (config.server.enter input) := intact.2.alive intact.1
      obtain ⟨popped, after, pop⟩ := timeoutPop_ok alive
      have done : serverStep input config = .ok ⟨{ after with clock := after.clock + input.elapsed },
          .expiry popped (after.clock + input.elapsed), config.buffer⟩ := by
        rw [serverStep, stage]
        simp only [pop, bind, Except.bind]
        rfl
      exact fate_elsewhere done (fun same => by cases stage.symm.trans same)
        (not_wakesIdle fun _ same => by cases stage.symm.trans same)
  | expiry waiting now => exact intact.expiry_fate ordinary stage
  | select waiting now => exact intact.select_fate stage
  | recvfrom => exact intact.recvfrom_fate stage
  | returned err =>
      have done : serverStep input config = .ok config := by rw [serverStep, stage]
      exact fate_elsewhere done (fun same => by cases stage.symm.trans same)
        (not_wakesIdle fun _ same => by cases stage.symm.trans same)

end

/-! ## The name in a SYN -/

section

variable {limit room : Nat} {memory : Memory}

/-- A string that ends inside its object is copied as far as it goes. -/
theorem strndup_of_ends (ends : limit ≤ room ∨ ∃ index < room, memory index = 0) :
    strndup limit room memory = .ok (memory.cstring limit) := by
  induction room generalizing limit memory with
  | zero =>
      rcases ends with short | ⟨index, below, _⟩
      · cases Nat.le_zero.mp short
        rfl
      · exact (Nat.not_lt_zero index below).elim
  | succ room ih =>
      cases limit with
      | zero => exact if_pos (.inl rfl)
      | succ limit =>
          by_cases last : memory 0 = 0
          · rw [strndup, if_pos (.inr last), Memory.cstring, if_pos last]
          · have rest : limit ≤ room ∨ ∃ index < room, memory.shift 1 index = 0 := by
              rcases ends with short | ⟨index, below, zero⟩
              · exact .inl (Nat.le_of_succ_le_succ short)
              · cases index with
                | zero => exact (last zero).elim
                | succ index =>
                    refine .inr ⟨index, Nat.lt_of_succ_lt_succ below, ?_⟩
                    rw [Memory.shift_apply, Nat.add_comm]
                    exact zero
            rw [strndup, if_neg (by simp [last]), Nat.add_sub_cancel, ih rest, Memory.cstring,
              if_neg last]
            rfl

/-- A string that does not is read behind the end. -/
theorem strndup_of_runs (long : room < limit) (full : ∀ index < room, memory index ≠ 0) :
    strndup limit room memory = .error .outOfBounds := by
  induction room generalizing limit memory with
  | zero => exact if_neg (Nat.ne_of_gt long)
  | succ room ih =>
      have rest : strndup (limit - 1) room (memory.shift 1) = .error .outOfBounds := by
        refine ih (by omega) fun index below => ?_
        rw [Memory.shift_apply, Nat.add_comm]
        exact full (index + 1) (Nat.succ_lt_succ below)
      have first : ¬ (limit = 0 ∨ memory 0 = 0) := by
        rintro (none | zero)
        · omega
        · exact full 0 (Nat.succ_pos room) zero
      rw [strndup, if_neg first, rest]
      rfl

end

section

variable {config next : Config} {input : Input}

/-- The copy of a name that does not end in the buffer leaves it. -/
theorem nameCopied_of_overreads (beyond : Overreads config input) :
    nameCopied input config = .error .outOfBounds := by
  obtain ⟨addr, datagram, pointer, entered, session, stage, received, found, live, heard, state, syn,
    long, full⟩ := beyond
  have loaded : entered.load pointer = .ok session := load_of_some live
  simp only [nameCopied, stage, received, found, loaded, bind, Except.bind]
  have copied : strndup (sizeSub (packetHeaderDecode (receiveInto config.buffer datagram)).length.toNat
      packetCfgSize) nameRoom ((receiveInto config.buffer datagram).shift
        (packetHeaderSize + packetCfgSize)) = .error .outOfBounds := strndup_of_runs long full
  rw [if_pos ⟨heard, state, syn⟩, copied]
  rfl

/-- The name is copied where it ends in the receive buffer. -/
theorem nameCopied_of_inside (sound : Sound config) (inside : ¬ Overreads config input) :
    nameCopied input config = .ok () := by
  cases stage : config.stage with
  | recvfrom =>
      cases received : input.received with
      | none => simp only [nameCopied, stage, received]
      | some both =>
          obtain ⟨addr, datagram⟩ := both
          obtain ⟨chains, inv⟩ := sound.table
          have inv' : TableInv (config.server.enter input) chains := inv.congr rfl rfl fun _ => rfl
          rcases sessionGet_got inv' addr input.allocation with missing |
            ⟨pointer, entered, session, found, got⟩
          · simp only [nameCopied, stage, received, missing, bind, Except.bind]
          · have loaded : entered.load pointer = .ok session := load_of_some got.live
            simp only [nameCopied, stage, received, found, loaded, bind, Except.bind]
            split
            case isFalse => rfl
            case isTrue copies =>
              obtain ⟨heard, state, syn⟩ := copies
              rw [strndup_of_ends]
              · rfl
              · by_contra runs
                rw [not_or, not_le] at runs
                refine inside ⟨addr, datagram, pointer, entered, session, stage, received, found,
                  got.live, heard, state, syn, runs.1, fun index below zero => ?_⟩
                exact runs.2 ⟨index, below, zero⟩
  | _ => simp only [nameCopied, stage]

/-- A step that copies a name has received a packet, and has a session for it. -/
theorem Overreads.fed (beyond : Overreads config input) (sound : Sound config) :
    ¬ Starves config input ∧ ¬ WakesIdle config input := by
  obtain ⟨addr, datagram, pointer, entered, session, stage, received, found, _⟩ := beyond
  obtain ⟨chains, inv⟩ := sound.table
  have inside : TableInv (config.server.enter input) chains := inv.congr rfl rfl fun _ => rfl
  constructor
  · rintro ⟨_, starved, addr', datagram', received', missing⟩
    cases received.symm.trans received'
    have none := (sessionGet_starved inside addr input.allocation).mpr ⟨starved, missing⟩
    cases none.symm.trans found
  · rintro ⟨⟨now, same⟩, _⟩
    cases stage.symm.trans same

/-- A step whose packet overreads leaves the buffer. -/
theorem boundedStep_of_overreads (beyond : Overreads config input) :
    boundedStep input config = .error .outOfBounds := by
  rw [boundedStep, nameCopied_of_overreads beyond]
  rfl

/-- Any other step is one of the loop. -/
theorem boundedStep_of_inside (sound : Sound config) (inside : ¬ Overreads config input) :
    boundedStep input config = serverStep input config := by
  rw [boundedStep, nameCopied_of_inside sound inside]
  rfl

/-- A step that stays inside the buffer is one of the loop. -/
theorem BoundedSteps.steps (step : BoundedSteps config input next) : Steps config input next := by
  obtain ⟨_, _, done⟩ := bind_eq_ok step
  exact done

end

/-- **When the server crashes.** In every run in which no session expires that the heap still lists,
and there is memory for all but sessions, whatever arrives next: the step is taken unless it reads the
name in a SYN behind the receive buffer, receives a packet that deletes its session, has no memory for
the session of a new client, or wakes for a timeout that was not set. In the second case a freed session
is used, in the last two a null pointer is followed. -/
theorem server_crashes_iff {source config : Config} {inputs : List Input} {input : Input}
    (initial : Initial source)
    (run : Run (fun config input next => BoundedSteps config input next ∧ ¬ Orphans config input) source
      inputs config) (ordinary : ¬ Orphans config input) :
    ((∃ next, BoundedSteps config input next) ↔
        ¬ (Overreads config input ∨ Discards config input ∨ Starves config input ∨
          WakesIdle config input)) ∧
      (boundedStep input config = .error .outOfBounds ↔ Overreads config input) ∧
      ((∃ pointer, boundedStep input config = .error (.useAfterFree pointer)) ↔
        Discards config input ∧ ¬ Overreads config input) ∧
      (boundedStep input config = .error .nullPointer ↔
        Starves config input ∨ WakesIdle config input) := by
  have intact : Intact config := by
    refine run.invariant Intact ⟨sound_initial initial, holdsLive_initial initial⟩ ?_
    intro before input after intact step
    exact intact.step step.1.steps step.2
  unfold BoundedSteps
  by_cases beyond : Overreads config input
  · obtain ⟨fed, awake⟩ := beyond.fed intact.1
    rw [boundedStep_of_overreads beyond]
    refine ⟨iff_of_false ?_ fun fine => fine (.inl beyond), iff_of_true rfl beyond,
      iff_of_false ?_ fun both => both.2 beyond, iff_of_false ?_ ?_⟩
    · rintro ⟨_, done⟩
      cases done
    · rintro ⟨_, failed⟩
      cases failed
    · intro failed
      cases failed
    · rintro (starves | wakes)
      · exact fed starves
      · exact awake wakes
  · have fate := intact.fate ordinary
    rw [boundedStep_of_inside intact.1 beyond]
    generalize serverStep input config = result at fate
    cases fate with
    | taken next keeps fed awake =>
        refine ⟨iff_of_true ⟨next, rfl⟩ ?_, iff_of_false ?_ beyond,
          iff_of_false ?_ fun both => keeps both.1, iff_of_false ?_ ?_⟩
        · rintro (reads | discards | starves | wakes)
          · exact beyond reads
          · exact keeps discards
          · exact fed starves
          · exact awake wakes
        · intro failed
          cases failed
        · rintro ⟨_, failed⟩
          cases failed
        · intro failed
          cases failed
        · rintro (starves | wakes)
          · exact fed starves
          · exact awake wakes
    | freed pointer discards fed awake =>
        refine ⟨iff_of_false ?_ fun fine => fine (.inr (.inl discards)), iff_of_false ?_ beyond,
          iff_of_true ⟨pointer, rfl⟩ ⟨discards, beyond⟩, iff_of_false ?_ ?_⟩
        · rintro ⟨_, done⟩
          cases done
        · intro failed
          cases failed
        · intro failed
          cases failed
        · rintro (starves | wakes)
          · exact fed starves
          · exact awake wakes
    | null keeps cause =>
        refine ⟨iff_of_false ?_ fun fine => fine (.inr (.inr cause)), iff_of_false ?_ beyond,
          iff_of_false ?_ fun both => keeps both.1, iff_of_true rfl cause⟩
        · rintro ⟨_, done⟩
          cases done
        · intro failed
          cases failed
        · rintro ⟨_, failed⟩
          cases failed

/-! ## Two clients and a third datagram -/

/-- The server once it has handled the datagrams of two clients and another one has arrived. -/
def greeted : Config := loopAfter (greetings ++ List.replicate 3 (visit firstClient 0))

/-- A packet of the first client, for whichever call of the loop asks for a datagram. -/
def packetOf (flags : UInt8) (length : UInt16) (body : List UInt8) : Input :=
  { visit firstClient 0 with
    received := some (firstClient, packetHeaderEncode ⟨1, 0, 0, flags, 1024, length⟩ ++ [0, 0] ++ body) }

/-- The third client of the host. -/
def stranger : SockaddrIn6 := otherClient 66

/-- What a session shows once it has been got. -/
theorem got_of_shown {Shown : Type} {server : Server} {addr : SockaddrIn6}
    {memory : Option Uninitialized} (shows : Session → Shown) {shown : Shown}
    (same : ((sessionGet server addr memory).toOption.bind fun both =>
      both.1.bind fun pointer => (both.2.memory pointer).map shows) = some shown) :
    ∃ pointer entered session, sessionGet server addr memory = .ok (some pointer, entered) ∧
      entered.memory pointer = some session ∧ shows session = shown := by
  cases found : sessionGet server addr memory with
  | error fault =>
      rw [found] at same
      cases same
  | ok both =>
      obtain ⟨pointer, entered⟩ := both
      rw [found] at same
      cases pointer with
      | none => cases same
      | some pointer =>
          obtain ⟨session, live, shows⟩ := Option.map_eq_some_iff.mp same
          exact ⟨pointer, entered, session, rfl, live, shows⟩

/-- The bytes behind a header that is followed by one byte again and again. -/
theorem receiveInto_filled {buffer : Memory} {header : PacketHeader} {count index : Nat} {byte : UInt8}
    (inside : packetHeaderSize + index < bufferSize) (below : index < count) :
    receiveInto buffer (packetHeaderEncode header ++ [0, 0] ++ List.replicate count byte)
      (packetHeaderSize + index) = byte := by
  have front : (packetHeaderEncode header ++ [0, 0]).length = packetHeaderSize := by
    rw [List.length_append, length_packetHeaderEncode]
    rfl
  have received : packetHeaderSize + index < ((packetHeaderEncode header ++ [0, 0] ++
      List.replicate count byte).take bufferSize).length := by
    rw [List.length_take, List.length_append, front, List.length_replicate]
    omega
  rw [receiveInto, Memory.write_of_lt _ _ received, List.getElem_take,
    List.getElem_append_right (front.le.trans (Nat.le_add_right _ _)), List.getElem_replicate]

/-- A name of 5000 bytes, of which the receive buffer holds 4079, none of them zero. -/
theorem overreads_greeted :
    Overreads greeted (packetOf packetFlagSyn 5000 (List.replicate 4080 1)) := by
  obtain ⟨pointer, entered, session, found, live, shown⟩ := @got_of_shown _ (greeted.server.enter
    (packetOf packetFlagSyn 5000 (List.replicate 4080 1))) firstClient (some zeroedSession)
    (fun session => (session.state, session.ack)) (.initial, 1) (by decide +kernel)
  obtain ⟨state, ack⟩ := Prod.mk.inj shown
  refine ⟨firstClient, _, pointer, entered, session, by decide +kernel, rfl, found, live, ?_, state,
    by decide +kernel, by decide +kernel, fun index below => ?_⟩
  · rw [Heard, ack]
    decide +kernel
  · have room : index < 4079 := below
    rw [Nat.add_assoc, receiveInto_filled]
    · decide
    · change 16 + (1 + index) < 4096
      omega
    · change 1 + index < 4080
      omega

/-- What may arrive next at a server with two clients: a long name, a reset, and a client for which there
is no memory. -/
theorem server_crashes_greeted :
    boundedStep (packetOf packetFlagSyn 5000 (List.replicate 4080 1)) greeted =
        .error .outOfBounds ∧
      (∃ pointer, boundedStep (packetOf packetFlagRst 0 []) greeted =
        .error (.useAfterFree pointer)) ∧
      boundedStep { visit stranger 0 with allocation := none } greeted = .error .nullPointer := by
  have run := @loopAfter_run (greetings ++ List.replicate 3 (visit firstClient 0)) (by decide +kernel)
  have checked := @Run.guard _ _ _ (fun config input => orderly config input &&
      decide (nameCopied input config = .ok ())) Fault.diverge
    (fun config input => serverStep input config) _ _ _ run (by decide +kernel)
  have fine := checked.mono fun config input next one => by
    have passes := Bool.and_eq_true_iff.mp one.2
    have bounded : BoundedSteps config input next := by
      rw [BoundedSteps, boundedStep, of_decide_eq_true passes.2]
      exact one.1
    exact (⟨bounded, fun orphans => (orderly_sound passes.1 one.1).2 (.inr (.inr orphans))⟩ :
      BoundedSteps config input next ∧ ¬ Orphans config input)
  have stage : greeted.stage = .recvfrom := by decide +kernel
  have ordinary (input : Input) : ¬ Orphans greeted input := by
    rintro ⟨pointer, session, expires, _⟩
    exact not_expires_of_waiting (by rw [stage]; rfl) pointer session expires
  have crashes (input : Input) := server_crashes_iff initial_beginning fine (ordinary input)
  refine ⟨(crashes _).2.1.mpr overreads_greeted, (crashes _).2.2.1.mpr ⟨?_, ?_⟩,
    (crashes _).2.2.2.mpr (.inl ?_)⟩
  · obtain ⟨pointer, entered, session, found, live, shown⟩ := @got_of_shown _ (greeted.server.enter
      (packetOf packetFlagRst 0 [])) firstClient (some zeroedSession) Session.ack 1 (by decide +kernel)
    have reset : packetFlagIsset (packetHeaderDecode (receiveInto greeted.buffer
        (packetHeaderEncode ⟨1, 0, 0, packetFlagRst, 1024, 0⟩ ++ [0, 0] ++ []))).flags packetFlagRst =
      true := by decide +kernel
    refine (discards_iff stage rfl found live).mpr ⟨?_, .inl reset⟩
    rw [shown]
    decide +kernel
  · rintro ⟨addr, datagram, pointer, entered, session, _, received, _, _, heard, _⟩
    cases received
    exact absurd heard.2 (by decide +kernel)
  · refine ⟨stage, rfl, stranger, _, rfl, ?_⟩
    decide +kernel

end Sas.Server
