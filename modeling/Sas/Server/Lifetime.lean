import Sas.Server.Waiting
import Sas.Server.Refusal
import Sas.Server.Once

/-! # Sessions that are used after they have been freed

The loop holds on to the sessions in its heap, and to the one it waits for. Two kinds of steps free a
session the loop still holds: those that let the state machine delete the session whose timeout is
moved next, and those that let a session expire which is in the heap once more.
-/

namespace Sas.Server

open Foundation Transport

/-- Every session the loop holds on to is allocated. -/
def HoldsLive (config : Config) : Prop :=
  ∀ pointer, some pointer ∈ held config → ∃ session, config.server.memory pointer = some session

/-- The loop is as it should be, and holds live sessions only. -/
def Intact (config : Config) : Prop := Sound config ∧ HoldsLive config

/-- The step reads or writes a session that has been freed. -/
def UsesFreed (config : Config) (input : Input) : Prop :=
  ∃ pointer, serverStep input config = .error (.useAfterFree pointer)

/-- The step uses no session that has been freed, and the loop goes on with none. -/
def UsesLive (config : Config) (input : Input) : Prop :=
  ¬ UsesFreed config input ∧ ∀ next, Steps config input next → HoldsLive next

/-- The step receives a packet that deletes the session of its sender. -/
def Discards (config : Config) (input : Input) : Prop :=
  ∃ addr datagram pointer entered session, config.stage = .recvfrom ∧
    input.received = some (addr, datagram) ∧
    sessionGet (config.server.enter input) addr input.allocation = .ok (some pointer, entered) ∧
    entered.memory pointer = some session ∧
    Accepted (packetHeaderDecode (receiveInto config.buffer datagram)) session.ack ∧
    Deletes session (exchangeAt entered.kernel (receiveInto config.buffer datagram)
      (receivedCount datagram))

/-- The step finds the timeout of a session passed that has an entry in the heap. -/
def Orphans (config : Config) (input : Input) : Prop :=
  ∃ pointer session, Expires config input pointer session ∧ HasEntry config.server pointer

section

variable {config next : Config} {input : Input} {server : Server} {pointer : SessionPtr}
  {session : Session}

/-- Where only live sessions are held, all entries of the heap are alive. -/
theorem HoldsLive.alive (live : HoldsLive config) (sound : Sound config) : Alive config.server := by
  intro entry member
  cases entry with
  | none => exact (sound.entries member).elim
  | some pointer =>
      have holds : some pointer ∈ held config :=
        Multiset.mem_of_le (le_withWaiting config.server.pending _) member
      obtain ⟨session, live'⟩ := live pointer holds
      exact ⟨pointer, session, rfl, live'⟩

/-- Where only live sessions are held, the one that is waited for is alive. -/
theorem HoldsLive.waiting (live : HoldsLive config) (waits : config.stage.waiting = some pointer) :
    ∃ session, config.server.memory pointer = some session := by
  apply live pointer
  rw [held, waits]
  exact Multiset.mem_cons_self (some pointer) config.server.pending

/-- At the beginning nothing is held. -/
theorem holdsLive_initial (initial : Initial config) : HoldsLive config := by
  obtain ⟨kernel, clock, buffer, rfl⟩ := initial
  intro pointer member
  exact (Multiset.notMem_zero _ member).elim

/-- A session that expires and is not in the heap any more leaves only live entries behind. -/
theorem Deleted.alive {after : Server} (deleted : Deleted server pointer session after)
    (alive : Alive server) (absent : ¬ HasEntry server pointer) : Alive after := by
  intro entry member
  rw [pending, deleted.timeouts] at member
  obtain ⟨other, session', rfl, live⟩ := alive entry member
  have differ : other ≠ pointer := fun same => absent (hasEntry_iff.mpr (same ▸ member))
  obtain ⟨session'', live'⟩ := (live_of_detached (deleted.others other differ)).mpr ⟨session', live⟩
  exact ⟨other, session'', rfl, live'⟩

/-- A step keeps the loop from holding freed sessions unless the one that expires has an entry
left. -/
theorem Effect.holdsLive_iff (effect : Effect config input next) (live : HoldsLive config) :
    HoldsLive next ↔ ¬ Orphans config input := by
  have quietly (quiet : Undisturbed config input next) (among : held next ≤ held config) :
      HoldsLive next ↔ ¬ Orphans config input := by
    have ordinary : ¬ Orphans config input := by
      rintro ⟨_, _, expires, _⟩
      exact quiet.expires _ _ expires
    refine iff_of_true (fun other member => ?_) ordinary
    rw [quiet.memory]
    exact live other (Multiset.mem_of_le among member)
  cases effect with
  | kept quiet same => exact quietly quiet (le_of_eq same)
  | dropped stage known wake early quiet whole =>
      apply quietly quiet
      rw [whole]
      exact Multiset.le_cons_self _ _
  | returned err returns quiet among => exact quietly quiet among
  | expired expires freed others fresh calls whole =>
      rename_i expiring session
      have left : held next = config.server.pending := by
        rw [held, expires.waiting] at whole
        change some expiring ::ₘ config.server.pending = some expiring ::ₘ held next at whole
        exact ((Multiset.cons_inj_right (some expiring)).mp whole).symm
      constructor
      · rintro live' ⟨other, _, expires', entry⟩
        cases expires.waiting.symm.trans expires'.waiting
        rw [hasEntry_iff, ← left] at entry
        obtain ⟨_, known⟩ := live' _ entry
        cases freed.symm.trans known
      · intro ordinary other member
        have differ : other ≠ expiring := by
          rintro rfl
          rw [left, ← hasEntry_iff] at member
          exact ordinary ⟨_, _, expires, member⟩
        rw [left] at member
        refine (live_of_detached (others other differ)).mpr (live other ?_)
        exact Multiset.mem_of_le (le_withWaiting config.server.pending _) member
  | handled stage received found got ran kept top reheaped =>
      rename_i addr datagram handled entered session outcome
      have ordinary : ¬ Orphans config input := by
        rintro ⟨_, _, expires, _⟩
        have waits := expires.waiting
        rw [stage] at waits
        cases waits
      refine iff_of_true (fun other member => ?_) ordinary
      rw [held, top] at member
      change some other ∈ next.server.pending at member
      rw [reheaped.pending] at member
      rw [reheaped.memory]
      by_cases same : other = handled
      · subst same
        exact ⟨_, Function.update_self _ _ _⟩
      · have older : some other ∈ held config :=
          (Multiset.mem_cons.mp member).resolve_left fun equal => same (Option.some.inj equal)
        obtain ⟨session', live'⟩ := (live_of_detached (got.others other same)).mpr (live other older)
        exact ⟨session', (Function.update_of_ne same _ _).trans live'⟩

/-- A session is deleted by the packets it accepts that delete. -/
theorem deleted_iff {exchange : Exchange} {outcome : Outcome} (formed : WellFormed session)
    (done : exchange.handledBy session = .ok outcome) :
    outcome.deleted = true ↔ Accepted exchange.header session.ack ∧ Deletes session exchange := by
  have reaction := reaction_of_handledBy formed done
  by_cases accepted : Accepted exchange.header session.ack
  · rw [and_iff_right accepted, ← reaction.none_iff accepted]
    cases outcome.deleted with
    | true => exact iff_of_true rfl rfl
    | false => exact iff_of_false Bool.false_ne_true (Option.some_ne_none _)
  · obtain ⟨_, stays⟩ := reaction.of_not_accepted accepted
    refine iff_of_false (fun deleted => ?_) fun both => accepted both.1
    rw [deleted] at stays
    cases stays

/-! ## Steps that fail -/

/-- The entries stay live while a session is handled. -/
theorem Got.alive {addr : SockaddrIn6} {entered : Server} {outcome : Outcome} {clock : Int}
    (got : Got server addr pointer entered session) (alive : Alive server) :
    Alive (afterHandling entered pointer outcome clock) := by
  intro entry member
  change entry ∈ entriesOf entered.timeouts.heap entered.timeouts.count at member
  rw [got.timeouts] at member
  obtain ⟨other, before, rfl, live⟩ := alive entry member
  by_cases same : other = pointer
  · subst same
    exact ⟨other, _, rfl, Function.update_self _ _ _⟩
  · obtain ⟨after, live'⟩ := (live_of_detached (got.others other same)).mpr ⟨before, live⟩
    exact ⟨other, after, rfl, (Function.update_of_ne same _ _).trans live'⟩

/-- A step discards the session it has got for the datagram, or none. -/
theorem discards_iff {addr : SockaddrIn6} {datagram : List UInt8} {entered : Server}
    (stage : config.stage = .recvfrom) (received : input.received = some (addr, datagram))
    (found : sessionGet (config.server.enter input) addr input.allocation =
      .ok (some pointer, entered)) (live : entered.memory pointer = some session) :
    Discards config input ↔
      Accepted (packetHeaderDecode (receiveInto config.buffer datagram)) session.ack ∧
        Deletes session (exchangeAt entered.kernel (receiveInto config.buffer datagram)
          (receivedCount datagram)) := by
  constructor
  · rintro ⟨_, _, _, _, _, _, received', found', live', deletes⟩
    cases received.symm.trans received'
    cases found.symm.trans found'
    cases live.symm.trans live'
    exact deletes
  · intro deletes
    exact ⟨addr, datagram, pointer, entered, session, stage, received, found, live, deletes⟩

/-- Receiving a packet uses a freed session exactly if the packet deletes the session. -/
theorem usesFreed_recvfrom_iff (sound : Sound config) (live : HoldsLive config)
    (stage : config.stage = .recvfrom) : UsesFreed config input ↔ Discards config input := by
  obtain ⟨chains, inv⟩ := sound.table
  have inv' : TableInv (config.server.enter input) chains := inv.congr rfl rfl fun _ => rfl
  unfold UsesFreed serverStep
  rw [stage]
  cases received : input.received with
  | none =>
      refine iff_of_false ?_ ?_
      · rintro ⟨_, failed⟩
        cases failed
      · rintro ⟨_, _, _, _, _, _, some, _⟩
        cases received.symm.trans some
  | some both =>
      obtain ⟨addr, datagram⟩ := both
      dsimp only
      rcases sessionGet_got inv' addr input.allocation with missing |
        ⟨pointer, entered, session, found, got⟩
      · refine iff_of_false ?_ ?_
        · rintro ⟨_, failed⟩
          rw [serverReceive, missing] at failed
          cases failed
        · rintro ⟨addr', datagram', _, _, _, _, some, found, _⟩
          cases received.symm.trans some
          cases missing.symm.trans found
      have formed := got.formed sound.formed
      have fresh : entered.kernel.calls = [] := by
        rw [got.kernel]
        rfl
      obtain ⟨outcome, handled, _⟩ := handledBy_reacts formed (exchangeAt entered.kernel
        (receiveInto config.buffer datagram) (receivedCount datagram))
      have deletes := deleted_iff formed handled
      rw [discards_iff stage received found got.live]
      refine Iff.trans ?_ deletes
      obtain ⟨chains', table⟩ := got.table
      cases deleted : outcome.deleted with
      | true =>
          rw [serverReceive_deleted table found got.live formed fresh handled deleted]
          exact iff_of_true ⟨pointer, rfl⟩ rfl
      | false =>
          rw [serverReceive_kept found got.live fresh handled deleted]
          have alive : Alive (config.server.enter input) := live.alive sound
          have written : (afterHandling entered pointer outcome
              (entered.clock + input.elapsed)).memory pointer =
                some { outcome.session with
                  timeout := entered.clock + input.elapsed + sessionTimeout } :=
            Function.update_self _ _ _
          obtain ⟨after, added⟩ := timeoutAdd_ok (got.alive alive) written
          rw [added]
          refine iff_of_false ?_ Bool.false_ne_true
          rintro ⟨_, failed⟩
          cases failed

/-- The server may time out any session it holds. -/
theorem serverTimeout_ok {chains : Nat → List SessionPtr} (inv : TableInv server chains)
    (known : server.memory pointer = some session) (elapsed : Nat) :
    ∃ after, serverTimeout server pointer elapsed = .ok after := by
  by_cases passed : session.timeout ≤ server.clock + elapsed
  · obtain ⟨after, timedOut, _⟩ := serverTimeout_deleted inv known passed
    exact ⟨after, timedOut⟩
  · exact ⟨_, (serverTimeout_eq known elapsed).trans (if_neg passed)⟩

/-- While nothing is received, a freed session is used only after one that has an entry has
expired. -/
theorem orphans_of_usesFreed (sound : Sound config) (live : HoldsLive config)
    (elsewhere : config.stage ≠ .recvfrom) (used : UsesFreed config input) :
    Orphans config input := by
  obtain ⟨chains, inv⟩ := sound.table
  have entered : TableInv (config.server.enter input) chains := inv.congr rfl rfl fun _ => rfl
  have alive : Alive (config.server.enter input) := live.alive sound
  obtain ⟨freed, failed⟩ := used
  cases stage : config.stage with
  | recvfrom => exact (elsewhere stage).elim
  | returned err =>
      rw [serverStep, stage] at failed
      cases failed
  | top =>
      obtain ⟨popped, after, pop⟩ := timeoutPop_ok alive
      rw [serverStep, stage] at failed
      simp only [pop, bind, Except.bind] at failed
      cases failed
  | expiry waiting now =>
      cases waiting with
      | none =>
          rw [serverStep, stage] at failed
          cases failed
      | some pointer =>
          have waits : config.stage.waiting = some pointer := by rw [stage]; rfl
          obtain ⟨session, known⟩ := live.waiting waits
          by_cases due : session.timeout ≤ now
          · by_contra ordinary
            obtain ⟨removed, deleted, step⟩ := serverStep_due sound stage known due
            have expires : Expires config input pointer session := by
              refine ⟨known, ?_⟩
              rw [stage]
              exact ⟨rfl, due⟩
            have absent : ¬ HasEntry config.server pointer := fun entry =>
              ordinary ⟨pointer, session, expires, entry⟩
            obtain ⟨popped, after, pop⟩ := timeoutPop_ok (deleted.alive alive absent)
            rw [step, pop] at failed
            cases failed
          · have loaded : (config.server.enter input).load pointer = .ok session :=
              load_of_some known
            rw [serverStep, stage] at failed
            simp only [loaded, bind, Except.bind, ge_iff_le, due, ↓reduceIte] at failed
            cases failed
  | select waiting now =>
      rw [serverStep, stage] at failed
      cases wake : input.wake with
      | failed errno =>
          simp only [wake] at failed
          cases failed
      | timedOut =>
          simp only [wake] at failed
          cases waiting with
          | none => cases failed
          | some pointer =>
              have waits : config.stage.waiting = some pointer := by rw [stage]; rfl
              obtain ⟨session, known⟩ := live.waiting waits
              obtain ⟨after, timedOut⟩ := serverTimeout_ok entered known input.elapsed
              simp only [timedOut, bind, Except.bind] at failed
              cases failed
      | readable =>
          simp only [wake] at failed
          cases waiting with
          | none => cases failed
          | some pointer =>
              have waits : config.stage.waiting = some pointer := by rw [stage]; rfl
              obtain ⟨session, known⟩ := live.waiting waits
              obtain ⟨after, added⟩ := timeoutAdd_ok alive known
              simp only [added, bind, Except.bind] at failed
              cases failed

/-- A step that deletes a session with an entry left is taken, or uses a freed session already. -/
theorem Orphans.steps (orphans : Orphans config input) (sound : Sound config) :
    UsesFreed config input ∨ ∃ next, Steps config input next := by
  obtain ⟨chains, inv⟩ := sound.table
  have entered : TableInv (config.server.enter input) chains := inv.congr rfl rfl fun _ => rfl
  obtain ⟨pointer, session, ⟨known, due⟩, _⟩ := orphans
  cases stage : config.stage with
  | expiry waiting now =>
      rw [stage] at due
      obtain ⟨rfl, passed⟩ := due
      obtain ⟨removed, deleted, step⟩ := serverStep_due sound stage known passed
      cases pop : timeoutPop removed with
      | ok popped =>
          rw [pop] at step
          exact .inr ⟨_, step⟩
      | error fault =>
          have entries : none ∉ removed.pending := by
            rw [pending, deleted.timeouts]
            exact sound.entries
          obtain ⟨freed, rfl⟩ := timeoutPop_fault entries pop
          rw [pop] at step
          exact .inl ⟨freed, step⟩
  | select waiting now =>
      rw [stage] at due
      obtain ⟨rfl, wake, _⟩ := due
      obtain ⟨after, timedOut⟩ := serverTimeout_ok entered known input.elapsed
      refine .inr ⟨⟨after, .top, config.buffer⟩, ?_⟩
      unfold Steps serverStep
      rw [stage]
      simp only [wake, timedOut, bind, Except.bind]
  | _ =>
      rw [stage] at due
      exact due.elim

/-- A step leaves the loop with live sessions unless it frees one that has an entry. -/
theorem Steps.holdsLive_iff (step : Steps config input next) (sound : Sound config)
    (live : HoldsLive config) : HoldsLive next ↔ ¬ Orphans config input := by
  cases stage : config.stage with
  | returned err =>
      rw [step.returned stage]
      have ordinary : ¬ Orphans config input := by
        rintro ⟨_, _, expires, _⟩
        have waits := expires.waiting
        rw [stage] at waits
        cases waits
      exact iff_of_true live ordinary
  | _ =>
      have running : ∀ err, config.stage ≠ .returned err := by
        intro err same
        cases stage.symm.trans same
      exact (step.effect sound running).1.holdsLive_iff live

/-- A step that orphans nothing leaves the configuration intact. -/
theorem Intact.step (intact : Intact config) (step : Steps config input next)
    (ordinary : ¬ Orphans config input) : Intact next :=
  ⟨step.sound intact.1, (step.holdsLive_iff intact.1 intact.2).mpr ordinary⟩

/-- A step uses live sessions exactly if it neither discards nor orphans one. -/
theorem usesLive_iff (sound : Sound config) (live : HoldsLive config) :
    UsesLive config input ↔ ¬ (Discards config input ∨ Orphans config input) := by
  rw [not_or]
  constructor
  · intro ⟨unfreed, after⟩
    refine ⟨fun discards => ?_, fun orphans => ?_⟩
    · obtain ⟨_, _, _, _, _, stage, _⟩ := id discards
      exact unfreed ((usesFreed_recvfrom_iff sound live stage).mpr discards)
    · rcases orphans.steps sound with freed | ⟨next, step⟩
      · exact unfreed freed
      · exact (step.holdsLive_iff sound live).mp (after next step) orphans
  · intro ⟨keeps, ordinary⟩
    refine ⟨fun used => ?_, fun next step => (step.holdsLive_iff sound live).mpr ordinary⟩
    by_cases stage : config.stage = .recvfrom
    · exact keeps ((usesFreed_recvfrom_iff sound live stage).mp used)
    · exact ordinary (orphans_of_usesFreed sound live stage used)

/-- A step that is taken uses live sessions exactly if it leaves the loop with such. -/
theorem Steps.usesLive_iff (step : Steps config input next) :
    UsesLive config input ↔ HoldsLive next := by
  constructor
  · exact fun uses => uses.2 next step
  · intro live
    refine ⟨fun ⟨freed, failed⟩ => ?_, fun next' step' => ?_⟩
    · cases step.symm.trans failed
    · cases steps_functional _ _ _ _ step step'
      exact live

end

/-! ## Runs -/

/-- **Sessions are used while they live.** In every run, with whatever step is tried after it, the
loop uses and holds no session that has been freed, exactly if no step of it receives a packet that
deletes a session or lets a session expire that has another entry in the heap. -/
theorem used_live_iff {source config : Config} {inputs : List Input} (initial : Initial source)
    (run : Run Steps source inputs config) (input : Input) :
    Run.Always Steps source inputs HoldsLive ∧ UsesLive config input ↔
      Run (fun config input next => Steps config input next ∧
          ¬ (Discards config input ∨ Orphans config input)) source inputs config ∧
        ¬ (Discards config input ∨ Orphans config input) := by
  have kept : Run.Always Steps source inputs HoldsLive ↔
      Run (fun config input next => Steps config input next ∧
        ¬ (Discards config input ∨ Orphans config input)) source inputs config := by
    have begins : Intact source := ⟨sound_initial initial, holdsLive_initial initial⟩
    have holds : ∀ config, Intact config → HoldsLive config := fun _ intact => intact.2
    refine run.always_iff_of_invariant steps_functional begins holds ?_ ?_
    · intro config input next ⟨sound, live⟩ step ordinary
      exact ⟨step.sound sound, step.usesLive_iff.mp ((usesLive_iff sound live).mpr ordinary)⟩
    · intro config input next ⟨sound, live⟩ step live'
      exact (usesLive_iff sound live).mp (step.usesLive_iff.mpr live')
  rw [← kept]
  exact and_congr_right fun always => usesLive_iff (sound_run initial run) (always.last run)

/-! ## A request for a file that is missing -/

/-- The first datagram of a client uses no freed session, and no step tried after it would. -/
theorem used_live_arrival : Run.Always Steps beginning (List.replicate 4 arrival) HoldsLive ∧
      UsesLive (repeated arrival 4) arrival ↔
    Run (fun config input next => Steps config input next ∧
        ¬ (Discards config input ∨ Orphans config input)) beginning (List.replicate 4 arrival)
        (repeated arrival 4) ∧
      ¬ (Discards (repeated arrival 4) arrival ∨ Orphans (repeated arrival 4) arrival) :=
  used_live_iff initial_beginning arrival_run arrival

/-- The server moves the timeout of the session it has refused. -/
theorem not_used_live : ¬ ∀ (source config : Config) (inputs : List Input) (input : Input),
    Initial source → Run Steps source inputs config → ¬ UsesFreed config input := by
  intro unfreed
  apply unfreed beginning _ _ (requesting noFiles) initial_beginning noFiles_run
  have failed : (serverStep (requesting noFiles) (repeated (requesting noFiles) 3)).map
      (fun _ => ()) = .error (.useAfterFree 0) := by
    decide +kernel
  cases step : serverStep (requesting noFiles) (repeated (requesting noFiles) 3) with
  | ok next =>
      rw [step] at failed
      cases failed
  | error fault =>
      rw [step] at failed
      cases failed
      exact ⟨0, step⟩

end Sas.Server
