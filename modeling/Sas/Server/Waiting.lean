import Sas.Server.Loop
import Sas.Server.Directory

/-! # Every session waits for its timeout

Each session of the table has an entry in the timeout heap, as long as `select` does not give up
before the session it was called for is due. That a session has only one entry is another matter: the
loop adds a session with every datagram it handles, whether or not the session waits already.
-/

namespace Sas.Server

open Foundation Transport

/-- The session table contains a session: the chain of some bucket meets it. -/
def InTable (server : Server) (pointer : SessionPtr) : Prop :=
  ∃ index < server.sessions.capacity, ∃ nodes,
    Chain server.nextOf (server.sessions.table index) nodes ∧ pointer ∈ nodes

/-- The timeout heap contains a session. -/
def HasEntry (server : Server) (pointer : SessionPtr) : Prop :=
  ∃ index < server.timeouts.count, server.timeouts.heap index = some pointer

/-- No session occurs more than once in the timeout heap, and the heap has no more entries than the
table has sessions. -/
structure Single (server : Server) : Prop where
  once : ∀ first < server.timeouts.count, ∀ second < server.timeouts.count,
    server.timeouts.heap first = server.timeouts.heap second → first = second
  fewer : (server.timeouts.count : Int) ≤ server.sessions.count

/-- A step in which `select` returns 0 only once the clock has reached the timeout of the session it
was called for. -/
def PunctualStep (config : Config) (input : Input) (next : Config) : Prop :=
  Steps config input next ∧ ∀ pointer session now, config.stage = .select (some pointer) now →
    config.server.memory pointer = some session → input.wake = .timedOut →
    session.timeout ≤ config.server.clock + input.elapsed

/-- The step handles no datagram of a session that has an entry in the heap. -/
def Unlisted (config : Config) (input : Input) : Prop :=
  ∀ addr datagram pointer entered, config.stage = .recvfrom →
    input.received = some (addr, datagram) →
    sessionGet (config.server.enter input) addr input.allocation = .ok (some pointer, entered) →
    ¬ HasEntry config.server pointer

/-- The loop holds every session, until it has returned. -/
def Awaited (config : Config) : Prop :=
  (∀ err, config.stage ≠ .returned err) → ∀ pointer session,
    config.server.memory pointer = some session → some pointer ∈ held config

/-- The loop holds every session once at most, and sessions only. -/
structure Distinct (config : Config) : Prop where
  nodup : (held config).Nodup
  alive : ∀ entry ∈ held config, ∃ pointer session, entry = some pointer ∧
    config.server.memory pointer = some session

section

variable {server : Server} {chains : Nat → List SessionPtr} {config next : Config} {input : Input}
  {pointer : SessionPtr}

/-- A session has an entry exactly if the heap lists it. -/
theorem hasEntry_iff : HasEntry server pointer ↔ some pointer ∈ server.pending :=
  mem_entriesOf.symm

/-- The sessions of the table are the allocated ones. -/
theorem TableInv.inTable_iff (inv : TableInv server chains) :
    InTable server pointer ↔ ∃ session, server.memory pointer = some session := by
  constructor
  · intro ⟨index, _, nodes, chain, member⟩
    cases chain.unique (inv.chain index)
    obtain ⟨session, live, _⟩ := inv.placed index pointer member
    exact ⟨session, live⟩
  · intro ⟨session, live⟩
    exact ⟨_, Nat.mod_lt _ inv.capacity_pos, _, inv.chain _, inv.listed pointer session live⟩

/-- The table has as many sessions as there are pointers to allocated ones. -/
theorem TableInv.card_le (inv : TableInv server chains) {entries : Multiset (Option SessionPtr)}
    (nodup : entries.Nodup) (alive : ∀ entry ∈ entries, ∃ pointer session, entry = some pointer ∧
      server.memory pointer = some session) : (entries.card : Int) ≤ server.sessions.count := by
  let nodes : Finset SessionPtr :=
    (Finset.range server.sessions.capacity).biUnion fun index => (chains index).toFinset
  have among : entries ⊆ (nodes.map Function.Embedding.some).val := by
    intro entry member
    obtain ⟨pointer, session, rfl, live⟩ := alive entry member
    change some pointer ∈ nodes.map Function.Embedding.some
    refine Finset.mem_map.mpr ⟨pointer, ?_, rfl⟩
    apply Finset.mem_biUnion.mpr
    refine ⟨bucketIndex server session.addr, ?_, ?_⟩
    · exact Finset.mem_range.mpr (Nat.mod_lt _ inv.capacity_pos)
    · exact List.mem_toFinset.mpr (inv.listed pointer session live)
  have few : entries.card ≤ nodes.card := by
    rw [← Finset.card_map Function.Embedding.some]
    exact Multiset.card_le_card ((Multiset.le_iff_subset nodup).mpr among)
  have bound : nodes.card ≤ ∑ index ∈ Finset.range server.sessions.capacity,
      (chains index).length := by
    apply Finset.card_biUnion_le.trans
    apply Finset.sum_le_sum
    intro index _
    exact List.toFinset_card_le (chains index)
  rw [inv.count_eq]
  exact_mod_cast few.trans bound

/-- A session is allocated if one is that agrees with it up to the link. -/
theorem live_of_detached {before after : SessionPtr → Option Session}
    (same : (after pointer).map Session.detached = (before pointer).map Session.detached) :
    (∃ session, after pointer = some session) ↔ ∃ session, before pointer = some session := by
  have alike := congrArg Option.isSome same
  rw [Option.isSome_map, Option.isSome_map] at alike
  rw [← Option.isSome_iff_exists, ← Option.isSome_iff_exists, alike]

/-- What a step holds it has held, except for the session it has handled. -/
theorem Effect.awaited (effect : Effect config input next) (awaited : Awaited config)
    (running : ∀ err, config.stage ≠ .returned err)
    (punctual : ∀ pointer session now, config.stage = .select (some pointer) now →
      config.server.memory pointer = some session → input.wake = .timedOut →
      session.timeout ≤ config.server.clock + input.elapsed) : Awaited next := by
  intro open' other session live
  have before := awaited running
  cases effect with
  | kept quiet same =>
      rw [same]
      rw [quiet.memory] at live
      exact before other session live
  | dropped stage known wake early =>
      exact (not_le.mpr early (punctual _ _ _ stage known wake)).elim
  | returned err returns => exact (open' err returns).elim
  | expired expires freed others fresh calls whole =>
      rename_i expiring _
      have differ : other ≠ expiring := by
        intro same
        rw [same, freed] at live
        cases live
      obtain ⟨session', live'⟩ := (live_of_detached (others other differ)).mp ⟨session, live⟩
      have member := before other session' live'
      rw [whole] at member
      rcases Multiset.mem_cons.mp member with same | left
      · exact (differ (Option.some.inj same)).elim
      · exact left
  | handled stage received found got ran kept top reheaped =>
      rename_i addr datagram handled entered session' outcome
      have whole : held next = some handled ::ₘ held config := by
        rw [held, top]
        exact reheaped.pending
      rw [whole]
      by_cases same : other = handled
      · rw [same]
        exact Multiset.mem_cons_self _ _
      · apply Multiset.mem_cons_of_mem
        rw [reheaped.memory] at live
        have live' : entered.memory other = some session :=
          (Function.update_of_ne same _ _).symm.trans live
        obtain ⟨session'', live''⟩ := (live_of_detached (got.others other same)).mp ⟨session, live'⟩
        exact before other session'' live''

/-- The session whose datagram a step handles had no entry, if the heap has no entry twice after
it. -/
theorem Effect.unlisted (effect : Effect config input next)
    (nodup : next.stage = .top → next.server.pending.Nodup) : Unlisted config input := by
  intro addr' datagram' pointer' entered' there received' found'
  cases effect with
  | handled stage received found got ran kept top reheaped =>
      cases received.symm.trans received'
      cases found.symm.trans found'
      have once := nodup top
      have before : held config = config.server.pending := by
        rw [held, stage]
        rfl
      rw [reheaped.pending, before] at once
      rw [hasEntry_iff]
      exact (Multiset.nodup_cons.mp once).1
  | kept quiet => cases (quiet.received there).symm.trans received'
  | dropped stage => cases stage.symm.trans there
  | returned err returns quiet => cases (quiet.received there).symm.trans received'
  | expired expires =>
      have waiting := expires.waiting
      rw [there] at waiting
      cases waiting

/-- A step that handles no datagram of a session with an entry holds every session once at most. -/
theorem Effect.distinct (effect : Effect config input next) (distinct : Distinct config)
    (unlisted : Unlisted config input) : Distinct next := by
  have fewer : held next ≤ held config →
      (∀ other, some other ∈ held next → ((∃ session, next.server.memory other = some session) ↔
        ∃ session, config.server.memory other = some session)) → Distinct next := by
    intro among lives
    refine ⟨Multiset.nodup_of_le among distinct.nodup, fun entry member => ?_⟩
    obtain ⟨pointer, session, rfl, live⟩ := distinct.alive entry (Multiset.mem_of_le among member)
    obtain ⟨session', live'⟩ := (lives pointer member).mpr ⟨session, live⟩
    exact ⟨pointer, session', rfl, live'⟩
  cases effect with
  | kept quiet same => exact fewer (le_of_eq same) fun other _ => by rw [quiet.memory]
  | dropped stage known wake early quiet whole =>
      refine fewer ?_ fun other _ => by rw [quiet.memory]
      rw [whole]
      exact Multiset.le_cons_self _ _
  | returned err returns quiet among => exact fewer among fun other _ => by rw [quiet.memory]
  | expired expires freed others fresh calls whole =>
      rename_i expiring session
      have left : some expiring ∉ held next := by
        have nodup := distinct.nodup
        rw [whole] at nodup
        exact (Multiset.nodup_cons.mp nodup).1
      refine fewer ?_ fun other member => ?_
      · rw [whole]
        exact Multiset.le_cons_self _ _
      · exact live_of_detached (others other fun same => left (same ▸ member))
  | handled stage received found got ran kept top reheaped =>
      rename_i addr datagram pointer entered session outcome
      have whole : held next = some pointer ::ₘ held config := by
        rw [held, top]
        exact reheaped.pending
      have before : held config = config.server.pending := by
        rw [held, stage]
        rfl
      have unheld := unlisted addr datagram pointer entered stage received found
      rw [hasEntry_iff, ← before] at unheld
      refine ⟨?_, fun entry member => ?_⟩
      · rw [whole]
        exact Multiset.nodup_cons.mpr ⟨unheld, distinct.nodup⟩
      · rw [whole] at member
        rw [reheaped.memory]
        rcases Multiset.mem_cons.mp member with rfl | older
        · exact ⟨pointer, _, rfl, Function.update_self _ _ _⟩
        · obtain ⟨other, session', rfl, live⟩ := distinct.alive entry older
          have differ : other ≠ pointer := fun same => unheld (same ▸ older)
          obtain ⟨session'', live''⟩ :=
            (live_of_detached (got.others other differ)).mpr ⟨session', live⟩
          exact ⟨other, session'', rfl, (Function.update_of_ne differ _ _).trans live''⟩

/-- A session that is held once at most has one entry at most. -/
theorem Distinct.single (distinct : Distinct config) (sound : Sound config)
    (top : config.stage = .top) : Single config.server := by
  obtain ⟨chains, inv⟩ := sound.table
  have whole : held config = config.server.pending := by
    rw [held, top]
    rfl
  obtain ⟨nodup, alive⟩ := distinct
  rw [whole] at nodup alive
  refine ⟨nodup_entriesOf.mp nodup, ?_⟩
  have bound := inv.card_le nodup alive
  rw [pending, card_entriesOf] at bound
  exact bound

/-- The inputs determine the run. -/
theorem steps_functional (config : Config) (input : Input) (next next' : Config)
    (step : Steps config input next) (step' : Steps config input next') : next = next' :=
  Except.ok.inj (step.symm.trans step')

/-- The session whose datagram a step handles had no entry, if no session has two after it. -/
theorem Steps.unlisted (step : Steps config input next) (sound : Sound config)
    (single : next.stage = .top → Single next.server) : Unlisted config input := by
  cases stage : config.stage with
  | returned err =>
      intro addr datagram pointer entered there
      cases stage.symm.trans there
  | _ =>
      apply (step.effect sound fun err same => nomatch stage.symm.trans same).1.unlisted
      exact fun top => nodup_entriesOf.mpr (single top).once

/-- A step whose packet meets no listed session keeps the entries distinct. -/
theorem Steps.distinct (step : Steps config input next) (sound : Sound config)
    (distinct : Distinct config) (unlisted : Unlisted config input) : Distinct next := by
  cases stage : config.stage with
  | returned err =>
      rw [step.returned stage]
      exact distinct
  | _ =>
      exact (step.effect sound fun err same => nomatch stage.symm.trans same).1.distinct distinct
        unlisted

/-- At the beginning there is nothing to wait for. -/
theorem awaited_initial (initial : Initial config) : Awaited config := by
  obtain ⟨kernel, clock, buffer, rfl⟩ := initial
  intro _ pointer session live
  cases live

/-- Where `select` keeps its time, no session is dropped. -/
theorem PunctualStep.awaited (step : PunctualStep config input next) (sound : Sound config)
    (awaited : Awaited config) : Awaited next := by
  cases stage : config.stage with
  | returned err =>
      rw [step.1.returned stage]
      exact awaited
  | _ =>
      have running : ∀ err, config.stage ≠ .returned err := by
        intro err same
        cases stage.symm.trans same
      exact (step.1.effect sound running).1.awaited awaited running step.2

/-- At the beginning there are no entries. -/
theorem distinct_initial (initial : Initial config) : Distinct config := by
  obtain ⟨kernel, clock, buffer, rfl⟩ := initial
  refine ⟨Multiset.nodup_zero, fun entry member => ?_⟩
  exact (Multiset.notMem_zero entry member).elim

end

/-! ## Runs -/

section

variable {source target : Config} {inputs : List Input}

/-- Where `select` keeps its time, every session of the table has an entry in the heap whenever the
loop is at its head. -/
theorem sessions_awaited (initial : Initial source) (run : Run PunctualStep source inputs target)
    (top : target.stage = .top) {pointer : SessionPtr} (member : InTable target.server pointer) :
    HasEntry target.server pointer := by
  have kept : Sound target ∧ Awaited target := by
    refine run.invariant (fun config => Sound config ∧ Awaited config) ?_ ?_
    · exact ⟨sound_initial initial, awaited_initial initial⟩
    · intro config input next holds step
      exact ⟨step.1.sound holds.1, step.awaited holds.1 holds.2⟩
  obtain ⟨sound, awaited⟩ := kept
  obtain ⟨chains, inv⟩ := sound.table
  obtain ⟨session, live⟩ := inv.inTable_iff.mp member
  have running : ∀ err, target.stage ≠ .returned err := fun err same => nomatch top.symm.trans same
  have waits := awaited running pointer session live
  rw [held, top] at waits
  exact hasEntry_iff.mpr waits

/-- No session has two entries at the head of the loop, at any moment of a run, exactly if all
datagrams of the run are for sessions that have no entry when the datagram is received. -/
theorem entries_single_iff (initial : Initial source) (run : Run Steps source inputs target) :
    Run.Always Steps source inputs (fun config => config.stage = .top → Single config.server) ↔
      Run (fun config input next => Steps config input next ∧ Unlisted config input) source inputs
        target := by
  have begins : Sound source ∧ Distinct source :=
    ⟨sound_initial initial, distinct_initial initial⟩
  refine @Run.always_iff_of_invariant _ _ Steps _ _ (fun config => Sound config ∧ Distinct config)
    steps_functional source target inputs run begins ?_ ?_ ?_
  · intro config ⟨sound, distinct⟩ top
    exact distinct.single sound top
  · intro config input next ⟨sound, distinct⟩ step unlisted
    exact ⟨step.sound sound, step.distinct sound distinct unlisted⟩
  · intro config input next ⟨sound, _⟩ step single
    exact step.unlisted sound single

end

/-! ## Two clients -/

/-- The server before its first iteration. -/
def beginning : Config := ⟨serverAlloc idleKernel 0, .top, fun _ => 0⟩

/-- The server of the examples has just been started. -/
theorem initial_beginning : Initial beginning := ⟨idleKernel, 0, fun _ => 0, rfl⟩

/-- A packet without flags from `firstClient`, for whichever call of the loop asks for one. -/
def arrival : Input :=
  ⟨idleKernel.env, 0, .readable, some (firstClient, List.replicate packetHeaderSize 0),
    some zeroedSession⟩

/-- The server after some steps of the loop that meet one input. -/
def repeated (input : Input) (steps : Nat) : Config :=
  ((List.replicate steps input).foldlM (fun config input => serverStep input config)
    beginning).toOption.getD beginning

/-- The server of the example is reached by a run of one repeated input. -/
theorem repeated_run {input : Input} {steps : Nat}
    (fine : ((List.replicate steps input).foldlM (fun config input => serverStep input config)
      beginning).isOk = true) :
    Run Steps beginning (List.replicate steps input) (repeated input steps) :=
  Run.of_foldlM (eq_ok_getD fine beginning)

/-- The loop handles a first datagram. -/
theorem arrival_run : Run Steps beginning (List.replicate 4 arrival) (repeated arrival 4) :=
  repeated_run (by decide +kernel)

/-- A client sends a packet without flags after some seconds. -/
def visit (client : SockaddrIn6) (elapsed : Nat) : Input :=
  ⟨idleKernel.env, elapsed, .readable, some (client, List.replicate packetHeaderSize 0),
    some zeroedSession⟩

/-- The client at the next port of `firstClient`. -/
def neighbour : SockaddrIn6 := otherClient 65

/-- The datagrams of a client, and of its neighbour one second later. -/
def greetings : List Input :=
  List.replicate 4 (visit firstClient 0) ++
    visit neighbour 1 :: List.replicate 3 (visit neighbour 0)

/-- The server after some inputs. -/
def loopAfter (inputs : List Input) : Config :=
  (inputs.foldlM (fun config input => serverStep input config) beginning).toOption.getD beginning

/-- The server of the example is reached by a run. -/
theorem loopAfter_run {inputs : List Input}
    (fine : (inputs.foldlM (fun config input => serverStep input config) beginning).isOk = true) :
    Run Steps beginning inputs (loopAfter inputs) :=
  Run.of_foldlM (eq_ok_getD fine beginning)

/-- The sessions of two clients wait once their datagrams have been handled. -/
theorem sessions_awaited_greetings :
    HasEntry (loopAfter greetings).server 0 ∧ HasEntry (loopAfter greetings).server 1 := by
  have run : Run Steps beginning greetings (loopAfter greetings) := loopAfter_run (by decide +kernel)
  have punctual : Run PunctualStep beginning greetings (loopAfter greetings) := by
    refine run.mono_of_mem fun config input next member step => ⟨step, fun _ _ _ _ _ wake => ?_⟩
    have awake : ∀ input ∈ greetings, input.wake = .readable := by decide
    cases (awake input member).symm.trans wake
  obtain ⟨chains, inv⟩ := (sound_run initial_beginning run).table
  have top : (loopAfter greetings).stage = .top := by decide +kernel
  constructor
  · refine sessions_awaited initial_beginning punctual top (inv.inTable_iff.mpr ?_)
    exact Option.isSome_iff_exists.mp (by decide +kernel)
  · refine sessions_awaited initial_beginning punctual top (inv.inTable_iff.mpr ?_)
    exact Option.isSome_iff_exists.mp (by decide +kernel)

/-- The heap has no entry of the session whose datagram has arrived. -/
def unlisted (config : Config) (input : Input) : Bool :=
  match config.stage, input.received with
  | .recvfrom, some (addr, _) =>
      match sessionGet (config.server.enter input) addr input.allocation with
      | .ok (some pointer, _) => (List.range config.server.timeouts.count).all fun index =>
          config.server.timeouts.heap index != some pointer
      | _ => true
  | _, _ => true

/-- A step that passes the check meets no listed session. -/
theorem unlisted_sound {config : Config} {input : Input} (passes : unlisted config input = true) :
    Unlisted config input := by
  intro addr datagram pointer entered stage received found ⟨index, below, entry⟩
  simp only [unlisted, stage, received, found, List.all_eq_true, List.mem_range,
    bne_iff_ne] at passes
  exact passes index below entry

/-- Two clients whose datagrams arrive in turn have one entry each. -/
theorem entries_single_greetings :
    Run.Always Steps beginning greetings (fun config => config.stage = .top → Single config.server) := by
  have run : Run Steps beginning greetings (loopAfter greetings) := loopAfter_run (by decide +kernel)
  refine (entries_single_iff initial_beginning run).mpr ?_
  have checked := @Run.guard _ _ _ unlisted Fault.diverge (fun config input => serverStep input config)
    _ _ _ run (by decide +kernel)
  exact checked.mono fun config input next one => ⟨one.1, unlisted_sound one.2⟩

/-- The second datagram of a client puts its session into the heap once more. -/
theorem entries_not_single :
    ¬ ∀ (source target : Config) (inputs : List Input), Initial source →
      Run Steps source inputs target → target.stage = .top → Single target.server := by
  intro single
  have twice := single beginning (repeated arrival 8) _ initial_beginning
    (repeated_run (by decide +kernel)) (by decide +kernel)
  have same := twice.once 0 (by decide +kernel) 1 (by decide +kernel) (by decide +kernel)
  cases same

end Sas.Server
