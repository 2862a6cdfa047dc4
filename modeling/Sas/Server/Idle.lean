import Sas.Server.Crashes

/-! # The server left alone

When no packet arrives any more, the loop lets the sessions of its heap expire one after the other,
until it waits for a packet alone. A session that the heap lists twice keeps it from getting there.
-/

namespace Sas.Server

open Foundation

/-- Nothing arrives: `select` waits for a session, and returns once the session is due. -/
def Quiet (config : Config) (input : Input) : Prop :=
  ∀ waiting now, config.stage = .select waiting now → ∃ pointer, waiting = some pointer ∧
    input.wake = .timedOut ∧ ∀ session, config.server.memory pointer = some session →
      session.timeout ≤ config.server.clock + input.elapsed

/-- A step of the loop while nothing arrives. -/
def QuietStep (config : Config) (input : Input) (next : Config) : Prop :=
  Steps config input next ∧ Quiet config input

/-- The loop waits for a packet, with no sessions and no entries. -/
structure Cleared (config : Config) : Prop where
  blocked : ∃ now, config.stage = .select none now
  unlisted : config.server.timeouts.count = 0
  counted : config.server.sessions.count = 0
  freed : ∀ pointer, config.server.memory pointer = none

/-- The point of the loop waits for no session although it has looked for one. -/
def Stage.Empty (stage : Stage) : Prop := ∃ now, stage = .expiry none now ∨ stage = .select none now

/-- The loop receives nothing, and has found no entry only if there was none. -/
structure Resting (config : Config) : Prop where
  sound : Sound config
  awaited : Awaited config
  elsewhere : config.stage ≠ .recvfrom
  running : ∀ err, config.stage ≠ .returned err
  drained : config.stage.Empty → config.server.pending = 0

/-- How far a point of the loop is from `select`. -/
def Stage.rank : Stage → Nat
  | .top => 2
  | .expiry _ _ => 1
  | _ => 0

/-- A bound for the steps of the loop while nothing arrives. -/
def remaining (config : Config) : Nat := 3 * (held config).card + config.stage.rank

section

variable {config next : Config} {input : Input} {pointer : SessionPtr} {session : Session}

/-! ## One step -/

/-- A step that receives nothing takes no session on. -/
theorem Effect.held_le (effect : Effect config input next) (elsewhere : config.stage ≠ .recvfrom) :
    held next ≤ held config := by
  cases effect with
  | kept quiet same => exact le_of_eq same
  | dropped stage known wake early quiet whole =>
      rw [whole]
      exact Multiset.le_cons_self _ _
  | returned err returns quiet among => exact among
  | expired expires freed others fresh calls whole =>
      rw [whole]
      exact Multiset.le_cons_self _ _
  | handled stage => exact (elsewhere stage).elim

/-- A session that expires is not held by the step that finds it. -/
theorem Effect.card_held (effect : Effect config input next)
    (expires : Expires config input pointer session) :
    (held next).card + 1 = (held config).card := by
  cases effect with
  | kept quiet => exact (quiet.expires _ _ expires).elim
  | dropped stage known wake early quiet => exact (quiet.expires _ _ expires).elim
  | returned err returns quiet => exact (quiet.expires _ _ expires).elim
  | expired expires' freed others fresh calls whole => rw [whole, Multiset.card_cons]
  | handled stage =>
      have waits := expires.waiting
      rw [stage] at waits
      cases waits

/-- Popping finds no entry only if there was none. -/
theorem drained_of_pop {server after : Server} (entries : none ∉ server.pending)
    (pop : timeoutPop server = .ok (none, after)) : after.pending = 0 := by
  rcases timeoutPop_reheaped pop with ⟨_, rfl, empty⟩ | ⟨rest, whole, _⟩
  · exact empty
  · rw [whole] at entries
    exact (entries (Multiset.mem_cons_self none rest)).elim

/-- A quiet step is punctual. -/
theorem QuietStep.punctual (step : QuietStep config input next) : PunctualStep config input next := by
  refine ⟨step.1, fun pointer session now stage known _ => ?_⟩
  obtain ⟨_, same, _, due⟩ := step.2 _ _ stage
  cases same
  exact due session known

/-- The loop goes on resting while nothing arrives, and comes nearer to its end. -/
theorem QuietStep.rests (step : QuietStep config input next) (resting : Resting config) :
    Resting next ∧ remaining next < remaining config := by
  obtain ⟨sound, awaited, elsewhere, running, drained⟩ := resting
  have loop : LoopStep config input next := by
    cases stage : config.stage with
    | top => exact step.1.of_top stage
    | expiry waiting now => exact step.1.of_expiry sound stage
    | select waiting now => exact step.1.of_select sound stage
    | recvfrom => exact (elsewhere stage).elim
    | returned err => exact (running err stage).elim
  obtain ⟨effect, sound'⟩ := loop.effect sound
  have awaited' := step.punctual.awaited sound awaited
  have fewer := Multiset.card_le_card (effect.held_le elsewhere)
  have quiet := step.2
  unfold remaining
  cases loop with
  | @pops popped after stage pop =>
      refine ⟨⟨sound', awaited', Stage.noConfusion, fun _ => Stage.noConfusion, ?_⟩, ?_⟩
      · rintro ⟨now, same | same⟩
        · cases same
          have empty := @drained_of_pop (config.server.enter input) after sound.entries pop
          exact empty
        · cases same
      · rw [stage]
        simp only [Stage.rank]
        omega
  | idles stage =>
      refine ⟨⟨sound', awaited', Stage.noConfusion, fun _ => Stage.noConfusion, ?_⟩, ?_⟩
      · intro _
        exact drained (by rw [stage]; exact ⟨_, .inl rfl⟩)
      · rw [stage]
        simp only [Stage.rank]
        omega
  | waits stage known later =>
      refine ⟨⟨sound', awaited', Stage.noConfusion, fun _ => Stage.noConfusion, ?_⟩, ?_⟩
      · rintro ⟨now, same | same⟩ <;> cases same
      · rw [stage]
        simp only [Stage.rank]
        omega
  | @expires pointer session now removed after popped stage expires deleted pop =>
      have less := effect.card_held expires
      refine ⟨⟨sound', awaited', Stage.noConfusion, fun _ => Stage.noConfusion, ?_⟩, ?_⟩
      · rintro ⟨now, same | same⟩
        · cases same
          refine drained_of_pop ?_ pop
          rw [pending, deleted.timeouts]
          exact sound.entries
        · cases same
      · rw [stage]
        simp only [Stage.rank]
        omega
  | fails stage wake =>
      obtain ⟨_, _, timedOut, _⟩ := quiet _ _ stage
      cases wake.symm.trans timedOut
  | timesOut stage expires deleted =>
      have less := effect.card_held expires
      refine ⟨⟨sound', awaited', Stage.noConfusion, fun _ => Stage.noConfusion, ?_⟩, ?_⟩
      · rintro ⟨now, same | same⟩ <;> cases same
      · rw [stage]
        simp only [Stage.rank]
        omega
  | drops stage known wake early =>
      obtain ⟨_, same, _, due⟩ := quiet _ _ stage
      cases same
      exact absurd (due _ known) (not_le.mpr early)
  | reads stage wake =>
      obtain ⟨_, _, timedOut, _⟩ := quiet _ _ stage
      cases wake.symm.trans timedOut
  | readds stage wake =>
      obtain ⟨_, _, timedOut, _⟩ := quiet _ _ stage
      cases wake.symm.trans timedOut

/-- A session held twice, or freed and held, stays so while nothing arrives. -/
theorem QuietStep.distinct_iff (step : QuietStep config input next) (resting : Resting config) :
    Distinct next ↔ Distinct config := by
  constructor
  · intro distinct
    have rests := (step.rests resting).1
    have effect := (step.1.effect resting.sound resting.running).1
    cases effect with
    | kept quiet same =>
        refine ⟨same ▸ distinct.nodup, ?_⟩
        rw [← same, ← quiet.memory]
        exact distinct.alive
    | dropped stage known wake early =>
        obtain ⟨_, same, _, due⟩ := step.2 _ _ stage
        cases same
        exact absurd (due _ known) (not_le.mpr early)
    | returned err returns => exact (rests.running err returns).elim
    | @expired expiring session expires freed others fresh calls whole =>
        have absent : some expiring ∉ held next := by
          intro member
          obtain ⟨pointer, session, same, live⟩ := distinct.alive _ member
          cases same
          cases freed.symm.trans live
        refine ⟨?_, ?_⟩
        · rw [whole]
          exact Multiset.nodup_cons.mpr ⟨absent, distinct.nodup⟩
        · intro entry member
          rw [whole] at member
          rcases Multiset.mem_cons.mp member with rfl | left
          · exact ⟨expiring, session, rfl, expires.1⟩
          · obtain ⟨pointer, session', rfl, live⟩ := distinct.alive entry left
            have differ : pointer ≠ expiring := fun same => absent (same ▸ left)
            obtain ⟨before, live'⟩ := (live_of_detached (others pointer differ)).mp ⟨session', live⟩
            exact ⟨pointer, before, rfl, live'⟩
    | handled stage => exact (resting.elsewhere stage).elim
  · intro distinct
    refine step.1.distinct resting.sound distinct ?_
    intro _ _ _ _ stage
    exact (resting.elsewhere stage).elim

/-- As long as no session is held twice or freed, the loop goes on. -/
theorem Resting.steps (resting : Resting config) (distinct : Distinct config)
    (quiet : Quiet config input) : ∃ after, Steps config input after := by
  have intact : Intact config := by
    refine ⟨resting.sound, fun pointer member => ?_⟩
    obtain ⟨_, session, same, live⟩ := distinct.alive _ member
    cases same
    exact ⟨session, live⟩
  have ordinary : ¬ Orphans config input := by
    rintro ⟨pointer, session, expires, entry⟩
    have nodup := distinct.nodup
    rw [held_of_waiting expires.waiting] at nodup
    change (some pointer ::ₘ config.server.pending).Nodup at nodup
    exact (Multiset.nodup_cons.mp nodup).1 (hasEntry_iff.mp entry)
  have fate := intact.fate ordinary
  unfold Steps
  generalize serverStep input config = result at fate
  cases fate with
  | taken after => exact ⟨after, rfl⟩
  | freed pointer discards =>
      obtain ⟨_, _, _, _, _, stage, _⟩ := discards
      exact (resting.elsewhere stage).elim
  | null keeps cause =>
      rcases cause with starves | ⟨⟨now, stage⟩, _⟩
      · exact (resting.elsewhere starves.1).elim
      · obtain ⟨_, same, _⟩ := quiet _ _ stage
        cases same

/-- Popping returns or uses a session that has been freed. -/
theorem timeoutPop_cases {server : Server} (entries : none ∉ server.pending) :
    (∃ popped, timeoutPop server = .ok popped) ∨
      ∃ pointer, timeoutPop server = .error (.useAfterFree pointer) := by
  cases pop : timeoutPop server with
  | ok popped => exact .inl ⟨popped, rfl⟩
  | error fault =>
      obtain ⟨pointer, rfl⟩ := timeoutPop_fault entries pop
      exact .inr ⟨pointer, rfl⟩

/-- A step that fails while nothing arrives uses a session that has been freed. -/
theorem Resting.steps_or_usesFreed (resting : Resting config) (quiet : Quiet config input) :
    (∃ after, Steps config input after) ∨ UsesFreed config input := by
  obtain ⟨sound, awaited, elsewhere, running, drained⟩ := resting
  cases stage : config.stage with
  | top =>
      unfold Steps UsesFreed serverStep
      rw [stage]
      have entries : none ∉ (config.server.enter input).pending := sound.entries
      rcases timeoutPop_cases entries with ⟨popped, pop⟩ |
        ⟨pointer, pop⟩
      · exact .inl ⟨_, by simp only [pop, bind, Except.bind]; rfl⟩
      · exact .inr ⟨pointer, by simp only [pop, bind, Except.bind]⟩
  | expiry waiting now =>
      cases waiting with
      | none => exact .inl ⟨_, by unfold Steps serverStep; rw [stage]⟩
      | some pointer =>
          cases known : config.server.memory pointer with
          | none =>
              have failed : (config.server.enter input).load pointer = .error (.useAfterFree pointer) :=
                load_of_none known
              refine .inr ⟨pointer, ?_⟩
              unfold serverStep
              rw [stage]
              simp only [failed, bind, Except.bind]
          | some session =>
              by_cases due : session.timeout ≤ now
              · obtain ⟨removed, deleted, step⟩ := @serverStep_due _ input _ _ _ sound stage known due
                have entries : none ∉ removed.pending := by
                  rw [pending, deleted.timeouts]
                  exact sound.entries
                unfold Steps UsesFreed
                rw [step]
                rcases timeoutPop_cases entries with ⟨popped, pop⟩ | ⟨freed, pop⟩
                · exact .inl ⟨_, by rw [pop]; rfl⟩
                · exact .inr ⟨freed, by rw [pop]; rfl⟩
              · have loaded : (config.server.enter input).load pointer = .ok session :=
                  load_of_some known
                refine .inl ⟨⟨config.server.enter input, .select (some pointer) now, config.buffer⟩, ?_⟩
                unfold Steps serverStep
                rw [stage]
                simp only [loaded, bind, Except.bind, ge_iff_le, due, ↓reduceIte]
  | select waiting now =>
      obtain ⟨pointer, rfl, wake, _⟩ := quiet _ _ stage
      unfold Steps UsesFreed serverStep
      rw [stage]
      cases known : config.server.memory pointer with
      | none =>
          have failed : serverTimeout (config.server.enter input) pointer input.elapsed =
              .error (.useAfterFree pointer) :=
            @serverTimeout_of_none (config.server.enter input) pointer known input.elapsed
          refine .inr ⟨pointer, ?_⟩
          simp only [wake, failed, bind, Except.bind]
      | some session =>
          obtain ⟨chains, inv⟩ := sound.table
          have entered : TableInv (config.server.enter input) chains := inv.congr rfl rfl fun _ => rfl
          obtain ⟨after, timed⟩ := serverTimeout_ok entered known input.elapsed
          exact .inl ⟨_, by simp only [wake, timed, bind, Except.bind]; rfl⟩
  | recvfrom => exact (elsewhere stage).elim
  | returned err => exact (running err stage).elim

/-- The loop that waits for a packet alone holds no session. -/
theorem Resting.cleared {now : Int} (resting : Resting config)
    (stage : config.stage = .select none now) : Cleared config := by
  have empty : config.server.pending = 0 := resting.drained (by rw [stage]; exact ⟨now, .inr rfl⟩)
  have none : held config = 0 := by
    rw [held_of_waiting (by rw [stage]; rfl : config.stage.waiting = none)]
    exact empty
  have freed : ∀ pointer, config.server.memory pointer = Option.none := by
    intro pointer
    cases live : config.server.memory pointer with
    | none => rfl
    | some session =>
        have member := resting.awaited resting.running pointer session live
        rw [none] at member
        exact (Multiset.notMem_zero _ member).elim
  refine ⟨⟨now, stage⟩, ?_, ?_, freed⟩
  · rw [← card_entriesOf config.server.timeouts.heap config.server.timeouts.count, ← pending, empty]
    rfl
  · obtain ⟨chains, inv⟩ := resting.sound.table
    have short : ∀ index ∈ Finset.range config.server.sessions.capacity,
        (chains index).length = 0 := by
      intro index _
      cases nodes : chains index with
      | nil => rfl
      | cons pointer rest =>
          obtain ⟨session, live, _⟩ := inv.placed index pointer (nodes ▸ List.mem_cons_self)
          cases (freed pointer).symm.trans live
    rw [inv.count_eq, Finset.sum_eq_zero short]
    rfl

/-- Time goes on for a server that waits for a session. -/
theorem Resting.offers (resting : Resting config) : Cleared config ∨ ∃ input, Quiet config input := by
  have env := config.server.kernel.env
  cases stage : config.stage with
  | select waiting now =>
      cases waiting with
      | none => exact .inl (resting.cleared stage)
      | some pointer =>
          -- long enough for the session to be due, if there is one
          have long : ∃ elapsed : Nat, ∀ session, config.server.memory pointer = some session →
              session.timeout ≤ config.server.clock + elapsed := by
            cases known : config.server.memory pointer with
            | none =>
                refine ⟨0, fun session same => ?_⟩
                cases same
            | some session =>
                refine ⟨(session.timeout - config.server.clock).toNat, fun other same => ?_⟩
                cases same
                omega
          obtain ⟨elapsed, due⟩ := long
          refine .inr ⟨⟨env, elapsed, .timedOut, none, none⟩, fun waiting' now' same => ?_⟩
          cases stage.symm.trans same
          exact ⟨pointer, rfl, rfl, due⟩
  | _ =>
      refine .inr ⟨⟨env, 0, .timedOut, none, none⟩, fun waiting' now' same => ?_⟩
      cases stage.symm.trans same

/-- A loop that holds a session twice, or a freed one, waits for one. -/
theorem Resting.offers_of_not_distinct (resting : Resting config) (doomed : ¬ Distinct config) :
    ∃ input, Quiet config input := by
  refine resting.offers.resolve_left fun cleared => doomed ?_
  obtain ⟨now, stage⟩ := cleared.blocked
  have none : held config = 0 := by
    rw [held_of_waiting (by rw [stage]; rfl : config.stage.waiting = none)]
    exact resting.drained (by rw [stage]; exact ⟨now, .inr rfl⟩)
  refine ⟨none ▸ Multiset.nodup_zero, fun entry member => ?_⟩
  rw [none] at member
  exact (Multiset.notMem_zero _ member).elim

end

/-! ## Runs -/

/-- **A server left alone clears itself.** Whenever the loop is at its head and nothing arrives any
more, it takes at most two steps more than three for each entry of the heap, time goes on until it
waits for a packet with no session left, and every step is taken unless it uses a session that has been
freed. That happens sooner or later exactly if the heap lists a session twice or one that has been
freed. -/
theorem idle_server_clears_iff {source config : Config} {inputs : List Input}
    (initial : Initial source) (run : Run PunctualStep source inputs config)
    (top : config.stage = .top) :
    (∀ more next, Run QuietStep config more next →
      more.length ≤ 3 * config.server.timeouts.count + 2 ∧
      (Cleared next ∨ ∃ input, Quiet next input) ∧
      ∀ input, Quiet next input → (∃ after, Steps next input after) ∨ UsesFreed next input) ∧
    ((∃ more next input, Run QuietStep config more next ∧ Quiet next input ∧ UsesFreed next input) ↔
      ¬ Distinct config) := by
  have kept : Sound config ∧ Awaited config := by
    refine run.invariant (fun config => Sound config ∧ Awaited config) ?_ ?_
    · exact ⟨sound_initial initial, awaited_initial initial⟩
    · intro config input next holds step
      exact ⟨step.1.sound holds.1, step.awaited holds.1 holds.2⟩
  have resting : Resting config := by
    refine ⟨kept.1, kept.2, fun stage => ?_, fun err stage => ?_, ?_⟩
    · cases top.symm.trans stage
    · cases top.symm.trans stage
    · rintro ⟨now, stage | stage⟩ <;> cases top.symm.trans stage
  have total : remaining config = 3 * config.server.timeouts.count + 2 := by
    rw [remaining, top, held_of_waiting (by rw [top]; rfl : config.stage.waiting = none)]
    change 3 * config.server.pending.card + 2 = _
    rw [pending, card_entriesOf]
  have rests {more : List Input} {next : Config} (quiet : Run QuietStep config more next) :
      Resting next ∧ more.length + remaining next ≤ remaining config :=
    quiet.length_le_measure resting fun _ _ _ resting step => step.rests resting
  refine ⟨fun more next quiet => ?_, ?_⟩
  · obtain ⟨resting', bound⟩ := rests quiet
    refine ⟨by omega, resting'.offers, fun input still => resting'.steps_or_usesFreed still⟩
  · constructor
    · rintro ⟨more, next, input, quiet, still, freed, failed⟩ distinct
      have both : Resting next ∧ Distinct next := by
        refine quiet.invariant (fun config => Resting config ∧ Distinct config) ⟨resting, distinct⟩ ?_
        intro config input next holds step
        exact ⟨(step.rests holds.1).1, (step.distinct_iff holds.1).mpr holds.2⟩
      obtain ⟨after, step⟩ := both.1.steps both.2 still
      cases step.symm.trans failed
    · intro doomed
      obtain ⟨more, next, input, quiet, both, still, stuck⟩ := @Run.exists_stuck _ _ Steps remaining
        (fun config => Resting config ∧ ¬ Distinct config) Quiet
        (fun config holds => holds.1.offers_of_not_distinct holds.2)
        (fun config input next holds step still => by
          have quietStep : QuietStep config input next := ⟨step, still⟩
          obtain ⟨resting', less⟩ := quietStep.rests holds.1
          exact ⟨⟨resting', fun distinct => holds.2 ((quietStep.distinct_iff holds.1).mp distinct)⟩,
            less⟩) config ⟨resting, doomed⟩
      refine ⟨more, next, input, quiet, still, ?_⟩
      rcases both.1.steps_or_usesFreed still with ⟨after, step⟩ | freed
      · exact (stuck after step).elim
      · exact freed

/-- The datagrams of the example arrive in punctual steps. -/
theorem arrivals_punctual {steps : Nat}
    (fine : ((List.replicate steps arrival).foldlM (fun config input => serverStep input config)
      beginning).isOk = true) :
    Run PunctualStep beginning (List.replicate steps arrival) (repeated arrival steps) := by
  refine (repeated_run fine).mono_of_mem fun config input next member step => ⟨step, ?_⟩
  rw [List.eq_of_mem_replicate member]
  intro pointer session now _ _ wake
  cases wake

/-- A single live session that is listed once is distinct from all others. -/
theorem distinct_of_once {config : Config} {pointer : SessionPtr}
    (whole : held config = {some pointer})
    (live : (config.server.memory pointer).isSome = true) : Distinct config := by
  obtain ⟨session, known⟩ := Option.isSome_iff_exists.mp live
  refine ⟨whole ▸ Multiset.nodup_singleton _, fun entry member => ?_⟩
  rw [whole] at member
  exact ⟨pointer, session, Multiset.mem_singleton.mp member, known⟩

/-- A session that is listed twice is not. -/
theorem not_distinct_of_twice {config : Config} {pointer : SessionPtr}
    (whole : held config = {some pointer, some pointer}) : ¬ Distinct config := by
  intro distinct
  have nodup := distinct.nodup
  rw [whole] at nodup
  exact (Multiset.nodup_cons.mp nodup).1 (Multiset.mem_singleton_self _)

/-- Left alone after the first packet of a client the server never uses a freed session, and after the
second one it does. -/
theorem idle_server_clears_arrivals :
    (¬ ∃ more next input, Run QuietStep (repeated arrival 4) more next ∧ Quiet next input ∧
      UsesFreed next input) ∧
    ∃ more next input, Run QuietStep (repeated arrival 8) more next ∧ Quiet next input ∧
      UsesFreed next input := by
  have once : Distinct (repeated arrival 4) :=
    @distinct_of_once _ 0 (by decide +kernel) (by decide +kernel)
  have twice : ¬ Distinct (repeated arrival 8) := @not_distinct_of_twice _ 0 (by decide +kernel)
  constructor
  · intro crashes
    exact (idle_server_clears_iff initial_beginning (arrivals_punctual (by decide +kernel))
      (by decide +kernel)).2.mp crashes once
  · exact (idle_server_clears_iff initial_beginning (arrivals_punctual (by decide +kernel))
      (by decide +kernel)).2.mpr twice

end Sas.Server
