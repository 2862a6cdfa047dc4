import Sas.Server.Lifetime
import Sas.Server.Urgency

/-! # Expired sessions do not outlive the expiry loop

As long as the timeout heap is in order, the session popped last is due first, and no session of the
table is due once the expiry loop has ended. Two steps spoil the order: a datagram that moves the
timeout of a session above an entry that is due earlier, and a pop that misplaces an entry.
-/

namespace Sas.Server

open Foundation Transport

/-- The table contains this session, which is allocated. -/
def Lives (server : Server) (pointer : SessionPtr) (session : Session) : Prop :=
  InTable server pointer ∧ server.memory pointer = some session

/-- When `select` is about to be called, no live session is due, and where a session has been popped,
its remaining time is the least of those of all live sessions. -/
def DueFirst (config : Config) : Prop :=
  ∀ waiting now, config.stage = .select waiting now →
    (∀ pointer session, Lives config.server pointer session → now < session.timeout) ∧
      ∀ waited, waiting = some waited → ∃ current, Lives config.server waited current ∧
        ∀ pointer session, Lives config.server pointer session →
          current.timeout - now ≤ session.timeout - now

/-- The step handles a datagram of a session that has an entry in the heap above one of another
session, and moves its timeout behind that of the other. -/
def Overtakes (config : Config) (input : Input) : Prop :=
  ∃ addr datagram pointer entered index due, config.stage = .recvfrom ∧
    input.received = some (addr, datagram) ∧
    sessionGet (config.server.enter input) addr input.allocation = .ok (some pointer, entered) ∧
    index + 1 < config.server.timeouts.count ∧
    config.server.timeouts.heap (index / 2) = some pointer ∧
    config.server.timeouts.heap (index + 1) ≠ some pointer ∧
    config.server.timeoutAt (index + 1) = .ok due ∧
    due < config.server.clock + input.elapsed + sessionTimeout

/-- The step pops an entry: at the head of the loop, or where a session has expired. -/
def Pops (config : Config) : Prop :=
  config.stage = .top ∨ ∃ pointer session now, config.stage = .expiry (some pointer) now ∧
    config.server.memory pointer = some session ∧ session.timeout ≤ now

/-- The step spoils the order of the heap, or frees a session that has another entry. -/
def Spoils (config : Config) (input : Input) : Prop :=
  Overtakes config input ∨ Pops config ∧ Misplaces config.server ∨ Orphans config input

/-- A step in which `select` keeps its time and that does not spoil the heap. -/
def OrderlyStep (config : Config) (input : Input) (next : Config) : Prop :=
  PunctualStep config input next ∧ ¬ Spoils config input

/-- The sessions wait in the order of their timeouts: the heap is in order, the session that has been
popped is due first, and it is not due once `select` is called. -/
structure Queued (config : Config) : Prop where
  urgent : Urgent config.server
  recent : ∀ pointer session, config.server.memory pointer = some session →
    session.timeout ≤ config.server.clock + sessionTimeout
  first : ∀ pointer, config.stage.waiting = some pointer → ∀ entry ∈ config.server.pending,
    config.server.dueOf (some pointer) ≤ config.server.dueOf entry
  idle : ∀ now, config.stage = .expiry none now ∨ config.stage = .select none now →
    config.server.pending = 0
  later : ∀ pointer now session, config.stage = .select (some pointer) now →
    config.server.memory pointer = some session → now < session.timeout

section

variable {config next : Config} {input : Input} {server after : Server} {pointer : SessionPtr}
  {session : Session}

/-- The timeout an entry refers to does not depend on the links of the sessions. -/
theorem dueOf_congr {entry : Option SessionPtr} (same : ∀ pointer, entry = some pointer →
      (after.memory pointer).map Session.detached = (server.memory pointer).map Session.detached) :
    after.dueOf entry = server.dueOf entry := by
  cases entry with
  | none => rfl
  | some pointer =>
      have timeout (memory : Option Session) :
          (memory.map Session.detached).elim 0 Session.timeout = memory.elim 0 Session.timeout := by
        cases memory <;> rfl
      unfold dueOf
      rw [Option.bind_some, Option.bind_some, ← timeout, same pointer rfl, timeout]

/-- The timeout of a session does not depend on its place in the table. -/
theorem timeout_of_detached {first second : Session} (same : first.detached = second.detached) :
    first.timeout = second.timeout := by
  have timeout : first.detached.timeout = second.detached.timeout := by rw [same]
  exact timeout

/-- A bound on the timeouts stays where sessions only move in the table. -/
theorem recent_of_detached {before after : SessionPtr → Option Session} {bound : Int}
    (recent : ∀ pointer session, before pointer = some session → session.timeout ≤ bound)
    (same : (after pointer).map Session.detached = (before pointer).map Session.detached)
    (live : after pointer = some session) : session.timeout ≤ bound := by
  obtain ⟨session', found, detached⟩ := detached_of_live same live
  rw [timeout_of_detached detached]
  exact recent pointer session' found

/-- What popping says about the queue. -/
structure Popped (server : Server) (popped : Option SessionPtr) (after : Server) : Prop where
  urgent : Urgent after
  memory : after.memory = server.memory
  clock : after.clock = server.clock
  first : ∀ entry ∈ after.pending, after.dueOf popped ≤ after.dueOf entry
  idle : popped = none → after.pending = 0

/-- Popping takes the session that is due first, and leaves the others in order. -/
theorem timeoutPop_popped {popped : Option SessionPtr} (urgent : Urgent server)
    (alive : Alive server) (fair : ¬ Misplaces server)
    (done : timeoutPop server = .ok (popped, after)) : Popped server popped after := by
  obtain ⟨urgent', first⟩ := timeoutPop_urgent urgent alive fair done
  rcases timeoutPop_reheaped done with ⟨rfl, rfl, empty⟩ | ⟨rest, whole, reheaped⟩
  · exact ⟨urgent', rfl, rfl, first, fun _ => empty⟩
  · refine ⟨urgent', reheaped.memory, reheaped.clock, fun entry member => ?_, fun none => ?_⟩
    · have same : after.dueOf = server.dueOf := by
        funext entry
        rw [dueOf, dueOf, reheaped.memory]
      rw [reheaped.pending] at member
      rw [same]
      exact first entry (whole ▸ Multiset.mem_cons_of_mem member)
    · have member : popped ∈ server.pending := whole ▸ Multiset.mem_cons_self _ _
      obtain ⟨_, _, some, _⟩ := alive popped member
      cases none.symm.trans some

/-- Deleting a session without an entry keeps the heap in order. -/
theorem Deleted.urgent (deleted : Deleted server pointer session after) (urgent : Urgent server)
    (absent : ¬ HasEntry server pointer) : Urgent after := by
  unfold Urgent
  rw [deleted.timeouts]
  refine urgent.congr fun index below => dueOf_congr fun other entry => ?_
  refine deleted.others other fun same => absent ⟨index, below, ?_⟩
  rw [entry, same]

/-- Deleting a session moves nothing in the heap. -/
theorem Deleted.misplaces (deleted : Deleted server pointer session after)
    (misplaces : Misplaces after) : Misplaces server := by
  have read {index : Nat} {timeout : Int} (done : after.timeoutAt index = .ok timeout) :
      server.timeoutAt index = .ok timeout := by
    unfold timeoutAt at done ⊢
    rw [deleted.timeouts] at done
    cases entry : server.timeouts.heap index with
    | none =>
        rw [entry] at done
        cases done
    | some other =>
        simp only [entry] at done ⊢
        obtain ⟨session', loaded, same⟩ := map_eq_ok done
        have live := live_of_load loaded
        have differ : other ≠ pointer := by
          rintro rfl
          cases live.symm.trans deleted.freed
        obtain ⟨before, found, detached⟩ := detached_of_live (deleted.others other differ) live
        rw [load_of_some found, ← same]
        exact congrArg Except.ok (timeout_of_detached detached).symm
  obtain ⟨level, right, left, last, inside, atRight, atLeft, atLast, lower⟩ := misplaces
  rw [deleted.timeouts] at inside atLast
  exact ⟨level, right, left, last, inside, read atRight, read atLeft, read atLast, lower⟩

/-! ## Steps -/

/-- Between the wakening of the server and its next pop, nothing is waited for. -/
theorem queued_awake
    (awake : config.stage = .top ∨ config.stage = .recvfrom ∨ ∃ err, config.stage = .returned err)
    (urgent : Urgent config.server)
    (recent : ∀ pointer session, config.server.memory pointer = some session →
      session.timeout ≤ config.server.clock + sessionTimeout) : Queued config where
  urgent := urgent
  recent := recent
  first pointer waits := by
    rcases awake with stage | stage | ⟨err, stage⟩ <;> rw [stage] at waits <;> cases waits
  idle now idle := by
    rcases awake with stage | stage | ⟨err, stage⟩ <;> rw [stage] at idle <;>
      rcases idle with other | other <;> cases other
  later pointer now session other := by
    rcases awake with stage | stage | ⟨err, stage⟩ <;> cases stage.symm.trans other

/-- A step that leaves the sessions and the heap alone keeps the queue. -/
theorem Queued.restage (queued : Queued config) {stage : Stage} {buffer : Memory}
    (waiting : stage.waiting = none ∨ stage.waiting = config.stage.waiting)
    (idle : ∀ now, stage = .expiry none now ∨ stage = .select none now →
      config.server.pending = 0)
    (later : ∀ pointer now session, stage = .select (some pointer) now →
      config.server.memory pointer = some session → now < session.timeout) :
    Queued ⟨config.server.enter input, stage, buffer⟩ where
  urgent := queued.urgent
  recent := queued.recent
  first pointer waits := by
    rcases waiting with none | same
    · cases none.symm.trans waits
    · exact queued.first pointer (same.symm.trans waits)
  idle := idle
  later := later

/-- The loop goes on with what has been popped. -/
theorem Popped.queued {popped : Option SessionPtr} {clock now : Int} {buffer : Memory}
    (pops : Popped server popped after) (later : server.clock ≤ clock)
    (recent : ∀ pointer session, server.memory pointer = some session →
      session.timeout ≤ server.clock + sessionTimeout) :
    Queued ⟨{ after with clock := clock }, .expiry popped now, buffer⟩ where
  urgent := pops.urgent
  recent other session live := by
    have live' : server.memory other = some session := by
      rw [← pops.memory]
      exact live
    have before := recent other session live'
    change session.timeout ≤ clock + sessionTimeout
    omega
  first pointer waits entry member := by
    cases waits
    exact pops.first entry member
  idle now' idle := by
    apply pops.idle
    rcases idle with stage | stage
    · exact (Stage.expiry.inj stage).1
    · cases stage
  later _ _ _ stage := by cases stage

/-- The session that is due leaves a queue from which the next entry is popped. -/
theorem Queued.expires {now : Int} {removed : Server} {popped : Option SessionPtr}
    (queued : Queued config) (intact : Intact config) (ordinary : ¬ Spoils config input)
    (stage : config.stage = .expiry (some pointer) now)
    (expires : Expires config input pointer session)
    (deleted : Deleted { config.server.enter input with
      clock := config.server.clock + input.elapsed } pointer session removed)
    (pop : timeoutPop removed = .ok (popped, after)) :
    Queued ⟨after, .expiry popped now, config.buffer⟩ := by
  have due : session.timeout ≤ now := by
    obtain ⟨_, passed⟩ := expires
    rw [stage] at passed
    exact passed.2
  have absent : ¬ HasEntry config.server pointer := fun entry =>
    ordinary (.inr (.inr ⟨pointer, session, expires, entry⟩))
  have fair : ¬ Misplaces removed := fun misplaces =>
    ordinary (.inr (.inl ⟨.inr ⟨pointer, session, now, stage, expires.1, due⟩,
      deleted.misplaces misplaces⟩))
  have alive : Alive removed := deleted.alive (intact.2.alive intact.1) absent
  have pops := timeoutPop_popped (deleted.urgent queued.urgent absent) alive fair pop
  have clock : removed.clock = config.server.clock + input.elapsed := deleted.clock
  refine pops.queued (le_of_eq pops.clock.symm) fun other session' live => ?_
  have differ : other ≠ pointer := by
    rintro rfl
    cases live.symm.trans deleted.freed
  have before := recent_of_detached queued.recent (deleted.others other differ) live
  rw [clock]
  omega

/-- What a deletion leaves is in order, and its timeouts have been set before. -/
theorem Deleted.awake {stage : Stage} {buffer : Memory}
    (deleted : Deleted { config.server.enter input with
        clock := config.server.clock + input.elapsed } pointer session after)
    (queued : Queued config) (absent : ¬ HasEntry config.server pointer)
    (awake : stage = .top ∨ stage = .recvfrom ∨ ∃ err, stage = .returned err) :
    Queued ⟨after, stage, buffer⟩ := by
  refine queued_awake awake (deleted.urgent queued.urgent absent) fun other session' live => ?_
  have differ : other ≠ pointer := by
    rintro rfl
    cases live.symm.trans deleted.freed
  have before := recent_of_detached queued.recent (deleted.others other differ) live
  have clock : after.clock = config.server.clock + input.elapsed := deleted.clock
  change session'.timeout ≤ after.clock + sessionTimeout
  omega

/-- A step of the loop between two datagrams keeps the sessions queued. -/
theorem LoopStep.queued (step : LoopStep config input next) (intact : Intact config)
    (queued : Queued config) (ordinary : ¬ Spoils config input) : Queued next := by
  have urgent : Urgent (config.server.enter input) := queued.urgent
  cases step with
  | pops stage pop =>
      rename_i popped after
      have alive : Alive (config.server.enter input) := intact.2.alive intact.1
      have fair : ¬ Misplaces (config.server.enter input) := fun misplaces =>
        ordinary (.inr (.inl ⟨.inl stage, misplaces⟩))
      have pops := timeoutPop_popped urgent alive fair pop
      refine pops.queued ?_ queued.recent
      have same : after.clock = config.server.clock := pops.clock
      change config.server.clock ≤ after.clock + input.elapsed
      omega
  | idles stage =>
      refine queued.restage (.inl rfl) (fun _ _ => queued.idle _ (.inl stage)) ?_
      intro _ _ _ stage'
      cases stage'
  | waits stage known later =>
      refine queued.restage (.inr (by rw [stage]; rfl)) ?_ ?_
      · rintro _ (stage' | stage') <;> cases stage'
      · intro _ _ session' stage' live
        cases stage'
        cases known.symm.trans live
        exact later
  | expires stage expires deleted pop =>
      exact queued.expires intact ordinary stage expires deleted pop
  | fails stage wake => exact queued_awake (.inr (.inr ⟨_, rfl⟩)) urgent queued.recent
  | timesOut stage expires deleted =>
      exact deleted.awake queued
        (fun entry => ordinary (.inr (.inr ⟨_, _, expires, entry⟩))) (.inl rfl)
  | drops stage known wake early =>
      refine queued_awake (.inl rfl) urgent fun other session' live => ?_
      have before := queued.recent other session' live
      change session'.timeout ≤ config.server.clock + input.elapsed + sessionTimeout
      omega
  | reads stage wake => exact queued_awake (.inr (.inl rfl)) urgent queued.recent
  | readds stage wake added =>
      rename_i pointer now after
      have reheaped := timeoutAdd_reheaped added
      refine queued_awake (.inr (.inl rfl)) (timeoutAdd_urgent urgent added) ?_
      intro other session live
      have live' : config.server.memory other = some session :=
        (congrFun reheaped.memory other).symm.trans live
      change session.timeout ≤ after.clock + sessionTimeout
      rw [reheaped.clock]
      exact queued.recent other session live'

/-- Moving the timeout of a session keeps the order where it overtakes no other session below it. -/
theorem Got.urgent {addr : SockaddrIn6} {entered : Server} {outcome : Outcome} {clock : Int}
    (got : Got (config.server.enter input) addr pointer entered session) (queued : Queued config)
    (alive : Alive config.server) (later : config.server.clock ≤ clock)
    (spared : ∀ index, index + 1 < config.server.timeouts.count →
      config.server.timeouts.heap (index / 2) = some pointer →
      config.server.timeouts.heap (index + 1) ≠ some pointer →
      clock + sessionTimeout ≤ config.server.dueOf (config.server.timeouts.heap (index + 1))) :
    Urgent (afterHandling entered pointer outcome clock) := by
  have written : (afterHandling entered pointer outcome clock).memory pointer =
      some { outcome.session with timeout := clock + sessionTimeout } := Function.update_self _ _ _
  have moved : (afterHandling entered pointer outcome clock).dueOf (some pointer) =
      clock + sessionTimeout := dueOf_live written
  have others (entry : Option SessionPtr) (differ : entry ≠ some pointer) :
      (afterHandling entered pointer outcome clock).dueOf entry = config.server.dueOf entry := by
    refine dueOf_congr fun other same => ?_
    have distinct : other ≠ pointer := by
      rintro rfl
      exact differ same
    refine Eq.trans ?_ (got.others other distinct)
    exact congrArg (Option.map Session.detached) (Function.update_of_ne distinct _ _)
  unfold Urgent
  change HeapOrdered _ entered.timeouts.heap entered.timeouts.count
  rw [got.timeouts]
  refine queued.urgent.raise ?_ others ?_
  · intro index below same
    obtain ⟨other, before, entry, live⟩ := alive _ (mem_entriesOf.mpr ⟨index, below, rfl⟩)
    cases same.symm.trans entry
    rw [moved, dueOf_live live]
    have recent := queued.recent pointer before live
    omega
  · intro index below parent child
    rw [moved]
    exact spared index below parent child

/-- A step that handles a datagram keeps the sessions queued. -/
theorem queued_recvfrom (intact : Intact config) (queued : Queued config)
    (stage : config.stage = .recvfrom) (ordinary : ¬ Spoils config input)
    (step : Steps config input next) : Queued next := by
  cases received : input.received with
  | none =>
      unfold Steps serverStep at step
      rw [stage] at step
      simp only [received] at step
      cases step
      exact queued_awake (.inl rfl) queued.urgent queued.recent
  | some both =>
      obtain ⟨addr, datagram⟩ := both
      obtain ⟨pointer, entered, session, outcome, found, got, _, _, _, added, top⟩ :=
        step.received intact.1 stage received
      have later : config.server.clock ≤ config.server.clock + input.elapsed := by omega
      have alive := intact.2.alive intact.1
      have urgent : Urgent (afterHandling entered pointer outcome
          (config.server.clock + input.elapsed)) := by
        refine got.urgent queued alive later fun index below parent child => ?_
        by_contra sooner
        exact ordinary (.inl ⟨addr, datagram, pointer, entered, index, _, stage, received, found,
          below, parent, child, timeoutAt_alive alive below, not_le.mp sooner⟩)
      refine queued_awake (.inl top) (timeoutAdd_urgent urgent added) ?_
      intro other session' live
      have reheaped := timeoutAdd_reheaped added
      have clock : next.server.clock = config.server.clock + input.elapsed := reheaped.clock
      rw [reheaped.memory] at live
      rw [clock]
      by_cases same : other = pointer
      · subst same
        cases (Function.update_self _ _ _).symm.trans live
        exact le_refl _
      · have live' : entered.memory other = some session' :=
          (Function.update_of_ne same _ _).symm.trans live
        have before := recent_of_detached queued.recent (got.others other same) live'
        omega

/-- A step that spoils nothing keeps the sessions queued. -/
theorem queued_step (intact : Intact config) (queued : Queued config)
    (ordinary : ¬ Spoils config input) (step : Steps config input next) : Queued next := by
  cases stage : config.stage with
  | top => exact (step.of_top stage).queued intact queued ordinary
  | expiry waiting now => exact (step.of_expiry intact.1 stage).queued intact queued ordinary
  | select waiting now => exact (step.of_select intact.1 stage).queued intact queued ordinary
  | recvfrom => exact queued_recvfrom intact queued stage ordinary step
  | returned err =>
      rw [step.returned stage]
      exact queued

/-- At the beginning there is nothing to queue. -/
theorem queued_initial (initial : Initial config) : Queued config := by
  obtain ⟨kernel, clock, buffer, rfl⟩ := initial
  refine queued_awake (.inl rfl) (fun index below => ?_) fun pointer session live => ?_
  · exact (Nat.not_lt_zero _ below).elim
  · cases live

/-- Where every session is held in the order of the timeouts, the expiry loop has been complete. -/
theorem Queued.complete (queued : Queued config) (intact : Intact config)
    (awaited : Awaited config) : DueFirst config := by
  intro waiting now stage
  obtain ⟨chains, inv⟩ := intact.1.table
  have running : ∀ err, config.stage ≠ .returned err := by
    intro err same
    cases stage.symm.trans same
  cases waiting with
  | none =>
      have none (pointer : SessionPtr) (session : Session) :
          ¬ Lives config.server pointer session := by
        intro lives
        have waits := awaited running pointer session lives.2
        rw [held, stage] at waits
        change some pointer ∈ config.server.pending at waits
        rw [queued.idle now (.inr stage)] at waits
        exact Multiset.notMem_zero _ waits
      refine ⟨fun pointer session lives => (none pointer session lives).elim, ?_⟩
      intro waited same
      cases same
  | some waited =>
      have waits : config.stage.waiting = some waited := by rw [stage]; rfl
      obtain ⟨current, live⟩ := intact.2.waiting waits
      have least (pointer : SessionPtr) (session : Session)
          (lives : Lives config.server pointer session) : current.timeout ≤ session.timeout := by
        have holds := awaited running pointer session lives.2
        rw [held, waits] at holds
        change some pointer ∈ some waited ::ₘ config.server.pending at holds
        rcases Multiset.mem_cons.mp holds with same | older
        · cases same
          cases live.symm.trans lives.2
          exact le_refl _
        · have first := queued.first waited waits _ older
          rwa [dueOf_live live, dueOf_live lives.2] at first
      refine ⟨fun pointer session lives => ?_, ?_⟩
      · exact (queued.later waited now current stage live).trans_le (least pointer session lives)
      · rintro _ ⟨⟩
        refine ⟨current, ⟨inv.inTable_iff.mpr ⟨current, live⟩, live⟩, fun pointer session lives => ?_⟩
        have lower := least pointer session lives
        omega

end

/-! ## Runs -/

/-- In every run in which `select` keeps its time and no step spoils the order of the heap, whenever
`select` is about to be called no live session is due, and the session it is called for has the least
remaining time of all live sessions. -/
theorem dueFirst_run {source config : Config} {inputs : List Input} (initial : Initial source)
    (run : Run OrderlyStep source inputs config) : DueFirst config := by
  have kept : Intact config ∧ Awaited config ∧ Queued config := by
    refine run.invariant (fun config => Intact config ∧ Awaited config ∧ Queued config) ?_ ?_
    · exact ⟨⟨sound_initial initial, holdsLive_initial initial⟩, awaited_initial initial,
        queued_initial initial⟩
    · rintro config input next ⟨intact, awaited, queued⟩ ⟨step, ordinary⟩
      exact ⟨intact.step step.1 fun orphans => ordinary (.inr (.inr orphans)),
        step.awaited intact.1 awaited, queued_step intact queued ordinary step.1⟩
  exact kept.2.2.complete kept.1 kept.2.1

/-! ## Checked steps -/

/-- The datagram is for a session whose entry is above one of another session that is due before the
new timeout. -/
def overtakes (config : Config) (input : Input) : Bool :=
  match config.stage, input.received with
  | .recvfrom, some (addr, _) =>
      match sessionGet (config.server.enter input) addr input.allocation with
      | .ok (some pointer, _) => (List.range config.server.timeouts.count).any fun index =>
          decide (index + 1 < config.server.timeouts.count) &&
            config.server.timeouts.heap (index / 2) == some pointer &&
            config.server.timeouts.heap (index + 1) != some pointer &&
            match config.server.timeoutAt (index + 1) with
            | .ok due => decide (due < config.server.clock + input.elapsed + sessionTimeout)
            | .error _ => false
      | _ => false
  | _, _ => false

/-- The session that is waited for has expired, in time or not. -/
def outlasted (config : Config) (input : Input) : Bool :=
  match config.stage with
  | .expiry (some pointer) now =>
      (config.server.memory pointer).any fun session => decide (session.timeout ≤ now)
  | .select (some _) _ => input.wake == .timedOut
  | _ => false

/-- The session that is waited for has an entry in the heap. -/
def relisted (config : Config) : Bool :=
  config.stage.waiting.any fun pointer => (List.range config.server.timeouts.count).any fun index =>
    config.server.timeouts.heap index == some pointer

/-- `select` has returned 0 before its time. -/
def early (config : Config) (input : Input) : Bool :=
  match config.stage with
  | .select (some pointer) _ => input.wake == .timedOut &&
      (config.server.memory pointer).any fun session =>
        decide (config.server.clock + input.elapsed < session.timeout)
  | _ => false

/-- `select` keeps its time, and the step spoils neither the order of the heap nor an entry. -/
def orderly (config : Config) (input : Input) : Bool :=
  !early config input && !overtakes config input && !misplaces config.server &&
    !(outlasted config input && relisted config)

section

variable {config next : Config} {input : Input}

/-- The check finds every step that overtakes. -/
theorem overtakes_of (overtaken : Overtakes config input) : overtakes config input = true := by
  obtain ⟨addr, datagram, pointer, entered, index, due, stage, received, found, below, parent, child,
    read, sooner⟩ := overtaken
  simp only [overtakes, stage, received, found, List.any_eq_true, List.mem_range]
  refine ⟨index, Nat.lt_of_succ_lt below, ?_⟩
  simp [below, parent, child, read, sooner]

/-- The check finds every session that expires. -/
theorem outlasted_of {pointer : SessionPtr} {session : Session}
    (expires : Expires config input pointer session) : outlasted config input = true := by
  obtain ⟨live, due⟩ := expires
  cases stage : config.stage with
  | expiry waiting now =>
      rw [stage] at due
      obtain ⟨rfl, due⟩ := due
      simp [outlasted, stage, live, due]
  | select waiting now =>
      rw [stage] at due
      obtain ⟨rfl, wake, _⟩ := due
      simp [outlasted, stage, wake]
  | _ =>
      rw [stage] at due
      cases due

/-- The check finds every session that is listed while it is waited for. -/
theorem relisted_of {pointer : SessionPtr} (waits : config.stage.waiting = some pointer)
    (entry : HasEntry config.server pointer) : relisted config = true := by
  obtain ⟨index, below, same⟩ := entry
  rw [relisted, waits, Option.any_some, List.any_eq_true]
  exact ⟨index, List.mem_range.mpr below, beq_iff_eq.mpr same⟩

/-- A step that passes the check for early calls is punctual. -/
theorem punctual_of (prompt : early config input = false) (step : Steps config input next) :
    PunctualStep config input next := by
  refine ⟨step, fun pointer session now stage live wake => ?_⟩
  by_contra late
  have sooner : early config input = true := by
    simp [early, stage, live, wake, not_le.mp late]
  cases prompt.symm.trans sooner

/-- A step that passes the check is an orderly one. -/
theorem orderly_sound (passes : orderly config input = true) (step : Steps config input next) :
    OrderlyStep config input next := by
  simp only [orderly, Bool.and_eq_true, Bool.not_eq_true'] at passes
  obtain ⟨⟨⟨prompt, apart⟩, placed⟩, single⟩ := passes
  refine ⟨punctual_of prompt step, ?_⟩
  rintro (overtaken | ⟨_, misplaced⟩ | ⟨pointer, session, expires, entry⟩)
  · cases apart.symm.trans (overtakes_of overtaken)
  · cases placed.symm.trans (misplaces_of misplaced)
  · rw [outlasted_of expires, relisted_of expires.waiting entry] at single
    cases single

end

end Sas.Server
