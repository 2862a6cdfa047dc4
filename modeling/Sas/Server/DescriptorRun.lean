import Sas.Foundation.Log
import Sas.Server.Attempt

/-! # The descriptors of all sessions

The calls the server makes, each with the session it makes it for, in a process whose `open` returns
the lowest number that is free. Deleting a session that has a pipeline closes its descriptor twice,
whether or not the end of the stream has closed it before: once for the source of the pipeline, once
for the session. By then the number may belong to another session. Since a session that a packet deletes
is used once more, the step that handles such a packet fails; its calls have been made by then, so every
run is looked at with one more step that may fail.
-/

namespace Sas.Server

open Foundation Transport Rxc Formats

/-- The server at one point of its loop, with the calls it has made and the session of each. -/
abbrev Logged := Config × List (SessionPtr × Syscall)

/-- The session a step of the loop works for. -/
def actor (config : Config) (input : Input) : Option SessionPtr :=
  match config.stage with
  | .expiry waiting _ => waiting
  | .select waiting _ => waiting
  | .recvfrom =>
      match input.received with
      | some (addr, _) =>
          match sessionGet (config.server.enter input) addr input.allocation with
          | .ok (session, _) => session
          | .error _ => none
      | none => none
  | _ => none

/-- The calls of a step, with its session. -/
def madeFor : Option SessionPtr → List Syscall → List (SessionPtr × Syscall)
  | some session, calls => calls.map fun call => (session, call)
  | none, _ => []

/-- The descriptors of the process after the calls in a log, if it started with these. -/
def descriptors (base : Finset Nat) (log : List (SessionPtr × Syscall)) : Finset Nat :=
  (log.map Prod.snd).foldl descriptorsAfter base

/-- A step of the loop, in a process that started with these descriptors. -/
structure LoggedStep (base : Finset Nat) (before : Logged) (input : Input) (after : Logged) :
    Prop where
  steps : Steps before.1 input after.1
  running : ∀ err, before.1.stage ≠ .returned err
  lowest : LowestFree (descriptors base before.2) after.1.server.kernel.calls
  log : after.2 = before.2 ++ madeFor (actor before.1 input) after.1.server.kernel.calls

/-- No call closes a descriptor that another session has obtained and not closed. -/
def Isolated (log : List (SessionPtr × Syscall)) : Prop :=
  ∀ earlier session call later, log = earlier ++ (session, call) :: later →
    ∀ fd, call.closes fd = true → ∀ other, other ≠ session →
      obtained fd (shareOf other earlier) ≤ relinquished fd (shareOf other earlier)

/-- Every session closes a descriptor at most as often as it has obtained it, exactly as often once
it has been deleted, and no descriptor of another session. -/
structure Tidy (logged : Logged) : Prop where
  once : ∀ session fd,
    relinquished fd (shareOf session logged.2) ≤ obtained fd (shareOf session logged.2)
  settled : ∀ session, logged.1.server.memory session = none → ∀ fd,
    relinquished fd (shareOf session logged.2) = obtained fd (shareOf session logged.2)
  isolated : Isolated logged.2

/-- The server and the log once a step has made its calls, whether or not it fails then. -/
def attempted (before : Logged) (input : Input) : Logged :=
  ({ before.1 with server := reached before.1 input },
    before.2 ++ madeFor (actor before.1 input) (reached before.1 input).kernel.calls)

/-- The step deletes no session that has a pipeline: neither because its timeout has passed nor because
it accepts a packet that sets RST. -/
structure Streamless (config : Config) (input : Input) : Prop where
  expiring : ∀ pointer session, Expires config input pointer session → session.pipeline = none
  reset : ∀ addr datagram pointer entered session, config.stage = .recvfrom →
    input.received = some (addr, datagram) →
    sessionGet (config.server.enter input) addr input.allocation = .ok (some pointer, entered) →
    entered.memory pointer = some session →
    Accepted (packetHeaderDecode (receiveInto config.buffer datagram)) session.ack →
    packetFlagIsset (packetHeaderDecode (receiveInto config.buffer datagram)).flags
      packetFlagRst = true →
    session.pipeline = none

/-- The log is one of sessions that have been deleted before their handshake only. -/
structure Books (base : Finset Nat) (logged : Logged) : Prop where
  sound : Sound logged.1
  used : ∀ entry ∈ logged.2, entry.1 < logged.1.server.fresh
  account : ∀ pointer session, logged.1.server.memory pointer = some session →
    Account session.pipeline (shareOf pointer logged.2)
  settled : ∀ pointer, logged.1.server.memory pointer = none → ∀ fd,
    relinquished fd (shareOf pointer logged.2) = obtained fd (shareOf pointer logged.2)
  isolated : Isolated logged.2
  inUse : ∀ pointer session fd, logged.1.server.memory pointer = some session →
    Holds session.pipeline fd → fd ∈ descriptors base logged.2
  alone : ∀ pointer session other session' fd, logged.1.server.memory pointer = some session →
    Holds session.pipeline fd → logged.1.server.memory other = some session' →
    Holds session'.pipeline fd → pointer = other

section

variable {base : Finset Nat} {before after : Logged} {input : Input} {pointer other : SessionPtr}
  {log : List (SessionPtr × Syscall)} {calls : List Syscall} {config next : Config} {fd : Nat}

/-- Books that are kept are tidy. -/
theorem Books.tidy (books : Books base before) : Tidy before where
  once pointer fd := by
    cases live : before.1.server.memory pointer with
    | some session => exact account_le (books.account pointer session live)
    | none => exact le_of_eq (books.settled pointer live fd)
  settled := books.settled
  isolated := books.isolated

theorem shareOf_madeFor : shareOf pointer (madeFor (some pointer) calls) = calls :=
  shareOf_self calls

theorem shareOf_madeFor_other (differ : other ≠ pointer) :
    shareOf other (madeFor (some pointer) calls) = [] :=
  shareOf_other differ calls

/-- The calls of one session, counted for the whole process. -/
theorem descriptors_made : descriptors base (log ++ madeFor (some pointer) calls) =
    calls.foldl descriptorsAfter (descriptors base log) := by
  have plain : (madeFor (some pointer) calls).map Prod.snd = calls := by
    simp only [madeFor, List.map_map, Function.comp_def, List.map_id']
  rw [descriptors, List.map_append, List.foldl_append, plain]
  rfl

/-- The calls for a session leave the other sessions alone if each closes what no other holds. -/
theorem isolated_made (isolated : Isolated log)
    (free : ∀ call ∈ calls, ∀ fd, call.closes fd = true → ∀ other, other ≠ pointer →
      obtained fd (shareOf other log) ≤ relinquished fd (shareOf other log)) :
    Isolated (log ++ madeFor (some pointer) calls) := by
  intro earlier session call later split fd closes other differ
  rcases List.append_eq_append_iff.mp split with ⟨middle, front, back⟩ | ⟨middle, front, back⟩
  · obtain ⟨first, second, whole, before, rest⟩ := List.map_eq_append_iff.mp back
    obtain ⟨call', calls', same, named, _⟩ := List.map_eq_cons_iff.mp rest
    cases named
    have among : call ∈ calls := by
      rw [whole, same]
      exact List.mem_append_right _ List.mem_cons_self
    have share : shareOf other middle = [] := by
      rw [← before]
      exact shareOf_other differ first
    rw [front, shareOf_append, share, List.append_nil]
    exact free call among fd closes other differ
  · cases middle with
    | nil =>
        rw [List.append_nil] at front
        rw [List.nil_append] at back
        obtain ⟨call', calls', same, named, _⟩ := List.map_eq_cons_iff.mp back.symm
        cases named
        rw [← front]
        refine free call ?_ fd closes other differ
        rw [same]
        exact List.mem_cons_self
    | cons entry middle =>
        rw [List.cons_append, List.cons.injEq] at back
        obtain ⟨rfl, _⟩ := back
        exact isolated earlier session call middle front fd closes other differ

/-- Sessions that agree up to their links have one pipeline. -/
theorem pipeline_of_detached {before after : SessionPtr → Option Session} {session : Session}
    (same : (after pointer).map Session.detached = (before pointer).map Session.detached)
    (live : after pointer = some session) :
    ∃ session', before pointer = some session' ∧ session.pipeline = session'.pipeline := by
  obtain ⟨session', found, detached⟩ := detached_of_live same live
  have pipeline : session.detached.pipeline = session'.detached.pipeline := by rw [detached]
  exact ⟨session', found, pipeline⟩

/-- A step that leaves the sessions alone keeps the books. -/
theorem Books.undisturbed (books : Books base before) (step : LoggedStep base before input after)
    (quiet : Undisturbed before.1 input after.1) : Books base after := by
  have log : after.2 = before.2 := by
    rw [step.log, quiet.calls]
    cases actor before.1 input with
    | none => exact List.append_nil _
    | some session => exact List.append_nil _
  obtain ⟨config, calls⟩ := before
  obtain ⟨next, calls'⟩ := after
  cases log
  constructor
  · exact step.steps.sound books.sound
  · intro entry member
    rw [quiet.fresh]
    exact books.used entry member
  · rw [quiet.memory]
    exact books.account
  · rw [quiet.memory]
    exact books.settled
  · exact books.isolated
  · rw [quiet.memory]
    exact books.inUse
  · rw [quiet.memory]
    exact books.alone

/-- A step for one session, as the books see it: what was known of the session, the calls that are
made for its stream, and what is left of it. -/
structure Works (base : Finset Nat) (before : Logged) (pointer : SessionPtr)
    (pipeline pipeline' : Option Wav.Source) (calls : List Syscall) (after : Logged) : Prop where
  fresh : before.1.server.fresh ≤ after.1.server.fresh
  below : pointer < after.1.server.fresh
  others : ∀ other, other ≠ pointer → (after.1.server.memory other).map Session.detached =
    (before.1.server.memory other).map Session.detached
  log : after.2 = before.2 ++ madeFor (some pointer) calls
  lowest : LowestFree (descriptors base before.2) calls
  use : DescriptorUse pipeline pipeline' calls
  account : Account pipeline (shareOf pointer before.2)
  known : ∀ fd, Holds pipeline fd → ∃ session,
    before.1.server.memory pointer = some session ∧ Holds session.pipeline fd
  now : (∃ session, after.1.server.memory pointer = some session) ∨ pipeline' = none
  next : ∀ session, after.1.server.memory pointer = some session → session.pipeline = pipeline'

/-- The calls of a step are entered for this session, and its `open` behaves. -/
structure Enters (base : Finset Nat) (before : Logged) (pointer : SessionPtr) (after : Logged) :
    Prop where
  log : after.2 = before.2 ++ madeFor (some pointer) after.1.server.kernel.calls
  lowest : LowestFree (descriptors base before.2) after.1.server.kernel.calls

/-- The calls of a step are logged for the session that acts. -/
theorem LoggedStep.enters (step : LoggedStep base before input after)
    (acts : actor before.1 input = some pointer) : Enters base before pointer after where
  log := by rw [step.log, acts]
  lowest := step.lowest

section

variable {pipeline pipeline' : Option Wav.Source} {session : Session}

/-- The account of the session that has acted is in order. -/
theorem Works.own (works : Works base before pointer pipeline pipeline' calls after) :
    Account pipeline' (shareOf pointer after.2) := by
  rw [works.log, shareOf_append, shareOf_madeFor]
  exact works.use.account works.account

theorem Works.share (works : Works base before pointer pipeline pipeline' calls after)
    (differ : other ≠ pointer) : shareOf other after.2 = shareOf other before.2 := by
  rw [works.log, shareOf_append, shareOf_madeFor_other differ, List.append_nil]

/-- The other sessions have the pipelines they had. -/
theorem Works.elsewhere (works : Works base before pointer pipeline pipeline' calls after)
    (live : after.1.server.memory other = some session) (differ : other ≠ pointer) :
    ∃ session', before.1.server.memory other = some session' ∧
      session.pipeline = session'.pipeline :=
  pipeline_of_detached (works.others other differ) live

theorem Works.descriptors (works : Works base before pointer pipeline pipeline' calls after) :
    descriptors base after.2 = calls.foldl descriptorsAfter (descriptors base before.2) := by
  rw [works.log, descriptors_made]

/-- The session holds no descriptor of another one, and the step gives it none. -/
theorem Works.unheld (works : Works base before pointer pipeline pipeline' calls after)
    (books : Books base before) (live : before.1.server.memory other = some session)
    (differ : other ≠ pointer) (holds : Holds session.pipeline fd) : ¬ Holds pipeline fd := by
  intro held
  obtain ⟨session', live', held'⟩ := works.known fd held
  exact differ (books.alone _ _ _ _ fd live holds live' held')

/-- A descriptor that another session holds is not that of the session that has acted. -/
theorem Works.apart (works : Works base before pointer pipeline pipeline' calls after)
    (books : Books base before) (live : after.1.server.memory other = some session)
    (differ : other ≠ pointer) (holds : Holds session.pipeline fd) : ¬ Holds pipeline' fd := by
  intro held
  obtain ⟨session', live', same⟩ := works.elsewhere live differ
  rw [same] at holds
  rcases works.use.holds_after works.lowest held with ⟨held', _⟩ | ⟨free, _⟩
  · exact works.unheld books live' differ holds held'
  · exact free (books.inUse other session' fd live' holds)

/-- The log names only sessions that have been allocated. -/
theorem Works.used (works : Works base before pointer pipeline pipeline' calls after)
    (books : Books base before) : ∀ entry ∈ after.2, entry.1 < after.1.server.fresh := by
  intro entry member
  rw [works.log] at member
  rcases List.mem_append.mp member with older | made
  · exact Nat.lt_of_lt_of_le (books.used entry older) works.fresh
  · obtain ⟨call, _, rfl⟩ := List.mem_map.mp made
    exact works.below

/-- The accounts of the sessions that are gone are settled. -/
theorem Works.settled (works : Works base before pointer pipeline pipeline' calls after)
    (books : Books base before) (dead : after.1.server.memory other = none) (fd : Nat) :
    relinquished fd (shareOf other after.2) = obtained fd (shareOf other after.2) := by
  by_cases same : other = pointer
  · subst same
    have own := works.own
    rcases works.now with ⟨session, live⟩ | none
    · rw [live] at dead
      cases dead
    · subst none
      rw [(own fd).1, (own fd).2]
  · rw [works.share same]
    refine books.settled other ?_ fd
    have gone := works.others other same
    rw [dead, Option.map_none] at gone
    exact Option.map_eq_none_iff.mp gone.symm

/-- No session has closed a descriptor of another one. -/
theorem Works.isolated (works : Works base before pointer pipeline pipeline' calls after)
    (books : Books base before) : Isolated after.2 := by
  rw [works.log]
  refine isolated_made books.isolated fun call among fd closes other differ => ?_
  have held := works.use.holds_of_closes among closes
  cases live : before.1.server.memory other with
  | none => exact le_of_eq (books.settled other live fd).symm
  | some session =>
      apply account_settled (books.account other session live)
      exact fun holds => works.unheld books live differ holds held

/-- What a session holds is in use in the process. -/
theorem Works.inUse (works : Works base before pointer pipeline pipeline' calls after)
    (books : Books base before) (live : after.1.server.memory other = some session)
    (holds : Holds session.pipeline fd) : fd ∈ Server.descriptors base after.2 := by
  rw [works.descriptors]
  by_cases same : other = pointer
  · subst same
    rw [works.next session live] at holds
    rcases works.use.holds_after works.lowest holds with ⟨held, unchanged⟩ | ⟨_, opened⟩
    · obtain ⟨session', live', holds'⟩ := works.known fd held
      rw [unchanged]
      exact books.inUse other session' fd live' holds'
    · exact opened
  · obtain ⟨session', live', equal⟩ := works.elsewhere live same
    rw [equal] at holds
    exact works.use.mem_of_other (books.inUse other session' fd live' holds)
      (works.unheld books live' same holds)

/-- No two sessions hold the same descriptor. -/
theorem Works.alone (works : Works base before pointer pipeline pipeline' calls after)
    (books : Books base before) {first second : SessionPtr} {session' : Session}
    (live : after.1.server.memory first = some session) (holds : Holds session.pipeline fd)
    (live' : after.1.server.memory second = some session') (holds' : Holds session'.pipeline fd) :
    first = second := by
  by_cases here : first = pointer
  · by_cases there : second = pointer
    · rw [here, there]
    · subst here
      rw [works.next session live] at holds
      exact (works.apart books live' there holds' holds).elim
  · by_cases there : second = pointer
    · subst there
      rw [works.next session' live'] at holds'
      exact (works.apart books live here holds holds').elim
    · obtain ⟨before₁, live₁, same₁⟩ := works.elsewhere live here
      obtain ⟨before₂, live₂, same₂⟩ := works.elsewhere live' there
      rw [same₁] at holds
      rw [same₂] at holds'
      exact books.alone _ _ _ _ fd live₁ holds live₂ holds'

/-- A step for one session keeps the books if its calls fit the stream of the session. -/
theorem Works.books (works : Works base before pointer pipeline pipeline' calls after)
    (books : Books base before) (sound : Sound after.1) : Books base after where
  sound := sound
  used := works.used books
  account other session live := by
    by_cases same : other = pointer
    · subst same
      rw [works.next session live]
      exact works.own
    · obtain ⟨session', live', equal⟩ := works.elsewhere live same
      rw [works.share same, equal]
      exact books.account other session' live'
  settled _ dead := works.settled books dead
  isolated := works.isolated books
  inUse _ _ _ live holds := works.inUse books live holds
  alone _ _ _ _ _ live holds live' holds' := works.alone books live holds live' holds'

/-- A step for one session leaves the descriptors apart if its calls fit the stream of the session. -/
theorem Works.tidy (works : Works base before pointer pipeline pipeline' calls after)
    (books : Books base before) : Tidy after where
  once other fd := by
    by_cases same : other = pointer
    · subst same
      exact account_le works.own
    · rw [works.share same]
      exact books.tidy.once other fd
  settled _ dead := works.settled books dead
  isolated := works.isolated books

end

/-! ## One step -/

/-- The session that expires acts. -/
theorem actor_of_expires {session : Session} (expires : Expires config input pointer session) :
    actor config input = some pointer := by
  have waiting := expires.waiting
  unfold actor
  cases stage : config.stage with
  | expiry => rw [stage] at waiting; exact waiting
  | select => rw [stage] at waiting; exact waiting
  | _ => rw [stage] at waiting; cases waiting

/-- The session that is handed the datagram acts. -/
theorem actor_of_got {addr : SockaddrIn6} {datagram : List UInt8} {entered : Server}
    (stage : config.stage = .recvfrom) (received : input.received = some (addr, datagram))
    (found : sessionGet (config.server.enter input) addr input.allocation =
      .ok (some pointer, entered)) : actor config input = some pointer := by
  simp only [actor, stage, received, found]

/-- A session without a pipeline has nothing to close. -/
theorem release_bare {session : Session} (formed : WellFormed session)
    (bare : session.pipeline = none) (kernel : Kernel) : release session kernel = kernel := by
  have unset : session.fd = -1 := by
    rcases formed.initial_or_streaming with state | streaming
    · simp only [WellFormed, state] at formed
      exact formed.2.2
    · obtain ⟨source, set, _⟩ := (wellFormed_streaming streaming).mp formed
      rw [bare] at set
      cases set
  rw [release, pipelineDealloc, bare, unset]
  rfl

/-- A session with a pipeline closes its descriptor twice. -/
theorem release_streaming {session : Session} {source : Wav.Source} (formed : WellFormed session)
    (set : session.pipeline = some source) {own : Nat} (number : source.fd = own) (kernel : Kernel) :
    ∃ first second, (release session kernel).calls =
      kernel.calls ++ [.close own first] ++ [.close own second] := by
  have same : session.fd = own := by
    rcases formed.initial_or_streaming with state | streaming
    · rw [formed.pipeline_initial state] at set
      cases set
    · obtain ⟨source', set', shared, _⟩ := (wellFormed_streaming streaming).mp formed
      cases set.symm.trans set'
      rw [← shared, number]
  have positive : (own : Int) ≥ 0 := Int.natCast_nonneg own
  rw [release, pipelineDealloc, set, same]
  simp only [Wav.dealloc, number, if_pos positive]
  exact ⟨_, _, rfl⟩

/-- Deleting a session without a pipeline needs no call. -/
theorem Enters.released {session : Session} {kernel : Kernel}
    (enters : Enters base before pointer after) (formed : WellFormed session)
    (bare : session.pipeline = none) (account : Account none (shareOf pointer before.2))
    (below : pointer < after.1.server.fresh)
    (fresh : before.1.server.fresh ≤ after.1.server.fresh)
    (freed : after.1.server.memory pointer = none)
    (others : ∀ other, other ≠ pointer → (after.1.server.memory other).map Session.detached =
      (before.1.server.memory other).map Session.detached)
    (calls : after.1.server.kernel.calls = (release session kernel).calls)
    (quiet : kernel.calls = []) :
    Works base before pointer none none after.1.server.kernel.calls after := by
  have nothing : after.1.server.kernel.calls = [] := by rw [calls, release_bare formed bare, quiet]
  refine ⟨fresh, below, others, enters.log, enters.lowest, .neither rfl ?_, account, ?_, .inr rfl, ?_⟩
  · rw [nothing]
    exact fun _ member => (List.not_mem_nil member).elim
  · intro fd ⟨source, set, _⟩
    cases set
  · intro session' live
    rw [freed] at live
    cases live

/-- Deleting a session with a pipeline closes its descriptor more often than it has been obtained. -/
theorem not_tidy_of_release {session : Session} {source : Wav.Source} {kernel : Kernel}
    (formed : WellFormed session) (set : session.pipeline = some source)
    (account : Account session.pipeline (shareOf pointer before.2)) (quiet : kernel.calls = [])
    (log : after.2 = before.2 ++ madeFor (some pointer) (release session kernel).calls) :
    ¬ Tidy after := by
  intro tidy
  rw [set] at account
  obtain ⟨own, number, counts⟩ := account
  obtain ⟨opens, _⟩ := counts own
  rw [if_pos rfl] at opens
  obtain ⟨first, second, twice⟩ := release_streaming formed set number kernel
  have share : shareOf pointer after.2 = shareOf pointer before.2 ++
      [.close own first, .close own second] := by
    rw [log, shareOf_append, shareOf_madeFor, twice, quiet]
    rfl
  have once := tidy.once pointer own
  have two : relinquished own [.close own first, .close own second] = 2 := by
    simp [relinquished, Syscall.closes]
  have none : obtained own [.close own first, .close own second] = 0 := rfl
  rw [share, obtained_append, relinquished_append, opens, two, none] at once
  omega

/-- The books know the session that is got for an address, or it is a new one. -/
theorem Books.got {addr : SockaddrIn6} {entered : Server} {session : Session}
    (books : Books base before)
    (got : Got (before.1.server.enter input) addr pointer entered session) :
    Account session.pipeline (shareOf pointer before.2) ∧
      ∀ fd, Holds session.pipeline fd → ∃ session',
        before.1.server.memory pointer = some session' ∧ Holds session'.pipeline fd := by
  cases known : (before.1.server.enter input).memory pointer with
  | some session' =>
      have live := got.live
      rw [got.old session' known] at live
      exact ⟨books.account pointer session live, fun fd holds => ⟨session, live, holds⟩⟩
  | none =>
      obtain ⟨new, memory, rfl⟩ := got.new known
      have absent : shareOf pointer before.2 = [] := by
        apply shareOf_eq_nil
        intro entry member
        have used := books.used entry member
        rw [new]
        exact Nat.ne_of_lt used
      rw [absent]
      refine ⟨fun _ => ⟨rfl, rfl⟩, fun fd ⟨source, set, _⟩ => ?_⟩
      cases set

/-- Handling a datagram fits the stream of its session. -/
theorem Books.works {addr : SockaddrIn6} {entered : Server} {session : Session}
    {exchange : Exchange} {outcome : Outcome} (books : Books base before)
    (enters : Enters base before pointer after)
    (got : Got (before.1.server.enter input) addr pointer entered session)
    (ran : exchange.handledBy session = .ok outcome) (kept : outcome.deleted = false)
    (calls : after.1.server.kernel.calls = outcome.kernel.calls)
    (fresh : after.1.server.fresh = entered.fresh)
    (others : ∀ other, other ≠ pointer → after.1.server.memory other = entered.memory other)
    (now : ∃ session', after.1.server.memory pointer = some session' ∧
      session'.pipeline = outcome.session.pipeline) :
    Works base before pointer session.pipeline outcome.session.pipeline outcome.kernel.calls after := by
  obtain ⟨chains, inv⟩ := got.table
  have formed := got.formed books.sound.formed
  have reaction := reaction_of_handledBy formed ran
  rw [kept] at reaction
  obtain ⟨account, known⟩ := books.got got
  obtain ⟨session', live, pipeline⟩ := now
  refine ⟨?_, ?_, ?_, ?_, ?_, reaction.descriptors formed, account, known, .inl ⟨session', live⟩, ?_⟩
  · rw [fresh]
    exact got.fresh
  · rw [fresh]
    exact inv.below pointer session got.live
  · intro other differ
    rw [others other differ]
    exact got.others other differ
  · rw [enters.log, calls]
  · rw [← calls]
    exact enters.lowest
  · intro session'' live'
    cases live.symm.trans live'
    exact pipeline

/-- A step keeps the books if it deletes no session that has a pipeline. -/
theorem Books.kept (books : Books base before) (step : LoggedStep base before input after)
    (streamless : Streamless before.1 input) : Books base after := by
  obtain ⟨effect, sound⟩ := step.steps.effect books.sound step.running
  cases effect with
  | kept quiet => exact books.undisturbed step quiet
  | dropped _ _ _ _ quiet => exact books.undisturbed step quiet
  | returned err returns quiet => exact books.undisturbed step quiet
  | @expired pointer session expires freed others fresh calls whole =>
      obtain ⟨chains, inv⟩ := books.sound.table
      have bare := streamless.expiring _ _ expires
      have account := books.account pointer session expires.1
      rw [bare] at account
      have works := (step.enters (actor_of_expires expires)).released
        (books.sound.formed pointer session expires.1) bare account
        (fresh ▸ inv.below pointer session expires.1) fresh.ge freed others calls rfl
      exact works.books books sound
  | @handled addr datagram pointer entered session outcome stage received found got ran kept top reheaped =>
      have memory : ∀ other, after.1.server.memory other = (afterHandling entered pointer outcome
          (before.1.server.clock + input.elapsed)).memory other := congrFun reheaped.memory
      have works := books.works (step.enters (actor_of_got stage received found)) got ran kept
        (by rw [reheaped.kernel]; rfl) reheaped.fresh
        (fun other differ => (memory other).trans (Function.update_of_ne differ _ _))
        ⟨_, (memory pointer).trans (Function.update_self _ _ _), rfl⟩
      exact works.books books sound

/-- No step is taken that handles a packet which sets RST. -/
theorem Steps.not_reset {addr : SockaddrIn6} {datagram : List UInt8} {entered : Server}
    {session : Session} (step : Steps config input next) (sound : Sound config)
    (stage : config.stage = .recvfrom) (received : input.received = some (addr, datagram))
    (found : sessionGet (config.server.enter input) addr input.allocation =
      .ok (some pointer, entered))
    (live : entered.memory pointer = some session)
    (accepted : Accepted (packetHeaderDecode (receiveInto config.buffer datagram)) session.ack) :
    packetFlagIsset (packetHeaderDecode (receiveInto config.buffer datagram)).flags
      packetFlagRst = false := by
  by_contra set
  rw [Bool.not_eq_false] at set
  have running : ∀ err, config.stage ≠ .returned err := fun err same => by
    cases stage.symm.trans same
  cases (step.effect sound running).1 with
  | kept quiet => cases (quiet.received stage).symm.trans received
  | dropped other => cases stage.symm.trans other
  | returned err returns quiet => cases (quiet.received stage).symm.trans received
  | expired expires =>
      have waits := expires.waiting
      rw [stage] at waits
      cases waits
  | handled _ received' found' got ran kept =>
      cases received.symm.trans received'
      cases found.symm.trans found'
      cases live.symm.trans got.live
      have forgets := ran.symm.trans (handledBy_reset accepted set)
      cases forgets
      cases kept

/-- A step that deletes a session with a pipeline closes its descriptor more often than it has been
obtained. -/
theorem Books.streamless (books : Books base before) (step : LoggedStep base before input after)
    (tidy : Tidy after) : Streamless before.1 input := by
  refine ⟨fun pointer session expires => ?_, ?_⟩
  · obtain ⟨effect, _⟩ := step.steps.effect books.sound step.running
    cases effect with
    | kept quiet => exact (quiet.expires pointer session expires).elim
    | dropped _ _ _ _ quiet => exact (quiet.expires pointer session expires).elim
    | returned err returns quiet => exact (quiet.expires pointer session expires).elim
    | handled stage received found got ran kept top reheaped =>
        have waiting := expires.waiting
        rw [stage] at waiting
        cases waiting
    | expired expires' freed others fresh calls whole =>
        rename_i pointer' session'
        cases expires.waiting.symm.trans expires'.waiting
        cases expires.1.symm.trans expires'.1
        cases pipeline : session.pipeline with
        | none => rfl
        | some source =>
            have closes : after.2 = before.2 ++ madeFor (some pointer)
                (release session (before.1.server.enter input).kernel).calls := by
              rw [step.log, actor_of_expires expires, calls]
            exact (not_tidy_of_release (books.sound.formed pointer session expires.1) pipeline
              (books.account pointer session expires.1) rfl closes tidy).elim
  · intro addr datagram pointer entered session stage received found live accepted reset
    have plain := step.steps.not_reset books.sound stage received found live accepted
    cases reset.symm.trans plain

/-! ## One step more -/

/-- What has been opened and not closed since was free before. -/
theorem LowestFree.fresh {numbers : Finset Nat} {calls more : List Syscall} {fd : Nat}
    (lowest : LowestFree numbers (calls ++ more)) (kept : ∀ fd, relinquished fd calls = 0)
    (opens : 0 < obtained fd calls) : fd ∉ numbers := by
  induction calls generalizing numbers with
  | nil => exact (Nat.lt_irrefl 0 opens).elim
  | cons call calls ih =>
      have closes (number : Nat) : call.closes number = false ∧ relinquished number calls = 0 := by
        have none := kept number
        rw [relinquished, List.countP_cons] at none
        cases closed : call.closes number with
        | false =>
            rw [closed] at none
            exact ⟨rfl, none⟩
        | true =>
            rw [closed] at none
            cases none
      cases own : call.obtains fd with
      | true => exact (lowest.1 fd own).1
      | false =>
          rw [obtained, List.countP_cons, own] at opens
          have later := ih lowest.2 (fun number => (closes number).2) opens
          intro used
          refine later ?_
          cases call with
          | «open» name reply =>
              cases reply with
              | descriptor other => exact Finset.mem_insert_of_mem used
              | failed errno => exact used
          | close other failure =>
              refine Finset.mem_filter.mpr ⟨used, fun same => ?_⟩
              exact of_decide_eq_false (closes fd).1 same.symm
          | _ => exact used

/-- A request that is refused leaves the descriptors apart. -/
theorem Books.refused {session : Session} {exchange : Exchange} {outcome : Outcome}
    (books : Books base before) (enters : Enters base before pointer after)
    (refused : Refused session exchange outcome) (account : Account none (shareOf pointer before.2))
    (others : ∀ other, other ≠ pointer → (after.1.server.memory other).map Session.detached =
      (before.1.server.memory other).map Session.detached)
    (calls : after.1.server.kernel.calls = (release outcome.session outcome.kernel).calls) :
    Tidy after := by
  have even := refused.calls_after.1
  rw [← calls] at even
  have share {other : SessionPtr} (differ : other ≠ pointer) :
      shareOf other after.2 = shareOf other before.2 := by
    rw [enters.log, shareOf_append, shareOf_madeFor_other differ, List.append_nil]
  have own (fd : Nat) : relinquished fd (shareOf pointer after.2) =
      obtained fd (shareOf pointer after.2) := by
    rw [enters.log, shareOf_append, shareOf_madeFor, obtained_append, relinquished_append,
      (account fd).1, (account fd).2, (even fd).1]
  refine ⟨fun other fd => ?_, fun other dead fd => ?_, ?_⟩
  · by_cases same : other = pointer
    · subst same
      exact le_of_eq (own fd)
    · rw [share same]
      exact books.tidy.once other fd
  · by_cases same : other = pointer
    · subst same
      exact own fd
    · rw [share same]
      refine books.settled other ?_ fd
      have gone := others other same
      rw [dead, Option.map_none] at gone
      exact Option.map_eq_none_iff.mp gone.symm
  · obtain ⟨earlier, call, made, _, opens, closes, sends⟩ := refused.calls
    obtain ⟨failure, released⟩ := refused.release
    have lowest := enters.lowest
    rw [calls, released, made, List.append_assoc] at lowest
    rw [enters.log]
    refine isolated_made books.isolated fun closing' among fd closed other differ => ?_
    have mine : exchange.descriptor = some fd := by
      rw [calls, released, made, List.append_assoc] at among
      have counted : 0 < relinquished fd (earlier ++ ([call] ++ closing exchange failure)) :=
        List.countP_pos_iff.mpr ⟨closing', among, closed⟩
      rw [relinquished_append, closes, relinquished_append,
        relinquished_neutral (neutral_singleton sends.neutral), relinquished_closing] at counted
      by_contra other
      rw [if_neg other] at counted
      exact Nat.lt_irrefl 0 counted
    have free : fd ∉ descriptors base before.2 := by
      refine LowestFree.fresh lowest closes ?_
      rw [opens, if_pos mine]
      exact Nat.one_pos
    cases live : before.1.server.memory other with
    | none => exact le_of_eq (books.settled other live fd).symm
    | some session' =>
        apply account_settled (books.account other session' live)
        exact fun holds => free (books.inUse other session' fd live holds)

/-- A session that is deleted leaves the descriptors apart exactly if it has no pipeline. -/
theorem Books.tidy_released_iff {session : Session} {kernel : Kernel} (books : Books base before)
    (enters : Enters base before pointer after) (formed : WellFormed session)
    (account : Account session.pipeline (shareOf pointer before.2))
    (below : pointer < after.1.server.fresh)
    (fresh : before.1.server.fresh ≤ after.1.server.fresh)
    (freed : after.1.server.memory pointer = none)
    (others : ∀ other, other ≠ pointer → (after.1.server.memory other).map Session.detached =
      (before.1.server.memory other).map Session.detached)
    (calls : after.1.server.kernel.calls = (release session kernel).calls)
    (quiet : kernel.calls = []) : Tidy after ↔ session.pipeline = none := by
  cases pipeline : session.pipeline with
  | none =>
      rw [pipeline] at account
      have works := enters.released formed pipeline account below fresh freed others calls quiet
      exact iff_of_true (works.tidy books) rfl
  | some source =>
      have log := enters.log
      rw [calls] at log
      refine iff_of_false (not_tidy_of_release formed pipeline account quiet log) fun none => ?_
      cases none

/-- The calls of a step, whether or not it fails, leave the descriptors apart exactly if the step
deletes no session that has a pipeline. -/
theorem Books.touched_iff (books : Books base before)
    (touch : Touch before.1 input after.1.server)
    (log : after.2 = before.2 ++ madeFor (actor before.1 input) after.1.server.kernel.calls)
    (lowest : LowestFree (descriptors base before.2) after.1.server.kernel.calls) :
    Tidy after ↔ Streamless before.1 input := by
  have enters {pointer : SessionPtr} (acts : actor before.1 input = some pointer) :
      Enters base before pointer after := by
    rw [acts] at log
    exact ⟨log, lowest⟩
  have undue (stage : before.1.stage = .recvfrom) (pointer : SessionPtr) (session : Session) :
      ¬ Expires before.1 input pointer session := by
    intro expires
    have waits := expires.waiting
    rw [stage] at waits
    cases waits
  cases touch with
  | none memory fresh calls still unheard =>
      have same : after.2 = before.2 := by
        rw [log, calls]
        cases actor before.1 input with
        | none => exact List.append_nil _
        | some session => exact List.append_nil _
      refine iff_of_true ⟨?_, ?_, ?_⟩ ⟨fun pointer session expires => ?_, ?_⟩
      · rw [same]
        exact books.tidy.once
      · rw [same, memory]
        exact books.settled
      · rw [same]
        exact books.isolated
      · exact (still pointer session expires).elim
      · intro addr datagram pointer entered session stage received found
        exact (unheard stage addr datagram pointer entered received found).elim
  | @expired pointer session expires deleted =>
      obtain ⟨chains, inv⟩ := books.sound.table
      have fresh : after.1.server.fresh = before.1.server.fresh := deleted.fresh
      have below : pointer < after.1.server.fresh := by
        rw [fresh]
        exact inv.below pointer session expires.1
      have calls : after.1.server.kernel.calls =
          (release session (before.1.server.enter input).kernel).calls := by rw [deleted.kernel]
      rw [books.tidy_released_iff (enters (actor_of_expires expires))
        (books.sound.formed pointer session expires.1) (books.account pointer session expires.1)
        below fresh.ge deleted.freed deleted.others calls rfl]
      refine ⟨fun bare => ⟨fun other session' expires' => ?_, ?_⟩, fun streamless => ?_⟩
      · cases expires.waiting.symm.trans expires'.waiting
        cases expires.1.symm.trans expires'.1
        exact bare
      · intro addr datagram other entered session' stage
        exact (undue stage pointer session expires).elim
      · exact streamless.expiring pointer session expires
  | @handled addr datagram pointer entered session outcome stage received found got ran kept whole =>
      have memory : after.1.server.memory =
          Function.update entered.memory pointer (some outcome.session) := by
        rw [whole]
        rfl
      have works := books.works (enters (actor_of_got stage received found)) got ran kept
        (by rw [whole]; rfl) (by rw [whole]; rfl)
        (fun other differ => by rw [memory, Function.update_of_ne differ])
        ⟨_, by rw [memory, Function.update_self], rfl⟩
      refine iff_of_true (works.tidy books) ⟨fun other session' expires => ?_, ?_⟩
      · exact (undue stage other session' expires).elim
      · intro addr' datagram' pointer' entered' session' _ received' found' live accepted reset
        cases received.symm.trans received'
        cases found.symm.trans found'
        cases live.symm.trans got.live
        cases ran.symm.trans (handledBy_reset accepted reset)
        cases kept
  | @deleted addr datagram pointer entered session outcome stage received found got ran removed gone =>
      have formed := got.formed books.sound.formed
      obtain ⟨grown, table⟩ := got.table
      obtain ⟨account, _⟩ := books.got got
      have acts := enters (actor_of_got stage received found)
      have calls : after.1.server.kernel.calls = (release outcome.session outcome.kernel).calls := by
        rw [gone.kernel]
        rfl
      have fresh : after.1.server.fresh = entered.fresh := gone.fresh
      have others (other : SessionPtr) (differ : other ≠ pointer) :
          (after.1.server.memory other).map Session.detached =
            (before.1.server.memory other).map Session.detached := by
        refine (gone.others other differ).trans ?_
        change (Function.update entered.memory pointer (some outcome.session) other).map _ = _
        rw [Function.update_of_ne differ]
        exact got.others other differ
      rcases reset_or_refused formed ran removed with
        ⟨accepted, reset, pipeline, formed', silent⟩ | ⟨refuses, refused⟩
      · rw [← pipeline] at account
        have below : pointer < after.1.server.fresh := by
          rw [fresh]
          exact table.below pointer session got.live
        have grows : before.1.server.fresh ≤ after.1.server.fresh := by
          rw [fresh]
          exact got.fresh
        rw [books.tidy_released_iff acts formed' account below grows gone.freed others calls silent,
          pipeline]
        refine ⟨fun bare => ⟨fun other session' expires => ?_, ?_⟩, fun streamless => ?_⟩
        · exact (undue stage other session' expires).elim
        · intro addr' datagram' pointer' entered' session' _ received' found' live _ _
          cases received.symm.trans received'
          cases found.symm.trans found'
          cases live.symm.trans got.live
          exact bare
        · exact streamless.reset addr datagram pointer entered session stage received found got.live
            accepted reset
      · rw [formed.pipeline_initial refuses.state] at account
        refine iff_of_true (books.refused acts refused account others calls)
          ⟨fun other session' expires => ?_, ?_⟩
        · exact (undue stage other session' expires).elim
        · intro addr' datagram' pointer' entered' session' _ received' found' live _ reset
          cases received.symm.trans received'
          cases found.symm.trans found'
          cases live.symm.trans got.live
          cases reset.symm.trans refuses.heard.2

/-- The inputs determine the log. -/
theorem loggedStep_functional (before : Logged) (input : Input) (after after' : Logged)
    (step : LoggedStep base before input after) (step' : LoggedStep base before input after') :
    after = after' := by
  have config := steps_functional _ _ _ _ step.steps step'.steps
  have log := step.log
  rw [config, ← step'.log] at log
  exact Prod.ext config log

/-- The books are in order at the beginning. -/
theorem books_initial (initial : Initial config) : Books base (config, []) := by
  have sound := sound_initial initial
  obtain ⟨kernel, clock, buffer, rfl⟩ := initial
  refine ⟨sound, fun _ member => (List.not_mem_nil member).elim, ?_, fun _ _ _ => rfl, ?_, ?_, ?_⟩
  · intro pointer session live
    cases live
  · intro earlier session call later split
    exact (List.append_ne_nil_of_right_ne_nil _ (List.cons_ne_nil _ _) split.symm).elim
  · intro pointer session fd live
    cases live
  · intro pointer session other session' fd live
    cases live

end

/-- **Descriptors are kept apart.** In every run of the loop, and for whatever step is tried after it,
every session closes its descriptor once at most, exactly once when it has been deleted, and never one
of another session, if and only if no session is deleted after its stream has been set up: neither by
its timeout nor by a packet that sets RST. -/
theorem descriptors_tidy_iff {base : Finset Nat} {source : Config} {inputs : List Input}
    {target : Logged} {input : Input} (initial : Initial source)
    (run : Run (LoggedStep base) (source, []) inputs target)
    (lowest : LowestFree (descriptors base target.2) (reached target.1 input).kernel.calls) :
    Run.Always (LoggedStep base) (source, []) inputs Tidy ∧ Tidy (attempted target input) ↔
      Run (fun before input after => LoggedStep base before input after ∧
        Streamless before.1 input) (source, []) inputs target ∧ Streamless target.1 input := by
  have begins : Books base (source, []) := books_initial initial
  have always : Run.Always (LoggedStep base) (source, []) inputs Tidy ↔
      Run (fun before input after => LoggedStep base before input after ∧
        Streamless before.1 input) (source, []) inputs target := by
    refine run.always_iff_of_invariant loggedStep_functional begins (fun _ books => books.tidy) ?_ ?_
    · intro before input after books step streamless
      exact books.kept step streamless
    · intro before input after books step tidy
      exact books.streamless step tidy
  rw [always]
  refine and_congr_right fun streamless => ?_
  have books : Books base target :=
    streamless.invariant (Books base) begins fun _ _ _ books step => books.kept step.1 step.2
  exact books.touched_iff (touch_reached books.sound) rfl lowest

/-! ## Two clients and one number -/

/-- A step of the loop with its calls, where the loop goes on and `open` behaves. -/
def loggedStep (base : Finset Nat) (before : Logged) (input : Input) : Except Fault Logged := do
  let next ← serverStep input before.1
  match before.1.stage with
  | .returned _ => .error .diverge
  | _ =>
      if LowestFree (descriptors base before.2) next.server.kernel.calls then
        .ok (next, before.2 ++ madeFor (actor before.1 input) next.server.kernel.calls)
      else .error .diverge

/-- What the executable step computes is a step with its log. -/
theorem loggedStep_sound {base : Finset Nat} {before after : Logged} {input : Input}
    (done : loggedStep base before input = .ok after) : LoggedStep base before input after := by
  obtain ⟨next, steps, done⟩ := bind_eq_ok done
  cases stage : before.1.stage with
  | returned err =>
      simp only [stage] at done
      cases done
  | _ =>
      simp only [stage] at done
      split at done
      case isFalse => cases done
      case isTrue lowest =>
        cases done
        refine ⟨steps, fun err same => ?_, lowest, rfl⟩
        cases stage.symm.trans same

/-- The client at port 40001 of `::1`. -/
def secondClient : SockaddrIn6 := { firstClient with sin6Port := (156, 65) }

/-- A datagram from a client, for whichever call of the loop asks for one. -/
def datagramFrom (client : SockaddrIn6) (seq : UInt32) (flags : UInt8) (env : Env)
    (elapsed : Nat) : Input :=
  ⟨env, elapsed, .readable, some (client, packetDatagram ⟨seq, 0, 0, flags, 1024, 5⟩ (fun _ => 0)
    (Memory.write (fun _ => 0) [0, 115, 111, 110, 103])), some zeroedSession⟩

/-- The answers to a SYN, where 4 is the lowest descriptor that is free. -/
def opening : Env := { songEnv fun _ => .data songHeader with openReply := fun _ => .descriptor 4 }

/-- The first client opens a file. -/
def firstOpens : List Input := List.replicate 4 (datagramFrom firstClient 0 packetFlagSyn opening 0)

/-- The first client reads its file to the end, the second one opens a file, and the session of the
first one times out. -/
def numberReused : List Input :=
  firstOpens ++ List.replicate 4 (datagramFrom firstClient 5 0 (songEnv fun _ => .data []) 5) ++
    List.replicate 4 (datagramFrom secondClient 0 packetFlagSyn opening 1) ++
    List.replicate 2 (datagramFrom secondClient 5 0 opening 40)

/-- The server after a run in a process with four descriptors of its own. -/
def loggedAfter (inputs : List Input) : Logged :=
  (inputs.foldlM (loggedStep {0, 1, 2, 3}) (beginning, [])).toOption.getD (beginning, [])

/-- The log of the example is one of a run. -/
theorem loggedAfter_run {inputs : List Input}
    (fine : (inputs.foldlM (loggedStep {0, 1, 2, 3}) (beginning, [])).isOk = true) :
    Run (LoggedStep {0, 1, 2, 3}) (beginning, []) inputs (loggedAfter inputs) :=
  (Run.of_foldlM (eq_ok_getD fine (beginning, []))).mono fun _ _ _ done => loggedStep_sound done

/-- The step waits for no session that is due, and handles no packet that sets RST. -/
def sparing (before : Logged) (input : Input) : Bool :=
  match before.1.stage with
  | .expiry (some pointer) now =>
      (before.1.server.memory pointer).all fun session => decide (now < session.timeout)
  | .select _ _ => input.wake != .timedOut
  | .recvfrom => input.received.all fun both =>
      !packetFlagIsset (packetHeaderDecode (receiveInto before.1.buffer both.2)).flags packetFlagRst
  | _ => true

/-- Such a step deletes no session that has a pipeline. -/
theorem streamless_of_sparing {before : Logged} {input : Input}
    (spares : sparing before input = true) : Streamless before.1 input := by
  refine ⟨fun pointer session expires => ?_, fun addr datagram pointer entered session stage received
    found live accepted reset => ?_⟩
  · obtain ⟨live, due⟩ := expires
    cases stage : before.1.stage with
    | expiry waiting now =>
        rw [stage] at due
        obtain ⟨rfl, due⟩ := due
        simp only [sparing, stage, live, Option.all_some, decide_eq_true_eq] at spares
        exact absurd spares (not_lt.mpr due)
    | select waiting now =>
        rw [stage] at due
        simp [sparing, stage, due.2.1] at spares
    | _ =>
        rw [stage] at due
        cases due
  · simp only [sparing, stage, received, Option.all_some, reset] at spares
    cases spares

/-- The answers to a SYN, where 5 is the lowest descriptor that is free. -/
def openingNext : Env := { opening with openReply := fun _ => .descriptor 5 }

/-- Two clients open a file each, and one more datagram has arrived. -/
def bothOpen : List Input :=
  firstOpens ++ List.replicate 4 (datagramFrom secondClient 0 packetFlagSyn openingNext 1) ++
    List.replicate 3 (datagramFrom firstClient 5 0 opening 0)

/-- The descriptors of two clients are kept apart while they open their files, and lost track of where
the next packet is a reset of the first one. -/
theorem descriptors_tidy_opens :
    Run.Always (LoggedStep {0, 1, 2, 3}) (beginning, []) bothOpen Tidy ∧
      Tidy (attempted (loggedAfter bothOpen) (datagramFrom firstClient 5 0 opening 0)) ∧
      ¬ Tidy (attempted (loggedAfter bothOpen)
        (datagramFrom firstClient 5 packetFlagRst opening 0)) := by
  have run : Run (LoggedStep {0, 1, 2, 3}) (beginning, []) bothOpen (loggedAfter bothOpen) :=
    loggedAfter_run (by decide +kernel)
  have computed : bothOpen.foldlM (loggedStep {0, 1, 2, 3}) (beginning, []) =
      .ok (loggedAfter bothOpen) := eq_ok_getD (by decide +kernel) (beginning, [])
  have spared := @Run.guard _ _ _ sparing Fault.diverge (loggedStep {0, 1, 2, 3}) _ _ _
    (Run.of_foldlM computed) (by decide +kernel)
  have streamless : Run (fun before input after => LoggedStep {0, 1, 2, 3} before input after ∧
      Streamless before.1 input) (beginning, []) bothOpen (loggedAfter bothOpen) :=
    spared.mono fun _ _ _ step => ⟨loggedStep_sound step.1, streamless_of_sparing step.2⟩
  have kept := (descriptors_tidy_iff initial_beginning run (by decide +kernel)).mpr
    ⟨streamless, @streamless_of_sparing (loggedAfter bothOpen) (datagramFrom firstClient 5 0 opening 0)
      (by decide +kernel)⟩
  refine ⟨kept.1, kept.2, fun tidy => ?_⟩
  exact absurd (tidy.once 0 4) (by decide +kernel)

/-- The deletion of the first session closes the descriptor of the second one. -/
theorem descriptors_not_isolated :
    ¬ ∀ (base : Finset Nat) (source : Config) (inputs : List Input) (target : Logged),
      Initial source → Run (LoggedStep base) (source, []) inputs target → Tidy target := by
  intro tidy
  have isolated := (tidy _ _ _ _ initial_beginning
    (@loggedAfter_run numberReused (by decide +kernel))).isolated
  have closed := isolated ((loggedAfter numberReused).2.take 9) 0 (.close 4 none)
    ((loggedAfter numberReused).2.drop 10) (by decide +kernel) 4 (by decide) 1 (by decide)
  exact absurd closed (by decide +kernel)

end Sas.Server
