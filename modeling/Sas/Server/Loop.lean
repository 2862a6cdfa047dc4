import Sas.Server.Run
import Sas.Server.Pending
import Sas.Server.TableDelete
import Sas.Server.Reaction

/-! # What one step of the server loop does

For the sessions as a whole, a step of the loop does one of a few things: it leaves them alone, it
deletes the session whose timeout has passed, or it hands a datagram to one session and lets it wait
again. The sessions the loop holds on to are the entries of the heap and the session that has been
popped from it.
-/

namespace Sas.Server

open Foundation Transport Rxc Formats

/-! ## The state machine in place -/

section

variable {header : PacketHeader} {payload : Memory} {session : Session} {kernel : Kernel}
  {outcome : Outcome}

/-- Opening a session leaves it in its place. -/
theorem sessionOpen_place (done : sessionOpen header payload session kernel = .ok outcome) :
    outcome.session.addr = session.addr ∧ outcome.session.next = session.next := by
  obtain ⟨addr, next, _⟩ := sessionOpen_sends done
  exact ⟨addr, next⟩

/-- No packet moves a session from its place. -/
theorem Reaction.place {exchange : Exchange} {calls : List Syscall} {next : Session}
    (reaction : Reaction session exchange calls (some next)) :
    next.addr = session.addr ∧ next.next = session.next := by
  cases reaction <;> exact ⟨rfl, rfl⟩

/-- The state machine leaves a session in its place: under its address, with its link. -/
theorem handledBy_place {exchange : Exchange} (formed : WellFormed session)
    (done : exchange.handledBy session = .ok outcome) :
    outcome.session.addr = session.addr ∧ outcome.session.next = session.next := by
  cases deleted : outcome.deleted with
  | false =>
      have reaction := reaction_of_handledBy formed done
      rw [deleted] at reaction
      exact reaction.place
  | true =>
      rcases handledBy_deleted formed done deleted with rfl | opened
      · exact ⟨rfl, rfl⟩
      · have place := sessionOpen_place opened
        exact place

end

/-! ## What the loop holds -/

/-- The session that has been popped from the heap and is waited for. -/
def Stage.waiting : Stage → Option SessionPtr
  | .expiry session _ => session
  | .select session _ => session
  | _ => none

/-- Some entries, with the session that is waited for. -/
def withWaiting (entries : Multiset (Option SessionPtr)) :
    Option SessionPtr → Multiset (Option SessionPtr)
  | some session => some session ::ₘ entries
  | none => entries

/-- The entries of the heap are among those that are held. -/
theorem le_withWaiting (entries : Multiset (Option SessionPtr)) (waiting : Option SessionPtr) :
    entries ≤ withWaiting entries waiting := by
  cases waiting with
  | none => exact le_refl entries
  | some pointer => exact Multiset.le_cons_self entries (some pointer)

/-- The sessions the loop holds on to. -/
def held (config : Config) : Multiset (Option SessionPtr) :=
  withWaiting config.server.pending config.stage.waiting

/-- The reading of the clock the loop goes by is not ahead of the clock. -/
def Stage.Timely (clock : Int) : Stage → Prop
  | .expiry _ now => now ≤ clock
  | .select _ now => now ≤ clock
  | _ => True

/-- The server between two steps of the loop. -/
structure Sound (config : Config) : Prop where
  table : ∃ chains, TableInv config.server chains
  formed : ∀ pointer session, config.server.memory pointer = some session → WellFormed session
  entries : none ∉ config.server.pending
  timely : config.stage.Timely config.server.clock

/-- The server is sound at the beginning. -/
theorem sound_initial {config : Config} (initial : Initial config) : Sound config := by
  obtain ⟨kernel, clock, buffer, rfl⟩ := initial
  refine ⟨⟨_, tableInv_empty (Nat.zero_lt_succ 31) (fun _ => rfl) (fun _ => rfl) rfl⟩, ?_, ?_,
    trivial⟩
  · intro pointer session live
    cases live
  · exact Multiset.notMem_zero none

/-- The packet the state machine meets when the server has received a datagram. -/
def exchangeAt (kernel : Kernel) (buffer : Memory) (count : Nat) : Exchange :=
  ⟨packetHeaderDecode buffer, buffer.shift packetHeaderSize, count, kernel.env, kernel.errno⟩

/-- The server once the session behind a pointer has been handled and its timeout moved. -/
def afterHandling (server : Server) (pointer : SessionPtr) (outcome : Outcome) (clock : Int) :
    Server :=
  { server with
    memory := Function.update server.memory pointer
      (some { outcome.session with timeout := clock + sessionTimeout })
    kernel := outcome.kernel
    clock := clock }

/-- The server holds a session for an address: the one it had, or a new one. -/
structure Got (server : Server) (addr : SockaddrIn6) (pointer : SessionPtr) (entered : Server)
    (session : Session) : Prop where
  table : ∃ chains, TableInv entered chains
  live : entered.memory pointer = some session
  others : ∀ other, other ≠ pointer →
    (entered.memory other).map Session.detached = (server.memory other).map Session.detached
  old : ∀ before, server.memory pointer = some before → entered = server
  new : server.memory pointer = none → pointer = server.fresh ∧
    ∃ memory, session = sessionCreate addr memory
  fresh : server.fresh ≤ entered.fresh
  timeouts : entered.timeouts = server.timeouts
  clock : entered.clock = server.clock
  kernel : entered.kernel = server.kernel

/-- `sas_server_session_get` fails for want of memory only. -/
theorem sessionGet_got {server : Server} {chains : Nat → List SessionPtr}
    (inv : TableInv server chains) (addr : SockaddrIn6) (memory : Option Uninitialized) :
    sessionGet server addr memory = .ok (none, server) ∨
      ∃ pointer entered session, sessionGet server addr memory = .ok (some pointer, entered) ∧
        Got server addr pointer entered session := by
  rcases sessionGet_spec inv addr memory with ⟨pointer, session, live, _, found⟩ | ⟨_, missing⟩ |
    ⟨contents, after, _, made, created⟩
  · refine .inr ⟨pointer, server, session, found, ⟨chains, inv⟩, live, fun _ _ => rfl,
      fun _ _ => rfl, ?_, le_refl _, rfl, rfl, rfl⟩
    intro absent
    rw [absent] at live
    cases live
  · exact .inl missing
  · refine .inr ⟨server.fresh, after, _, made, created.table, created.session, created.others, ?_,
      fun _ => ⟨rfl, contents, rfl⟩, ?_, created.timeouts, created.clock, created.kernel⟩
    · intro before live
      rw [created.unused] at live
      cases live
    · rw [created.fresh]
      exact Nat.le_succ _

/-- The step finds that the timeout of the session it waits for has passed. -/
def Expires (config : Config) (input : Input) (pointer : SessionPtr) (session : Session) : Prop :=
  config.server.memory pointer = some session ∧
    match config.stage with
    | .expiry waiting now => waiting = some pointer ∧ session.timeout ≤ now
    | .select waiting _ => waiting = some pointer ∧ input.wake = .timedOut ∧
        session.timeout ≤ config.server.clock + input.elapsed
    | _ => False

/-- A step that leaves the sessions and the table alone. -/
structure Undisturbed (config : Config) (input : Input) (next : Config) : Prop where
  received : config.stage = .recvfrom → input.received = none
  expires : ∀ pointer session, ¬ Expires config input pointer session
  memory : next.server.memory = config.server.memory
  sessions : next.server.sessions = config.server.sessions
  fresh : next.server.fresh = config.server.fresh
  calls : next.server.kernel.calls = []

/-- What has become of the sessions in a step. -/
inductive Effect (config : Config) (input : Input) (next : Config) : Prop where
  /-- Nothing, and the loop holds the same sessions. -/
  | kept : Undisturbed config input next → held next = held config → Effect config input next
  /-- Nothing, but a session that has been waited for is not held any more. -/
  | dropped {pointer : SessionPtr} {session : Session} {now : Int} :
      config.stage = .select (some pointer) now →
      config.server.memory pointer = some session →
      input.wake = .timedOut →
      config.server.clock + input.elapsed < session.timeout →
      Undisturbed config input next →
      held config = some pointer ::ₘ held next → Effect config input next
  /-- The loop has returned. -/
  | returned (err : Int32) : next.stage = .returned err → Undisturbed config input next →
      held next ≤ held config → Effect config input next
  /-- The session that has been waited for is deleted. -/
  | expired {pointer : SessionPtr} {session : Session} : Expires config input pointer session →
      next.server.memory pointer = none →
      (∀ other, other ≠ pointer → (next.server.memory other).map Session.detached =
        (config.server.memory other).map Session.detached) →
      next.server.fresh = config.server.fresh →
      next.server.kernel.calls = (release session (config.server.enter input).kernel).calls →
      held config = some pointer ::ₘ held next → Effect config input next
  /-- A session has handled a datagram. -/
  | handled {addr : SockaddrIn6} {datagram : List UInt8} {pointer : SessionPtr} {entered : Server}
      {session : Session} {outcome : Outcome} : config.stage = .recvfrom →
      input.received = some (addr, datagram) →
      sessionGet (config.server.enter input) addr input.allocation = .ok (some pointer, entered) →
      Got (config.server.enter input) addr pointer entered session →
      (exchangeAt entered.kernel (receiveInto config.buffer datagram)
        (receivedCount datagram)).handledBy session = .ok outcome →
      outcome.deleted = false → next.stage = .top →
      Reheaped (afterHandling entered pointer outcome (config.server.clock + input.elapsed))
        next.server (some pointer ::ₘ held config) → Effect config input next

/-! ## One step -/

section

variable {config next : Config} {input : Input} {server after : Server} {pointer : SessionPtr}
  {session : Session} {chains : Nat → List SessionPtr}

theorem TableInv.reheaped {entries : Multiset (Option SessionPtr)} (inv : TableInv server chains)
    (reheaped : Reheaped server after entries) : TableInv after chains :=
  inv.congr reheaped.sessions reheaped.fresh fun pointer => by rw [reheaped.memory]

/-- The session that is waited for is deleted exactly if its timeout has passed. -/
theorem serverTimeout_eq (live : server.memory pointer = some session) (elapsed : Nat) :
    serverTimeout server pointer elapsed =
      if session.timeout ≤ server.clock + elapsed then
        sessionDelete { server with clock := server.clock + elapsed } pointer
      else .ok { server with clock := server.clock + elapsed } := by
  unfold serverTimeout time
  simp only [load, live, bind, Except.bind]

/-- A session that has been freed cannot be read. -/
theorem load_of_none (freed : server.memory pointer = none) :
    server.load pointer = .error (.useAfterFree pointer) := by
  unfold load
  rw [freed]

/-- The timeout of a session that has been freed cannot be looked at. -/
theorem serverTimeout_of_none (freed : server.memory pointer = none) (elapsed : Nat) :
    serverTimeout server pointer elapsed = .error (.useAfterFree pointer) := by
  unfold serverTimeout time
  simp only [load, freed, bind, Except.bind]

/-- A session whose timeout has passed is deleted. -/
theorem serverTimeout_deleted (inv : TableInv server chains)
    (live : server.memory pointer = some session) {elapsed : Nat}
    (passed : session.timeout ≤ server.clock + elapsed) :
    ∃ after, serverTimeout server pointer elapsed = .ok after ∧
      Deleted { server with clock := server.clock + elapsed } pointer session after := by
  rw [serverTimeout_eq live, if_pos passed]
  have advanced : TableInv { server with clock := server.clock + elapsed } chains :=
    inv.congr rfl rfl fun _ => rfl
  exact sessionDelete_spec advanced live

/-- Sessions that agree up to their links are both well-formed or neither. -/
theorem wellFormed_detached {before : Session} (same : session.detached = before.detached) :
    WellFormed session ↔ WellFormed before := by
  have formed : ∀ session : Session, WellFormed session.detached ↔ WellFormed session :=
    fun _ => Iff.rfl
  rw [← formed session, same, formed before]

/-- A session that only moves in the table stays well formed. -/
theorem formed_of_detached {before after : SessionPtr → Option Session}
    (formed : ∀ pointer session, before pointer = some session → WellFormed session)
    {other : SessionPtr}
    (same : (after other).map Session.detached = (before other).map Session.detached)
    (live : after other = some session) : WellFormed session := by
  obtain ⟨old, found, detached⟩ := detached_of_live same live
  exact (wellFormed_detached detached).mpr (formed other old found)

/-- Deleting one session leaves the others well formed. -/
theorem Deleted.formed (deleted : Deleted server pointer session after)
    (formed : ∀ pointer session, server.memory pointer = some session → WellFormed session) :
    ∀ pointer session, after.memory pointer = some session → WellFormed session := by
  intro other session' live
  by_cases same : other = pointer
  · rw [same, deleted.freed] at live
    cases live
  · exact formed_of_detached formed (deleted.others other same) live

/-- Popping takes the session out of the heap that is then waited for. -/
theorem timeoutPop_held {popped : Option SessionPtr} (entries : none ∉ server.pending)
    (done : timeoutPop server = .ok (popped, after)) :
    ∃ rest, Reheaped server after rest ∧ none ∉ rest ∧ server.pending = withWaiting rest popped := by
  rcases timeoutPop_reheaped done with ⟨rfl, rfl, empty⟩ | ⟨rest, whole, reheaped⟩
  · exact ⟨after.pending, .refl after, entries, rfl⟩
  · rw [whole, Multiset.mem_cons, not_or] at entries
    cases popped with
    | none => exact (entries.1 rfl).elim
    | some session => exact ⟨rest, reheaped, entries.2, whole⟩

/-- Only a session that the loop waits for expires. -/
theorem Expires.waiting (expires : Expires config input pointer session) :
    config.stage.waiting = some pointer := by
  obtain ⟨_, due⟩ := expires
  cases stage : config.stage with
  | expiry waiting now =>
      rw [stage] at due
      exact due.1
  | select waiting now =>
      rw [stage] at due
      exact due.1
  | _ =>
      rw [stage] at due
      exact due.elim

/-- Nothing expires where nothing is waited for. -/
theorem not_expires_of_waiting (none : config.stage.waiting = none) (pointer : SessionPtr)
    (session : Session) : ¬ Expires config input pointer session := by
  intro expires
  rw [expires.waiting] at none
  cases none

/-- Nothing expires when `select` returns for another reason than the timeout. -/
theorem not_expires_of_wake {waiting : Option SessionPtr} {now : Int}
    (stage : config.stage = .select waiting now) (wake : input.wake ≠ .timedOut)
    (pointer : SessionPtr) (session : Session) : ¬ Expires config input pointer session := by
  intro expires
  obtain ⟨_, due⟩ := expires
  rw [stage] at due
  exact wake due.2.1

/-- The step that deletes the session it has popped goes on with the next entry. -/
theorem serverStep_due {now : Int} (sound : Sound config)
    (stage : config.stage = .expiry (some pointer) now)
    (known : config.server.memory pointer = some session) (due : session.timeout ≤ now) :
    ∃ removed, Deleted { config.server.enter input with
        clock := config.server.clock + input.elapsed } pointer session removed ∧
      serverStep input config = (timeoutPop removed).map fun popped =>
        ⟨popped.2, .expiry popped.1 now, config.buffer⟩ := by
  obtain ⟨chains, inv⟩ := sound.table
  have entered : TableInv (config.server.enter input) chains := inv.congr rfl rfl fun _ => rfl
  have passed : session.timeout ≤ (config.server.enter input).clock + input.elapsed := by
    have timely := sound.timely
    rw [stage] at timely
    change now ≤ config.server.clock at timely
    change session.timeout ≤ config.server.clock + input.elapsed
    omega
  obtain ⟨removed, timedOut, deleted⟩ := serverTimeout_deleted entered known passed
  refine ⟨removed, deleted, ?_⟩
  have loaded : (config.server.enter input).load pointer = .ok session := load_of_some known
  unfold serverStep
  rw [stage]
  simp only [loaded, bind, Except.bind, ge_iff_le, due, ↓reduceIte, timedOut]
  cases timeoutPop removed <;> rfl

/-- The ways through an iteration of the loop, up to the call of `recvfrom`. -/
inductive LoopStep (config : Config) (input : Input) : Config → Prop where
  /-- The first entry of the heap is popped. -/
  | pops {popped : Option SessionPtr} {after : Server} : config.stage = .top →
      timeoutPop (config.server.enter input) = .ok (popped, after) →
      LoopStep config input ⟨{ after with clock := after.clock + input.elapsed },
        .expiry popped (after.clock + input.elapsed), config.buffer⟩
  /-- The heap was empty. -/
  | idles {now : Int} : config.stage = .expiry none now →
      LoopStep config input ⟨config.server.enter input, .select none now, config.buffer⟩
  /-- The session that has been popped is not due. -/
  | waits {pointer : SessionPtr} {session : Session} {now : Int} :
      config.stage = .expiry (some pointer) now →
      config.server.memory pointer = some session → now < session.timeout →
      LoopStep config input ⟨config.server.enter input, .select (some pointer) now, config.buffer⟩
  /-- The session that has been popped is due: it is deleted, and the next one popped. -/
  | expires {pointer : SessionPtr} {session : Session} {now : Int} {removed after : Server}
      {popped : Option SessionPtr} : config.stage = .expiry (some pointer) now →
      Expires config input pointer session →
      Deleted { config.server.enter input with clock := config.server.clock + input.elapsed }
        pointer session removed →
      timeoutPop removed = .ok (popped, after) →
      LoopStep config input ⟨after, .expiry popped now, config.buffer⟩
  /-- `select` fails. -/
  | fails {waiting : Option SessionPtr} {now : Int} {errno : Int32} :
      config.stage = .select waiting now → input.wake = .failed errno →
      LoopStep config input ⟨config.server.enter input, .returned errno, config.buffer⟩
  /-- `select` has waited long enough: the session is deleted. -/
  | timesOut {pointer : SessionPtr} {session : Session} {now : Int} {after : Server} :
      config.stage = .select (some pointer) now → Expires config input pointer session →
      Deleted { config.server.enter input with clock := config.server.clock + input.elapsed }
        pointer session after →
      LoopStep config input ⟨after, .top, config.buffer⟩
  /-- `select` has not waited long enough: the session is dropped. -/
  | drops {pointer : SessionPtr} {session : Session} {now : Int} :
      config.stage = .select (some pointer) now →
      config.server.memory pointer = some session → input.wake = .timedOut →
      config.server.clock + input.elapsed < session.timeout →
      LoopStep config input ⟨{ config.server.enter input with
        clock := config.server.clock + input.elapsed }, .top, config.buffer⟩
  /-- The socket is readable while no session waits. -/
  | reads {now : Int} : config.stage = .select none now → input.wake = .readable →
      LoopStep config input ⟨config.server.enter input, .recvfrom, config.buffer⟩
  /-- The socket is readable: the session that has been popped goes back into the heap. -/
  | readds {pointer : SessionPtr} {now : Int} {after : Server} :
      config.stage = .select (some pointer) now → input.wake = .readable →
      timeoutAdd (config.server.enter input) pointer = .ok after →
      LoopStep config input ⟨after, .recvfrom, config.buffer⟩

/-- A step of the loop between two datagrams is not at `recvfrom`. -/
theorem LoopStep.elsewhere (step : LoopStep config input next) : config.stage ≠ .recvfrom := by
  intro recvfrom
  cases step with
  | pops stage => cases stage.symm.trans recvfrom
  | idles stage => cases stage.symm.trans recvfrom
  | waits stage => cases stage.symm.trans recvfrom
  | expires stage => cases stage.symm.trans recvfrom
  | fails stage => cases stage.symm.trans recvfrom
  | timesOut stage => cases stage.symm.trans recvfrom
  | drops stage => cases stage.symm.trans recvfrom
  | reads stage => cases stage.symm.trans recvfrom
  | readds stage => cases stage.symm.trans recvfrom

/-- A step at the top of the loop. -/
theorem Steps.of_top (step : Steps config input next) (stage : config.stage = .top) :
    LoopStep config input next := by
  unfold Steps serverStep at step
  rw [stage] at step
  obtain ⟨⟨popped, after⟩, pop, done⟩ := bind_eq_ok step
  clear step
  cases done
  exact .pops stage pop

/-- A step that looks for sessions which have expired. -/
theorem Steps.of_expiry {waiting : Option SessionPtr} {now : Int}
    (step : Steps config input next) (sound : Sound config)
    (stage : config.stage = .expiry waiting now) : LoopStep config input next := by
  cases waiting with
  | none =>
      rw [Steps, serverStep, stage] at step
      cases step
      exact .idles stage
  | some pointer =>
      have known : ∃ session, config.server.memory pointer = some session := by
        rw [Steps, serverStep, stage] at step
        obtain ⟨session, loaded, _⟩ := bind_eq_ok step
        exact ⟨session, live_of_load loaded⟩
      obtain ⟨session, known⟩ := known
      by_cases due : session.timeout ≤ now
      · obtain ⟨removed, deleted, same⟩ := @serverStep_due _ input _ _ _ sound stage known due
        rw [Steps, same] at step
        obtain ⟨⟨popped, after⟩, pop, done⟩ := map_eq_ok step
        cases done
        have expires : Expires config input pointer session := by
          refine ⟨known, ?_⟩
          rw [stage]
          exact ⟨rfl, due⟩
        exact .expires stage expires deleted pop
      · have loaded : (config.server.enter input).load pointer = .ok session := load_of_some known
        rw [Steps, serverStep, stage] at step
        simp only [loaded, bind, Except.bind, ge_iff_le, due, ↓reduceIte] at step
        cases step
        exact .waits stage known (not_le.mp due)

/-- The timeout of `select` is looked at in a session that is allocated. -/
theorem loopStep_timedOut {now : Int} (sound : Sound config)
    (stage : config.stage = .select (some pointer) now) (wake : input.wake = .timedOut)
    (done : serverTimeout (config.server.enter input) pointer input.elapsed = .ok after) :
    LoopStep config input ⟨after, .top, config.buffer⟩ := by
  obtain ⟨chains, inv⟩ := sound.table
  have known : ∃ session, config.server.memory pointer = some session := by
    obtain ⟨session, loaded, _⟩ := bind_eq_ok done
    exact ⟨session, live_of_load loaded⟩
  obtain ⟨session, known⟩ := known
  have known' : (config.server.enter input).memory pointer = some session := known
  by_cases passed : session.timeout ≤ config.server.clock + input.elapsed
  · have entered : TableInv (config.server.enter input) chains := inv.congr rfl rfl fun _ => rfl
    obtain ⟨removed, timedOut, deleted⟩ := serverTimeout_deleted entered known' passed
    cases timedOut.symm.trans done
    have expires : Expires config input pointer session := by
      refine ⟨known, ?_⟩
      rw [stage]
      exact ⟨rfl, wake, passed⟩
    exact .timesOut stage expires deleted
  · rw [serverTimeout_eq known'] at done
    cases (if_neg passed).symm.trans done
    exact .drops stage known wake (not_le.mp passed)

/-- A step in which `select` returns. -/
theorem Steps.of_select {waiting : Option SessionPtr} {now : Int}
    (step : Steps config input next) (sound : Sound config)
    (stage : config.stage = .select waiting now) : LoopStep config input next := by
  unfold Steps serverStep at step
  rw [stage] at step
  cases wake : input.wake with
  | failed errno =>
      simp only [wake] at step
      cases step
      exact .fails stage wake
  | timedOut =>
      simp only [wake] at step
      cases waiting with
      | none => cases step
      | some pointer =>
          obtain ⟨server, timed, done⟩ := bind_eq_ok step
          cases done
          exact loopStep_timedOut sound stage wake timed
  | readable =>
      simp only [wake] at step
      cases waiting with
      | none =>
          cases step
          exact .reads stage wake
      | some pointer =>
          obtain ⟨server, added, done⟩ := bind_eq_ok step
          cases done
          exact .readds stage wake added

/-- Nothing has happened to the sessions where neither memory nor table nor heap has changed. -/
theorem Sound.restage (sound : Sound config) {stage : Stage} {buffer : Memory}
    (timely : stage.Timely config.server.clock) :
    Sound ⟨config.server.enter input, stage, buffer⟩ := by
  obtain ⟨chains, inv⟩ := sound.table
  exact ⟨⟨chains, inv.congr rfl rfl fun _ => rfl⟩, sound.formed, sound.entries, timely⟩

/-- The server stays sound where only its heap and its clock change. -/
theorem Sound.reheaped {stage stage' : Stage} {buffer buffer' : Memory} {clock : Int}
    {entries : Multiset (Option SessionPtr)} (sound : Sound ⟨server, stage, buffer⟩)
    (reheaped : Reheaped server after entries) (filled : none ∉ entries)
    (timely : stage'.Timely clock) : Sound ⟨{ after with clock := clock }, stage', buffer'⟩ := by
  obtain ⟨chains, inv⟩ := sound.table
  refine ⟨⟨chains, (inv.reheaped reheaped).congr rfl rfl fun _ => rfl⟩, ?_, ?_, timely⟩
  · intro pointer session live
    apply sound.formed pointer
    rw [← live]
    exact (congrFun reheaped.memory pointer).symm
  · change none ∉ after.pending
    rw [reheaped.pending]
    exact filled

/-- The loop goes on with what a deletion leaves. -/
theorem Deleted.sound {stage : Stage} {buffer : Memory} (sound : Sound config)
    (deleted : Deleted { config.server.enter input with clock := config.server.clock + input.elapsed }
      pointer session after) (timely : stage.Timely (config.server.clock + input.elapsed)) :
    Sound ⟨after, stage, buffer⟩ := by
  refine ⟨deleted.table, deleted.formed sound.formed, ?_, ?_⟩
  · change none ∉ after.pending
    rw [pending, deleted.timeouts]
    exact sound.entries
  · change stage.Timely after.clock
    rw [deleted.clock]
    exact timely

/-- The sessions are left alone where only the heap and the clock change. -/
theorem Reheaped.undisturbed {entries : Multiset (Option SessionPtr)} {stage : Stage}
    {buffer : Memory} (reheaped : Reheaped (config.server.enter input) after entries) (clock : Int)
    (elsewhere : config.stage ≠ .recvfrom)
    (expires : ∀ pointer session, ¬ Expires config input pointer session) :
    Undisturbed config input ⟨{ after with clock := clock }, stage, buffer⟩ := by
  refine ⟨fun recvfrom => (elsewhere recvfrom).elim, expires, reheaped.memory, reheaped.sessions,
    reheaped.fresh, ?_⟩
  change after.kernel.calls = []
  rw [reheaped.kernel]
  rfl

theorem held_of_waiting {waiting : Option SessionPtr} (waits : config.stage.waiting = waiting) :
    held config = withWaiting config.server.pending waiting := by
  rw [held, waits]

/-- The first entry moves from the heap to where the loop waits for it. -/
theorem effect_pops {popped : Option SessionPtr} (sound : Sound config)
    (stage : config.stage = .top) (elsewhere : config.stage ≠ .recvfrom)
    (pop : timeoutPop (config.server.enter input) = .ok (popped, after)) :
    Effect config input ⟨{ after with clock := after.clock + input.elapsed },
        .expiry popped (after.clock + input.elapsed), config.buffer⟩ ∧
      Sound ⟨{ after with clock := after.clock + input.elapsed },
        .expiry popped (after.clock + input.elapsed), config.buffer⟩ := by
  have waits : config.stage.waiting = none := by rw [stage]; rfl
  have entries : none ∉ (config.server.enter input).pending := sound.entries
  obtain ⟨rest, reheaped, filled, whole⟩ := timeoutPop_held entries pop
  have before : Sound ⟨config.server.enter input, .top, config.buffer⟩ := sound.restage trivial
  refine ⟨.kept (reheaped.undisturbed _ elsewhere (not_expires_of_waiting waits)) ?_,
    before.reheaped reheaped filled (le_refl _)⟩
  rw [held_of_waiting waits]
  change withWaiting after.pending popped = config.server.pending
  rw [reheaped.pending]
  exact whole.symm

/-- The session that is due is deleted, and another one takes its place. -/
theorem effect_expires {now : Int} {removed : Server} {popped : Option SessionPtr}
    (sound : Sound config) (stage : config.stage = .expiry (some pointer) now)
    (expires : Expires config input pointer session)
    (deleted : Deleted { config.server.enter input with
      clock := config.server.clock + input.elapsed } pointer session removed)
    (pop : timeoutPop removed = .ok (popped, after)) :
    Effect config input ⟨after, .expiry popped now, config.buffer⟩ ∧
      Sound ⟨after, .expiry popped now, config.buffer⟩ := by
  have timely : now ≤ config.server.clock + input.elapsed := by
    have before := sound.timely
    rw [stage] at before
    change now ≤ config.server.clock at before
    omega
  have left : Sound ⟨removed, .expiry none now, config.buffer⟩ := deleted.sound sound timely
  obtain ⟨rest, reheaped, filled, whole⟩ := timeoutPop_held left.entries pop
  refine ⟨.expired expires ?_ ?_ (reheaped.fresh.trans deleted.fresh) ?_ ?_, ?_⟩
  · change after.memory pointer = none
    rw [reheaped.memory]
    exact deleted.freed
  · intro other differ
    change (after.memory other).map _ = _
    rw [reheaped.memory]
    exact deleted.others other differ
  · change after.kernel.calls = _
    rw [reheaped.kernel, deleted.kernel]
  · rw [held_of_waiting expires.waiting]
    change some pointer ::ₘ config.server.pending = some pointer ::ₘ withWaiting after.pending popped
    rw [reheaped.pending, ← whole, pending, pending, deleted.timeouts]
    rfl
  · have late : now ≤ after.clock := by
      rw [reheaped.clock]
      exact left.timely
    exact @Sound.reheaped removed after _ (.expiry popped now) _ config.buffer after.clock rest left
      reheaped filled late

/-- A step of the loop between two datagrams has one of the effects, and keeps the server sound. -/
theorem LoopStep.effect (step : LoopStep config input next) (sound : Sound config) :
    Effect config input next ∧ Sound next := by
  have unchanged : Reheaped (config.server.enter input) (config.server.enter input)
      config.server.pending := .refl _
  have timely := sound.timely
  have elsewhere := step.elsewhere
  cases step with
  | pops stage pop => exact effect_pops sound stage elsewhere pop
  | idles stage =>
      have waits : config.stage.waiting = none := by rw [stage]; rfl
      rw [stage] at timely
      exact ⟨.kept (unchanged.undisturbed config.server.clock elsewhere
        (not_expires_of_waiting waits)) (held_of_waiting waits).symm, sound.restage timely⟩
  | waits stage live later =>
      rename_i pointer session now
      have waits : config.stage.waiting = some pointer := by rw [stage]; rfl
      rw [stage] at timely
      refine ⟨.kept (unchanged.undisturbed config.server.clock elsewhere ?_)
        (held_of_waiting waits).symm, sound.restage timely⟩
      intro other session' expires
      obtain ⟨live', due⟩ := expires
      rw [stage] at due
      obtain ⟨same, passed⟩ := due
      cases same
      cases live.symm.trans live'
      exact later.not_ge passed
  | expires stage expires deleted pop => exact effect_expires sound stage expires deleted pop
  | fails stage wake =>
      rename_i waiting now errno
      have waits : config.stage.waiting = waiting := by rw [stage]; rfl
      refine ⟨.returned errno rfl (unchanged.undisturbed config.server.clock elsewhere
        (not_expires_of_wake stage ?_)) ?_, sound.restage trivial⟩
      · rw [wake]
        exact Wake.noConfusion
      · rw [held_of_waiting waits]
        exact le_withWaiting config.server.pending waiting
  | timesOut stage expires deleted =>
      rename_i pointer session now after
      refine ⟨.expired expires deleted.freed deleted.others deleted.fresh ?_ ?_,
        deleted.sound sound trivial⟩
      · change after.kernel.calls = _
        rw [deleted.kernel]
      · rw [held_of_waiting expires.waiting]
        change some pointer ::ₘ config.server.pending = some pointer ::ₘ after.pending
        rw [pending, pending, deleted.timeouts]
        rfl
  | drops stage live wake early =>
      rename_i pointer session now
      have waits : config.stage.waiting = some pointer := by rw [stage]; rfl
      have before : Sound ⟨config.server.enter input, .top, config.buffer⟩ := sound.restage trivial
      refine ⟨.dropped stage live wake early (unchanged.undisturbed _ elsewhere ?_)
        (held_of_waiting waits), before.reheaped unchanged sound.entries trivial⟩
      intro other session' expires
      obtain ⟨live', due⟩ := expires
      rw [stage] at due
      obtain ⟨same, _, passed⟩ := due
      cases same
      cases live.symm.trans live'
      exact early.not_ge passed
  | reads stage wake =>
      have waits : config.stage.waiting = none := by rw [stage]; rfl
      exact ⟨.kept (unchanged.undisturbed config.server.clock elsewhere
        (not_expires_of_waiting waits)) (held_of_waiting waits).symm, sound.restage trivial⟩
  | readds stage wake added =>
      rename_i pointer now after
      have waits : config.stage.waiting = some pointer := by rw [stage]; rfl
      have reheaped := timeoutAdd_reheaped added
      have before : Sound ⟨config.server.enter input, .top, config.buffer⟩ := sound.restage trivial
      have filled : none ∉ some pointer ::ₘ (config.server.enter input).pending := by
        rw [Multiset.mem_cons, not_or]
        exact ⟨(Option.some_ne_none _).symm, sound.entries⟩
      refine ⟨.kept (reheaped.undisturbed after.clock elsewhere
        (not_expires_of_wake stage ?_)) ?_,
        @Sound.reheaped _ after _ .recvfrom _ config.buffer after.clock _ before reheaped filled
          trivial⟩
      · rw [wake]
        exact Wake.noConfusion
      · rw [held_of_waiting waits]
        exact reheaped.pending

/-! ## One datagram -/

/-- A session is replaced by one under the same address with the same link. -/
theorem TableInv.replace (inv : TableInv server chains) (live : server.memory pointer = some session)
    {stored : Session} (addr : stored.addr = session.addr) (link : stored.next = session.next)
    (kernel : Kernel) (clock : Int) :
    TableInv { server with
      memory := Function.update server.memory pointer (some stored)
      kernel := kernel
      clock := clock } chains := by
  refine inv.congr rfl rfl fun other => ?_
  by_cases same : other = pointer
  · subst same
    change (Function.update server.memory other (some stored) other).map _ = _
    rw [Function.update_self, live, Option.map_some, Option.map_some, addr, link]
  · change (Function.update server.memory pointer (some stored) other).map _ = _
    rw [Function.update_of_ne same]

/-- Handling a packet leaves the table. -/
theorem TableInv.afterHandling (inv : TableInv server chains)
    (live : server.memory pointer = some session) {outcome : Outcome}
    (place : outcome.session.addr = session.addr ∧ outcome.session.next = session.next)
    (clock : Int) : TableInv (afterHandling server pointer outcome clock) chains := by
  have addr : ({ outcome.session with timeout := clock + sessionTimeout } : Session).addr =
      session.addr := place.1
  have link : ({ outcome.session with timeout := clock + sessionTimeout } : Session).next =
      session.next := place.2
  exact inv.replace live addr link outcome.kernel clock

/-- The exchange of a step is handled as the step handles its packet. -/
theorem handledBy_exchangeAt (kernel : Kernel) (fresh : kernel.calls = []) (buffer : Memory)
    (count : Nat) (session : Session) :
    (exchangeAt kernel buffer count).handledBy session =
      sessionStateMachine (packetHeaderDecode buffer) (buffer.shift packetHeaderSize) count session
        kernel := by
  have same : (exchangeAt kernel buffer count).kernel = kernel := by
    obtain ⟨env, errno, calls⟩ := kernel
    cases fresh
    rfl
  rw [Exchange.handledBy, same]
  rfl

/-- The server once the state machine has written the session behind a pointer back. -/
def afterStateMachine (server : Server) (pointer : SessionPtr) (outcome : Outcome) : Server :=
  { server with
    memory := Function.update server.memory pointer (some outcome.session)
    kernel := outcome.kernel }

/-- The state machine deletes its session or stores it. -/
theorem stateMachine_eq {header : PacketHeader} {payload : Memory} {count : Nat} {outcome : Outcome}
    (live : server.memory pointer = some session)
    (ran : sessionStateMachine header payload count session server.kernel = .ok outcome) :
    stateMachine server pointer header payload count =
      if outcome.deleted then sessionDelete (afterStateMachine server pointer outcome) pointer
      else .ok (afterStateMachine server pointer outcome) := by
  unfold stateMachine
  rw [load_of_some live]
  change (sessionStateMachine header payload count session server.kernel).bind _ = _
  rw [ran]
  have live' : ({ server with kernel := outcome.kernel } : Server).memory pointer = some session :=
    live
  change (({ server with kernel := outcome.kernel } : Server).store pointer outcome.session).bind _ = _
  rw [store_of_some live']
  rfl

/-- A datagram that makes the state machine delete its session makes the server use the session after
it has been freed. -/
theorem serverReceive_deleted {buffer : Memory} {count : Nat} {addr : SockaddrIn6} {entered : Server}
    {outcome : Outcome} (inv : TableInv entered chains)
    (got : sessionGet server addr input.allocation = .ok (some pointer, entered))
    (live : entered.memory pointer = some session) (formed : WellFormed session)
    (fresh : entered.kernel.calls = [])
    (handled : (exchangeAt entered.kernel buffer count).handledBy session = .ok outcome)
    (deleted : outcome.deleted = true) :
    serverReceive server buffer count addr input = .error (.useAfterFree pointer) := by
  obtain ⟨place, link⟩ := handledBy_place formed handled
  rw [handledBy_exchangeAt entered.kernel fresh] at handled
  have replaced : TableInv (afterStateMachine entered pointer outcome) chains :=
    inv.replace live place link outcome.kernel entered.clock
  have live' : (afterStateMachine entered pointer outcome).memory pointer = some outcome.session :=
    Function.update_self _ _ _
  obtain ⟨after, removes, gone⟩ := sessionDelete_spec replaced live'
  have ran := stateMachine_eq live handled
  rw [deleted, if_pos rfl, removes] at ran
  have freed : ({ after with clock := after.clock + input.elapsed } : Server).load pointer =
      .error (.useAfterFree pointer) := by
    rw [load, gone.freed]
  unfold serverReceive
  rw [got]
  change (stateMachine entered pointer (packetHeaderDecode buffer) (buffer.shift packetHeaderSize)
    count).bind _ = _
  rw [ran]
  change (({ after with clock := after.clock + input.elapsed } : Server).load pointer).bind _ = _
  rw [freed]
  rfl

/-- A datagram that leaves its session alive makes it wait again. -/
theorem serverReceive_kept {buffer : Memory} {count : Nat} {addr : SockaddrIn6} {entered : Server}
    {outcome : Outcome}
    (got : sessionGet server addr input.allocation = .ok (some pointer, entered))
    (live : entered.memory pointer = some session) (fresh : entered.kernel.calls = [])
    (handled : (exchangeAt entered.kernel buffer count).handledBy session = .ok outcome)
    (kept : outcome.deleted = false) :
    serverReceive server buffer count addr input =
      timeoutAdd (afterHandling entered pointer outcome (entered.clock + input.elapsed)) pointer := by
  rw [handledBy_exchangeAt entered.kernel fresh] at handled
  have ran := stateMachine_eq live handled
  rw [kept, if_neg Bool.false_ne_true] at ran
  have live' : ({ afterStateMachine entered pointer outcome with
      clock := entered.clock + input.elapsed } : Server).memory pointer = some outcome.session :=
    Function.update_self _ _ _
  unfold serverReceive
  rw [got]
  change (stateMachine entered pointer (packetHeaderDecode buffer) (buffer.shift packetHeaderSize)
    count).bind _ = _
  rw [ran]
  change (({ afterStateMachine entered pointer outcome with
    clock := entered.clock + input.elapsed } : Server).load pointer).bind _ = _
  rw [load_of_some live']
  change (({ afterStateMachine entered pointer outcome with
    clock := entered.clock + input.elapsed } : Server).store pointer _).bind _ = _
  rw [store_of_some live']
  change timeoutAdd _ pointer = _
  congr 1
  unfold afterStateMachine afterHandling
  simp only [Function.update_idem]

/-- The session that is got is well formed. -/
theorem Got.formed {addr : SockaddrIn6} {entered : Server}
    (got : Got server addr pointer entered session)
    (formed : ∀ pointer session, server.memory pointer = some session → WellFormed session) :
    WellFormed session := by
  cases known : server.memory pointer with
  | some before =>
      have live := got.live
      rw [got.old before known] at live
      exact formed pointer session live
  | none =>
      obtain ⟨_, memory, rfl⟩ := got.new known
      exact wellFormed_create addr memory

/-- The state machine may assume the session it is called for is well-formed, and leaves one. -/
theorem wellFormed_handled {exchange : Exchange} {outcome : Outcome} (formed : WellFormed session)
    (done : exchange.handledBy session = .ok outcome) (kept : outcome.deleted = false) :
    WellFormed outcome.session := by
  have reaction := reaction_of_handledBy formed done
  rw [kept] at reaction
  exact reaction.wellFormed formed

/-- A step that receives a datagram has handled it in a session it leaves alive, and has added that
session to the heap. -/
theorem Steps.received {addr : SockaddrIn6} {datagram : List UInt8} (sound : Sound config)
    (step : Steps config input next) (stage : config.stage = .recvfrom)
    (received : input.received = some (addr, datagram)) :
    ∃ pointer entered session outcome,
      sessionGet (config.server.enter input) addr input.allocation = .ok (some pointer, entered) ∧
      Got (config.server.enter input) addr pointer entered session ∧ WellFormed session ∧
      (exchangeAt entered.kernel (receiveInto config.buffer datagram)
        (receivedCount datagram)).handledBy session = .ok outcome ∧ outcome.deleted = false ∧
      timeoutAdd (afterHandling entered pointer outcome (config.server.clock + input.elapsed))
        pointer = .ok next.server ∧ next.stage = .top := by
  obtain ⟨chains, inv⟩ := sound.table
  have inside : TableInv (config.server.enter input) chains := inv.congr rfl rfl fun _ => rfl
  unfold Steps serverStep at step
  rw [stage] at step
  simp only [received] at step
  obtain ⟨after, receives, done⟩ := bind_eq_ok step
  clear step
  cases done
  rcases sessionGet_got inside addr input.allocation with missing |
    ⟨pointer, entered, session, found, got⟩
  · rw [serverReceive, missing] at receives
    cases receives
  obtain ⟨chains', inv'⟩ := got.table
  have formed := got.formed sound.formed
  have fresh : entered.kernel.calls = [] := by
    rw [got.kernel]
    rfl
  obtain ⟨outcome, handled, _⟩ := handledBy_reacts formed (exchangeAt entered.kernel
    (receiveInto config.buffer datagram) (receivedCount datagram))
  cases deleted : outcome.deleted with
  | true =>
      rw [serverReceive_deleted inv' found got.live formed fresh handled deleted] at receives
      cases receives
  | false =>
      have clock : entered.clock = config.server.clock := got.clock
      rw [serverReceive_kept found got.live fresh handled deleted, clock] at receives
      exact ⟨pointer, entered, session, outcome, found, got, formed, handled, deleted, receives, rfl⟩

/-- A step at `recvfrom` has one of the effects, and keeps the server sound. -/
theorem step_recvfrom (sound : Sound config) (stage : config.stage = .recvfrom)
    (step : Steps config input next) : Effect config input next ∧ Sound next := by
  have before : held config = config.server.pending := by
    rw [held, stage]
    rfl
  cases received : input.received with
  | none =>
      unfold Steps serverStep at step
      rw [stage] at step
      simp only [received] at step
      cases step
      exact ⟨.kept ⟨fun _ => received, not_expires_of_waiting (by rw [stage]; rfl), rfl, rfl, rfl,
        rfl⟩ before.symm, sound.restage trivial⟩
  | some datagram =>
      obtain ⟨addr, datagram⟩ := datagram
      obtain ⟨pointer, server, session, outcome, found, got, formed, handled, deleted, receives, top⟩ :=
        step.received sound stage received
      obtain ⟨chains, inv⟩ := got.table
      have reheaped := timeoutAdd_reheaped receives
      have whole : (afterHandling server pointer outcome
          (config.server.clock + input.elapsed)).pending = held config := by
        rw [before]
        change entriesOf server.timeouts.heap server.timeouts.count = _
        rw [got.timeouts]
        rfl
      have reheaped' := reheaped
      rw [whole] at reheaped'
      have inv' := inv.afterHandling got.live (handledBy_place formed handled)
        (config.server.clock + input.elapsed)
      refine ⟨.handled stage received found got handled deleted top reheaped', ?_⟩
      refine ⟨⟨chains, inv'.reheaped reheaped⟩, ?_, ?_, by rw [top]; trivial⟩
      · intro other session' live
        have live' : (afterHandling server pointer outcome
            (config.server.clock + input.elapsed)).memory other = some session' := by
          rw [← live]
          exact (congrFun reheaped.memory other).symm
        by_cases same : other = pointer
        · subst same
          cases (Function.update_self _ _ _).symm.trans live'
          exact wellFormed_handled formed handled deleted
        · exact formed_of_detached sound.formed (got.others other same)
            ((Function.update_of_ne same _ _).symm.trans live')
      · rw [reheaped'.pending, Multiset.mem_cons, not_or, before]
        exact ⟨(Option.some_ne_none _).symm, sound.entries⟩

/-! ## Runs -/

/-- What one step of the loop does to the sessions, as long as the loop has not returned. -/
theorem Steps.effect (sound : Sound config) (step : Steps config input next)
    (running : ∀ err, config.stage ≠ .returned err) : Effect config input next ∧ Sound next := by
  cases stage : config.stage with
  | top => exact (step.of_top stage).effect sound
  | expiry waiting now => exact (step.of_expiry sound stage).effect sound
  | select waiting now => exact (step.of_select sound stage).effect sound
  | recvfrom => exact step_recvfrom sound stage step
  | returned err => exact (running err stage).elim

/-- The loop that has returned does nothing more. -/
theorem Steps.returned {err : Int32} (step : Steps config input next)
    (stage : config.stage = .returned err) : next = config := by
  unfold Steps serverStep at step
  rw [stage] at step
  cases step
  rfl

/-- A step keeps the server sound. -/
theorem Steps.sound (sound : Sound config) (step : Steps config input next) : Sound next := by
  cases stage : config.stage with
  | returned err =>
      rw [step.returned stage]
      exact sound
  | _ => exact (step.effect sound (fun err same => nomatch stage.symm.trans same)).2

/-- The server is sound after every run. -/
theorem sound_run {source target : Config} {inputs : List Input} (initial : Initial source)
    (run : Run Steps source inputs target) : Sound target :=
  run.invariant Sound (sound_initial initial) fun _ _ _ sound step => step.sound sound

end

end Sas.Server
