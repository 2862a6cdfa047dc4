import Sas.Server.DescriptorRun
import Sas.Server.Answer

/-! # What the loop does for each session

The loop serves all its clients in turn. Read off its steps, what it does for one of them is a run of
a session of its own: the packets it hands to that session, in order and with the calls that answer
them, and at most one deletion behind them.
-/

namespace Sas.Server

open Foundation Transport Rxc Formats

/-- What a step of the loop does for a session. -/
inductive Deed where
  /-- It hands it a packet of this sender, which the session answers with these calls. -/
  | packet (sender : SockaddrIn6) (exchange : Exchange) (calls : List Syscall)
  /-- It deletes it, with these calls. -/
  | expiry (calls : List Syscall)

/-- The calls made for a session. -/
def Deed.calls : Deed → List Syscall
  | .packet _ _ calls => calls
  | .expiry calls => calls

/-- The packet a session is handed, with the calls that answer it. -/
def Deed.packet? : Deed → Option (Exchange × List Syscall)
  | .packet _ exchange calls => some (exchange, calls)
  | .expiry _ => none

/-- The sender of a packet. -/
def Deed.sender? : Deed → Option SockaddrIn6
  | .packet sender _ _ => some sender
  | .expiry _ => none

/-- The packet of an event, with the calls that answer it. -/
def SessionEvent.packet? : SessionEvent → Option (Exchange × List Syscall)
  | .packet exchange calls => some (exchange, calls)
  | .marked _ _ => none

/-- The session a step deletes because its time has passed. -/
def expiring (config : Config) (input : Input) : Option SessionPtr :=
  match config.stage with
  | .expiry (some pointer) now =>
      if ∃ session ∈ config.server.memory pointer, session.timeout ≤ now then some pointer else none
  | .select (some pointer) _ =>
      if input.wake = .timedOut ∧ ∃ session ∈ config.server.memory pointer,
        session.timeout ≤ config.server.clock + input.elapsed then some pointer else none
  | _ => none

/-- What a step that makes these calls does, and for which session. -/
def deed (config : Config) (input : Input) (calls : List Syscall) : Option (SessionPtr × Deed) :=
  match config.stage with
  | .recvfrom =>
      match input.received with
      | some (sender, datagram) => (actor config input).map fun session =>
          (session, .packet sender (exchangeAt (config.server.enter input).kernel
            (receiveInto config.buffer datagram) (receivedCount datagram)) calls)
      | none => none
  | _ => (expiring config input).map fun session => (session, .expiry calls)

/-- The calls of a step; a loop that has returned makes none. -/
def madeIn (config next : Config) : List Syscall :=
  match config.stage with
  | .returned _ => []
  | _ => next.server.kernel.calls

/-- The server at one point of its loop, with all it has done and all the calls it has made. -/
structure Chronicle where
  config : Config
  deeds : List (SessionPtr × Deed)
  calls : List Syscall

/-- The chronicle before the first iteration. -/
def Chronicle.begin (config : Config) : Chronicle := ⟨config, [], []⟩

/-- A step of the loop, entered in the chronicle. -/
def chronicleStep (input : Input) (before : Chronicle) : Except Fault Chronicle :=
  (serverStep input before.config).map fun next =>
    ⟨next, before.deeds ++ (deed before.config input (madeIn before.config next)).toList,
      before.calls ++ madeIn before.config next⟩

/-- The loop takes a defined step, which is entered in the chronicle. -/
def ChronicleStep (before : Chronicle) (input : Input) (after : Chronicle) : Prop :=
  chronicleStep input before = .ok after

/-- The session is what is left of one that was created for the sender of the first of these packets
and has been handed the packets in their order, with these answers. -/
structure Served (deeds : List Deed) (session : Session) : Prop where
  opened : deeds.head?.bind Deed.sender? = some session.addr
  run : ∃ memory events, SessionRun session.addr memory events (some session) ∧
    deeds.map Deed.packet? = (events.filterMap SessionEvent.packet?).map some

/-- The session has been served in this way and deleted then. -/
def Buried (deeds : List Deed) : Prop :=
  ∃ earlier session kernel, Served earlier session ∧ kernel.calls = [] ∧
    deeds = earlier ++ [.expiry (release session kernel).calls]

/-- What the chronicle says of every session there has been. -/
structure Chronicled (chronicle : Chronicle) : Prop where
  sound : Sound chronicle.config
  used : ∀ entry ∈ chronicle.deeds, entry.1 < chronicle.config.server.fresh
  served : ∀ pointer session, chronicle.config.server.memory pointer = some session →
    Served (shareOf pointer chronicle.deeds) session
  buried : ∀ pointer, pointer < chronicle.config.server.fresh →
    chronicle.config.server.memory pointer = none → Buried (shareOf pointer chronicle.deeds)
  whole : chronicle.calls = chronicle.deeds.flatMap fun entry => entry.2.calls

section

variable {config next : Config} {input : Input} {pointer other : SessionPtr} {session : Session}
  {calls : List Syscall} {before after : Chronicle} {deeds : List Deed}

/-! ## The deed of a step -/

/-- The chronicle finds the session that expires. -/
theorem expiring_of_expires (expires : Expires config input pointer session) :
    expiring config input = some pointer := by
  obtain ⟨live, due⟩ := expires
  unfold expiring
  cases stage : config.stage with
  | expiry waiting now =>
      rw [stage] at due
      obtain ⟨rfl, passed⟩ := due
      exact if_pos ⟨session, live, passed⟩
  | select waiting now =>
      rw [stage] at due
      obtain ⟨rfl, wake, passed⟩ := due
      exact if_pos ⟨wake, session, live, passed⟩
  | _ =>
      rw [stage] at due
      exact due.elim

/-- The session the chronicle finds expires. -/
theorem expires_of_expiring (expiring : expiring config input = some pointer) :
    ∃ session, Expires config input pointer session := by
  unfold Server.expiring at expiring
  split at expiring
  case h_1 waiting now stage =>
    split at expiring
    case isFalse => cases expiring
    case isTrue due =>
      cases expiring
      obtain ⟨session, live, passed⟩ := due
      refine ⟨session, live, ?_⟩
      rw [stage]
      exact ⟨rfl, passed⟩
  case h_2 waiting now stage =>
    split at expiring
    case isFalse => cases expiring
    case isTrue due =>
      cases expiring
      obtain ⟨wake, session, live, passed⟩ := due
      refine ⟨session, live, ?_⟩
      rw [stage]
      exact ⟨rfl, wake, passed⟩
  case h_3 => cases expiring

/-- A step that disturbs no session is nobody's deed. -/
theorem Undisturbed.deed (quiet : Undisturbed config input next) (calls : List Syscall) :
    deed config input calls = none := by
  have none : expiring config input = none := by
    cases expiring : expiring config input with
    | none => rfl
    | some pointer =>
        obtain ⟨session, expires⟩ := expires_of_expiring expiring
        exact (quiet.expires pointer session expires).elim
  unfold Server.deed
  cases stage : config.stage with
  | recvfrom => simp only [quiet.received stage]
  | _ => simp only [none, Option.map_none]

/-- An expiry is a deed of the session that expires. -/
theorem deed_expires (expires : Expires config input pointer session) (calls : List Syscall) :
    deed config input calls = some (pointer, .expiry calls) := by
  unfold deed
  rw [expiring_of_expires expires]
  cases stage : config.stage with
  | recvfrom =>
      have waiting := expires.waiting
      rw [stage] at waiting
      cases waiting
  | _ => rfl

/-- A datagram is a deed of the session it is handed to. -/
theorem deed_got {addr : SockaddrIn6} {datagram : List UInt8} {entered : Server}
    (stage : config.stage = .recvfrom) (received : input.received = some (addr, datagram))
    (found : sessionGet (config.server.enter input) addr input.allocation =
      .ok (some pointer, entered)) (calls : List Syscall) :
    deed config input calls = some (pointer, .packet addr
      (exchangeAt (config.server.enter input).kernel (receiveInto config.buffer datagram)
        (receivedCount datagram)) calls) := by
  unfold deed
  rw [actor_of_got stage received found]
  simp only [stage, received, Option.map_some]

/-! ## One session -/

/-- The loop and the table may write their fields. -/
theorem Served.marked (served : Served deeds session) (timeout : Int) (link : Option SessionPtr) :
    Served deeds { session with timeout := timeout, next := link } := by
  obtain ⟨opened, memory, events, run, packets⟩ := served
  have step : SessionStep (some session) (.marked timeout link)
      (some { session with timeout := timeout, next := link }) := rfl
  refine ⟨opened, memory, events ++ [.marked timeout link], run.snoc step, ?_⟩
  rw [List.filterMap_append, packets]
  simp only [List.filterMap_cons, SessionEvent.packet?, List.filterMap_nil, List.append_nil]

/-- What has been done for a session does not depend on its link. -/
theorem Served.detached (served : Served deeds session) {other : Session}
    (same : other.detached = session.detached) : Served deeds other := by
  have equal : other = { session with timeout := session.timeout, next := other.next } := by
    cases other
    cases session
    cases same
    rfl
  rw [equal]
  exact served.marked session.timeout other.next

/-- A session that is handed a packet has been served that packet too. -/
theorem Served.packet {exchange : Exchange} {outcome : Outcome} (served : Served deeds session)
    (handled : exchange.handledBy session = .ok outcome) (kept : outcome.deleted = false)
    (place : outcome.session.addr = session.addr) (sender : SockaddrIn6) :
    Served (deeds ++ [.packet sender exchange outcome.kernel.calls]) outcome.session := by
  obtain ⟨opened, memory, events, run, packets⟩ := served
  refine ⟨?_, memory, events ++ [.packet exchange outcome.kernel.calls], ?_, ?_⟩
  · rw [place, ← opened]
    cases deeds with
    | nil => cases opened
    | cons first later => rfl
  · rw [place]
    refine run.snoc ⟨outcome, handled, rfl, ?_⟩
    rw [kept, if_neg Bool.false_ne_true]
  · rw [List.map_append, packets, List.filterMap_append, List.map_append]
    rfl

/-- A new session has been served its first packet. -/
theorem Served.first {exchange : Exchange} {outcome : Outcome} {addr : SockaddrIn6}
    {memory : Uninitialized} (handled : exchange.handledBy (sessionCreate addr memory) = .ok outcome)
    (kept : outcome.deleted = false) (place : outcome.session.addr = addr) :
    Served [.packet addr exchange outcome.kernel.calls] outcome.session := by
  refine ⟨congrArg some place.symm, memory, [.packet exchange outcome.kernel.calls], ?_, rfl⟩
  rw [place]
  refine Run.singleton ⟨outcome, handled, rfl, ?_⟩
  rw [kept, if_neg Bool.false_ne_true]

/-! ## One step -/

/-- The only session that may be new is the one that has been got. -/
theorem older_of_sessionGet {server entered : Server} {chains : Nat → List SessionPtr}
    (inv : TableInv server chains) {addr : SockaddrIn6} {memory : Option Uninitialized}
    (found : sessionGet server addr memory = .ok (some pointer, entered)) (differ : other ≠ pointer)
    (below : other < entered.fresh) : other < server.fresh := by
  rcases sessionGet_spec inv addr memory with ⟨known, session, _, _, same⟩ | ⟨_, missing⟩ |
    ⟨contents, after, _, made, created⟩
  · cases same.symm.trans found
    exact below
  · cases missing.symm.trans found
  · cases made.symm.trans found
    rw [created.fresh] at below
    exact Nat.lt_of_le_of_ne (Nat.lt_succ_iff.mp below) differ

/-- The calls of a step are those in the kernel after it, as long as the loop is running. -/
theorem madeIn_eq (running : ∀ err, config.stage ≠ .returned err) :
    madeIn config next = next.server.kernel.calls := by
  unfold madeIn
  cases stage : config.stage with
  | returned err => exact (running err stage).elim
  | _ => rfl

/-- A step of the chronicle is one of the loop, and notes its deed and its calls. -/
theorem chronicleStep_eq (step : ChronicleStep before input after) :
    Steps before.config input after.config ∧
      after.deeds = before.deeds ++
        (deed before.config input (madeIn before.config after.config)).toList ∧
      after.calls = before.calls ++ madeIn before.config after.config := by
  obtain ⟨next, steps, rfl⟩ := map_eq_ok step
  exact ⟨steps, rfl, rfl⟩

/-- A step for no session changes nothing of what the chronicle says. -/
theorem Chronicled.undisturbed (chronicled : Chronicled before) (sound : Sound after.config)
    (memory : after.config.server.memory = before.config.server.memory)
    (fresh : after.config.server.fresh = before.config.server.fresh)
    (deeds : after.deeds = before.deeds) (calls : after.calls = before.calls) :
    Chronicled after := by
  refine ⟨sound, ?_, ?_, ?_, ?_⟩
  · rw [deeds, fresh]
    exact chronicled.used
  · rw [deeds, memory]
    exact chronicled.served
  · rw [deeds, memory, fresh]
    exact chronicled.buried
  · rw [deeds, calls]
    exact chronicled.whole

/-- A step for one session, as the chronicle sees it. -/
structure Entered (before : Chronicle) (pointer : SessionPtr) (made : Deed) (after : Chronicle) :
    Prop where
  sound : Sound after.config
  below : pointer < after.config.server.fresh
  older : ∀ other, other ≠ pointer → other < after.config.server.fresh →
    other < before.config.server.fresh
  fresh : before.config.server.fresh ≤ after.config.server.fresh
  others : ∀ other, other ≠ pointer → (after.config.server.memory other).map Session.detached =
    (before.config.server.memory other).map Session.detached
  deeds : after.deeds = before.deeds ++ [(pointer, made)]
  calls : after.calls = before.calls ++ made.calls

section

variable {made : Deed}

theorem shareOf_singleton (pointer : SessionPtr) (made : Deed) :
    shareOf pointer [(pointer, made)] = [made] := shareOf_self [made]

theorem shareOf_singleton_other (differ : other ≠ pointer) (made : Deed) :
    shareOf other [(pointer, made)] = [] := shareOf_other differ [made]

theorem Entered.own (entered : Entered before pointer made after) :
    shareOf pointer after.deeds = shareOf pointer before.deeds ++ [made] := by
  rw [entered.deeds, shareOf_append, shareOf_singleton]

theorem Entered.elsewhere (entered : Entered before pointer made after)
    (differ : other ≠ pointer) : shareOf other after.deeds = shareOf other before.deeds := by
  rw [entered.deeds, shareOf_append, shareOf_singleton_other differ, List.append_nil]

/-- The chronicle goes on if it is right about the session of the step. -/
theorem Entered.chronicled (entered : Entered before pointer made after)
    (chronicled : Chronicled before)
    (served : ∀ session, after.config.server.memory pointer = some session →
      Served (shareOf pointer before.deeds ++ [made]) session)
    (buried : after.config.server.memory pointer = none →
      Buried (shareOf pointer before.deeds ++ [made])) : Chronicled after := by
  refine ⟨entered.sound, ?_, ?_, ?_, ?_⟩
  · intro entry member
    rw [entered.deeds] at member
    rcases List.mem_append.mp member with older | newer
    · exact Nat.lt_of_lt_of_le (chronicled.used entry older) entered.fresh
    · rw [List.mem_singleton.mp newer]
      exact entered.below
  · intro other session live
    by_cases same : other = pointer
    · subst same
      rw [entered.own]
      exact served session live
    · rw [entered.elsewhere same]
      obtain ⟨old, found, detached⟩ := detached_of_live (entered.others other same) live
      exact (chronicled.served other old found).detached detached
  · intro other below dead
    by_cases same : other = pointer
    · subst same
      rw [entered.own]
      exact buried dead
    · rw [entered.elsewhere same]
      refine chronicled.buried other (entered.older other same below) ?_
      have gone := entered.others other same
      rw [dead, Option.map_none] at gone
      exact Option.map_eq_none_iff.mp gone.symm
  · rw [entered.calls, entered.deeds, List.flatMap_append, chronicled.whole]
    simp only [List.flatMap_cons, List.flatMap_nil, List.append_nil]

end

/-- The session that has expired has been served by then. -/
theorem Chronicled.expired (chronicled : Chronicled before) (entered : Entered before pointer
      (.expiry calls) after) (live : before.config.server.memory pointer = some session)
    (freed : after.config.server.memory pointer = none) {kernel : Kernel} (fresh : kernel.calls = [])
    (released : calls = (release session kernel).calls) : Chronicled after := by
  refine entered.chronicled chronicled ?_ ?_
  · intro session' live'
    rw [freed] at live'
    cases live'
  · intro _
    exact ⟨_, session, kernel, chronicled.served pointer session live, fresh, by rw [released]⟩

/-- The session that has been handed a packet has been served it. -/
theorem Chronicled.handled {addr : SockaddrIn6} {entered : Server} {exchange : Exchange}
    {outcome : Outcome} {clock : Int} (chronicled : Chronicled before)
    (got : Got (before.config.server.enter input) addr pointer entered session)
    (handled : exchange.handledBy session = .ok outcome) (kept : outcome.deleted = false)
    (enters : Entered before pointer (.packet addr exchange outcome.kernel.calls) after)
    (now : after.config.server.memory pointer =
      some { outcome.session with timeout := clock + sessionTimeout }) : Chronicled after := by
  have formed := got.formed chronicled.sound.formed
  obtain ⟨place, _⟩ := handledBy_place formed handled
  have packet : Served (shareOf pointer before.deeds ++
      [.packet addr exchange outcome.kernel.calls]) outcome.session := by
    cases known : (before.config.server.enter input).memory pointer with
    | some old =>
        have live := got.live
        rw [got.old old known] at live
        exact (chronicled.served pointer session live).packet handled kept place addr
    | none =>
        obtain ⟨new, memory, rfl⟩ := got.new known
        have absent : shareOf pointer before.deeds = [] := by
          apply shareOf_eq_nil
          intro entry member
          rw [new]
          exact Nat.ne_of_lt (chronicled.used entry member)
        rw [absent]
        exact Served.first handled kept place
  refine enters.chronicled chronicled ?_ ?_
  · intro session' live
    cases now.symm.trans live
    exact packet.marked _ _
  · intro dead
    rw [now] at dead
    cases dead

/-- Every step of the loop keeps the chronicle right. -/
theorem Chronicled.step (chronicled : Chronicled before) (step : ChronicleStep before input after) :
    Chronicled after := by
  obtain ⟨steps, deeds, calls⟩ := chronicleStep_eq step
  by_cases running : ∀ err, before.config.stage ≠ .returned err
  case neg =>
    obtain ⟨err, stage⟩ := not_forall_not.mp running
    have same := steps.returned stage
    have idle : deed before.config input (madeIn before.config after.config) = none := by
      unfold deed expiring
      simp only [stage, Option.map_none]
    have silent : madeIn before.config after.config = [] := by
      unfold madeIn
      rw [stage]
    rw [idle] at deeds
    rw [silent] at calls
    refine chronicled.undisturbed (steps.sound chronicled.sound) (by rw [same]) (by rw [same]) ?_ ?_
    · rw [deeds, Option.toList_none, List.append_nil]
    · rw [calls, List.append_nil]
  case pos =>
    obtain ⟨effect, sound⟩ := steps.effect chronicled.sound running
    rw [madeIn_eq running] at deeds calls
    have undisturbed (quiet : Undisturbed before.config input after.config) : Chronicled after := by
      rw [quiet.deed] at deeds
      rw [quiet.calls] at calls
      refine chronicled.undisturbed sound quiet.memory quiet.fresh ?_ ?_
      · rw [deeds, Option.toList_none, List.append_nil]
      · rw [calls, List.append_nil]
    obtain ⟨chains, inv⟩ := chronicled.sound.table
    cases effect with
    | kept quiet => exact undisturbed quiet
    | dropped _ _ _ _ quiet => exact undisturbed quiet
    | returned err returns quiet => exact undisturbed quiet
    | expired expires freed others fresh released whole =>
        rename_i pointer session
        rw [deed_expires expires] at deeds
        have idle : (before.config.server.enter input).kernel.calls = [] := rfl
        refine Chronicled.expired chronicled ⟨sound, ?_, ?_, fresh.ge, others, deeds, calls⟩
          expires.1 freed idle released
        · rw [fresh]
          exact inv.below pointer session expires.1
        · intro other _ below
          rwa [fresh] at below
    | handled stage received found got ran kept top reheaped =>
        rename_i addr datagram pointer entered session outcome
        obtain ⟨chains', inv'⟩ := got.table
        rw [deed_got stage received found, ← got.kernel] at deeds
        have made : after.config.server.kernel.calls = outcome.kernel.calls := by
          rw [reheaped.kernel]
          rfl
        have fresh : after.config.server.fresh = entered.fresh := reheaped.fresh
        rw [made] at deeds calls
        have memory : ∀ other, after.config.server.memory other = (afterHandling entered pointer outcome
            (before.config.server.clock + input.elapsed)).memory other := congrFun reheaped.memory
        have now := (memory pointer).trans (Function.update_self _ _ _)
        refine chronicled.handled got ran kept ⟨sound, ?_, ?_, ?_, ?_, deeds, calls⟩ now
        · rw [fresh]
          exact inv'.below pointer session got.live
        · intro other differ below
          rw [fresh] at below
          have inside : TableInv (before.config.server.enter input) chains :=
            inv.congr rfl rfl fun _ => rfl
          have older : other < (before.config.server.enter input).fresh :=
            older_of_sessionGet inside found differ below
          exact older
        · rw [fresh]
          exact got.fresh
        · intro other differ
          rw [memory]
          change (Function.update entered.memory pointer _ other).map _ = _
          rw [Function.update_of_ne differ]
          exact got.others other differ

/-- At the beginning nothing has been done. -/
theorem chronicled_begin (initial : Initial config) : Chronicled (.begin config) := by
  have sound := sound_initial initial
  obtain ⟨kernel, clock, buffer, rfl⟩ := initial
  refine ⟨sound, fun _ member => (List.not_mem_nil member).elim, ?_, ?_, rfl⟩
  · intro pointer session live
    cases live
  · intro pointer below
    exact (Nat.not_lt_zero pointer below).elim

/-- What has been done in a run is chronicled. -/
theorem chronicled_run {source : Config} {inputs : List Input} (initial : Initial source)
    (run : Run ChronicleStep (.begin source) inputs after) : Chronicled after :=
  run.invariant Chronicled (chronicled_begin initial) fun _ _ _ chronicled step =>
    chronicled.step step

end

/-- **The loop is many sessions.** In every run of the server loop, with any clients in any order,
the calls it has made are those it has made for its sessions; every session it has is what a run of a
single session leaves that is handed the same packets and gives the same answers; and what it has done
for every session it has had and has no more is such a run, followed by one deletion. -/
theorem loop_serves_sessions {source : Config} {inputs : List Input} {chronicle : Chronicle}
    (initial : Initial source) (run : Run ChronicleStep (.begin source) inputs chronicle) :
    (chronicle.calls = chronicle.deeds.flatMap fun entry => entry.2.calls) ∧
      (∀ pointer session, chronicle.config.server.memory pointer = some session →
        Served (shareOf pointer chronicle.deeds) session) ∧
      ∀ pointer, chronicle.config.server.memory pointer = none →
        shareOf pointer chronicle.deeds = [] ∨ Buried (shareOf pointer chronicle.deeds) := by
  have chronicled := chronicled_run initial run
  refine ⟨chronicled.whole, chronicled.served, fun pointer dead => ?_⟩
  by_cases below : pointer < chronicle.config.server.fresh
  · exact .inr (chronicled.buried pointer below dead)
  · refine .inl (shareOf_eq_nil fun entry member same => below ?_)
    rw [← same]
    exact chronicled.used entry member

end Sas.Server
