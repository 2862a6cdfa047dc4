import Sas.Server.Expiry

/-! # How long a session lasts

A packet moves the timeout of its session half a minute ahead. Until then the session stays where it
is, under its address, whatever the other clients do and whatever the clock reads in between.
-/

namespace Sas.Server

open Foundation Transport

/-- A session of this address that is not due before the limit is behind the pointer, as long as the
clock has not reached the limit. -/
def Tenured (pointer : SessionPtr) (addr : SockaddrIn6) (limit : Int) (config : Config) : Prop :=
  limit ≤ config.server.clock + sessionTimeout ∧ (config.server.clock < limit → ∃ session,
    config.server.memory pointer = some session ∧ session.addr = addr ∧ limit ≤ session.timeout)

section

variable {config next : Config} {input : Input} {pointer : SessionPtr} {session : Session}
  {addr : SockaddrIn6} {limit : Int}

/-! ## The clock -/

/-- Away from `recvfrom` the clock stands still or reads later, and it has reached the timeout of a
session that the step deletes. -/
theorem LoopStep.clock (step : LoopStep config input next) (sound : Sound config) :
    config.server.clock ≤ next.server.clock ∧ ∀ pointer session,
      Expires config input pointer session → session.timeout ≤ next.server.clock := by
  have timely := sound.timely
  have unexpected (waits : config.stage.waiting = none) (late : Int) : ∀ pointer session,
      Expires config input pointer session → session.timeout ≤ late :=
    fun pointer session expires => (not_expires_of_waiting waits pointer session expires).elim
  cases step with
  | @pops popped after stage pop =>
      have entries : none ∉ (config.server.enter input).pending := sound.entries
      obtain ⟨_, reheaped, _⟩ := timeoutPop_held entries pop
      have same : after.clock = config.server.clock := reheaped.clock
      refine ⟨?_, unexpected (by rw [stage]; rfl) _⟩
      change config.server.clock ≤ after.clock + input.elapsed
      omega
  | idles stage => exact ⟨le_refl _, unexpected (by rw [stage]; rfl) _⟩
  | waits stage live later =>
      refine ⟨le_refl _, fun pointer session expires => ?_⟩
      obtain ⟨live', due⟩ := expires
      rw [stage] at due
      obtain ⟨same, passed⟩ := due
      cases same
      cases live.symm.trans live'
      exact (later.not_ge passed).elim
  | @expires expiring gone now removed after popped stage expires deleted pop =>
      have left : Sound ⟨removed, .expiry none config.server.clock, config.buffer⟩ :=
        deleted.sound sound (by change config.server.clock ≤ _; omega)
      obtain ⟨_, reheaped, _⟩ := timeoutPop_held left.entries pop
      have reads : after.clock = config.server.clock + input.elapsed :=
        reheaped.clock.trans deleted.clock
      rw [stage] at timely
      refine ⟨?_, fun pointer session expires' => ?_⟩
      · change config.server.clock ≤ after.clock
        omega
      · obtain ⟨_, due⟩ := expires'
        rw [stage] at due
        have passed : session.timeout ≤ now := due.2
        have early : now ≤ config.server.clock := timely
        change session.timeout ≤ after.clock
        omega
  | fails stage wake =>
      refine ⟨le_refl _, fun pointer session expires => ?_⟩
      refine (not_expires_of_wake stage ?_ pointer session expires).elim
      rw [wake]
      exact Wake.noConfusion
  | @timesOut expiring gone now after stage expires deleted =>
      have reads : after.clock = config.server.clock + input.elapsed := deleted.clock
      refine ⟨?_, fun pointer session expires' => ?_⟩
      · change config.server.clock ≤ after.clock
        omega
      · obtain ⟨_, due⟩ := expires'
        rw [stage] at due
        have passed : session.timeout ≤ config.server.clock + input.elapsed := due.2.2
        change session.timeout ≤ after.clock
        omega
  | drops stage live wake early =>
      refine ⟨?_, fun pointer session expires => ?_⟩
      · change config.server.clock ≤ config.server.clock + input.elapsed
        omega
      · obtain ⟨live', due⟩ := expires
        rw [stage] at due
        obtain ⟨same, _, passed⟩ := due
        cases same
        cases live.symm.trans live'
        exact (early.not_ge passed).elim
  | reads stage wake => exact ⟨le_refl _, unexpected (by rw [stage]; rfl) _⟩
  | @readds waiting now after stage wake added =>
      have same : after.clock = config.server.clock := (timeoutAdd_reheaped added).clock
      refine ⟨same.ge, fun pointer session expires => ?_⟩
      refine (not_expires_of_wake stage ?_ pointer session expires).elim
      rw [wake]
      exact Wake.noConfusion

/-- The same of every step. -/
theorem Steps.clock (sound : Sound config) (step : Steps config input next) :
    config.server.clock ≤ next.server.clock ∧ ∀ pointer session,
      Expires config input pointer session → session.timeout ≤ next.server.clock := by
  have unexpected (waits : config.stage.waiting = none) : ∀ pointer session,
      Expires config input pointer session → session.timeout ≤ next.server.clock :=
    fun pointer session expires => (not_expires_of_waiting waits pointer session expires).elim
  cases stage : config.stage with
  | top => exact (step.of_top stage).clock sound
  | expiry waiting now => exact (step.of_expiry sound stage).clock sound
  | select waiting now => exact (step.of_select sound stage).clock sound
  | returned err =>
      rw [step.returned stage]
      rw [step.returned stage] at unexpected
      exact ⟨le_refl _, unexpected (by rw [stage]; rfl)⟩
  | recvfrom =>
      refine ⟨?_, unexpected (by rw [stage]; rfl)⟩
      cases received : input.received with
      | none =>
          unfold Steps serverStep at step
          rw [stage] at step
          simp only [received] at step
          cases step
          exact le_refl _
      | some packet =>
          obtain ⟨_, entered, _, outcome, _, _, _, _, _, added, _⟩ :=
            step.received sound stage received
          have reads : next.server.clock = config.server.clock + input.elapsed :=
            (timeoutAdd_reheaped added).clock
          omega

/-! ## The session -/

/-- A session that only moves in the table keeps its tenure. -/
theorem Tenured.kept (tenured : Tenured pointer addr limit config)
    (clock : config.server.clock ≤ next.server.clock)
    (same : (next.server.memory pointer).map Session.detached =
      (config.server.memory pointer).map Session.detached) :
    Tenured pointer addr limit next := by
  refine ⟨tenured.1.trans (by omega), fun early => ?_⟩
  obtain ⟨session, live, place, late⟩ := tenured.2 (by omega)
  obtain ⟨session', live', detached⟩ := detached_of_live same.symm live
  have timeout : session.timeout = session'.timeout := by
    have fields := congrArg Session.timeout detached
    exact fields
  exact ⟨session', live', (addr_of_detached detached).symm.trans place, late.trans timeout.le⟩

/-- A step keeps a session whose time has not come. -/
theorem Tenured.step (tenured : Tenured pointer addr limit config) (sound : Sound config)
    (step : Steps config input next) : Tenured pointer addr limit next := by
  obtain ⟨clock, due⟩ := step.clock sound
  by_cases running : ∀ err, config.stage ≠ .returned err
  case neg =>
    obtain ⟨err, stage⟩ := not_forall_not.mp running
    rw [step.returned stage]
    exact tenured
  case pos =>
    obtain ⟨effect, _⟩ := step.effect sound running
    cases effect with
    | kept quiet => exact tenured.kept clock (by rw [quiet.memory])
    | dropped _ _ _ _ quiet => exact tenured.kept clock (by rw [quiet.memory])
    | returned err returns quiet => exact tenured.kept clock (by rw [quiet.memory])
    | @expired expiring gone expires freed others =>
        by_cases same : pointer = expiring
        · subst same
          refine ⟨tenured.1.trans (by omega), fun early => ?_⟩
          obtain ⟨session, live, _, late⟩ := tenured.2 (by omega)
          cases live.symm.trans expires.1
          have passed := due pointer gone expires
          omega
        · exact tenured.kept clock (others pointer same)
    | @handled sender datagram handled entered session outcome stage received found got ran kept top
        reheaped =>
        have memory : ∀ other, next.server.memory other = (afterHandling entered handled outcome
            (config.server.clock + input.elapsed)).memory other := congrFun reheaped.memory
        have reads : next.server.clock = config.server.clock + input.elapsed := reheaped.clock
        by_cases same : pointer = handled
        · subst same
          refine ⟨tenured.1.trans (by omega), fun early => ?_⟩
          obtain ⟨before, live, place, late⟩ := tenured.2 (by omega)
          have live' := got.live
          rw [got.old before live] at live'
          cases live.symm.trans live'
          obtain ⟨stays, _⟩ := handledBy_place (sound.formed pointer session live) ran
          refine ⟨_, (memory pointer).trans (Function.update_self _ _ _), stays.trans place, ?_⟩
          change limit ≤ config.server.clock + input.elapsed + sessionTimeout
          have bounded := tenured.1
          omega
        · refine tenured.kept clock ?_
          rw [memory]
          change (Function.update entered.memory handled _ pointer).map _ = _
          rw [Function.update_of_ne same]
          exact got.others pointer same

/-- The session that has handled a packet has its full time ahead. -/
theorem Steps.tenured {datagram : List UInt8} {entered : Server} (sound : Sound config)
    (step : Steps config input next) (stage : config.stage = .recvfrom)
    (received : input.received = some (addr, datagram))
    (found : sessionGet (config.server.enter input) addr input.allocation =
      .ok (some pointer, entered)) : ∃ session, entered.memory pointer = some session ∧
      Tenured pointer session.addr (next.server.clock + sessionTimeout) next := by
  obtain ⟨other, entered', session, outcome, found', got, formed, handled, _, added, _⟩ :=
    step.received sound stage received
  cases found.symm.trans found'
  have reheaped := timeoutAdd_reheaped added
  have reads : next.server.clock = config.server.clock + input.elapsed := reheaped.clock
  refine ⟨session, got.live, le_refl _, fun _ => ?_⟩
  refine ⟨_, (congrFun reheaped.memory pointer).trans (Function.update_self _ _ _),
    (handledBy_place formed handled).1, ?_⟩
  rw [reads]

end

end Sas.Server
