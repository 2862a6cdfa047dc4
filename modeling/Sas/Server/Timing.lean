import Sas.Server.Expiry

/-! # The timeout of `select`

`sas_server_run` has one `struct timeval` for all calls of `select`. It clears the microseconds once,
before the loop, and sets the seconds before each call; `select` writes the time it has not slept into
both. A call that is ended by a datagram may so leave microseconds, which the next call adds to the
remaining time of its session.
-/

namespace Sas.Server

open Foundation Transport

/-- A `struct timeval`. -/
structure Timeval where
  tvSec : Int
  tvUsec : Int
deriving DecidableEq

/-- The loop with its `timeval`, which is what `select` is handed for a session. -/
structure Timed where
  config : Config
  timeval : Timeval

/-- Where `sas_server_run` starts: the seconds are not set. -/
structure Timed.Initial (timed : Timed) : Prop where
  initial : Server.Initial timed.config
  cleared : timed.timeval.tvUsec = 0

/-- The `timeval` after a step of the loop: its seconds are set for a session that is not due, and
`select` replaces it by what is left of it. -/
def timevalAfter (config : Config) (left timeval : Timeval) : Timeval :=
  match config.stage with
  | .expiry (some session) now =>
      match config.server.load session with
      | .ok current =>
          if now ≥ current.timeout then timeval
          else { timeval with tvSec := current.timeout - now }
      | .error _ => timeval
  | .select (some _) _ => left
  | _ => timeval

/-- One step of `sas_server_run` with its `timeval`, where a call of `select` leaves this one. -/
def timedStep (input : Input × Timeval) (timed : Timed) : Except Fault Timed := do
  let config ← serverStep input.1 timed.config
  .ok ⟨config, timevalAfter timed.config input.2 timed.timeval⟩

/-- The loop takes a defined step. -/
def TimedStep (timed : Timed) (input : Input × Timeval) (next : Timed) : Prop :=
  timedStep input timed = .ok next

/-- When `select` is about to be called, no live session is due, and where a session has been popped,
the timeout `select` is handed is the least remaining time of all live sessions. -/
def ExpiryComplete (timed : Timed) : Prop :=
  ∀ waiting now, timed.config.stage = .select waiting now →
    (∀ pointer session, Lives timed.config.server pointer session → now < session.timeout) ∧
      ∀ waited, waiting = some waited → ∃ current, Lives timed.config.server waited current ∧
        timed.timeval = ⟨current.timeout - now, 0⟩ ∧
        ∀ pointer session, Lives timed.config.server pointer session →
          current.timeout - now ≤ session.timeout - now

/-- The loop is about to call `select` for a session, and microseconds are left of an earlier call. -/
def Carries (timed : Timed) : Prop :=
  ∃ pointer session now, timed.config.stage = .expiry (some pointer) now ∧
    timed.config.server.memory pointer = some session ∧ now < session.timeout ∧
    timed.timeval.tvUsec ≠ 0

/-- A step in which `select` keeps its time, and that spoils neither the heap nor the timeout. -/
def TimelyStep (timed : Timed) (input : Input × Timeval) (next : Timed) : Prop :=
  TimedStep timed input next ∧ OrderlyStep timed.config input.1 next.config ∧ ¬ Carries timed

section

variable {timed next : Timed} {input : Input × Timeval} {pointer : SessionPtr} {now : Int}

/-- The loop does not depend on its `timeval`. -/
theorem TimedStep.steps (step : TimedStep timed input next) :
    Steps timed.config input.1 next.config := by
  obtain ⟨config, steps, done⟩ := bind_eq_ok step
  cases done
  exact steps

/-- What a step leaves in `tv_usec`. -/
theorem TimedStep.timeval (step : TimedStep timed input next) :
    next.timeval = timevalAfter timed.config input.2 timed.timeval := by
  obtain ⟨config, steps, done⟩ := bind_eq_ok step
  cases done
  rfl

/-- `select` is called for a session only where that session has been popped and is not due. -/
theorem Steps.of_selects {config after : Config} {input : Input} (step : Steps config input after)
    (sound : Sound config) (stage : after.stage = .select (some pointer) now) :
    config.stage = .expiry (some pointer) now ∧ ∃ session, config.server.memory pointer = some session ∧
      after.server.memory pointer = some session ∧ now < session.timeout := by
  have running (loop : LoopStep config input after) :
      config.stage = .expiry (some pointer) now ∧ ∃ session,
        config.server.memory pointer = some session ∧
        after.server.memory pointer = some session ∧ now < session.timeout := by
    cases loop with
    | waits before known later =>
        cases stage
        exact ⟨before, _, known, known, later⟩
    | _ => cases stage
  cases before : config.stage with
  | top => exact before ▸ running (step.of_top before)
  | expiry waiting now' => exact before ▸ running (step.of_expiry sound before)
  | select waiting now' => exact before ▸ running (step.of_select sound before)
  | recvfrom =>
      unfold Steps serverStep at step
      rw [before] at step
      cases received : input.received with
      | none =>
          simp only [received] at step
          cases step
          cases stage
      | some both =>
          simp only [received] at step
          obtain ⟨server, _, done⟩ := bind_eq_ok step
          cases done
          cases stage
  | returned err =>
      rw [step.returned before] at stage
      cases before.symm.trans stage

/-- The timeout `select` is called with for a session: the seconds are its remaining time, and the
microseconds those that are left of the call before. -/
theorem TimedStep.selects (step : TimedStep timed input next) (sound : Sound timed.config)
    (stage : next.config.stage = .select (some pointer) now) :
    ∃ session, timed.config.stage = .expiry (some pointer) now ∧
      timed.config.server.memory pointer = some session ∧
      next.config.server.memory pointer = some session ∧ now < session.timeout ∧
      next.timeval = ⟨session.timeout - now, timed.timeval.tvUsec⟩ := by
  obtain ⟨before, session, known, kept, later⟩ := step.steps.of_selects sound stage
  refine ⟨session, before, known, kept, later, ?_⟩
  have loaded : timed.config.server.load pointer = .ok session := load_of_some known
  rw [step.timeval, timevalAfter, before]
  simp only [loaded]
  rw [if_neg (not_le.mpr later)]

/-- The timeout is the remaining time of the session exactly if no microseconds are left. -/
theorem TimedStep.exact_iff (step : TimedStep timed input next) (sound : Sound timed.config)
    (stage : next.config.stage = .select (some pointer) now) {session : Session}
    (live : next.config.server.memory pointer = some session) :
    next.timeval = ⟨session.timeout - now, 0⟩ ↔ ¬ Carries timed := by
  obtain ⟨session', before, known, kept, later, timeval⟩ := step.selects sound stage
  cases live.symm.trans kept
  rw [timeval, Timeval.mk.injEq]
  refine ⟨fun ⟨_, clear⟩ ⟨_, _, _, _, _, _, left⟩ => left clear, fun carries => ⟨rfl, ?_⟩⟩
  by_contra left
  exact carries ⟨pointer, session, now, before, known, later, left⟩

/-- The `timeval` is set for the session `select` is called for. -/
def Aimed (timed : Timed) : Prop :=
  ∀ pointer now session, timed.config.stage = .select (some pointer) now →
    timed.config.server.memory pointer = some session →
    timed.timeval = ⟨session.timeout - now, 0⟩

/-- A timely step leaves the loop aimed at the session that is due first. -/
theorem TimelyStep.aimed (step : TimelyStep timed input next) (sound : Sound timed.config) :
    Aimed next := by
  intro pointer now session stage live
  exact (step.1.exact_iff sound stage live).mpr step.2.2

end

/-- **The expiry loop is complete.** In every run in which `select` keeps its time and no step spoils
the order of the heap or finds microseconds left in the timeout, whenever `select` is about to be
called no live session is due, and it is called for the least remaining time of all live sessions. -/
theorem expiry_complete {source timed : Timed} {inputs : List (Input × Timeval)}
    (initial : source.Initial) (run : Run TimelyStep source inputs timed) : ExpiryComplete timed := by
  have orderly : Run OrderlyStep source.config (inputs.map Prod.fst) timed.config :=
    run.map Timed.config Prod.fst fun _ _ _ step => step.2.1
  have aimed : Sound timed.config ∧ Aimed timed := by
    refine run.invariant (fun timed => Sound timed.config ∧ Aimed timed) ?_ ?_
    · refine ⟨sound_initial initial.initial, fun pointer now session stage => ?_⟩
      obtain ⟨kernel, clock, buffer, same⟩ := initial.initial
      rw [same] at stage
      cases stage
    · rintro before input after ⟨sound, _⟩ step
      exact ⟨step.1.steps.sound sound, step.aimed sound⟩
  intro waiting now stage
  obtain ⟨undue, least⟩ := dueFirst_run initial.initial orderly waiting now stage
  refine ⟨undue, fun waited same => ?_⟩
  obtain ⟨current, lives, first⟩ := least waited same
  rw [same] at stage
  exact ⟨current, lives, aimed.2 waited now current stage lives.2, first⟩

/-! ## Two clients -/

/-- No microseconds are left where a session has been popped. -/
def cleared (timed : Timed) : Bool :=
  match timed.config.stage with
  | .expiry (some _) _ => timed.timeval.tvUsec == 0
  | _ => true

/-- Where `tv_usec` is zero nothing is carried into the next call. -/
theorem not_carries_of {timed : Timed} (clear : cleared timed = true) : ¬ Carries timed := by
  rintro ⟨pointer, session, now, stage, _, _, left⟩
  simp only [cleared, stage, beq_iff_eq] at clear
  exact left clear

/-- The loop before its first iteration. -/
def timedBeginning : Timed := ⟨beginning, ⟨0, 0⟩⟩

/-- The server of the example has just been started. -/
theorem initial_timedBeginning : timedBeginning.Initial := ⟨initial_beginning, rfl⟩

/-- The loop after some inputs, where each call of `select` leaves the same. -/
def timedAfter (left : Timeval) (inputs : List Input) : Timed :=
  ((inputs.map fun input => (input, left)).foldlM (fun timed input => timedStep input timed)
    timedBeginning).toOption.getD timedBeginning

/-- The server of the example is reached by timed steps. -/
theorem timedAfter_run {left : Timeval} {inputs : List Input}
    (fine : ((inputs.map fun input => (input, left)).foldlM
      (fun timed input => timedStep input timed) timedBeginning).isOk = true) :
    Run TimedStep timedBeginning (inputs.map fun input => (input, left)) (timedAfter left inputs) :=
  Run.of_foldlM (eq_ok_getD fine timedBeginning)

/-- A client sends one datagram and its neighbour two, after which the session of the client times out
and the one of its neighbour is waited for. -/
def inTurn : List Input :=
  greetings ++ (visit neighbour 1 :: List.replicate 3 (visit neighbour 0)) ++
    List.replicate 2 (visit neighbour 0) ++
    { visit neighbour 28 with wake := .timedOut } :: List.replicate 2 (visit neighbour 0)

/-- The neighbour is waited for two seconds more. -/
theorem expiry_complete_inTurn :
    (timedAfter ⟨29, 0⟩ inTurn).config.stage = .select (some 1) 30 ∧
      (timedAfter ⟨29, 0⟩ inTurn).timeval = ⟨2, 0⟩ ∧
      ExpiryComplete (timedAfter ⟨29, 0⟩ inTurn) := by
  have run := @timedAfter_run ⟨29, 0⟩ inTurn (by decide +kernel)
  have checked := @Run.guard _ _ _ (fun timed input => orderly timed.config input.1 && cleared timed)
    Fault.diverge (fun timed input => timedStep input timed) _ _ _ run (by decide +kernel)
  refine ⟨by decide +kernel, by decide +kernel,
    expiry_complete initial_timedBeginning (checked.mono fun timed input next one => ?_)⟩
  have passes := Bool.and_eq_true_iff.mp one.2
  exact ⟨one.1, orderly_sound passes.1 (TimedStep.steps one.1), not_carries_of passes.2⟩

/-- The datagrams of a client, of its neighbour one second later, and of the client another second
later, up to the next call of `select`. -/
def visits : List Input :=
  greetings ++ visit firstClient 1 :: List.replicate 5 (visit firstClient 0)

/-- The datagrams of a client in one second, up to the next call of `select`. -/
def haste : List Input := List.replicate 10 (visit firstClient 0)

/-- Although no microseconds are left, `select` is called for a client whose neighbour is due one second
before; and although the heap is in order, it is called for 30.6 seconds where 30 are left. -/
theorem not_expiry_complete :
    (¬ ∀ (source timed : Timed) (inputs : List (Input × Timeval)), source.Initial →
      Run (fun timed input next => TimedStep timed input next ∧
        PunctualStep timed.config input.1 next.config ∧ ¬ Carries timed) source inputs timed →
      ExpiryComplete timed) ∧
    ¬ ∀ (source timed : Timed) (inputs : List (Input × Timeval)), source.Initial →
      Run (fun timed input next => TimedStep timed input next ∧
        OrderlyStep timed.config input.1 next.config) source inputs timed →
      ExpiryComplete timed := by
  constructor
  · intro complete
    have run := @timedAfter_run ⟨29, 0⟩ visits (by decide +kernel)
    have checked := @Run.guard _ _ _ (fun timed input => !early timed.config input.1 && cleared timed)
      Fault.diverge (fun timed input => timedStep input timed) _ _ _ run (by decide +kernel)
    have stage : (timedAfter ⟨29, 0⟩ visits).config.stage = .select (some 0) 2 := by decide +kernel
    obtain ⟨_, least⟩ := complete _ _ _ initial_timedBeginning
      (checked.mono fun timed input next one => by
        have passes := Bool.and_eq_true_iff.mp one.2
        exact ⟨one.1, punctual_of (Bool.not_eq_true' _ ▸ passes.1) (TimedStep.steps one.1),
          not_carries_of passes.2⟩) _ _ stage
    obtain ⟨current, ⟨_, live⟩, _, least⟩ := least 0 rfl
    have first : ((timedAfter ⟨29, 0⟩ visits).config.server.memory 0).map Session.timeout = some 32 := by
      decide +kernel
    have second : ((timedAfter ⟨29, 0⟩ visits).config.server.memory 1).map Session.timeout =
      some 31 := by decide +kernel
    obtain ⟨session, live', due⟩ := Option.map_eq_some_iff.mp second
    rw [live] at first
    have steps : Run Steps beginning _ (timedAfter ⟨29, 0⟩ visits).config :=
      run.map Timed.config Prod.fst fun _ _ _ step => step.steps
    obtain ⟨chains, inv⟩ := (sound_run initial_beginning steps).table
    have sooner := least 1 session ⟨inv.inTable_iff.mpr ⟨session, live'⟩, live'⟩
    have last : current.timeout = 32 := Option.some.inj first
    omega
  · intro complete
    have run := @timedAfter_run ⟨29, 600000⟩ haste (by decide +kernel)
    have checked := @Run.guard _ _ _ (fun timed input => orderly timed.config input.1)
      Fault.diverge (fun timed input => timedStep input timed) _ _ _ run (by decide +kernel)
    have stage : (timedAfter ⟨29, 600000⟩ haste).config.stage = .select (some 0) 0 := by
      decide +kernel
    obtain ⟨_, least⟩ := complete _ _ _ initial_timedBeginning
      (checked.mono fun timed input next one =>
        ⟨one.1, orderly_sound one.2 (TimedStep.steps one.1)⟩) _ _ stage
    obtain ⟨current, _, timeval, _⟩ := least 0 rfl
    have handed : (timedAfter ⟨29, 600000⟩ haste).timeval = ⟨30, 600000⟩ := by decide +kernel
    have microseconds : (600000 : Int) = 0 := congrArg Timeval.tvUsec (handed.symm.trans timeval)
    exact absurd microseconds (by decide)

end Sas.Server
