import Sas.Rxc.PipelineRun

/-! # Cancelling through a started pipeline

The inlet of the sink gives up the connection when it is cancelled, and looks for it again when it is
cancelled once more. Until then the connection sees to it that the source hears of nothing after the
end, whatever pulls are still queued.
-/

namespace Sas.Rxc

open Foundation

variable {Element Failure : Type}

/-! ## What cancelling promises -/

/-- The event is a cancellation by the sink. -/
def PipelineEvent.isCancel : PipelineEvent Element Failure → Bool
  | .cancel => true
  | _ => false

/-- The signal tells the source that the sink has finished. -/
def Signal.isDownstreamFinish : Signal Element Failure → Bool
  | .onDownstreamFinish => true
  | _ => false

/-- The signal is a pull that reaches the source. -/
def Signal.isPull : Signal Element Failure → Bool
  | .onPull _ => true
  | _ => false

/-- Cancelling is idempotent in a run: no call follows a null pointer, the source is told at most once
that the sink has finished, and neither after that nor after any of the cancellations does a pull reach
it. -/
structure CancelsIdempotently (events : List (PipelineEvent Element Failure))
    (target : Except Fault (PipelineUsage Element Failure)) : Prop where
  safe : target ≠ .error .nullPointer
  once : ∀ usage, target = .ok usage → usage.signals.countP Signal.isDownstreamFinish ≤ 1
  finished : ∀ usage before after, target = .ok usage →
    usage.signals = before ++ .onDownstreamFinish :: after → ∀ signal ∈ after, signal.isPull = false
  cancelled : ∀ usage before after middle, target = .ok usage → events = before ++ .cancel :: after →
    Run PipelineRuns (.ok .started) (before ++ [.cancel]) (.ok middle) →
    Run PipelineRuns (.ok middle) after target →
    ∃ later, usage.signals = middle.signals ++ later ∧ ∀ signal ∈ later, signal.isPull = false

/-! ## Signals end with the connection -/

/-- A connection that is open has not delivered a terminal signal, and one that is closed has delivered
it last. -/
structure Sealed (requested : Int) (signals : List (Signal Element Failure)) : Prop where
  quiet : requested ≠ longMin → ∀ signal ∈ signals, signal.isTerminal = false
  ended : requested = longMin → ∃ before last, signals = before ++ [last] ∧
    last.isTerminal = true ∧ ∀ signal ∈ before, signal.isTerminal = false

section

variable {operation : Operation Element Failure} {requested next : Int}
  {signals : List (Signal Element Failure)} {signal : Signal Element Failure}

/-- A signal keeps the connection open or ends it, and only an open connection delivers one. -/
theorem response_sealed (responds : response operation requested = some (signal, next)) :
    requested ≠ longMin ∧
      (signal.isTerminal = false ∧ next ≠ longMin ∨ signal.isTerminal = true ∧ next = longMin) := by
  have negative := longMin_lt_zero
  rcases response_cases responds with ⟨n, _, opened, rfl, rfl⟩ | ⟨element, _, demanded, rfl, rfl⟩ |
    ⟨opened, terminal, closed⟩
  · have := demandAfter_nonneg requested n
    exact ⟨opened, .inl ⟨rfl, by omega⟩⟩
  · refine ⟨by omega, .inl ⟨rfl, ?_⟩⟩
    unfold demandBefore
    split
    · omega
    · omega
  · exact ⟨opened, .inr ⟨terminal, closed⟩⟩

/-- A signal of the connection keeps it sealed. -/
theorem Sealed.respond (held : Sealed requested signals)
    (responds : response operation requested = some (signal, next)) :
    Sealed next (signals ++ [signal]) := by
  obtain ⟨opened, ⟨goesOn, still⟩ | ⟨terminal, closed⟩⟩ := response_sealed responds
  · refine ⟨fun _ other member => ?_, fun closed => (still closed).elim⟩
    rcases List.mem_append.mp member with earlier | last
    · exact held.quiet opened other earlier
    · rw [List.mem_singleton.mp last]
      exact goesOn
  · exact ⟨fun still => (still closed).elim, fun _ => ⟨_, _, rfl, terminal, held.quiet opened⟩⟩

/-- Such signals hold one terminal signal at most, with nothing behind it. -/
theorem Sealed.terminal (held : Sealed requested signals) :
    signals.countP Signal.isTerminal ≤ 1 ∧
      ∀ before last after, signals = before ++ last :: after → last.isTerminal = true →
        after = [] := by
  by_cases closed : requested = longMin
  · obtain ⟨earlier, last, rfl, terminal, quiet⟩ := held.ended closed
    exact ⟨terminal_countP terminal quiet, fun _ _ _ => terminal_last quiet⟩
  · have quiet := held.quiet closed
    refine ⟨?_, fun before other after split ends => ?_⟩
    · rw [List.countP_eq_zero.mpr fun signal member => by rw [quiet signal member]; decide]
      exact Nat.zero_le 1
    · have member : other ∈ signals := by
        rw [split]
        exact List.mem_append_right _ List.mem_cons_self
      rw [quiet other member] at ends
      cases ends

end

/-! ## One event -/

section

variable {usage : PipelineUsage Element Failure}

/-- An operation on the connection never faults. It leaves the inlet alone and the signals sealed, and
nothing changes once the connection is closed. -/
theorem PipelineUsage.performs_ok (operation : Operation Element Failure)
    (held : Sealed usage.requested usage.signals) :
    ∃ next, usage.performs operation = .ok next ∧ next.link.inlet = usage.link.inlet ∧
      Sealed next.requested next.signals ∧ (usage.requested = longMin → next = usage) := by
  rw [PipelineUsage.performs_eq]
  cases responds : response operation usage.requested with
  | none => exact ⟨_, rfl, rfl, held, fun _ => rfl⟩
  | some answer =>
      obtain ⟨signal, requested⟩ := answer
      refine ⟨_, rfl, rfl, held.respond responds, fun closed => ?_⟩
      rw [closed, response_closed] at responds
      cases responds

end

/-- The sink has cancelled this often, and given up the connection with the first time. -/
structure Orderly (cancels : Nat) (usage : PipelineUsage Element Failure) : Prop where
  few : cancels ≤ 1
  inlet : usage.link.inlet = some ⟨decide (cancels = 0)⟩
  closed : cancels = 1 → usage.requested = longMin
  sealed : Sealed usage.requested usage.signals

section

variable {cancels : Nat} {usage : PipelineUsage Element Failure} {event : PipelineEvent Element Failure}
  {result : Except Fault (PipelineUsage Element Failure)}

/-- A pull only concerns the worker. -/
theorem pipelineInletEnter_ok {link : Link} {parent : Bool} (inlet : link.inlet = some ⟨parent⟩)
    (n : Int) : ∃ loops worker, pipelineInletEnter n link =
      .ok (loops, { link with worker := worker }) := by
  obtain ⟨connection, inlet', ⟨queue, wip⟩⟩ := link
  cases inlet
  cases parent with
  | false => exact ⟨false, ⟨queue, wip⟩, rfl⟩
  | true =>
      cases wip with
      | true => exact ⟨false, _, rfl⟩
      | false => exact ⟨true, _, rfl⟩

/-- The first cancellation gives up the connection and closes it. -/
theorem Orderly.cancel (held : Orderly 0 usage) :
    ∃ next, (pipelineInletCancel (sourceLogicOf record) ⟨usage.link, []⟩).map usage.after = .ok next ∧
      Orderly 1 next ∧ (usage.requested = longMin → next.signals = usage.signals) := by
  have step := PipelineUsage.cancel_eq held.inlet
  obtain ⟨next, performed, inlet', sealed, silent⟩ :=
    (usage.withInlet ⟨false⟩).performs_ok (.cancel : Operation Element Failure) held.sealed
  refine ⟨next, step.trans performed, ⟨Nat.le_refl 1, inlet', fun _ => ?_, sealed⟩,
    fun closed => (congrArg PipelineUsage.signals (silent closed)).trans rfl⟩
  by_cases closed : usage.requested = longMin
  · rw [silent closed]
    exact closed
  · rw [PipelineUsage.performs_eq] at performed
    have responds : response (.cancel : Operation Element Failure)
        (usage.withInlet ⟨false⟩).requested = some (.onDownstreamFinish, longMin) := if_neg closed
    rw [responds] at performed
    cases performed
    rfl

/-- An operation of the source or of the worker on the connection. -/
theorem Orderly.performs (held : Orderly cancels usage) {link : Link}
    (operation : Operation Element Failure) (inlet : link.inlet = usage.link.inlet)
    (connection : link.connection = usage.link.connection) :
    ∃ next, PipelineUsage.performs { usage with link := link } operation = .ok next ∧
      Orderly cancels next ∧ (usage.requested = longMin → next.signals = usage.signals) := by
  have requested : PipelineUsage.requested { usage with link := link } = usage.requested :=
    congrArg Connection.requested connection
  have sealed : Sealed (PipelineUsage.requested { usage with link := link }) usage.signals := by
    rw [requested]
    exact held.sealed
  obtain ⟨next, performed, inlet', sealed', silent⟩ := PipelineUsage.performs_ok operation sealed
  rw [requested] at silent
  refine ⟨next, performed, ⟨held.few, (inlet'.trans inlet).trans held.inlet, fun once => ?_, sealed'⟩,
    fun closed => (congrArg PipelineUsage.signals (silent closed)).trans rfl⟩
  rw [silent (held.closed once), requested]
  exact held.closed once

/-- One event in a pipeline whose sink has cancelled so often: a second cancellation follows a null
pointer, everything else goes on, in silence once the connection is closed. -/
theorem Orderly.step (held : Orderly cancels usage) (step : PipelineStep usage event result) :
    event = .cancel ∧ cancels = 1 ∧ result = .error .nullPointer ∨
      ∃ next, result = .ok next ∧ Orderly (cancels + [event].countP PipelineEvent.isCancel) next ∧
        (usage.requested = longMin → next.signals = usage.signals) := by
  cases step with
  | pull =>
      obtain ⟨loops, worker, entered⟩ := pipelineInletEnter_ok held.inlet _
      rw [entered]
      exact .inr ⟨_, rfl, ⟨held.few, held.inlet, held.closed, held.sealed⟩, fun _ => rfl⟩
  | cancel =>
      rcases Nat.le_one_iff_eq_zero_or_eq_one.mp held.few with rfl | rfl
      · exact .inr held.cancel
      · refine .inl ⟨rfl, rfl, ?_⟩
        have givenUp : usage.link.inlet ≠ some ⟨true⟩ := by
          rw [held.inlet]
          decide
        rw [pipelineInletCancel_null _ givenUp]
        rfl
  | emit => exact .inr (held.performs _ rfl rfl)
  | complete => exact .inr (held.performs _ rfl rfl)
  | fail => exact .inr (held.performs _ rfl rfl)
  | task frames dequeued => exact .inr (held.performs _ rfl rfl)
  | idle frames empty =>
      exact .inr ⟨_, rfl, ⟨held.few, held.inlet, held.closed, held.sealed⟩, fun _ => rfl⟩
  | returned frames =>
      exact .inr ⟨_, rfl, ⟨held.few, held.inlet, held.closed, held.sealed⟩, fun _ => rfl⟩

/-! ## Runs -/

section

variable {events : List (PipelineEvent Element Failure)}
  {target : Except Fault (PipelineUsage Element Failure)}

/-- A run goes on in order until the sink cancels for the second time. -/
theorem orderly_of_run (run : Run PipelineRuns (.ok .started) events target) :
    target = .error .nullPointer ∧ 2 ≤ events.countP PipelineEvent.isCancel ∨
      ∃ usage, target = .ok usage ∧ Orderly (events.countP PipelineEvent.isCancel) usage := by
  induction run with
  | nil =>
      refine .inr ⟨_, rfl, Nat.zero_le 1, rfl, fun once => (Nat.zero_ne_one once).elim,
        fun _ _ member => ?_, fun closed => ?_⟩
      · exact (List.not_mem_nil member).elim
      · exact (Int.ne_of_gt longMin_lt_zero closed).elim
  | @snoc events middle target event before last ih =>
      obtain ⟨usage, rfl, step⟩ := last
      rw [List.countP_append]
      rcases ih with ⟨absurdity, _⟩ | ⟨usage', same, held⟩
      · cases absurdity
      · cases same
        rcases held.step step with ⟨rfl, once, rfl⟩ | ⟨next, rfl, held', _⟩
        · refine .inl ⟨rfl, ?_⟩
          rw [once]
          exact Nat.le_refl 2
        · exact .inr ⟨next, rfl, held'⟩

/-- Once the sink has cancelled, nothing is delivered any more. -/
theorem Orderly.silent {middle : PipelineUsage Element Failure} (held : Orderly 1 middle)
    (run : Run PipelineRuns (.ok middle) events target) :
    ∀ usage, target = .ok usage → Orderly 1 usage ∧ usage.signals = middle.signals := by
  induction run with
  | nil =>
      intro usage same
      cases same
      exact ⟨held, rfl⟩
  | @snoc events state target event before last ih =>
      intro next reached
      obtain ⟨usage, rfl, step⟩ := last
      obtain ⟨held', same⟩ := ih usage rfl
      rcases held'.step step with ⟨_, _, faults⟩ | ⟨next', goes, held'', silent⟩
      · rw [faults] at reached
        cases reached
      · rw [goes] at reached
        cases reached
        have none : [event].countP PipelineEvent.isCancel = 0 := by
          have few := held''.few
          omega
        rw [none] at held''
        exact ⟨held'', (silent (held'.closed rfl)).trans same⟩

/-- **Cancelling through a started pipeline.** In every run of a pipeline that has been started, with
whatever its sink and its source call at any time, cancelling is idempotent if and only if the sink
cancels at most once. -/
theorem cancels_idempotently_iff (run : Run PipelineRuns (.ok .started) events target) :
    CancelsIdempotently events target ↔ events.countP PipelineEvent.isCancel ≤ 1 := by
  constructor
  · intro idempotent
    rcases orderly_of_run run with ⟨faults, _⟩ | ⟨usage, _, held⟩
    · exact (idempotent.safe faults).elim
    · exact held.few
  · intro few
    rcases orderly_of_run run with ⟨_, many⟩ | ⟨usage, rfl, held⟩
    · omega
    · obtain ⟨once, last⟩ := held.sealed.terminal
      refine ⟨fun faults => (by cases faults), fun usage same => ?_, ?_, ?_⟩
      · cases same
        refine Nat.le_trans (List.countP_mono_left fun signal _ finish => ?_) once
        cases signal <;> first | rfl | cases finish
      · intro usage before after same split signal member
        cases same
        rw [last before _ after split rfl] at member
        exact (List.not_mem_nil member).elim
      · rintro usage' before after middle same rfl earlier later
        cases same
        rcases orderly_of_run earlier with ⟨absurdity, _⟩ | ⟨middle', same, held'⟩
        · cases absurdity
        · cases same
          have one : [(.cancel : PipelineEvent Element Failure)].countP PipelineEvent.isCancel = 1 := rfl
          have few := held'.few
          rw [List.countP_append, one] at held' few
          rw [Nat.eq_zero_of_le_zero (Nat.le_of_succ_le_succ few)] at held'
          refine ⟨[], ?_, fun _ member => (List.not_mem_nil member).elim⟩
          rw [List.append_nil]
          exact (held'.silent later _ rfl).2

end

end

/-- A pipeline whose sink has cancelled. -/
def cancelledUsage : PipelineUsage Nat Unit :=
  ⟨⟨⟨longMin⟩, some ⟨false⟩, ⟨[], false⟩⟩, [.onDownstreamFinish], [.callback .onDownstreamFinish]⟩

theorem cancelledUsage_run : Run PipelineRuns (.ok .started) [.cancel] (.ok cancelledUsage) :=
  Run.singleton ⟨_, rfl, PipelineStep.cancel⟩

/-- A sink cancels while its pull is still queued; the worker runs the pull after that. -/
def queuedCancel : List (PipelineEvent Nat Unit) := [.pull 1, .cancel, .returned, .round]

/-- The cancellation closes the connection, and the queued pull has no effect. -/
theorem cancels_idempotently_queued :
    ∃ target, Run PipelineRuns (.ok .started) queuedCancel target ∧
      CancelsIdempotently queuedCancel target := by
  have pulled : PipelineRuns (.ok .started) (.pull 1 : PipelineEvent Nat Unit)
      (.ok ⟨⟨⟨0⟩, some ⟨true⟩, ⟨[1], true⟩⟩, [], [.worker]⟩) := ⟨_, rfl, PipelineStep.pull⟩
  have cancelled : PipelineRuns (.ok ⟨⟨⟨0⟩, some ⟨true⟩, ⟨[1], true⟩⟩, [], [.worker]⟩)
      (.cancel : PipelineEvent Nat Unit) (.ok ⟨⟨⟨longMin⟩, some ⟨false⟩, ⟨[1], true⟩⟩,
        [.onDownstreamFinish], [.callback .onDownstreamFinish, .worker]⟩) :=
    ⟨_, rfl, PipelineStep.cancel⟩
  have returned := (Run.singleton pulled).snoc cancelled |>.snoc ⟨_, rfl, PipelineStep.returned rfl⟩
  have round := returned.snoc ⟨_, rfl, PipelineStep.task rfl rfl⟩
  exact ⟨_, round, (cancels_idempotently_iff round).mpr (Nat.le_refl 1)⟩

/-- A sink that cancels twice. -/
theorem not_cancels_idempotently :
    ¬ ∀ (events : List (PipelineEvent Nat Unit)) (target : Except Fault (PipelineUsage Nat Unit)),
      Run PipelineRuns (.ok .started) events target → CancelsIdempotently events target := by
  intro claimed
  have twice : Run PipelineRuns (.ok .started) [(.cancel : PipelineEvent Nat Unit), .cancel]
      (.error .nullPointer) := cancelledUsage_run.snoc ⟨_, rfl, PipelineStep.cancel⟩
  exact (claimed _ _ twice).safe rfl

end Sas.Rxc
