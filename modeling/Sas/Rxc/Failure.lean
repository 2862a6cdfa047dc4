import Sas.Rxc.Objects

/-! # Failures through flows

The machine of one connection, with the logics of a chain between the connection and the sink at the
end. The log holds the callbacks of this sink and of the source. Elements and the end of the stream
reach the sink through any number of map flows; a failure does where there are none.
-/

namespace Sas.Rxc

open Foundation

variable {Element Failure : Type} {chain : Chain Element}

/-! ## The machine -/

/-- The callback of a sink logic that a signal calls; the other signals are for the source. -/
def Signal.field : Signal Element Failure → Option Field
  | .onPush _ => some .logicOnPush
  | .onUpstreamFinish => some .logicOnUpstreamFinish
  | .onUpstreamFailure _ => some .logicOnUpstreamFailure
  | .onPull _ => none
  | .onDownstreamFinish => none

/-- What the signal of a connection is at the end of the chain. -/
def Chain.deliver (chain : Chain Element) (signal : Signal Element Failure) :
    Except Fault (Signal Element Failure) :=
  match signal.field with
  | none => .ok signal
  | some field => call chain.heap chain.heap.length chain.logic field signal

/-- Hand a signal through the chain and take note of it at the end. -/
def forward (chain : Chain Element) (signal : Signal Element Failure) :
    Action (List (Signal Element Failure)) := fun started =>
  (chain.deliver signal).bind fun delivered => record delivered started

/-- One event on a connection with a chain behind it. The pulls and cancellations of the sink come
as operations on the connection, at once or when the worker runs them. -/
inductive ChainStep (chain : Chain Element) :
    Usage Element Failure → Event Element Failure → Usage Element Failure → Prop where
  | operation {usage : Usage Element Failure} {operation : Operation Element Failure}
      {result : Int} {started : Started (List (Signal Element Failure))} :
      operate (forward chain) operation ⟨usage.link, []⟩ = .ok (result, started) →
      ChainStep chain usage (.operation operation)
        ⟨started.link, usage.signals ++ started.world, started.world ++ usage.frames⟩
  | returned {usage : Usage Element Failure} {signal : Signal Element Failure}
      {frames : List (Signal Element Failure)} : usage.frames = signal :: frames →
      ChainStep chain usage .returned { usage with frames := frames }

/-- The connection of a pipeline that has been started. -/
def Usage.started : Usage Element Failure :=
  .create (some pipelineInletCreate) schedulerCreateWorker

/-- The signal is a failure of the source. -/
def Signal.isFailure : Signal Element Failure → Bool
  | .onUpstreamFailure _ => true
  | _ => false

/-- The signal is a callback of the sink. -/
def Signal.isUpstream (signal : Signal Element Failure) : Bool := signal.field.isSome

/-- The source can fail now, the sink is then told of this failure and of none other, and nothing
else reaches it afterwards, whatever happens. -/
structure PassesFailure (chain : Chain Element) (usage : Usage Element Failure) (failure : Failure) :
    Prop where
  returns : ∃ next, ChainStep chain usage (.operation (.fail failure)) next
  first : ∀ signal ∈ usage.signals, signal.isFailure = false
  last : ∀ next events target, ChainStep chain usage (.operation (.fail failure)) next →
    Run (ChainStep chain) next events target →
    ∃ later, target.signals = usage.signals ++ .onUpstreamFailure failure :: later ∧
      ∀ signal ∈ later, signal.isUpstream = false

section

variable {usage next : Usage Element Failure} {event : Event Element Failure}

/-- The events on a connection with a chain are silent operations, operations whose signal comes
through the chain, and returns. -/
theorem ChainStep.cases (step : ChainStep chain usage event next) :
    (∃ operation, event = .operation operation ∧
      ((response operation usage.requested = none ∧ next = usage) ∨
        ∃ signal requested delivered, response operation usage.requested = some (signal, requested) ∧
          chain.deliver signal = .ok delivered ∧
          next = ⟨usage.link.withRequested requested, usage.signals ++ [delivered],
            delivered :: usage.frames⟩)) ∨
      (event = .returned ∧ next.link = usage.link ∧ next.signals = usage.signals) := by
  cases step with
  | returned => exact .inr ⟨rfl, rfl, rfl⟩
  | @operation operation result started performed =>
      refine .inl ⟨operation, rfl, ?_⟩
      cases responds : response operation usage.requested with
      | none =>
          cases (operate_silent responds).symm.trans performed
          refine .inl ⟨rfl, ?_⟩
          rw [List.append_nil, List.nil_append]
      | some answer =>
          obtain ⟨signal, requested⟩ := answer
          obtain ⟨started', forwarded, done⟩ :=
            map_eq_ok ((operate_signal responds).symm.trans performed)
          obtain ⟨delivered, arrives, recorded⟩ := bind_eq_ok forwarded
          cases done
          cases recorded
          exact .inr ⟨signal, requested, delivered, rfl, arrives, rfl⟩

/-- An operation whose signal comes through the chain sets the demand and delivers it. -/
theorem ChainStep.signal {operation : Operation Element Failure}
    {signal delivered : Signal Element Failure} {requested : Int}
    (responds : response operation usage.requested = some (signal, requested))
    (arrives : chain.deliver signal = .ok delivered) :
    ChainStep chain usage (.operation operation)
      ⟨usage.link.withRequested requested, usage.signals ++ [delivered],
        delivered :: usage.frames⟩ := by
  have performed : operate (forward chain) operation ⟨usage.link, []⟩ =
      .ok (eok, ⟨usage.link.withRequested requested, [delivered]⟩) := by
    refine (operate_signal responds).trans ?_
    simp only [forward, arrives, Except.bind]
    rfl
  exact ChainStep.operation performed

end

/-! ## Signals that arrive -/

section

variable {scheduled : Bool} {stage : SinkStage Element scheduled}

/-- Elements are mapped and the end of the stream passes; the failure of the source passes where
there is no flow. -/
theorem Chain.Holds.deliver_eq (holds : chain.Holds stage) (signal : Signal Element Failure) :
    chain.deliver signal =
      match signal with
      | .onPush element => .ok (.onPush (stage.mapping element))
      | .onUpstreamFailure failure =>
          if stage.flows = 0 then .ok (.onUpstreamFailure failure) else .error .outOfBounds
      | signal => .ok signal := by
  cases signal with
  | onPush element => exact call_onPush holds.logics holds.deep element
  | onUpstreamFinish => exact call_onUpstreamFinish holds.logics holds.deep
  | onUpstreamFailure failure => exact call_onUpstreamFailure holds.logics holds.deep failure
  | onPull n => rfl
  | onDownstreamFinish => rfl

/-- What does not end the stream does not become a failure. -/
theorem Chain.Holds.deliver_goesOn (holds : chain.Holds stage)
    {signal delivered : Signal Element Failure} (goesOn : signal.isTerminal = false)
    (arrives : chain.deliver signal = .ok delivered) : delivered.isFailure = false := by
  rw [holds.deliver_eq] at arrives
  cases signal with
  | onPush element =>
      cases arrives
      rfl
  | onPull n =>
      cases arrives
      rfl
  | _ => cases goesOn

end

/-! ## Runs -/

section

variable {scheduled : Bool} {stage : SinkStage Element scheduled} {events : List (Event Element Failure)}
  {usage next target : Usage Element Failure}

/-- While the connection is open the sink has not been told of a failure. -/
theorem Chain.Holds.no_failure (holds : chain.Holds stage)
    (run : Run (ChainStep chain) Usage.started events usage) (opened : usage.requested ≠ longMin) :
    ∀ signal ∈ usage.signals, signal.isFailure = false := by
  refine run.invariant
    (fun usage => usage.requested ≠ longMin → ∀ signal ∈ usage.signals, signal.isFailure = false)
    (fun _ _ member => (List.not_mem_nil member).elim) ?_ opened
  intro usage event next before step opened
  rcases step.cases with ⟨operation, rfl, ⟨_, rfl⟩ | ⟨signal, requested, delivered, responds, arrives,
    rfl⟩⟩ | ⟨rfl, link, signals⟩
  · exact before opened
  · have goesOn : usage.requested ≠ longMin ∧ signal.isTerminal = false := by
      rcases response_cases responds with ⟨n, _, still, rfl, _⟩ | ⟨element, _, demanded, rfl, _⟩ |
        ⟨_, _, closed⟩
      · exact ⟨still, rfl⟩
      · refine ⟨fun closed => ?_, rfl⟩
        rw [closed] at demanded
        exact Int.lt_asymm longMin_lt_zero demanded
      · exact (opened closed).elim
    intro other member
    rcases List.mem_append.mp member with earlier | last
    · exact before goesOn.1 other earlier
    · rw [List.mem_singleton.mp last]
      exact holds.deliver_goesOn goesOn.2 arrives
  · rw [signals]
    refine before ?_
    unfold Usage.requested
    rw [← link]
    exact opened

/-- Nothing is delivered over a closed connection. -/
theorem ChainStep.closed_run (run : Run (ChainStep chain) usage events target)
    (closed : usage.requested = longMin) : target.signals = usage.signals := by
  have held := run.invariant
    (fun target => target.requested = longMin ∧ target.signals = usage.signals) ⟨closed, rfl⟩ ?_
  · exact held.2
  · rintro target event next ⟨closed, same⟩ step
    rcases step.cases with
      ⟨operation, rfl, ⟨_, rfl⟩ | ⟨signal, requested, delivered, responds, _, rfl⟩⟩ |
      ⟨rfl, link, signals⟩
    · exact ⟨closed, same⟩
    · rw [closed, response_closed] at responds
      cases responds
    · refine ⟨?_, signals.trans same⟩
      unfold Usage.requested
      rw [link]
      exact closed

/-- A source that fails on an open connection closes it, and the sink is told what arrives at the end
of the chain. -/
theorem ChainStep.fail_inv {failure : Failure}
    (step : ChainStep chain usage (.operation (.fail failure)) next)
    (opened : usage.requested ≠ longMin) :
    ∃ delivered, chain.deliver (.onUpstreamFailure failure) = .ok delivered ∧
      next = ⟨usage.link.withRequested longMin, usage.signals ++ [delivered],
        delivered :: usage.frames⟩ := by
  have responds : response (.fail failure : Operation Element Failure) usage.requested =
      some (.onUpstreamFailure failure, longMin) := if_neg opened
  rcases step.cases with ⟨operation, same, ⟨silent, _⟩ | ⟨signal, requested, delivered, responds',
    arrives, rfl⟩⟩ | ⟨absurdity, _⟩
  · cases same
    rw [responds] at silent
    cases silent
  · cases same
    rw [responds] at responds'
    cases responds'
    exact ⟨delivered, arrives, rfl⟩
  · cases absurdity

/-- **Failures through flows.** In a pipeline that has been started, a failure of its source reaches
the sink, once, unchanged and as the last signal, if and only if no map flow is attached to the source
or to the sink. -/
theorem failure_passes_iff {outer inner : List (Element → Element)} {code : SinkCode Element}
    (started : startObjects outer inner code = .ok chain)
    (run : Run (ChainStep chain) Usage.started events usage) (opened : usage.requested ≠ longMin)
    (failure : Failure) :
    PassesFailure chain usage failure ↔ outer = [] ∧ inner = [] := by
  obtain ⟨chain', same, holds⟩ := startObjects_holds outer inner code
  rw [started] at same
  cases same
  have arrives : chain.deliver (.onUpstreamFailure failure : Signal Element Failure) =
      if inner.length + outer.length = 0 then .ok (.onUpstreamFailure failure)
      else .error .outOfBounds := by
    rw [holds.deliver_eq, ← flows_chainOf outer inner code]
  constructor
  · intro passes
    obtain ⟨next, step⟩ := passes.returns
    obtain ⟨delivered, delivers, _⟩ := step.fail_inv opened
    rw [arrives] at delivers
    by_cases bare : inner.length + outer.length = 0
    · exact ⟨List.length_eq_zero_iff.mp (by omega), List.length_eq_zero_iff.mp (by omega)⟩
    · rw [if_neg bare] at delivers
      cases delivers
  · rintro ⟨rfl, rfl⟩
    have responds : response (.fail failure : Operation Element Failure) usage.requested =
        some (.onUpstreamFailure failure, longMin) := if_neg opened
    refine ⟨⟨_, ChainStep.signal responds arrives⟩, holds.no_failure run opened, ?_⟩
    intro next events target step run
    obtain ⟨delivered, delivers, rfl⟩ := step.fail_inv opened
    rw [arrives] at delivers
    cases delivers
    exact ⟨[], ChainStep.closed_run run rfl, fun _ member => (List.not_mem_nil member).elim⟩

end

/-- A sink directly behind its source, with a failure before any element. -/
theorem failure_passes_direct : ∃ chain : Chain Nat, startObjects [] [] sinkForeach = .ok chain ∧
    PassesFailure chain Usage.started (5 : Nat) := by
  obtain ⟨chain, started, _⟩ := startObjects_holds [] [] (sinkForeach : SinkCode Nat)
  exact ⟨chain, started, (failure_passes_iff started .nil (by decide) 5).mpr ⟨rfl, rfl⟩⟩

/-- With one flow attached to the sink, the failure is not passed on: the flow looks for the inner
logic behind the end of its sink. -/
theorem not_failure_passes : ¬ ∀ (outer inner : List (Nat → Nat)) (code : SinkCode Nat)
    (chain : Chain Nat) (events : List (Event Nat Nat)) (usage : Usage Nat Nat) (failure : Nat),
    startObjects outer inner code = .ok chain →
    Run (ChainStep chain) Usage.started events usage → usage.requested ≠ longMin →
    PassesFailure chain usage failure := by
  intro claimed
  obtain ⟨chain, started, holds⟩ := startObjects_holds [] [Nat.succ] (sinkForeach : SinkCode Nat)
  have passes := claimed [] [Nat.succ] sinkForeach chain [] Usage.started 5 started .nil (by decide)
  obtain ⟨next, step⟩ := passes.returns
  obtain ⟨delivered, delivers, _⟩ := step.fail_inv (by decide)
  rw [holds.deliver_eq] at delivers
  cases delivers

end Sas.Rxc
