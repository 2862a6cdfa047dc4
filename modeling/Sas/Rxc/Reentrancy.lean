import Sas.Rxc.Logic
import Sas.Foundation.Run
import Sas.Foundation.Fallible

/-! # One connection under re-entrant user code

The callbacks of a source and a sink are free to call back into their connection before they
return, so between the first call and its return any of the five operations may be performed, to
any depth. The machine of this file has one step for every operation, whoever performs it, and one
for every callback that returns; the demand counter and the signals delivered are then seen at every
moment of a run, inside callbacks included.
-/

namespace Sas.Rxc

open Foundation

/-- What user code may do with a connection. -/
inductive Operation (Element Failure : Type) where
  /-- `rxc_inlet_pull`. -/
  | pull (n : Int)
  /-- `rxc_inlet_cancel`. -/
  | cancel
  /-- `rxc_outlet_emit`. -/
  | emit (element : Element)
  /-- `rxc_outlet_complete`. -/
  | complete
  /-- `rxc_outlet_fail`. -/
  | fail (failure : Failure)
  deriving DecidableEq, Repr

/-- A callback of the two logics of a connection, with its argument. -/
inductive Signal (Element Failure : Type) where
  | onPull (n : Int)
  | onPush (element : Element)
  | onUpstreamFinish
  | onUpstreamFailure (failure : Failure)
  | onDownstreamFinish
  deriving DecidableEq, Repr

variable {World Element Failure : Type}

/-- The signal ends the stream. -/
def Signal.isTerminal : Signal Element Failure → Bool
  | .onUpstreamFinish | .onUpstreamFailure _ | .onDownstreamFinish => true
  | .onPull _ | .onPush _ => false

/-- The signal hands an element to the sink. -/
def Signal.isPush : Signal Element Failure → Bool
  | .onPush _ => true
  | _ => false

/-! ## Operations -/

/-- The source logic whose callbacks are handled like this. -/
def sourceLogicOf (handle : Signal Element Failure → Action World) : SourceLogic World where
  onPull n := handle (.onPull n)
  onDownstreamFinish := handle .onDownstreamFinish

/-- The sink logic whose callbacks are handled like this. -/
def sinkLogicOf (handle : Signal Element Failure → Action World) :
    SinkLogic World Element Failure where
  onConnect := .ok
  onPush element := handle (.onPush element)
  onUpstreamFinish := handle .onUpstreamFinish
  onUpstreamFailure failure := handle (.onUpstreamFailure failure)

/-- Perform an operation, with its return value. -/
def operate (handle : Signal Element Failure → Action World) :
    Operation Element Failure → Started World → Except Fault (Int × Started World)
  | .pull n, started =>
      (connectionInletPull (sourceLogicOf handle) n started).map fun started => (eok, started)
  | .cancel, started =>
      (connectionInletCancel (sourceLogicOf handle) started).map fun started => (eok, started)
  | .emit element, started => outletEmit (sinkLogicOf handle) element started
  | .complete, started =>
      (outletComplete (sinkLogicOf handle) started).map fun started => (eok, started)
  | .fail failure, started =>
      (outletFail (sinkLogicOf handle) failure started).map fun started => (eok, started)

/-- The demand left by a push. -/
def demandBefore (requested : Int) : Int :=
  if requested ≠ longMax then requested - 1 else requested

/-- The signal an operation delivers at this demand, and the demand it sets before. -/
def response : Operation Element Failure → Int → Option (Signal Element Failure × Int)
  | .pull n, requested =>
      if requested = longMin then none else some (.onPull n, demandAfter requested n)
  | .cancel, requested =>
      if requested = longMin then none else some (.onDownstreamFinish, longMin)
  | .emit element, requested =>
      if requested ≤ 0 then none else some (.onPush element, demandBefore requested)
  | .complete, requested =>
      if requested = longMin then none else some (.onUpstreamFinish, longMin)
  | .fail failure, requested =>
      if requested = longMin then none else some (.onUpstreamFailure failure, longMin)

/-- A response is a pull of an open connection, a push into some demand, or the end of an open
connection. -/
theorem response_cases {operation : Operation Element Failure} {requested next : Int}
    {signal : Signal Element Failure} (responds : response operation requested = some (signal, next)) :
    (∃ n, operation = .pull n ∧ requested ≠ longMin ∧ signal = .onPull n ∧
      next = demandAfter requested n) ∨
    (∃ element, operation = .emit element ∧ 0 < requested ∧ signal = .onPush element ∧
      next = demandBefore requested) ∨
    (requested ≠ longMin ∧ signal.isTerminal = true ∧ next = longMin) := by
  cases operation with
  | emit element =>
      by_cases spent : requested ≤ 0
      · rw [response, if_pos spent] at responds
        cases responds
      · rw [response, if_neg spent] at responds
        cases responds
        exact .inr (.inl ⟨element, rfl, Int.not_le.mp spent, rfl, rfl⟩)
  | _ =>
      by_cases closed : requested = longMin
      · rw [response, if_pos closed] at responds
        cases responds
      · rw [response, if_neg closed] at responds
        cases responds
        first
        | exact .inl ⟨_, rfl, closed, rfl, rfl⟩
        | exact .inr (.inr ⟨closed, rfl, rfl⟩)

/-- A closed connection does not respond. -/
theorem response_closed (operation : Operation Element Failure) : response operation longMin = none := by
  cases operation <;> rfl

/-- The return value of an operation that delivers no signal. -/
def silentResult : Operation Element Failure → Int
  | .emit _ => -1
  | _ => eok

/-- Whatever the callbacks do, an operation delivers at most one signal. It has set the demand
before, and does nothing after the callback has returned. -/
theorem operate_eq (handle : Signal Element Failure → Action World)
    (operation : Operation Element Failure) (started : Started World) :
    operate handle operation started =
      match response operation started.requested with
      | none => .ok (silentResult operation, started)
      | some (signal, requested) =>
          (handle signal (started.withRequested requested)).map fun started => (eok, started) := by
  cases operation with
  | pull n =>
      simp only [operate, response, connectionInletPull]
      split <;> rfl
  | cancel =>
      simp only [operate, response, connectionInletCancel]
      split <;> rfl
  | emit element =>
      simp only [operate, response, outletEmit, demandBefore]
      split
      · rfl
      · split
        · rfl
        · rfl
  | complete =>
      simp only [operate, response, outletComplete]
      split <;> rfl
  | fail failure =>
      simp only [operate, response, outletFail]
      split <;> rfl

/-- An operation that has no response only returns. -/
theorem operate_silent {handle : Signal Element Failure → Action World}
    {operation : Operation Element Failure} {started : Started World}
    (silent : response operation started.requested = none) :
    operate handle operation started = .ok (silentResult operation, started) := by
  rw [operate_eq, silent]

/-- An operation that has a response sets the demand and leaves the rest to the callback. -/
theorem operate_signal {handle : Signal Element Failure → Action World}
    {operation : Operation Element Failure} {started : Started World}
    {signal : Signal Element Failure} {requested : Int}
    (responds : response operation started.requested = some (signal, requested)) :
    operate handle operation started =
      (handle signal (started.withRequested requested)).map fun started => (eok, started) := by
  rw [operate_eq, responds]

/-! ## The machine -/

/-- What happens on a connection: some code performs an operation, or the innermost callback
returns. -/
inductive Event (Element Failure : Type) where
  | operation (operation : Operation Element Failure)
  | returned
  deriving DecidableEq, Repr

/-- A connection in use: its link, the signals delivered so far, and the callbacks that have not
returned, innermost first. -/
structure Usage (Element Failure : Type) where
  link : Link
  signals : List (Signal Element Failure)
  frames : List (Signal Element Failure)

/-- A connection that `rxc_connection_create` has just made. -/
def Usage.create (inlet : Option InletScheduler) (worker : Worker) : Usage Element Failure :=
  ⟨⟨connectionCreate, inlet, worker⟩, [], []⟩

/-- `conn->requested`. -/
def Usage.requested (usage : Usage Element Failure) : Int := usage.link.connection.requested

/-- Take note of a signal. -/
def record (signal : Signal Element Failure) : Action (List (Signal Element Failure)) :=
  fun started => .ok { started with world := started.world ++ [signal] }

/-- One event on a connection. The code that performs the operation may be any of the callbacks
that are running, or none. -/
inductive UsageStep : Usage Element Failure → Event Element Failure → Usage Element Failure →
    Prop where
  | operation {usage : Usage Element Failure} {operation : Operation Element Failure}
      {result : Int} {started : Started (List (Signal Element Failure))} :
      operate record operation ⟨usage.link, []⟩ = .ok (result, started) →
      UsageStep usage (.operation operation)
        ⟨started.link, usage.signals ++ started.world, started.world ++ usage.frames⟩
  | returned {usage : Usage Element Failure} {signal : Signal Element Failure}
      {frames : List (Signal Element Failure)} : usage.frames = signal :: frames →
      UsageStep usage .returned { usage with frames := frames }

/-- The link once the demand has been assigned. -/
def Link.withRequested (link : Link) (requested : Int) : Link :=
  { link with connection := ⟨requested⟩ }

/-- An operation that has no response changes nothing. -/
theorem UsageStep.silent {usage : Usage Element Failure} {operation : Operation Element Failure}
    (silent : response operation usage.requested = none) :
    UsageStep usage (.operation operation) usage := by
  have performed : operate record operation ⟨usage.link, []⟩ =
      .ok (silentResult operation, ⟨usage.link, []⟩) := operate_silent silent
  have step := UsageStep.operation performed
  rw [List.append_nil, List.nil_append] at step
  exact step

/-- An operation that has a response sets the demand and delivers the signal. -/
theorem UsageStep.signal {usage : Usage Element Failure} {operation : Operation Element Failure}
    {signal : Signal Element Failure} {requested : Int}
    (responds : response operation usage.requested = some (signal, requested)) :
    UsageStep usage (.operation operation)
      ⟨usage.link.withRequested requested, usage.signals ++ [signal], signal :: usage.frames⟩ := by
  have performed : operate record operation ⟨usage.link, []⟩ =
      .ok (eok, ⟨usage.link.withRequested requested, [signal]⟩) := operate_signal responds
  exact UsageStep.operation performed

/-- The events on a connection are silent operations, operations that deliver a signal, and
returns. -/
theorem UsageStep.cases {usage next : Usage Element Failure} {event : Event Element Failure}
    (step : UsageStep usage event next) :
    (∃ operation, event = .operation operation ∧
      ((response operation usage.requested = none ∧ next = usage) ∨
        ∃ signal requested, response operation usage.requested = some (signal, requested) ∧
          next = ⟨usage.link.withRequested requested, usage.signals ++ [signal],
            signal :: usage.frames⟩)) ∨
      (event = .returned ∧ next.link = usage.link ∧ next.signals = usage.signals) := by
  cases step with
  | returned => exact .inr ⟨rfl, rfl, rfl⟩
  | @operation operation result started performed =>
      refine .inl ⟨operation, rfl, ?_⟩
      cases responds : response operation usage.requested with
      | none =>
          cases (operate_silent responds).symm.trans performed
          refine .inl ⟨rfl, ?_⟩
          rw [List.append_nil, List.nil_append]
      | some answer =>
          obtain ⟨signal, requested⟩ := answer
          cases (operate_signal responds).symm.trans performed
          exact .inr ⟨signal, requested, rfl, rfl⟩

/-! ## Callbacks that call back

The operations as the library performs them, with callbacks that are themselves programs over the
operations. Their nested executions are runs of the machine.
-/

/-- User code that keeps its state in a world: it performs operations one after the other, each
chosen after what the earlier ones have returned and left in the world. -/
inductive Program (World Element Failure : Type) where
  | done (world : World)
  | operate (world : World) (operation : Operation Element Failure)
      (next : Int → World → Program World Element Failure)

/-- Run user code. -/
def Program.run (perform : Operation Element Failure → Started World →
      Except Fault (Int × Started World)) :
    Program World Element Failure → Link → Except Fault (Started World)
  | .done world, link => .ok ⟨link, world⟩
  | .operate world operation next, link =>
      (perform operation ⟨link, world⟩).bind fun (result, started) =>
        (next result started.world).run perform started.link

/-- Perform an operation on a connection whose callbacks run the code of the user, on a stack that
holds this many callbacks. -/
def perform (user : Signal Element Failure → World → Program World Element Failure) :
    Nat → Operation Element Failure → Started World → Except Fault (Int × Started World)
  | 0, _, _ => .error .diverge
  | depth + 1, operation, started =>
      operate (fun signal started =>
        (user signal started.world).run (perform user depth) started.link) operation started

section

variable {user : Signal Element Failure → World → Program World Element Failure}

/-- The nested execution leads the machine from one link to the other, and all its callbacks have
returned. -/
def Nests (link : Link) (after : Link) : Prop :=
  ∀ signals frames : List (Signal Element Failure), ∃ events later,
    Run UsageStep ⟨link, signals, frames⟩ events ⟨after, signals ++ later, frames⟩

theorem Nests.refl (link : Link) : @Nests Element Failure link link := fun signals frames =>
  ⟨[], [], by rw [List.append_nil]; exact .nil⟩

/-- Nested executions one after the other. -/
theorem Nests.trans {first second third : Link} (left : @Nests Element Failure first second)
    (right : @Nests Element Failure second third) : @Nests Element Failure first third := by
  intro signals frames
  obtain ⟨events, later, run⟩ := left signals frames
  obtain ⟨events', later', run'⟩ := right (signals ++ later) frames
  rw [List.append_assoc] at run'
  exact ⟨_, _, run.append run'⟩

/-- User code nests where every operation does. -/
theorem Program.run_nests {performed : Operation Element Failure → Started World →
      Except Fault (Int × Started World)}
    (nests : ∀ operation started result after, performed operation started = .ok (result, after) →
      @Nests Element Failure started.link after.link)
    {program : Program World Element Failure} {link : Link} {after : Started World}
    (ran : program.run performed link = .ok after) : @Nests Element Failure link after.link := by
  induction program generalizing link with
  | done world =>
      cases ran
      exact Nests.refl link
  | operate world operation next ih =>
      obtain ⟨⟨result, started⟩, first, rest⟩ := bind_eq_ok ran
      exact (nests _ _ _ _ first).trans (ih result started.world rest)

/-- **The machine covers every re-entrant execution.** Performing an operation on a connection with
arbitrary user code behind it is a run of the machine that ends with all callbacks returned. -/
theorem perform_nests {depth : Nat} {operation : Operation Element Failure}
    {started after : Started World} {result : Int}
    (performed : perform user depth operation started = .ok (result, after)) :
    @Nests Element Failure started.link after.link := by
  induction depth generalizing operation started result after with
  | zero => cases performed
  | succ depth ih =>
      unfold perform at performed
      intro signals frames
      cases responds : response operation started.requested with
      | none =>
          cases (operate_silent responds).symm.trans performed
          refine ⟨[.operation operation], [], ?_⟩
          rw [List.append_nil]
          exact Run.singleton (UsageStep.silent responds)
      | some answer =>
          obtain ⟨signal, requested⟩ := answer
          rw [operate_signal responds] at performed
          obtain ⟨started', ran, ended⟩ := map_eq_ok performed
          cases ended
          -- the callback runs above its own frame, and returns
          have entered : UsageStep ⟨started.link, signals, frames⟩ (.operation operation)
              ⟨started.link.withRequested requested, signals ++ [signal], signal :: frames⟩ :=
            UsageStep.signal responds
          obtain ⟨events, later, inside⟩ :=
            Program.run_nests (fun _ _ _ _ => ih) ran (signals ++ [signal]) (signal :: frames)
          have left := inside.snoc (UsageStep.returned rfl)
          rw [List.append_assoc] at left
          exact ⟨_, _, (Run.singleton entered).append left⟩

end

/-! ## Back-pressure -/

/-- The elements asked for. -/
def pulledBy (events : List (Event Element Failure)) : Int :=
  (events.map fun event => match event with
    | .operation (.pull n) => n
    | _ => 0).sum

/-- The number of elements handed over. -/
def pushesOf (signals : List (Signal Element Failure)) : Nat := signals.countP Signal.isPush

theorem pulledBy_snoc (events : List (Event Element Failure)) (event : Event Element Failure) :
    pulledBy (events ++ [event]) = pulledBy events + pulledBy [event] := by
  simp only [pulledBy, List.map_append, List.sum_append]

theorem pushesOf_snoc (signals : List (Signal Element Failure)) (signal : Signal Element Failure) :
    pushesOf (signals ++ [signal]) = pushesOf signals + pushesOf [signal] := by
  simp only [pushesOf, List.countP_append]

/-- The counter of an open connection is the demand not yet met, and no signal has ended the
stream; a closed connection has delivered one terminal signal, the last of all. -/
structure Balanced (events : List (Event Element Failure)) (usage : Usage Element Failure) :
    Prop where
  counted : usage.requested ≠ longMin →
    usage.requested = pulledBy events - pushesOf usage.signals ∧ 0 ≤ usage.requested ∧
      ∀ signal ∈ usage.signals, signal.isTerminal = false
  pushes_le : pushesOf usage.signals ≤ pulledBy events
  ended : usage.requested = longMin → ∃ before last, usage.signals = before ++ [last] ∧
    last.isTerminal = true ∧ ∀ signal ∈ before, signal.isTerminal = false

/-- Every pull asks for at least one element, and all together for less than `LONG_MAX`. -/
structure Modest (events : List (Event Element Failure)) : Prop where
  positive : ∀ n, .operation (.pull n) ∈ events → 1 ≤ n
  bounded : pulledBy events < longMax

/-- A single event does not take demand back. -/
theorem pulledBy_singleton_nonneg {event : Event Element Failure}
    (positive : ∀ n, event = .operation (.pull n) → 1 ≤ n) : 0 ≤ pulledBy [event] := by
  unfold pulledBy
  rw [List.map_singleton, List.sum_singleton]
  split
  · have := positive _ rfl
    omega
  · exact Int.le_refl 0

/-- What happens before the last event is modest too. -/
theorem Modest.of_snoc {events : List (Event Element Failure)} {event : Event Element Failure}
    (modest : Modest (events ++ [event])) : Modest events := by
  refine ⟨fun n member => modest.positive n (List.mem_append_left _ member), ?_⟩
  have more := pulledBy_singleton_nonneg fun n (same : event = .operation (.pull n)) =>
    modest.positive n (List.mem_append_right _ (same ▸ List.mem_singleton_self event))
  have bounded := modest.bounded
  rw [pulledBy_snoc] at bounded
  omega

/-- A connection that has just been made is balanced. -/
theorem balanced_create (inlet : Option InletScheduler) (worker : Worker) :
    Balanced [] (Usage.create inlet worker : Usage Element Failure) := by
  refine ⟨fun _ => ⟨rfl, Int.le_refl 0, fun _ member => (List.not_mem_nil member).elim⟩,
    Int.le_refl 0, fun closed => ?_⟩
  exact (Int.ne_of_gt longMin_lt_zero closed).elim

section

variable {events : List (Event Element Failure)} {usage : Usage Element Failure}

/-- The last of the signals ends the stream that was open until then. -/
theorem Balanced.close (balanced : Balanced events usage) (opened : usage.requested ≠ longMin)
    {event : Event Element Failure} (more : 0 ≤ pulledBy [event])
    {signal : Signal Element Failure} (terminal : signal.isTerminal = true)
    (frames : List (Signal Element Failure)) :
    Balanced (events ++ [event])
      ⟨usage.link.withRequested longMin, usage.signals ++ [signal], frames⟩ := by
  have noPush : pushesOf [signal] = 0 := by
    cases signal <;> first | rfl | cases terminal
  obtain ⟨_, _, quiet⟩ := balanced.counted opened
  have pushes := balanced.pushes_le
  refine ⟨fun still => (still rfl).elim, ?_, fun _ => ⟨_, _, rfl, terminal, quiet⟩⟩
  rw [pushesOf_snoc, noPush, pulledBy_snoc]
  omega

/-- The stream goes on after a signal that does not end it. -/
theorem Balanced.carry (balanced : Balanced events usage) (opened : usage.requested ≠ longMin)
    {event : Event Element Failure} {signal : Signal Element Failure}
    (goesOn : signal.isTerminal = false) {requested : Int} (nonneg : 0 ≤ requested)
    (demand : requested = usage.requested + pulledBy [event] - pushesOf [signal])
    (frames : List (Signal Element Failure)) :
    Balanced (events ++ [event])
      ⟨usage.link.withRequested requested, usage.signals ++ [signal], frames⟩ := by
  obtain ⟨counted, _, quiet⟩ := balanced.counted opened
  have now : requested = pulledBy (events ++ [event]) - pushesOf (usage.signals ++ [signal]) := by
    rw [pushesOf_snoc, pulledBy_snoc, demand, counted]
    push_cast
    omega
  refine ⟨fun _ => ⟨now, nonneg, ?_⟩, ?_, fun closed => ?_⟩
  · intro other member
    rcases List.mem_append.mp member with earlier | last
    · exact quiet other earlier
    · rw [List.mem_singleton.mp last]
      exact goesOn
  · change (pushesOf (usage.signals ++ [signal]) : Int) ≤ pulledBy (events ++ [event])
    omega
  · have closed : requested = longMin := closed
    rw [closed] at nonneg
    exact (Int.not_le.mpr longMin_lt_zero nonneg).elim

/-- An event without a signal leaves the account as it was. -/
theorem Balanced.silent (balanced : Balanced events usage) {event : Event Element Failure}
    (noPull : usage.requested ≠ longMin → pulledBy [event] = 0) (more : 0 ≤ pulledBy [event]) :
    Balanced (events ++ [event]) usage := by
  have pushes := balanced.pushes_le
  refine ⟨fun opened => ?_, ?_, balanced.ended⟩
  · rw [pulledBy_snoc, noPull opened, Int.add_zero]
    exact balanced.counted opened
  · rw [pulledBy_snoc]
    omega

/-- One event keeps the account. -/
theorem Balanced.step {event : Event Element Failure} {next : Usage Element Failure}
    (balanced : Balanced events usage) (modest : Modest (events ++ [event]))
    (step : UsageStep usage event next) : Balanced (events ++ [event]) next := by
  have more : 0 ≤ pulledBy [event] := pulledBy_singleton_nonneg fun n same =>
    modest.positive n (List.mem_append_right _ (same ▸ List.mem_singleton_self event))
  have bounded := modest.bounded
  have pushes := balanced.pushes_le
  rw [pulledBy_snoc] at bounded
  rcases step.cases with ⟨operation, rfl, ⟨silent, rfl⟩ | ⟨signal, requested, responds, rfl⟩⟩ |
    ⟨rfl, link, signals⟩
  · refine balanced.silent (fun opened => ?_) more
    cases operation with
    | pull n =>
        rw [response, if_neg opened] at silent
        cases silent
    | cancel => rfl
    | emit element => rfl
    | complete => rfl
    | fail failure => rfl
  · rcases response_cases responds with ⟨n, rfl, opened, rfl, rfl⟩ | ⟨element, rfl, demanded, rfl, rfl⟩ |
      ⟨opened, terminal, rfl⟩
    · obtain ⟨counted, nonneg, _⟩ := balanced.counted opened
      have asked : pulledBy [(.operation (.pull n) : Event Element Failure)] = n := by
        simp only [pulledBy, List.map_singleton, List.sum_singleton]
      have sum : demandAfter usage.requested n = usage.requested + n :=
        demandAfter_of_le (by omega) (by omega)
      refine balanced.carry opened rfl (by omega) ?_ _
      rw [sum, asked]
      exact (Int.sub_zero _).symm
    · have opened : usage.requested ≠ longMin := by
        intro closed
        rw [closed] at demanded
        exact Int.lt_asymm longMin_lt_zero demanded
      obtain ⟨counted, nonneg, _⟩ := balanced.counted opened
      have left : demandBefore usage.requested = usage.requested - 1 := if_pos (by omega)
      refine balanced.carry opened rfl (by omega) ?_ _
      rw [left]
      exact (congrArg (· - 1) (Int.add_zero usage.requested)).symm
    · exact balanced.close opened more terminal _
  · obtain ⟨link', signals', frames'⟩ := next
    cases link
    cases signals
    have kept := balanced.silent (fun _ => rfl) more
    exact ⟨kept.counted, kept.pushes_le, kept.ended⟩

end

section

variable {earlier : List (Signal Element Failure)} {last : Signal Element Failure}

/-- Signals that only end at the last hold one terminal signal. -/
theorem terminal_countP (terminal : last.isTerminal = true)
    (quiet : ∀ signal ∈ earlier, signal.isTerminal = false) :
    (earlier ++ [last]).countP Signal.isTerminal ≤ 1 := by
  have none : earlier.countP Signal.isTerminal = 0 :=
    List.countP_eq_zero.mpr fun signal member => by rw [quiet signal member]; decide
  have one : (earlier ++ [last]).countP Signal.isTerminal = 1 := by
    rw [List.countP_append, none, List.countP_singleton, if_pos terminal]
  exact Nat.le_of_eq one

/-- Nothing comes behind the terminal signal of such signals. -/
theorem terminal_last (quiet : ∀ signal ∈ earlier, signal.isTerminal = false)
    {before after : List (Signal Element Failure)} {other : Signal Element Failure}
    (split : earlier ++ [last] = before ++ other :: after) (ends : other.isTerminal = true) :
    after = [] := by
  induction after using List.reverseRecOn with
  | nil => rfl
  | append_singleton after final _ =>
      rw [← List.cons_append, ← List.append_assoc] at split
      obtain ⟨shorter, _⟩ := List.append_inj' split rfl
      have member : other ∈ earlier := by
        rw [shorter]
        exact List.mem_append_right _ List.mem_cons_self
      rw [quiet other member] at ends
      cases ends

end

/-- In every run the account is kept. -/
theorem balanced_of_run {inlet : Option InletScheduler} {worker : Worker}
    {events : List (Event Element Failure)} {usage : Usage Element Failure}
    (run : Run UsageStep (Usage.create inlet worker) events usage) (modest : Modest events) :
    Balanced events usage := by
  refine run.history (fun events usage => Modest events → Balanced events usage)
    (fun _ => balanced_create inlet worker) ?_ modest
  intro events usage event next _ ih step modest
  exact (ih modest.of_snoc).step modest step

/-- **The back-pressure protocol of a connection.** At every moment of every run, inside callbacks
included: the counter of an open connection is the elements pulled less the elements pushed and is
not negative, no more elements are pushed than were pulled, at most one terminal signal is
delivered, and no signal comes after it. -/
theorem connection_backPressure {inlet : Option InletScheduler} {worker : Worker}
    {events : List (Event Element Failure)} {usage : Usage Element Failure}
    (run : Run UsageStep (Usage.create inlet worker) events usage) (modest : Modest events) :
    (usage.requested ≠ longMin →
      usage.requested = pulledBy events - pushesOf usage.signals ∧ 0 ≤ usage.requested) ∧
    pushesOf usage.signals ≤ pulledBy events ∧
    usage.signals.countP Signal.isTerminal ≤ 1 ∧
    ∀ before terminal after, usage.signals = before ++ terminal :: after →
      terminal.isTerminal = true → after = [] := by
  have balanced := balanced_of_run run modest
  refine ⟨fun opened => ?_, balanced.pushes_le, ?_⟩
  · obtain ⟨counted, nonneg, _⟩ := balanced.counted opened
    exact ⟨counted, nonneg⟩
  · by_cases closed : usage.requested = longMin
    · obtain ⟨earlier, last, signals, terminal, quiet⟩ := balanced.ended closed
      rw [signals]
      exact ⟨terminal_countP terminal quiet, fun _ _ _ => terminal_last quiet⟩
    · obtain ⟨_, _, quiet⟩ := balanced.counted closed
      refine ⟨?_, fun before other after split ends => ?_⟩
      · rw [List.countP_eq_zero.mpr fun signal member => by rw [quiet signal member]; decide]
        exact Nat.zero_le 1
      · have member : other ∈ usage.signals := by
          rw [split]
          exact List.mem_append_right _ List.mem_cons_self
        rw [quiet other member] at ends
        cases ends

/-- A sink that cancels while it is handed the element the source emits inside the pull, and pulls
once more from there. -/
theorem connection_backPressure_cancel :
    pushesOf [(.onPull 1 : Signal Nat Unit), .onPush 7, .onDownstreamFinish] ≤
      pulledBy [(.operation (.pull 1) : Event Nat Unit), .operation (.emit 7), .operation .cancel,
        .returned, .operation (.pull 1)] := by
  have pulled : UsageStep (Usage.create none ⟨[], false⟩ : Usage Nat Unit)
      (.operation (.pull 1)) _ := UsageStep.signal rfl
  have emitted := Run.snoc (Run.singleton pulled) (@UsageStep.signal _ _ _ (.emit 7) _ _ rfl)
  have cancelled := Run.snoc emitted (@UsageStep.signal _ _ _ .cancel _ _ rfl)
  have returned := Run.snoc cancelled (UsageStep.returned rfl)
  have again := Run.snoc returned (@UsageStep.silent _ _ _ (.pull 1) rfl)
  refine (connection_backPressure again ⟨fun n member => ?_, by decide⟩).2.1
  simp only [List.cons_append, List.nil_append, List.mem_cons,
    Event.operation.injEq, Operation.pull.injEq, reduceCtorEq, List.not_mem_nil, or_false,
    false_or, or_self] at member
  omega

end Sas.Rxc
