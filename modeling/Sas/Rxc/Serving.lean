import Sas.Foundation.Settles
import Sas.Rxc.Flattened
import Sas.Rxc.Reentrancy

/-! # What a count pipeline serves

A pull of the sink is a task of the worker. While a task is served the demand is what is left of its
amount, and the pulls the sink makes meanwhile wait in the queue; so all that was pulled is what was
pushed, what is left and what waits. The source ends the stream in the middle of a task when it has
nothing left to push, and from then on nothing happens any more.
-/

namespace Sas.Rxc

open Foundation

variable {Element : Type}

/-! ## What is told to a sink -/

/-- The event is a signal to the sink. -/
def FlowEvent.isSignal : FlowEvent Element → Bool
  | .onConnect | .onPush _ | .onUpstreamFinish => true
  | _ => false

/-- The amount the sink pulls in an event. -/
def FlowEvent.amount : FlowEvent Element → Nat
  | .pull n => n.val
  | _ => 0

/-- The signals to the sink in a log. -/
def signalsIn (events : List (FlowEvent Element)) : List (FlowEvent Element) :=
  events.filter FlowEvent.isSignal

/-- All the sink has pulled in a log. -/
def pulledIn (events : List (FlowEvent Element)) : Nat := (events.map FlowEvent.amount).sum

/-- The sink has cancelled in a log. -/
def cancelledIn (events : List (FlowEvent Element)) : Bool := events.any FlowEvent.isCancel

/-- What a source that holds a list of elements tells a sink that pulls a number of them: the first
elements, and that it has finished as soon as it is asked for one it does not have. -/
def answer (supply : List Element) (total : Nat) : List (FlowEvent Element) :=
  (supply.take total).map .onPush ++ if supply.length < total then [.onUpstreamFinish] else []

/-- The elements of a count source. -/
def supplyOf (box : Int → Element) (start stop : Int) : List Element :=
  (List.range (stop - start).toNat).map fun i : Nat => box (start + i)

section

variable {events told : List (FlowEvent Element)} {total : Nat}

/-- An event that is no signal to the sink. -/
theorem signalsIn_quiet (event : FlowEvent Element) (before : signalsIn events = told)
    (quiet : event.isSignal = false) : signalsIn (events ++ [event]) = told := by
  rw [signalsIn, List.filter_append, List.filter_cons, quiet]
  exact (List.append_nil _).trans before

/-- A signal to the sink. -/
theorem signalsIn_signal (event : FlowEvent Element) (before : signalsIn events = told)
    (signal : event.isSignal = true) : signalsIn (events ++ [event]) = told ++ [event] := by
  rw [signalsIn, List.filter_append, List.filter_cons, signal]
  exact congrArg (· ++ [event]) before

/-- One event more adds the amount it pulls. -/
theorem pulledIn_snoc (event : FlowEvent Element) (before : pulledIn events = total) :
    pulledIn (events ++ [event]) = total + event.amount := by
  rw [pulledIn, List.map_append, List.sum_append, List.map_singleton, List.sum_singleton]
  exact congrArg (· + event.amount) before

/-- An event that is no cancellation leaves the sink as patient as it was. -/
theorem cancelledIn_snoc (event : FlowEvent Element) {cancelled : Bool}
    (before : cancelledIn events = cancelled) (other : event.isCancel = false) :
    cancelledIn (events ++ [event]) = cancelled := by
  rw [cancelledIn, List.any_append, List.any_cons, other]
  exact (Bool.or_false _).trans before

/-- A sink that cancels last has cancelled. -/
theorem cancelledIn_cancel : cancelledIn (events ++ [.cancel]) = true := by
  rw [cancelledIn, List.any_append]
  exact Bool.or_true _

/-- The scheduling inlet refers to the connection until the sink cancels. -/
theorem refers_until {inlet : Option InletScheduler} {cancelled : Bool}
    (refers : inlet = some ⟨!cancelled⟩) (same : cancelledIn events = cancelled) :
    inlet = some ⟨!cancelledIn events⟩ := by
  rw [same]
  exact refers

/-- The inlet of a sink that has not cancelled has its connection. -/
theorem refers_of_patient {inlet : Option InletScheduler}
    (refers : inlet = some ⟨!cancelledIn events⟩) (patient : cancelledIn events = false) :
    inlet = some ⟨true⟩ := by
  rw [refers, patient]
  rfl

/-- The inlet of a sink that has cancelled has given up its connection. -/
theorem released_of_cancelled {inlet : Option InletScheduler}
    (refers : inlet = some ⟨!cancelledIn events⟩) (cancelled : cancelledIn events = true) :
    inlet = some ⟨false⟩ := by
  rw [refers, cancelled]
  rfl

end

/-- A count source supplies one element for every number up to `stop`. -/
theorem length_supplyOf (box : Int → Element) (start stop : Int) :
    (supplyOf box start stop).length = (stop - start).toNat := by
  rw [supplyOf, List.length_map, List.length_range]

/-- The next element that is served is the one the count stands at. -/
theorem take_supplyOf_succ (box : Int → Element) {start stop : Int} {served : Nat}
    (more : start + served < stop) :
    (supplyOf box start stop).take (served + 1) =
      (supplyOf box start stop).take served ++ [box (start + served)] := by
  have inside : served < (supplyOf box start stop).length := by
    rw [length_supplyOf]
    omega
  rw [List.take_add_one, List.getElem?_eq_getElem inside]
  simp only [supplyOf, List.getElem_map, List.getElem_range, Option.toList_some]

/-! ## Demand -/

/-- `n` as it is passed to `rxc_inlet_pull`. -/
def Amount.toLong (n : Amount) : Int := n.val

/-- The first pull sets the demand. -/
theorem demandAfter_zero (n : Amount) : demandAfter 0 n.toLong = n.val := by
  have bounded : (0 : Int) + n.toLong ≤ longMax := by
    rw [Int.zero_add]
    exact n.bounded
  rw [demandAfter_of_le (by unfold Amount.toLong; omega) bounded, Int.zero_add, Amount.toLong]

/-- Unbounded demand stays unbounded. -/
theorem demandAfter_longMax (n : Amount) : demandAfter longMax n.toLong = longMax := by
  obtain ⟨n, positive, bounded⟩ := n
  have negative : wrapLong (longMax + (n : Int)) < 0 := by
    unfold wrapLong
    unfold longMax at bounded ⊢
    rw [Int.bmod_def]
    omega
  exact if_pos negative

/-- An element is pushed into some demand. -/
theorem outletEmit_of_pos {World : Type} (sink : SinkLogic World Element Empty) (element : Element)
    {started : Started World} (demanded : 0 < started.requested) :
    outletEmit sink element started =
      (sink.onPush element (started.withRequested (demandBefore started.requested))).map
        fun started => (eok, started) := by
  unfold outletEmit demandBefore
  rw [if_neg (Int.not_le.mpr demanded)]
  split <;> rfl

/-! ## A pipeline that serves -/

/-- The pipeline with an open connection: it has pushed this many elements, this much is left of the
pull it serves, and these pulls wait. A hungry sink always has some demand. -/
structure Serving (hungry : Prop) (box : Int → Element) (start stop : Int) (served left : Nat)
    (tasks : List Amount) (wip : Bool) (started : Started (FlowWorld Unit Element)) : Prop where
  requested : started.requested = left ∨ started.requested = longMax
  inlet : started.link.inlet = some ⟨true⟩
  worker : started.link.worker = ⟨tasks.map Amount.toLong, wip⟩
  count : started.world.count = start + served
  within : served ≤ (stop - start).toNat
  signals : signalsIn started.world.events =
    .onConnect :: ((supplyOf box start stop).take served).map .onPush
  pulled : pulledIn started.world.events = served + left + (tasks.map Amount.val).sum
  patient : cancelledIn started.world.events = false
  owing : hungry → 0 < left + tasks.length

/-- The pipeline with a closed connection: the sink has cancelled, which a hungry sink does not do, or
it has been pushed everything and told the end after that. -/
structure Ended (hungry : Prop) (box : Int → Element) (start stop : Int) (worker : Worker)
    (started : Started (FlowWorld Unit Element)) : Prop where
  requested : started.requested = longMin
  inlet : started.link.inlet = some ⟨!cancelledIn started.world.events⟩
  worker : started.link.worker = worker
  told : (cancelledIn started.world.events = true ∧ ¬ hungry) ∨
    (stop - start).toNat < pulledIn started.world.events ∧
      signalsIn started.world.events =
        .onConnect :: ((supplyOf box start stop).map .onPush ++ [.onUpstreamFinish])

/-- The pipeline with its scheduling inlet no longer referring to the connection. -/
def Started.released {World : Type} (started : Started World) : Started World :=
  { started with link := { started.link with inlet := some ⟨false⟩ } }

section

variable {hungry hungry' : Prop} {box : Int → Element} {start stop : Int} {served left : Nat}
  {tasks : List Amount} {wip : Bool} {worker : Worker} {started : Started (FlowWorld Unit Element)}

namespace Serving

/-- A pipeline that serves is open. -/
theorem opened (serving : Serving hungry box start stop served left tasks wip started) :
    started.requested ≠ longMin := by
  rcases serving.requested with exactly | unbounded
  · rw [exactly]
    unfold longMin
    omega
  · rw [unbounded]
    decide

/-- There is demand while some of a pull is left. -/
theorem demanded (serving : Serving hungry box start stop served (left + 1) tasks wip started) :
    0 < started.requested := by
  rcases serving.requested with exactly | unbounded
  · rw [exactly]
    exact Int.natCast_pos.mpr left.succ_pos
  · rw [unbounded]
    decide

/-- A sink that is not said to be hungry need not have any demand. -/
theorem relax (serving : Serving hungry box start stop served left tasks wip started)
    (weaker : hungry' → hungry) : Serving hungry' box start stop served left tasks wip started :=
  { serving with owing := fun holds => serving.owing (weaker holds) }

/-- Another pull waits. -/
theorem enqueue (serving : Serving hungry box start stop served left tasks wip started)
    (n : Amount) (wip' : Bool) :
    Serving hungry' box start stop served left (tasks ++ [n]) wip'
      ((started.noted (.pull n)).withWorker ⟨(tasks ++ [n]).map Amount.toLong, wip'⟩) where
  requested := serving.requested
  inlet := serving.inlet
  worker := rfl
  count := serving.count
  within := serving.within
  signals := signalsIn_quiet _ serving.signals rfl
  pulled := by
    refine (pulledIn_snoc _ serving.pulled).trans ?_
    rw [List.map_append, List.sum_append]
    exact Nat.add_assoc _ _ _
  patient := cancelledIn_snoc _ serving.patient rfl
  owing _ := by
    rw [List.length_append]
    exact Nat.lt_add_left _ (Nat.lt_add_left _ Nat.one_pos)

/-- The worker takes the next pull, and the connection passes it on. -/
theorem take {n : Amount} (serving : Serving hungry box start stop served 0 (n :: tasks) wip started) :
    Serving hungry box start stop served n.val tasks wip
      (((started.withWorker ⟨tasks.map Amount.toLong, wip⟩).withRequested
        (demandAfter started.requested n.toLong)).noted (.onPull n.toLong)) where
  requested := by
    change demandAfter started.requested n.toLong = n.val ∨
      demandAfter started.requested n.toLong = longMax
    rcases serving.requested with exactly | unbounded
    · left
      rw [exactly]
      exact demandAfter_zero n
    · right
      rw [unbounded]
      exact demandAfter_longMax n
  inlet := serving.inlet
  worker := rfl
  count := serving.count
  within := serving.within
  signals := signalsIn_quiet _ serving.signals rfl
  pulled := by
    refine (pulledIn_snoc _ serving.pulled).trans ?_
    rw [List.map_cons, List.sum_cons]
    exact (Nat.add_assoc _ _ _).symm
  patient := cancelledIn_snoc _ serving.patient rfl
  owing _ := Nat.lt_add_right _ n.positive

/-- The source pushes its next element. -/
theorem push (serving : Serving hungry box start stop served (left + 1) tasks wip started)
    (more : started.world.count < stop) :
    Serving False box start stop (served + 1) left tasks wip
      ((started.counted.withRequested (demandBefore started.requested)).noted
        (.onPush (box started.world.count))) where
  requested := by
    change demandBefore started.requested = left ∨ demandBefore started.requested = longMax
    unfold demandBefore
    rcases serving.requested with exactly | unbounded
    · by_cases limited : started.requested ≠ longMax
      · left
        rw [if_pos limited, exactly]
        omega
      · right
        rw [if_neg limited]
        exact not_not.mp limited
    · right
      rw [unbounded]
      rfl
  inlet := serving.inlet
  worker := serving.worker
  count := by
    change started.world.count + 1 = _
    rw [serving.count, Int.add_assoc]
    rfl
  within := by
    have count := serving.count
    omega
  signals := by
    have next : start + served < stop := serving.count ▸ more
    refine (signalsIn_signal _ serving.signals rfl).trans ?_
    rw [serving.count, take_supplyOf_succ box next, List.map_append]
    rfl
  pulled := by
    refine (pulledIn_snoc _ serving.pulled).trans ?_
    change served + (left + 1) + _ + 0 = _
    omega
  patient := cancelledIn_snoc _ serving.patient rfl
  owing := False.elim

/-- The source has nothing left to push. -/
theorem finish (serving : Serving hungry box start stop served (left + 1) tasks wip started)
    (last : stop ≤ started.world.count) :
    Ended hungry box start stop started.link.worker
      ((started.withRequested longMin).noted .onUpstreamFinish) where
  requested := rfl
  inlet := by
    have referring : started.link.inlet = some ⟨!false⟩ := serving.inlet
    exact refers_until referring (cancelledIn_snoc _ serving.patient rfl)
  worker := rfl
  told := by
    have count := serving.count
    have within := serving.within
    have all : served = (stop - start).toNat := by omega
    refine .inr ⟨?_, (signalsIn_signal _ serving.signals rfl).trans ?_⟩
    · refine Nat.lt_of_lt_of_eq ?_ (pulledIn_snoc _ serving.pulled).symm
      omega
    · rw [List.take_of_length_le (by rw [length_supplyOf, all])]
      rfl

/-- The sink cancels. -/
theorem cancel (serving : Serving hungry box start stop served left tasks wip started)
    (fickle : ¬ hungry) :
    Ended hungry box start stop ⟨tasks.map Amount.toLong, wip⟩
      (((started.noted .cancel).released.withRequested longMin).noted .onDownstreamFinish) where
  requested := rfl
  inlet := refers_until rfl (cancelledIn_snoc _ cancelledIn_cancel rfl)
  worker := serving.worker
  told := .inl ⟨cancelledIn_snoc _ cancelledIn_cancel rfl, fickle⟩

end Serving

namespace Ended

/-- A pull of a sink whose connection is closed. -/
theorem pull (ended : Ended hungry box start stop worker started) (n : Amount) :
    Ended hungry box start stop worker (started.noted (.pull n)) where
  requested := ended.requested
  inlet := refers_until ended.inlet (cancelledIn_snoc _ rfl rfl)
  worker := ended.worker
  told := by
    rcases ended.told with ⟨cancelled, fickle⟩ | ⟨exhausted, signals⟩
    · exact .inl ⟨cancelledIn_snoc _ cancelled rfl, fickle⟩
    · refine .inr ⟨?_, signalsIn_quiet _ signals rfl⟩
      exact Nat.lt_of_lt_of_eq (Nat.lt_add_right _ exhausted) (pulledIn_snoc _ rfl).symm

/-- The worker goes on. -/
theorem withWorker (ended : Ended hungry box start stop worker started) (worker' : Worker) :
    Ended hungry box start stop worker' (started.withWorker worker') :=
  ⟨ended.requested, ended.inlet, rfl, ended.told⟩

theorem counted (ended : Ended hungry box start stop worker started) :
    Ended hungry box start stop worker started.counted :=
  ⟨ended.requested, ended.inlet, ended.worker, ended.told⟩

/-- A cancellation of a connection that is closed. -/
theorem cancel (ended : Ended hungry box start stop worker started) (fickle : ¬ hungry) :
    Ended hungry box start stop worker (started.noted .cancel).released where
  requested := ended.requested
  inlet := refers_until rfl cancelledIn_cancel
  worker := ended.worker
  told := .inl ⟨cancelledIn_cancel, fickle⟩

end Ended

end

end Sas.Rxc
