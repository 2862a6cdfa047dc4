import Sas.Rxc.Reentrancy
import Sas.Foundation.Each

/-! # The demand counter at the end of the range of `long`

A pull adds to the counter first and tests afterwards whether it has to be capped. The sum is
therefore computed in a signed `long` also where it does not fit: the counter ends up at
`LONG_MAX` if the addition wraps around, but the addition has overflowed. The calls that avoid
this are told apart by their demand alone, counted without a bound.
-/

namespace Sas.Rxc

open Foundation

variable {Element Failure : Type} {inlet : Option InletScheduler} {worker : Worker}

/-! ## Calls -/

/-- A pull asks for 1 to `LONG_MAX` elements. -/
def Event.InRange (event : Event Element Failure) : Prop :=
  ∀ n, event = .operation (.pull n) → 1 ≤ n ∧ n ≤ longMax

/-- One event on a connection that is pulled within range. -/
def CallStep (usage : Usage Element Failure) (event : Event Element Failure)
    (next : Usage Element Failure) : Prop :=
  UsageStep usage event next ∧ event.InRange

/-- The event is one of the operations that close a connection. -/
def Event.Closes : Event Element Failure → Prop
  | .operation .cancel | .operation .complete | .operation (.fail _) => True
  | _ => False

/-- The demand arithmetic of one event: the addition of a pull stays in the range of `long`, the
counter is then the sum or `LONG_MAX` and not the mark of a closed connection, and unbounded demand
stays unbounded until the connection is closed. -/
structure Saturates (usage : Usage Element Failure) (event : Event Element Failure)
    (next : Usage Element Failure) : Prop where
  fits : ∀ n, event = .operation (.pull n) → usage.requested ≠ longMin →
    longMin ≤ usage.requested + n ∧ usage.requested + n ≤ longMax
  capped : ∀ n, event = .operation (.pull n) → usage.requested ≠ longMin →
    next.requested = min longMax (usage.requested + n)
  unmarked : ∀ n, event = .operation (.pull n) → usage.requested ≠ longMin →
    next.requested ≠ longMin
  sticky : usage.requested = longMax →
    next.requested = longMax ∨ event.Closes ∧ next.requested = longMin

/-- Where the event of a started run leaves the demand of its connection, counted without a bound:
a pull adds to it, an element takes one away unless the demand is unbounded, and a closed connection
has none. -/
def countDemand : Option Int → Event Element Failure → Option Int
  | none, _ => none
  | some demand, .operation (.pull n) => some (demand + n)
  | some demand, .operation (.emit _) =>
      some (if 0 < demand ∧ demand ≠ longMax then demand - 1 else demand)
  | some _, .operation .cancel => none
  | some _, .operation .complete => none
  | some _, .operation (.fail _) => none
  | some demand, .returned => some demand

/-- The demand after these events, counted without a bound. -/
def demandOf (events : List (Event Element Failure)) : Option Int :=
  events.foldl countDemand (some 0)

/-- No pull on an open connection brings the demand past `LONG_MAX`. -/
def Within (events : List (Event Element Failure)) : Prop :=
  Each (fun before event => ∀ n demand, event = .operation (.pull n) →
    demandOf before = some demand → demand + n ≤ longMax) events

/-! ## The counter -/

theorem longMax_nonneg : 0 ≤ longMax := by decide

/-- A connection is closed, or its counter lies between 0 and `LONG_MAX`. -/
def Usage.InRange (usage : Usage Element Failure) : Prop :=
  usage.requested = longMin ∨ 0 ≤ usage.requested ∧ usage.requested ≤ longMax

/-- The counter a pull leaves is the sum or `LONG_MAX`, even where the addition wraps around. -/
theorem demandAfter_eq_min {requested n : Int} (nonneg : 0 ≤ requested) (le : requested ≤ longMax)
    (positive : 1 ≤ n) (bounded : n ≤ longMax) :
    demandAfter requested n = min longMax (requested + n) := by
  by_cases fits : requested + n ≤ longMax
  · rw [demandAfter_of_le (by omega) fits]
    omega
  · have wrapped : wrapLong (requested + n) = requested + n - 2 ^ 64 := by
      unfold wrapLong
      unfold longMax at le bounded fits
      rw [← Int.sub_bmod_right (requested + n)]
      exact Int.bmod_eq_of_le (by omega) (by omega)
    have negative : wrapLong (requested + n) < 0 := by
      rw [wrapped]
      unfold longMax at le bounded
      omega
    unfold demandAfter
    rw [if_pos negative]
    omega

section

variable {usage next : Usage Element Failure} {event : Event Element Failure}

/-- The event of a step determines where it leads. -/
theorem UsageStep.functional {next' : Usage Element Failure} (step : UsageStep usage event next)
    (step' : UsageStep usage event next') : next = next' := by
  cases step with
  | operation performed =>
      cases step' with
      | operation performed' =>
          rw [performed] at performed'
          cases performed'
          rfl
  | returned frames =>
      cases step' with
      | returned frames' =>
          rw [frames] at frames'
          cases frames'
          rfl

/-- The counter an event leaves: what the operation has set it to when it delivers its signal. -/
def counterAfter (requested : Int) : Event Element Failure → Int
  | .operation operation => ((response operation requested).map Prod.snd).getD requested
  | .returned => requested

/-- The counter of the machine follows `counterAfter`. -/
theorem UsageStep.requested_eq (step : UsageStep usage event next) :
    next.requested = counterAfter usage.requested event := by
  rcases step.cases with ⟨operation, rfl, ⟨silent, rfl⟩ | ⟨signal, requested, responds, rfl⟩⟩ |
    ⟨rfl, link, _⟩
  · simp only [counterAfter, silent, Option.map_none, Option.getD_none]
  · simp only [counterAfter, responds, Option.map_some, Option.getD_some]
    rfl
  · exact congrArg (fun link => link.connection.requested) link

/-- A closed connection stays closed. -/
theorem counterAfter_closed (event : Event Element Failure) :
    counterAfter longMin event = longMin := by
  cases event with
  | returned => rfl
  | operation operation =>
      simp only [counterAfter, response_closed, Option.map_none, Option.getD_none]

/-- On an open connection the counter follows the demand, but for the cap of a pull. -/
theorem counterAfter_open {requested : Int} (nonneg : 0 ≤ requested) (le : requested ≤ longMax)
    (ranged : event.InRange) :
    counterAfter requested event =
      ((countDemand (some requested) event).map (min longMax)).getD longMin := by
  have opened : requested ≠ longMin := by
    have := longMin_lt_zero
    omega
  cases event with
  | returned =>
      change requested = min longMax requested
      omega
  | operation operation =>
      cases operation with
      | pull n =>
          obtain ⟨positive, bounded⟩ := ranged n rfl
          simp only [counterAfter, response, if_neg opened, Option.map_some, Option.getD_some]
          exact demandAfter_eq_min nonneg le positive bounded
      | emit element =>
          simp only [counterAfter, response, demandBefore, countDemand]
          by_cases spent : requested ≤ 0
          · rw [if_pos spent, if_neg (by omega)]
            change requested = min longMax requested
            omega
          · rw [if_neg spent]
            change (if requested ≠ longMax then requested - 1 else requested) =
              min longMax (if 0 < requested ∧ requested ≠ longMax then requested - 1 else requested)
            by_cases unbounded : requested = longMax
            · rw [if_neg (by omega), if_neg (by omega)]
              omega
            · rw [if_pos unbounded, if_pos ⟨by omega, unbounded⟩]
              omega
      | _ =>
          simp only [counterAfter, response, if_neg opened]
          rfl

/-- The demand of an open connection does not become negative. -/
theorem countDemand_nonneg {requested demand : Int} (nonneg : 0 ≤ requested)
    (ranged : event.InRange) (left : countDemand (some requested) event = some demand) :
    0 ≤ demand := by
  cases event with
  | returned =>
      cases left
      exact nonneg
  | operation operation =>
      cases operation with
      | pull n =>
          obtain ⟨positive, _⟩ := ranged n rfl
          cases left
          omega
      | emit element =>
          cases left
          split
          · omega
          · exact nonneg
      | _ => cases left

/-- Only a pull brings the demand past `LONG_MAX`. -/
theorem countDemand_le {requested demand : Int} (le : requested ≤ longMax)
    (within : ∀ n, event = .operation (.pull n) → requested + n ≤ longMax)
    (left : countDemand (some requested) event = some demand) : demand ≤ longMax := by
  cases event with
  | returned =>
      cases left
      exact le
  | operation operation =>
      cases operation with
      | pull n =>
          cases left
          exact within n rfl
      | emit element =>
          cases left
          split
          · omega
          · exact le
      | _ => cases left

/-! ## One event -/

/-- The addition of a pull stays in range. -/
def Fits (usage : Usage Element Failure) (event : Event Element Failure) : Prop :=
  ∀ n, event = .operation (.pull n) → usage.requested ≠ longMin → usage.requested + n ≤ longMax

/-- The counter stays in range, whatever the events. -/
theorem Usage.InRange.step (held : usage.InRange) (step : CallStep usage event next) :
    next.InRange := by
  obtain ⟨used, ranged⟩ := step
  unfold Usage.InRange
  rw [used.requested_eq]
  rcases held with closed | ⟨nonneg, le⟩
  · rw [closed]
    exact .inl (counterAfter_closed event)
  · rw [counterAfter_open nonneg le ranged]
    cases left : countDemand (some usage.requested) event with
    | none => exact .inl rfl
    | some demand =>
        have := countDemand_nonneg nonneg ranged left
        refine .inr (?_ : 0 ≤ min longMax demand ∧ min longMax demand ≤ longMax)
        have := longMax_nonneg
        omega

/-- Unbounded demand lasts until the connection is closed. -/
theorem counterAfter_sticky (ranged : event.InRange) :
    counterAfter longMax event = longMax ∨
      event.Closes ∧ counterAfter longMax event = longMin := by
  rw [counterAfter_open (by decide) (Int.le_refl _) ranged]
  cases event with
  | returned => exact .inl rfl
  | operation operation =>
      cases operation with
      | pull n =>
          obtain ⟨positive, _⟩ := ranged n rfl
          refine .inl (?_ : min longMax (longMax + n) = longMax)
          omega
      | emit element => exact .inl rfl
      | _ => exact .inr ⟨trivial, rfl⟩

/-- One event has its demand arithmetic right exactly if the addition of a pull stays in range: the
rest holds either way. -/
theorem saturates_iff_fits (held : usage.InRange) (step : CallStep usage event next) :
    Saturates usage event next ↔ Fits usage event := by
  constructor
  · intro saturates n pulled opened
    exact (saturates.fits n pulled opened).2
  · intro fits
    obtain ⟨used, ranged⟩ := step
    have capped : ∀ n, event = .operation (.pull n) → usage.requested ≠ longMin →
        0 ≤ usage.requested ∧ 1 ≤ n ∧ next.requested = min longMax (usage.requested + n) := by
      rintro n rfl opened
      obtain ⟨nonneg, le⟩ := held.resolve_left opened
      refine ⟨nonneg, (ranged n rfl).1, ?_⟩
      rw [used.requested_eq, counterAfter_open nonneg le ranged]
      rfl
    refine ⟨fun n pulled opened => ?_, fun n pulled opened => (capped n pulled opened).2.2,
      fun n pulled opened => ?_, fun unbounded => ?_⟩
    · obtain ⟨nonneg, positive, _⟩ := capped n pulled opened
      have := longMin_lt_zero
      exact ⟨by omega, fits n pulled opened⟩
    · obtain ⟨nonneg, positive, sum⟩ := capped n pulled opened
      rw [sum]
      have := longMin_lt_zero
      have := longMax_nonneg
      omega
    · rw [used.requested_eq, unbounded]
      exact counterAfter_sticky ranged

/-- The counter is the demand counted without a bound. -/
def Usage.Counts (usage : Usage Element Failure) (demand : Option Int) : Prop :=
  usage.requested = demand.getD longMin ∧ ∀ d, demand = some d → 0 ≤ d ∧ d ≤ longMax

/-- There is a demand exactly while the connection is open. -/
theorem Usage.Counts.eq_some_iff {demand : Option Int} (counts : usage.Counts demand) {d : Int} :
    demand = some d ↔ usage.requested ≠ longMin ∧ usage.requested = d := by
  obtain ⟨same, bounds⟩ := counts
  have negative := longMin_lt_zero
  cases demand with
  | none =>
      refine ⟨fun absent => (Option.some_ne_none d absent.symm).elim, ?_⟩
      rintro ⟨opened, _⟩
      exact (opened same).elim
  | some requested =>
      have same : usage.requested = requested := same
      obtain ⟨nonneg, _⟩ := bounds requested rfl
      rw [Option.some.injEq]
      omega

/-- An event whose pull stays in range keeps the counter at the demand. -/
theorem Usage.Counts.step {demand : Option Int} (counts : usage.Counts demand)
    (step : CallStep usage event next)
    (within : ∀ n d, event = .operation (.pull n) → demand = some d → d + n ≤ longMax) :
    next.Counts (countDemand demand event) := by
  obtain ⟨used, ranged⟩ := step
  obtain ⟨same, bounds⟩ := counts
  cases demand with
  | none =>
      refine ⟨?_, fun d absent => (Option.some_ne_none d absent.symm).elim⟩
      rw [used.requested_eq, same]
      exact counterAfter_closed event
  | some requested =>
      obtain ⟨nonneg, le⟩ := bounds requested rfl
      have left : ∀ d, countDemand (some requested) event = some d → 0 ≤ d ∧ d ≤ longMax :=
        fun d counted => ⟨countDemand_nonneg nonneg ranged counted,
          countDemand_le le (fun n pulled => within n requested pulled rfl) counted⟩
      refine ⟨?_, left⟩
      rw [used.requested_eq, same]
      change counterAfter requested event = _
      rw [counterAfter_open nonneg le ranged]
      cases counted : countDemand (some requested) event with
      | none => rfl
      | some d => exact Int.min_eq_right (left d counted).2

end

/-! ## Runs -/

section

variable {events : List (Event Element Failure)} {usage : Usage Element Failure}

/-- As long as the pulls stay in range, the counter is the demand. -/
theorem counts_of_run (run : Run CallStep (Usage.create inlet worker) events usage)
    (within : Within events) : usage.Counts (demandOf events) := by
  refine run.history (fun events usage => Within events → usage.Counts (demandOf events)) ?_ ?_
    within
  · intro _
    refine ⟨rfl, fun d same => ?_⟩
    cases same
    decide
  · intro labels state label next _ ih step within
    obtain ⟨earlier, last⟩ := Each.snoc_iff.mp within
    unfold demandOf
    rw [List.foldl_append]
    exact (ih earlier).step step last

/-- **Demand arithmetic.** In every run of pulls of 1 to `LONG_MAX` and all other operations on a
connection, callbacks included, every event adds without overflow, caps the demand at `LONG_MAX`,
keeps clear of the mark of a closed connection and keeps unbounded demand, if and only if no pull
asks an open connection for more than `LONG_MAX` less its demand. -/
theorem demand_saturates_iff (run : Run CallStep (Usage.create inlet worker) events usage) :
    Run (fun state event next => CallStep state event next ∧ Saturates state event next)
        (Usage.create inlet worker) events usage ↔
      Within events := by
  have fitting := @Run.meets_iff _ _ CallStep Saturates (fun state event _ => Fits state event)
    Usage.InRange (Usage.create inlet worker) usage events (.inr ⟨Int.le_refl 0, longMax_nonneg⟩)
    (fun _ _ _ held step => saturates_iff_fits held step)
    (fun _ _ _ held step _ => held.step step)
  rw [fitting]
  refine (run.holds_iff (fun _ _ _ _ step step' => step.1.functional step'.1)
    (fun events _ => Within events) Each.nil ?_).symm
  intro labels state label next before step
  unfold Within
  rw [Each.snoc_iff]
  refine and_congr_right fun earlier => ?_
  have counts := counts_of_run before earlier
  constructor
  · intro last n pulled opened
    exact last n state.requested pulled (counts.eq_some_iff.mpr ⟨opened, rfl⟩)
  · intro fits n d pulled demand
    obtain ⟨opened, rfl⟩ := counts.eq_some_iff.mp demand
    exact fits n pulled opened

end

/-- A connection between logics that only watch, and which is pulled without a bound. -/
theorem unbounded_pull : CallStep (Usage.create none ⟨[], false⟩ : Usage Nat Unit)
    (.operation (.pull longMax))
    ⟨⟨⟨longMax⟩, none, ⟨[], false⟩⟩, [.onPull longMax], [.onPull longMax]⟩ := by
  refine ⟨@UsageStep.signal Nat Unit _ (.pull longMax) (.onPull longMax) longMax rfl, fun n same => ?_⟩
  cases same
  decide

/-- An element emitted inside the pull of a sink that ignores its elements. -/
theorem demand_saturates_ignore : ∃ usage : Usage Nat Unit,
    Run (fun state event next => CallStep state event next ∧ Saturates state event next)
      (Usage.create none ⟨[], false⟩)
      [.operation (.pull longMax), .operation (.emit 7)] usage := by
  have emitted : CallStep (⟨⟨⟨longMax⟩, none, ⟨[], false⟩⟩, [.onPull longMax], [.onPull longMax]⟩ :
      Usage Nat Unit) (.operation (.emit 7)) _ :=
    ⟨@UsageStep.signal Nat Unit _ (.emit 7) (.onPush 7) longMax rfl, fun n same => by cases same⟩
  refine ⟨_, (demand_saturates_iff ((Run.singleton unbounded_pull).snoc emitted)).mpr ?_⟩
  refine Each.snoc (Each.snoc Each.nil fun n demand pulled counted => ?_)
    fun n demand pulled counted => ?_
  · cases pulled
    cases counted
    decide
  · cases pulled

/-- A sink that pulls without a bound and then pulls once more makes the addition overflow. -/
theorem not_demand_saturates : ¬ ∀ (events : List (Event Nat Unit)) (usage : Usage Nat Unit),
    Run CallStep (Usage.create none ⟨[], false⟩) events usage →
      Run (fun state event next => CallStep state event next ∧ Saturates state event next)
        (Usage.create none ⟨[], false⟩) events usage := by
  intro claimed
  have pulled : CallStep (⟨⟨⟨longMax⟩, none, ⟨[], false⟩⟩, [.onPull longMax], [.onPull longMax]⟩ :
      Usage Nat Unit) (.operation (.pull 1)) _ :=
    ⟨@UsageStep.signal Nat Unit _ (.pull 1) (.onPull 1) longMax rfl,
      fun n same => by cases same; decide⟩
  obtain ⟨middle, before, _, saturates⟩ :=
    (claimed _ _ ((Run.singleton unbounded_pull).snoc pulled)).snoc_inv
  have reached : Run CallStep (Usage.create none ⟨[], false⟩)
      [.operation (.pull longMax)] middle := before.mono fun _ _ _ step => step.1
  have same := reached.unique (fun _ _ _ _ step step' => step.1.functional step'.1)
    (Run.singleton unbounded_pull)
  rw [same] at saturates
  exact absurd (saturates.fits 1 rfl (by decide)).2 (by decide)

end Sas.Rxc
