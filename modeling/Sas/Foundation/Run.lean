import Mathlib.Data.List.Induction

/-! # Runs of a labelled transition relation

A run is a state reached from another one by finitely many labelled steps, with the labels in
order. The step lemmas of a system give its run lemmas by `Run.invariant` and `Run.history`;
what a run did before one of its labels is again a run (`Run.split`).
-/

namespace Foundation

variable {State Label : Type*} {step : State → Label → State → Prop}

/-- `Run step source labels target`: the steps with these labels lead from `source` to
`target`. -/
inductive Run (step : State → Label → State → Prop) (source : State) :
    List Label → State → Prop where
  | nil : Run step source [] source
  | snoc {labels : List Label} {middle target : State} {label : Label} :
      Run step source labels middle → step middle label target →
      Run step source (labels ++ [label]) target

namespace Run

/-- What holds of the source and is kept by every step holds of the target. -/
theorem invariant {source target : State} {labels : List Label} (holds : State → Prop)
    (run : Run step source labels target) (initial : holds source)
    (kept : ∀ state label next, holds state → step state label next → holds next) :
    holds target := by
  induction run with
  | nil => exact initial
  | snoc _ last ih => exact kept _ _ _ ih last

/-- What holds of the source with no labels, and is kept by every step together with the labels so
far, holds of the target with all labels. -/
theorem history {source target : State} {labels : List Label}
    (holds : List Label → State → Prop) (run : Run step source labels target)
    (initial : holds [] source)
    (kept : ∀ labels state label next, Run step source labels state → holds labels state →
      step state label next → holds (labels ++ [label]) next) :
    holds labels target := by
  induction run with
  | nil => exact initial
  | snoc before last ih => exact kept _ _ _ _ before ih last

/-- A relation between steps gives one between runs. -/
theorem mono {step' : State → Label → State → Prop} {source target : State} {labels : List Label}
    (run : Run step source labels target)
    (weaker : ∀ state label next, step state label next → step' state label next) :
    Run step' source labels target := by
  induction run with
  | nil => exact nil
  | snoc _ last ih => exact snoc ih (weaker _ _ _ last)

/-- A relation between steps with the labels of a run gives one between runs. -/
theorem mono_of_mem {step' : State → Label → State → Prop} {source target : State}
    {labels : List Label} (run : Run step source labels target)
    (weaker : ∀ state label next, label ∈ labels → step state label next →
      step' state label next) : Run step' source labels target := by
  induction run with
  | nil => exact nil
  | snoc _ last ih =>
      refine snoc (ih fun state label next member => ?_) (weaker _ _ _ ?_ last)
      · exact weaker state label next (List.mem_append_left _ member)
      · exact List.mem_append_right _ (List.mem_singleton_self _)

/-- A step-wise image of a run is a run. -/
theorem map {State' Label' : Type*} {step' : State' → Label' → State' → Prop}
    (states : State → State') (labels' : Label → Label') {source target : State}
    {labels : List Label} (run : Run step source labels target)
    (maps : ∀ state label next, step state label next →
      step' (states state) (labels' label) (states next)) :
    Run step' (states source) (labels.map labels') (states target) := by
  induction run with
  | nil => exact nil
  | snoc _ last ih =>
      rw [List.map_append, List.map_singleton]
      exact snoc ih (maps _ _ _ last)

/-- Computing step by step gives a run. -/
theorem of_foldlM {Error : Type*} {compute : State → Label → Except Error State}
    {source target : State} {labels : List Label}
    (done : labels.foldlM compute source = .ok target) :
    Run (fun state label next => compute state label = .ok next) source labels target := by
  induction labels using List.reverseRecOn generalizing target with
  | nil =>
      cases done
      exact nil
  | append_singleton labels label ih =>
      rw [List.foldlM_append] at done
      cases before : labels.foldlM compute source with
      | error error =>
          rw [before] at done
          cases done
      | ok middle =>
          rw [before] at done
          refine (ih before).snoc ?_
          cases last : compute middle label with
          | error error => simp [bind, Except.bind, last] at done
          | ok next => simpa [bind, Except.bind, last, pure, Except.pure] using done

/-- A step that is computed only where a check passes, and refused elsewhere. -/
def guarded {Error : Type*} (check : State → Label → Bool) (refusal : Error)
    (compute : State → Label → Except Error State) (state : State) (label : Label) :
    Except Error State :=
  if check state label then compute state label else .error refusal

/-- Computing guarded steps gives a run in which every check passes. -/
theorem of_guarded {Error : Type*} {check : State → Label → Bool} {refusal : Error}
    {compute : State → Label → Except Error State} {source target : State} {labels : List Label}
    (done : labels.foldlM (guarded check refusal compute) source = .ok target) :
    Run (fun state label next => compute state label = .ok next ∧ check state label = true) source
      labels target := by
  refine (of_foldlM done).mono fun state label next one => ?_
  rw [guarded] at one
  split at one
  case isTrue passes => exact ⟨one, passes⟩
  case isFalse => cases one

/-- A run without labels stays where it is. -/
theorem nil_inv {source target : State} {labels : List Label}
    (run : Run step source labels target) (empty : labels = []) : target = source := by
  cases run with
  | nil => rfl
  | snoc => exact (List.append_ne_nil_of_right_ne_nil _ (List.cons_ne_nil _ _) empty).elim

/-- One step is a run. -/
theorem singleton {source target : State} {label : Label} (one : step source label target) :
    Run step source [label] target :=
  snoc nil one

/-- Two runs that meet are one run. -/
theorem append {source middle target : State} {first second : List Label}
    (left : Run step source first middle) (right : Run step middle second target) :
    Run step source (first ++ second) target := by
  induction right with
  | nil => simpa only [List.append_nil] using left
  | snoc _ last ih =>
      rw [← List.append_assoc]
      exact snoc ih last

/-- A run over a list with a last label is a run followed by one step. -/
theorem snoc_inv {source target : State} {labels : List Label} {label : Label}
    (run : Run step source (labels ++ [label]) target) :
    ∃ middle, Run step source labels middle ∧ step middle label target := by
  generalize same : labels ++ [label] = all at run
  cases run with
  | nil => exact (List.append_ne_nil_of_right_ne_nil _ (List.cons_ne_nil _ _) same).elim
  | snoc before last =>
      obtain ⟨rfl, equal⟩ := List.append_inj' same rfl
      cases equal
      exact ⟨_, before, last⟩

/-- A run over two lists of labels passes through a state between them. -/
theorem split {source target : State} {first second : List Label}
    (run : Run step source (first ++ second) target) :
    ∃ middle, Run step source first middle ∧ Run step middle second target := by
  induction second using List.reverseRecOn generalizing target with
  | nil => exact ⟨target, by simpa only [List.append_nil] using run, nil⟩
  | append_singleton second label ih =>
      rw [← List.append_assoc] at run
      obtain ⟨before, earlier, last⟩ := run.snoc_inv
      obtain ⟨middle, left, right⟩ := ih earlier
      exact ⟨middle, left, snoc right last⟩

/-- A run over a first label starts with one step. -/
theorem cons_inv {source target : State} {label : Label} {labels : List Label}
    (run : Run step source (label :: labels) target) :
    ∃ middle, step source label middle ∧ Run step middle labels target := by
  rw [← List.singleton_append] at run
  obtain ⟨middle, left, right⟩ := run.split
  rw [← List.nil_append [label]] at left
  obtain ⟨start, before, one⟩ := left.snoc_inv
  cases before.nil_inv rfl
  exact ⟨middle, one, right⟩

/-- In a deterministic system the labels of a run determine its target. -/
theorem unique (functional : ∀ state label next next', step state label next →
      step state label next' → next = next')
    {source target target' : State} {labels : List Label} (run : Run step source labels target)
    (run' : Run step source labels target') : target = target' := by
  induction run generalizing target' with
  | nil => exact (run'.nil_inv rfl).symm
  | snoc _ last ih =>
      obtain ⟨middle, before, last'⟩ := run'.snoc_inv
      cases ih before
      exact functional _ _ _ _ last last'

/-- Where the guarded steps of a computed run are all computed, every check passes. -/
theorem guard {Error : Type*} {check : State → Label → Bool} {refusal : Error}
    {compute : State → Label → Except Error State} {source target : State} {labels : List Label}
    (run : Run (fun state label next => compute state label = .ok next) source labels target)
    (passes : (labels.foldlM (guarded check refusal compute) source).isOk = true) :
    Run (fun state label next => compute state label = .ok next ∧ check state label = true) source
      labels target := by
  cases done : labels.foldlM (guarded check refusal compute) source with
  | error error =>
      rw [done] at passes
      cases passes
  | ok target' =>
      have checked := of_guarded done
      rw [run.unique (fun _ _ _ _ one one' => Except.ok.inj (one.symm.trans one'))
        (checked.mono fun _ _ _ one => one.1)]
      exact checked

/-- Where every step keeps a property exactly if it meets a condition, the property holds at the end
of a run exactly if all steps of the run have met the condition. -/
theorem holds_iff {meets : State → Label → Prop}
    (functional : ∀ state label next next', step state label next →
      step state label next' → next = next')
    (holds : List Label → State → Prop) {source target : State} {labels : List Label}
    (run : Run step source labels target) (initial : holds [] source)
    (kept : ∀ labels state label next, Run step source labels state → step state label next →
      (holds (labels ++ [label]) next ↔ holds labels state ∧ meets state label)) :
    holds labels target ↔
      Run (fun state label next => step state label next ∧ meets state label) source labels
        target := by
  induction run with
  | nil => exact iff_of_true initial nil
  | @snoc labels middle target label before last ih =>
      rw [kept _ _ _ _ before last, ih]
      constructor
      · rintro ⟨earlier, met⟩
        exact earlier.snoc ⟨last, met⟩
      · intro run
        obtain ⟨middle', earlier, last', met⟩ := run.snoc_inv
        cases before.unique functional (earlier.mono fun _ _ _ one => one.1)
        exact ⟨earlier, met⟩

/-- A property holds at every moment of the runs with these labels. -/
def Always (step : State → Label → State → Prop) (source : State) (labels : List Label)
    (holds : State → Prop) : Prop :=
  ∀ earlier later state, labels = earlier ++ later → Run step source earlier state → holds state

/-- What always holds of a run also holds at its end. -/
theorem Always.last {holds : State → Prop} {source target : State} {labels : List Label}
    (always : Always step source labels holds) (run : Run step source labels target) :
    holds target := always labels [] target (List.append_nil labels).symm run

/-- In a deterministic system, one step more adds one moment. -/
theorem always_snoc_iff (functional : ∀ state label next next', step state label next →
      step state label next' → next = next') {holds : State → Prop}
    {source middle target : State} {labels : List Label} {label : Label}
    (before : Run step source labels middle) (last : step middle label target) :
    Always step source (labels ++ [label]) holds ↔
      Always step source labels holds ∧ holds target := by
  constructor
  · intro always
    refine ⟨fun earlier later state split run => ?_, always.last (before.snoc last)⟩
    exact always earlier (later ++ [label]) state (by rw [split, List.append_assoc]) run
  · rintro ⟨always, holds'⟩ earlier later state split run
    rcases List.eq_nil_or_concat later with none | ⟨later', label', some⟩
    · rw [none, List.append_nil] at split
      rw [← split] at run
      rw [run.unique functional (before.snoc last)]
      exact holds'
    · rw [some, List.concat_eq_append, ← List.append_assoc] at split
      exact always earlier later' state (List.append_inj' split rfl).1 run

/-- Where a step keeps a property exactly if it meets a condition, the property holds at every moment
of a run exactly if all its steps meet the condition. -/
theorem always_iff {meets : State → Label → Prop} {holds : State → Prop}
    (functional : ∀ state label next next', step state label next →
      step state label next' → next = next')
    {source target : State} {labels : List Label} (run : Run step source labels target)
    (initial : holds source)
    (kept : ∀ labels state label next, Run step source labels state → holds state →
      step state label next → (holds next ↔ meets state label)) :
    Always step source labels holds ↔
      Run (fun state label next => step state label next ∧ meets state label) source labels
        target := by
  refine run.holds_iff functional (fun labels _ => Always step source labels holds) ?_ ?_
  · intro earlier later state split run
    rw [run.nil_inv (List.append_eq_nil_iff.mp split.symm).1]
    exact initial
  · intro labels state label next before last
    rw [always_snoc_iff functional before last]
    exact and_congr_right fun always => kept _ _ _ _ before (always.last before) last

/-- A property that steps keep as far as a weaker one says so always holds if the weaker one does. -/
theorem always_strengthen (functional : ∀ state label next next', step state label next →
      step state label next' → next = next') {weak strong : State → Prop}
    {source target : State} {labels : List Label} (run : Run step source labels target)
    (initial : strong source) (weaker : ∀ state, strong state → weak state)
    (kept : ∀ labels state label next, Run step source labels state → strong state →
      step state label next → weak next → strong next) :
    Always step source labels weak ↔ Always step source labels strong := by
  constructor
  · intro always
    induction run with
    | nil =>
        intro earlier later state split run
        rw [run.nil_inv (List.append_eq_nil_iff.mp split.symm).1]
        exact initial
    | snoc before last ih =>
        obtain ⟨always', holds⟩ := (always_snoc_iff functional before last).mp always
        have strongly := ih always'
        exact (always_snoc_iff functional before last).mpr
          ⟨strongly, kept _ _ _ _ before (strongly.last before) last holds⟩
  · intro always earlier later state split run
    exact weaker state (always earlier later state split run)

/-- Where a property lasts exactly as long as an invariant that steps keep if they meet a condition,
it holds at every moment of a run exactly if all its steps meet the condition. -/
theorem always_iff_of_invariant {meets : State → Label → Prop} {holds invariant : State → Prop}
    (functional : ∀ state label next next', step state label next →
      step state label next' → next = next')
    {source target : State} {labels : List Label} (run : Run step source labels target)
    (initial : invariant source) (holds_of : ∀ state, invariant state → holds state)
    (keeps : ∀ state label next, invariant state → step state label next → meets state label →
      invariant next)
    (needs : ∀ state label next, invariant state → step state label next → holds next →
      meets state label) :
    Always step source labels holds ↔
      Run (fun state label next => step state label next ∧ meets state label) source labels
        target := by
  rw [run.always_strengthen functional initial holds_of
    fun _ state label next _ before last after =>
      keeps state label next before last (needs state label next before last after)]
  refine run.always_iff functional initial fun _ state label next _ before last => ?_
  exact ⟨fun after => needs state label next before last (holds_of next after),
    keeps state label next before last⟩

/-- Where an invariant makes two conditions on a step the same and lasts while they are met, a run
meets the one exactly if it meets the other. -/
theorem meets_iff {first second : State → Label → State → Prop} {invariant : State → Prop}
    {source target : State} {labels : List Label} (initial : invariant source)
    (same : ∀ state label next, invariant state → step state label next →
      (first state label next ↔ second state label next))
    (kept : ∀ state label next, invariant state → step state label next →
      second state label next → invariant next) :
    Run (fun state label next => step state label next ∧ first state label next) source labels
        target ↔
      Run (fun state label next => step state label next ∧ second state label next) source labels
        target := by
  constructor
  · intro run
    have both : Run (fun state label next => step state label next ∧ second state label next)
        source labels target ∧ invariant target := by
      induction run with
      | nil => exact ⟨nil, initial⟩
      | snoc before last ih =>
          obtain ⟨earlier, holds⟩ := ih
          have met := (same _ _ _ holds last.1).mp last.2
          exact ⟨earlier.snoc ⟨last.1, met⟩, kept _ _ _ holds last.1 met⟩
    exact both.1
  · intro run
    have both : Run (fun state label next => step state label next ∧ first state label next)
        source labels target ∧ invariant target := by
      induction run with
      | nil => exact ⟨nil, initial⟩
      | snoc before last ih =>
          obtain ⟨earlier, holds⟩ := ih
          have met := (same _ _ _ holds last.1).mpr last.2
          exact ⟨earlier.snoc ⟨last.1, met⟩, kept _ _ _ holds last.1 last.2⟩
    exact both.1

/-- Where a run of a second system matches every step of a first one and shows the same, a run of the
second system matches every run of the first. -/
theorem matched {State' Label' Shown : Type*} {step' : State' → Label' → State' → Prop}
    {shows : Label → List Shown} {shows' : Label' → List Shown} (related : State → State' → Prop)
    (follows : ∀ state label next state', related state state' → step state label next →
      ∃ labels' next', Run step' state' labels' next' ∧ related next next' ∧
        labels'.flatMap shows' = shows label)
    {source target : State} {source' : State'} {labels : List Label}
    (initial : related source source') (run : Run step source labels target) :
    ∃ labels' target', Run step' source' labels' target' ∧ related target target' ∧
      labels'.flatMap shows' = labels.flatMap shows := by
  induction run with
  | nil => exact ⟨[], source', nil, initial, rfl⟩
  | @snoc labels middle target label before last ih =>
      obtain ⟨earlier, middle', run', relates, same⟩ := ih
      obtain ⟨later, target', rest, relates', shown⟩ := follows _ _ _ _ relates last
      refine ⟨earlier ++ later, target', run'.append rest, relates', ?_⟩
      rw [List.flatMap_append, List.flatMap_append, same, shown, List.flatMap_singleton]

/-- Where every step decreases a measure, a run takes no more steps than the measure it uses up. -/
theorem length_le_measure {measure : State → Nat} {invariant : State → Prop}
    {source target : State} {labels : List Label} (run : Run step source labels target)
    (initial : invariant source)
    (kept : ∀ state label next, invariant state → step state label next →
      invariant next ∧ measure next < measure state) :
    invariant target ∧ labels.length + measure target ≤ measure source := by
  induction run with
  | nil => exact ⟨initial, Nat.le_of_eq (Nat.zero_add _)⟩
  | @snoc labels middle target label before last ih =>
      obtain ⟨holds, bound⟩ := ih
      obtain ⟨holds', decreases⟩ := kept _ _ _ holds last
      refine ⟨holds', ?_⟩
      rw [List.length_append, List.length_singleton]
      omega

/-- Where every step decreases a measure and some step is always offered, some run comes to a step
that is offered and not taken. -/
theorem exists_stuck {measure : State → Nat} {invariant : State → Prop}
    {offered : State → Label → Prop}
    (offers : ∀ state, invariant state → ∃ label, offered state label)
    (kept : ∀ state label next, invariant state → step state label next → offered state label →
      invariant next ∧ measure next < measure state)
    {source : State} (initial : invariant source) :
    ∃ labels target label,
      Run (fun state label next => step state label next ∧ offered state label) source labels
        target ∧ invariant target ∧ offered target label ∧ ∀ next, ¬ step target label next := by
  induction size : measure source using Nat.strongRecOn generalizing source with
  | ind size ih =>
      obtain ⟨label, offer⟩ := offers source initial
      by_cases taken : ∃ next, step source label next
      · obtain ⟨next, one⟩ := taken
        obtain ⟨holds, decreases⟩ := kept _ _ _ initial one offer
        obtain ⟨labels, target, last, run, rest⟩ := ih _ (size ▸ decreases) holds rfl
        exact ⟨[label] ++ labels, target, last, (singleton ⟨one, offer⟩).append run, rest⟩
      · exact ⟨[], source, label, nil, initial, offer, not_exists.mp taken⟩

end Run

end Foundation
