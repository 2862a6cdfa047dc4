import Sas.Server.Answer
import Mathlib.Data.Finset.Insert
import Mathlib.Data.Finset.Filter

/-! # The descriptor of a session

What the calls made for one session do with descriptors. A session opens one at most, and closes it
where the source of its stream finishes.
-/

namespace Sas

namespace Syscall

/-- The call obtains this descriptor. -/
def obtains (fd : Nat) : Syscall → Bool
  | .open _ (.descriptor opened) => opened = fd
  | _ => false

/-- The call closes this descriptor. -/
def closes (fd : Nat) : Syscall → Bool
  | .close closed _ => closed = fd
  | _ => false

/-- The call neither obtains nor closes a descriptor. -/
def Neutral (call : Syscall) : Prop := ∀ fd, call.obtains fd = false ∧ call.closes fd = false

theorem neutral_read (fd : Int) (size : Nat) (reply : ReadReply) : (read fd size reply).Neutral :=
  fun _ => ⟨rfl, rfl⟩

end Syscall

/-- How often the calls obtain a descriptor. -/
def obtained (fd : Nat) (calls : List Syscall) : Nat := calls.countP (Syscall.obtains fd)

/-- How often the calls close a descriptor. -/
def relinquished (fd : Nat) (calls : List Syscall) : Nat := calls.countP (Syscall.closes fd)

/-- The descriptors of the process after a call. -/
def descriptorsAfter (numbers : Finset Nat) : Syscall → Finset Nat
  | .open _ (.descriptor fd) => insert fd numbers
  | .close fd _ => numbers.filter fun number => (number : Int) ≠ fd
  | _ => numbers

/-- Every `open` returns the lowest number that is free. -/
def LowestFree (numbers : Finset Nat) : List Syscall → Prop
  | [] => True
  | call :: calls =>
      (∀ fd, call.obtains fd = true → fd ∉ numbers ∧ ∀ lower < fd, lower ∈ numbers) ∧
        LowestFree (descriptorsAfter numbers call) calls

instance LowestFree.decidable (numbers : Finset Nat) :
    (calls : List Syscall) → Decidable (LowestFree numbers calls)
  | [] => .isTrue trivial
  | call :: calls =>
      have : Decidable (LowestFree (descriptorsAfter numbers call) calls) :=
        LowestFree.decidable (descriptorsAfter numbers call) calls
      have : Decidable (∀ fd, call.obtains fd = true → fd ∉ numbers ∧ ∀ lower < fd, lower ∈ numbers) :=
        match call with
        | .open _ (.descriptor opened) =>
            decidable_of_iff (opened ∉ numbers ∧ ∀ lower < opened, lower ∈ numbers)
              ⟨fun lowest _ obtains => of_decide_eq_true obtains ▸ lowest,
                fun lowest => lowest opened (decide_eq_true rfl)⟩
        | .open _ (.failed _) => .isTrue fun _ obtains => (Bool.false_ne_true obtains).elim
        | .read _ _ _ => .isTrue fun _ obtains => (Bool.false_ne_true obtains).elim
        | .close _ _ => .isTrue fun _ obtains => (Bool.false_ne_true obtains).elim
        | .send _ _ _ => .isTrue fun _ obtains => (Bool.false_ne_true obtains).elim
      inferInstanceAs (Decidable (_ ∧ _))

section

variable {fd : Nat} {calls first second : List Syscall} {numbers : Finset Nat} {call : Syscall}

@[simp] theorem obtained_append :
    obtained fd (first ++ second) = obtained fd first + obtained fd second :=
  List.countP_append

@[simp] theorem relinquished_append :
    relinquished fd (first ++ second) = relinquished fd first + relinquished fd second :=
  List.countP_append

/-- Neutral calls obtain nothing. -/
theorem obtained_neutral (neutral : ∀ call ∈ calls, call.Neutral) : obtained fd calls = 0 := by
  apply List.countP_eq_zero.mpr
  intro call member
  rw [(neutral call member fd).1]
  exact Bool.false_ne_true

/-- Neutral calls relinquish nothing. -/
theorem relinquished_neutral (neutral : ∀ call ∈ calls, call.Neutral) :
    relinquished fd calls = 0 := by
  apply List.countP_eq_zero.mpr
  intro call member
  rw [(neutral call member fd).2]
  exact Bool.false_ne_true

/-- A neutral call leaves the descriptors of the process. -/
theorem descriptorsAfter_neutral (neutral : call.Neutral) : descriptorsAfter numbers call = numbers := by
  cases call with
  | «open» name reply =>
      cases reply with
      | descriptor fd =>
          have opens := (neutral fd).1
          simp only [Syscall.obtains, decide_true, Bool.true_eq_false] at opens
      | failed errno => rfl
  | read fd size reply => rfl
  | close fd failure =>
      refine Finset.filter_true_of_mem fun number _ => ?_
      intro same
      have closes := (neutral number).2
      simp only [Syscall.closes, same, decide_true, Bool.true_eq_false] at closes
  | send destination datagram failure => rfl

/-- Neutral calls leave the descriptors of the process. -/
theorem foldl_neutral (neutral : ∀ call ∈ calls, call.Neutral) :
    calls.foldl descriptorsAfter numbers = numbers := by
  induction calls with
  | nil => rfl
  | cons call calls ih =>
      rw [List.foldl_cons, descriptorsAfter_neutral (neutral call List.mem_cons_self)]
      exact ih fun other member => neutral other (List.mem_cons_of_mem _ member)

end

namespace Server

open Foundation Transport Rxc Formats

/-! ## One session -/

/-- What the calls of a reaction do with the descriptor of the session's stream. -/
inductive DescriptorUse (before after : Option Wav.Source) : List Syscall → Prop where
  | neither {calls : List Syscall} : after = before → (∀ call ∈ calls, call.Neutral) →
      DescriptorUse before after calls
  | opens {fd : Nat} {name : List UInt8} {source : Wav.Source} {later : List Syscall} :
      before = none → after = some source → source.fd = fd → source.finished = false →
      (∀ call ∈ later, call.Neutral) →
      DescriptorUse before after (.open name (.descriptor fd) :: later)
  | closes {source : Wav.Source} {earlier later : List Syscall} {failure : Option Int32} :
      before = some source → source.finished = false →
      after = some { source with finished := true } →
      (∀ call ∈ earlier, call.Neutral) → (∀ call ∈ later, call.Neutral) →
      DescriptorUse before after (earlier ++ .close source.fd failure :: later)

/-- The calls made for a session are those of a session with its stream: none that matters before
the handshake, then one `open`, and one `close` once the source has finished. -/
def Account (pipeline : Option Wav.Source) (calls : List Syscall) : Prop :=
  match pipeline with
  | none => ∀ fd, obtained fd calls = 0 ∧ relinquished fd calls = 0
  | some source => ∃ own : Nat, source.fd = own ∧ ∀ fd,
      obtained fd calls = (if fd = own then 1 else 0) ∧
        relinquished fd calls = if fd = own ∧ source.finished = true then 1 else 0

/-- The stream of the session has this descriptor and has not closed it. -/
def Holds (pipeline : Option Wav.Source) (fd : Nat) : Prop :=
  ∃ source, pipeline = some source ∧ source.finished = false ∧ source.fd = fd

section

variable {session next : Session} {exchange : Exchange} {calls before : List Syscall} {fd : Nat}
  {pipeline : Option Wav.Source}

/-- Sending is neutral. -/
theorem Sends.neutral {flags : UInt8} {payload : List UInt8} {call : Syscall}
    (sends : Sends session flags payload call) : call.Neutral := by
  obtain ⟨datagram, failure, rfl, _⟩ := sends
  exact fun _ => ⟨rfl, rfl⟩

/-- One neutral call. -/
theorem neutral_singleton {call : Syscall} (neutral : call.Neutral) :
    ∀ other ∈ [call], other.Neutral := by
  intro other member
  rw [List.mem_singleton.mp member]
  exact neutral

/-- Two neutral calls. -/
theorem neutral_pair {call call' : Syscall} (neutral : call.Neutral) (neutral' : call'.Neutral) :
    ∀ other ∈ [call, call'], other.Neutral := by
  intro other member
  rcases List.mem_cons.mp member with rfl | later
  · exact neutral
  · exact neutral_singleton neutral' other later

/-- A session that stays obtains a descriptor when it opens a file and relinquishes it when it
refuses it. -/
theorem Reaction.descriptors (reaction : Reaction session exchange calls (some next))
    (formed : WellFormed session) : DescriptorUse session.pipeline next.pipeline calls := by
  cases reaction with
  | dropped rejected => exact .neither rfl fun _ member => (List.not_mem_nil member).elim
  | reset heard state syn sends => exact .neither rfl (neutral_singleton sends.neutral)
  | opened heard state syn plain offered sends =>
      obtain ⟨own, unfinished⟩ := source_of_offered offered
      exact .opens (formed.pipeline_initial state) rfl own unfinished
        (neutral_pair (Syscall.neutral_read _ _ _) sends.neutral)
  | silent heard streaming set finished =>
      exact .neither rfl fun _ member => (List.not_mem_nil member).elim
  | chunk heard streaming set unfinished read some small sends =>
      exact .neither rfl (neutral_pair (Syscall.neutral_read _ _ _) sends.neutral)
  | ended heard streaming set unfinished read sends =>
      rename_i source call failure
      exact @DescriptorUse.closes _ _ source [_] [call] failure set unfinished rfl
        (neutral_singleton (Syscall.neutral_read _ _ _)) (neutral_singleton sends.neutral)
  | failed heard streaming set unfinished read sends =>
      rename_i source errno call failure
      exact @DescriptorUse.closes _ _ source [_, call] [] failure set unfinished rfl
        (neutral_pair (Syscall.neutral_read _ _ _) sends.neutral)
        fun _ member => (List.not_mem_nil member).elim

/-- A session holds what it has obtained and not relinquished. -/
theorem account_holds (account : Account pipeline before) :
    Holds pipeline fd ↔ relinquished fd before < obtained fd before := by
  cases pipeline with
  | none =>
      obtain ⟨opens, closes⟩ := account fd
      rw [opens, closes]
      refine iff_of_false ?_ (Nat.lt_irrefl 0)
      intro ⟨source, set, _⟩
      cases set
  | some source =>
      obtain ⟨own, number, counts⟩ := account
      obtain ⟨opens, closes⟩ := counts fd
      rw [opens, closes]
      constructor
      · intro ⟨source', set, unfinished, holds⟩
        cases set
        have same : fd = own := by omega
        rw [unfinished, if_pos same, if_neg (fun both => Bool.false_ne_true both.2)]
        exact Nat.one_pos
      · intro more
        have same : fd = own := by
          by_contra differ
          rw [if_neg differ] at more
          exact Nat.not_lt_zero _ more
        refine ⟨source, rfl, ?_, by rw [number, same]⟩
        cases finished : source.finished with
        | false => rfl
        | true =>
            rw [if_pos same, if_pos ⟨same, finished⟩] at more
            exact (Nat.lt_irrefl 1 more).elim

/-- A stream that is not held has been closed as often as it has been opened. -/
theorem account_settled (account : Account pipeline before) (free : ¬ Holds pipeline fd) :
    obtained fd before ≤ relinquished fd before := by
  rw [account_holds account] at free
  exact not_lt.mp free

/-- The calls of a stream never close more than they have opened. -/
theorem account_le (account : Account pipeline before) :
    relinquished fd before ≤ obtained fd before := by
  cases pipeline with
  | none =>
      obtain ⟨opens, closes⟩ := account fd
      rw [opens, closes]
  | some source =>
      obtain ⟨own, number, counts⟩ := account
      obtain ⟨opens, closes⟩ := counts fd
      rw [opens, closes]
      split
      case isTrue both => rw [if_pos both.1]
      case isFalse => exact Nat.zero_le _

/-- A reaction keeps the account of its session. -/
theorem DescriptorUse.account {after : Option Wav.Source} (use : DescriptorUse pipeline after calls)
    (account : Account pipeline before) : Account after (before ++ calls) := by
  cases use with
  | neither same neutral =>
      subst same
      unfold Account at account ⊢
      simpa only [obtained_append, relinquished_append, obtained_neutral neutral,
        relinquished_neutral neutral, Nat.add_zero] using account
  | opens unset set number unfinished neutral =>
      rename_i own name source later
      subst unset set
      refine ⟨own, number, fun fd => ?_⟩
      obtain ⟨opens, closes⟩ := account fd
      have one : obtained fd (Syscall.open name (.descriptor own) :: later) =
          if fd = own then 1 else 0 := by
        rw [← List.singleton_append, obtained_append, obtained_neutral neutral]
        by_cases same : fd = own
        · subst same
          simp [obtained, Syscall.obtains]
        · simp [obtained, Syscall.obtains, same, Ne.symm same]
      have none : relinquished fd (Syscall.open name (.descriptor own) :: later) = 0 := by
        rw [← List.singleton_append, relinquished_append, relinquished_neutral neutral]
        rfl
      simp only [obtained_append, relinquished_append, opens, closes, one, none, unfinished,
        Bool.false_eq_true, and_false, ↓reduceIte, Nat.zero_add, and_self]
  | closes set unfinished finished neutral neutral' =>
      rename_i source earlier later failure
      subst set finished
      obtain ⟨own, number, counts⟩ := account
      refine ⟨own, number, fun fd => ?_⟩
      obtain ⟨opens, closes⟩ := counts fd
      have none : obtained fd (earlier ++ .close source.fd failure :: later) = 0 := by
        rw [obtained_append, obtained_neutral neutral, ← List.singleton_append, obtained_append,
          obtained_neutral neutral']
        rfl
      have one : relinquished fd (earlier ++ .close source.fd failure :: later) =
          if fd = own then 1 else 0 := by
        rw [relinquished_append, relinquished_neutral neutral, ← List.singleton_append,
          relinquished_append, relinquished_neutral neutral', number]
        by_cases same : fd = own
        · subst same
          simp [relinquished, Syscall.closes]
        · simp [relinquished, Syscall.closes, same, Ne.symm same]
      simp only [obtained_append, relinquished_append, opens, closes, one, none, unfinished,
        Bool.false_eq_true, and_false, ↓reduceIte, Nat.zero_add, Nat.add_zero, and_true, and_self]

/-- What a reaction closes, its session has held. -/
theorem DescriptorUse.holds_of_closes {after : Option Wav.Source}
    (use : DescriptorUse pipeline after calls) {call : Syscall} (among : call ∈ calls)
    (closes : call.closes fd = true) : Holds pipeline fd := by
  have contradicts : call.Neutral → Holds pipeline fd := by
    intro neutral
    rw [(neutral fd).2] at closes
    cases closes
  cases use with
  | neither same neutral => exact contradicts (neutral call among)
  | opens unset set number unfinished neutral =>
      rcases List.mem_cons.mp among with rfl | later
      · cases closes
      · exact contradicts (neutral call later)
  | closes set unfinished finished neutral neutral' =>
      rename_i source earlier later failure
      rcases List.mem_append.mp among with before | later
      · exact contradicts (neutral call before)
      · rcases List.mem_cons.mp later with rfl | later
        · exact ⟨source, set, unfinished, of_decide_eq_true closes⟩
        · exact contradicts (neutral' call later)

/-- What others hold stays open. -/
theorem DescriptorUse.mem_of_other {after : Option Wav.Source} {numbers : Finset Nat}
    (use : DescriptorUse pipeline after calls) (inUse : fd ∈ numbers)
    (other : ¬ Holds pipeline fd) : fd ∈ calls.foldl descriptorsAfter numbers := by
  cases use with
  | neither same neutral =>
      rw [foldl_neutral neutral]
      exact inUse
  | opens unset set number unfinished neutral =>
      rw [List.foldl_cons, foldl_neutral neutral]
      exact Finset.mem_insert_of_mem inUse
  | closes set unfinished finished neutral neutral' =>
      rename_i source earlier later failure
      rw [List.foldl_append, foldl_neutral neutral, List.foldl_cons, foldl_neutral neutral']
      refine Finset.mem_filter.mpr ⟨inUse, fun same => other ⟨source, set, unfinished, same.symm⟩⟩

/-- What the session holds after a reaction is open, and it has held it before or nobody has. -/
theorem DescriptorUse.holds_after {after : Option Wav.Source} {numbers : Finset Nat}
    (use : DescriptorUse pipeline after calls) (lowest : LowestFree numbers calls)
    (holds : Holds after fd) :
    (Holds pipeline fd ∧ calls.foldl descriptorsAfter numbers = numbers) ∨
      (fd ∉ numbers ∧ fd ∈ calls.foldl descriptorsAfter numbers) := by
  cases use with
  | neither same neutral =>
      subst same
      exact .inl ⟨holds, foldl_neutral neutral⟩
  | opens unset set number unfinished neutral =>
      rename_i own name source later
      obtain ⟨source', set', _, number'⟩ := holds
      cases set.symm.trans set'
      have same : own = fd := by omega
      subst same
      refine .inr ⟨(lowest.1 own (decide_eq_true rfl)).1, ?_⟩
      rw [List.foldl_cons, foldl_neutral neutral]
      exact Finset.mem_insert_self own numbers
  | closes set unfinished finished neutral neutral' =>
      obtain ⟨source', set', unfinished', _⟩ := holds
      cases finished.symm.trans set'
      cases unfinished'

end

end Server

end Sas
