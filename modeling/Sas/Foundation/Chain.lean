import Mathlib.Data.List.Basic
import Mathlib.Data.List.Nodup

/-! # Chains through a link field

A singly linked chain is the list of nodes met by following a partial successor function from a
head. The successor function determines the chain, so a chain repeats no node; changing the
successor of one node inserts behind it or removes what follows it, and leaves every chain that
avoids the node alone.
-/

namespace Foundation

variable {Node : Type*} {next next' : Node → Option Node}

/-- Following `next` from `head` passes `nodes` in order and arrives at `stop`. -/
def Segment (next : Node → Option Node) : Option Node → List Node → Option Node → Prop
  | head, [], stop => head = stop
  | head, node :: nodes, stop => head = some node ∧ Segment next (next node) nodes stop

/-- A chain is a segment that ends in a null link. -/
def Chain (next : Node → Option Node) (head : Option Node) (nodes : List Node) : Prop :=
  Segment next head nodes none

@[simp] theorem segment_nil {head stop : Option Node} :
    Segment next head [] stop ↔ head = stop := Iff.rfl

@[simp] theorem segment_cons {head stop : Option Node} {node : Node} {nodes : List Node} :
    Segment next head (node :: nodes) stop ↔
      head = some node ∧ Segment next (next node) nodes stop := Iff.rfl

/-- A segment over two lists passes through the node between them. -/
theorem segment_append {head stop : Option Node} {first second : List Node} :
    Segment next head (first ++ second) stop ↔
      ∃ middle, Segment next head first middle ∧ Segment next middle second stop := by
  induction first generalizing head with
  | nil => simp only [List.nil_append, segment_nil, exists_eq_left']
  | cons node nodes ih =>
      simp only [List.cons_append, segment_cons, ih]
      constructor
      · rintro ⟨start, middle, left, right⟩
        exact ⟨middle, ⟨start, left⟩, right⟩
      · rintro ⟨middle, ⟨start, left⟩, right⟩
        exact ⟨start, middle, left, right⟩

/-- A segment depends on the successors of its nodes only. -/
theorem Segment.congr {head stop : Option Node} {nodes : List Node}
    (segment : Segment next head nodes stop) (same : ∀ node ∈ nodes, next' node = next node) :
    Segment next' head nodes stop := by
  induction nodes generalizing head with
  | nil => exact segment
  | cons node nodes ih =>
      refine ⟨segment.1, ?_⟩
      rw [same node List.mem_cons_self]
      exact ih segment.2 fun other member => same other (List.mem_cons_of_mem _ member)

namespace Chain

variable {head : Option Node} {nodes : List Node}

theorem congr (chain : Chain next head nodes) (same : ∀ node ∈ nodes, next' node = next node) :
    Chain next' head nodes := Segment.congr chain same

/-- A chain starts at its first node. -/
theorem head_eq (chain : Chain next head nodes) : head = nodes.head? := by
  cases nodes with
  | nil => exact chain
  | cons node nodes => exact chain.1

/-- Behind a node of a chain lies the rest of the chain. -/
theorem tail {before after : List Node} {node : Node}
    (chain : Chain next head (before ++ node :: after)) : Chain next (next node) after := by
  obtain ⟨_, _, right⟩ := segment_append.mp chain
  exact right.2

/-- The successor function and the head determine the chain. -/
theorem unique {other : List Node} (chain : Chain next head nodes)
    (chain' : Chain next head other) : nodes = other := by
  induction nodes generalizing head other with
  | nil =>
      cases other with
      | nil => rfl
      | cons node rest => exact (Option.some_ne_none node (chain'.1.symm.trans chain)).elim
  | cons node rest ih =>
      cases other with
      | nil => exact (Option.some_ne_none node (chain.1.symm.trans chain')).elim
      | cons node' rest' =>
          have same : node = node' := Option.some.inj (chain.1.symm.trans chain'.1)
          subst same
          rw [ih chain.2 chain'.2]

/-- No node occurs twice in a chain: the chain behind both occurrences would be the same. -/
theorem nodup (chain : Chain next head nodes) : nodes.Nodup := by
  induction nodes generalizing head with
  | nil => exact List.nodup_nil
  | cons node rest ih =>
      refine List.nodup_cons.mpr ⟨?_, ih chain.2⟩
      intro again
      obtain ⟨before, after, split⟩ := List.append_of_mem again
      have behind : Chain next (next node) after := by
        have rest := chain.2
        rw [split] at rest
        exact Chain.tail rest
      have same : rest = after := unique chain.2 behind
      have lengths := congrArg List.length (split.symm.trans same)
      simp only [List.length_append, List.length_cons] at lengths
      omega

/-- A node put behind the last one extends the chain. -/
theorem snoc {before : List Node} {last node : Node}
    (chain : Chain next head (before ++ [last])) (same : ∀ other ∈ before, next' other = next other)
    (linked : next' last = some node) (ends : next' node = none) :
    Chain next' head (before ++ [last] ++ [node]) := by
  rw [List.append_assoc]
  obtain ⟨middle, left, right⟩ := segment_append.mp chain
  exact segment_append.mpr ⟨middle, left.congr same, right.1, linked, ends⟩

/-- Linking a node to what follows its successor takes the successor out of the chain. -/
theorem unlink {before after : List Node} {prev node : Node}
    (chain : Chain next head (before ++ prev :: node :: after))
    (same : ∀ other ∈ before ++ after, next' other = next other)
    (linked : next' prev = next node) : Chain next' head (before ++ prev :: after) := by
  obtain ⟨middle, left, start, _, right⟩ := segment_append.mp chain
  refine segment_append.mpr ⟨middle, left.congr fun other member =>
    same other (List.mem_append_left _ member), start, ?_⟩
  rw [linked]
  exact Segment.congr right fun other member => same other (List.mem_append_right _ member)

end Chain

end Foundation
