import Sas.Foundation.Chain

/-! # Linked queues

A queue in linked nodes is a chain whose last node is known as well. Linking a node behind the last one
puts it at the end of the queue, and following the link of the first one takes that off. Between the two
the last node has to be forgotten exactly when the queue runs empty.
-/

namespace Foundation

variable {Node : Type*} {next next' : Node → Option Node}

/-- The nodes of a queue with this first and this last node, in order. -/
structure LinkedQueue (next : Node → Option Node) (head tail : Option Node) (nodes : List Node) :
    Prop where
  chain : Chain next head nodes
  last : tail = nodes.getLast?

namespace LinkedQueue

variable {head tail : Option Node} {nodes : List Node} {node : Node}

theorem nil : LinkedQueue next none none [] := ⟨rfl, rfl⟩

/-- A queue depends on the links of its nodes only. -/
theorem congr (queue : LinkedQueue next head tail nodes)
    (same : ∀ node ∈ nodes, next' node = next node) : LinkedQueue next' head tail nodes :=
  ⟨queue.chain.congr same, queue.last⟩

theorem nodup (queue : LinkedQueue next head tail nodes) : nodes.Nodup := queue.chain.nodup

/-- A queue without a first node is empty. -/
theorem eq_nil (queue : LinkedQueue next none tail nodes) : nodes = [] := by
  have first := queue.chain.head_eq
  cases nodes with
  | nil => rfl
  | cons node nodes => cases first

/-- The node behind which a queue that is not empty grows. -/
theorem last_node (queue : LinkedQueue next (some node) tail nodes) :
    ∃ before last, nodes = before ++ [last] ∧ tail = some last := by
  rcases List.eq_nil_or_concat' nodes with rfl | ⟨before, last, rfl⟩
  · exact absurd queue.chain (Option.some_ne_none node)
  · exact ⟨before, last, rfl, queue.last.trans List.getLast?_concat⟩

/-- The first node of a queue that was empty. -/
theorem push_nil (ends : next node = none) : LinkedQueue next (some node) (some node) [node] :=
  ⟨⟨rfl, ends⟩, rfl⟩

/-- A node that the last one is linked to is the last one from then on. -/
theorem push {before : List Node} {last : Node}
    (queue : LinkedQueue next head tail (before ++ [last]))
    (same : ∀ other ∈ before, next' other = next other) (linked : next' last = some node)
    (ends : next' node = none) :
    LinkedQueue next' head (some node) (before ++ [last] ++ [node]) :=
  ⟨queue.chain.snoc same linked ends, List.getLast?_concat.symm⟩

/-- Behind the first node the queue goes on; where it does not, there is no last node any more. -/
theorem pop (queue : LinkedQueue next head tail (node :: nodes)) :
    LinkedQueue next (next node) (if next node = none then none else tail) nodes := by
  refine ⟨queue.chain.2, ?_⟩
  cases nodes with
  | nil =>
      have ends : next node = none := queue.chain.2
      rw [if_pos ends]
      rfl
  | cons second nodes =>
      have follows : next node = some second := queue.chain.2.1
      rw [if_neg (by rw [follows]; exact Option.some_ne_none second), queue.last,
        List.getLast?_cons_cons]

end LinkedQueue

end Foundation
