import SourceOutline.Tree.Node

/-!
A tree as a list of its nodes, each before those below it and with the place of its parent in
the list. The place of a node is its number in the tree.
-/

namespace SourceOutline

structure Entry where
  parent : Option Nat
  kind : String
  named : Bool
  start : Nat
  stop : Nat
  fields : List Field
  deriving DecidableEq, Repr

def Entry.node (e : Entry) (id : Nat) (children : List Node) : Node :=
  ⟨id, e.kind, e.named, e.start, e.stop, e.fields, children⟩

/-- Nodes that wait for their parents: at each place the children that its node has so far, and
the nodes without a parent. -/
structure Waiting where
  children : Array (List Node)
  roots : List Node

namespace Waiting

def settle (entry : Entry × Nat) (w : Waiting) : Waiting :=
  let node := entry.1.node entry.2 ((w.children[entry.2]?).getD [])
  match entry.1.parent with
  | some p => { w with children := w.children.modify p fun ns => node :: ns }
  | none => { w with roots := node :: w.roots }

end Waiting

namespace Node

/-- The tree of a listing. Since a node stands before those below it, the nodes are settled from
the last to the first. -/
def ofListing? (entries : List Entry) : Option Node :=
  (entries.zipIdx.foldr Waiting.settle ⟨Array.replicate entries.length [], []⟩).roots.head?

def find? (n : Node) (id : Nat) : Option Node :=
  (n :: n.descendants.map Prod.snd).find? fun d => d.id == id

end Node

end SourceOutline
