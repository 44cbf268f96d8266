import Mathlib.Data.List.Basic
import SourceOutline.Extraction.Class

/-!
The nodes of a tree. Whatever is read of a node is read at nodes of its own tree, so that what
holds of all nodes of a tree is at hand wherever the reading goes.
-/

namespace SourceOutline.Node

theorem child_induction {motive : Node → Prop}
    (step : ∀ n, (∀ c ∈ n.children, motive c) → motive n) (n : Node) : motive n := by
  induction h : sizeOf n using Nat.strongRecOn generalizing n with
  | ind size ih =>
    subst h
    apply step
    intro c hc
    exact ih (sizeOf c) (sizeOf_lt_of_mem hc) c rfl

lemma descendantsFrom_eq (parent : Node) (ns : List Node) :
    descendantsFrom parent ns = ns.flatMap fun c => (parent, c) :: c.descendants := by
  induction ns with
  | nil => rfl
  | cons c cs ih => rw [descendantsFrom, ih, List.flatMap_cons, List.cons_append]

def nodes (n : Node) : List Node :=
  n :: n.descendants.map Prod.snd

lemma nodes_eq (n : Node) : n.nodes = n :: n.children.flatMap nodes := by
  rw [nodes, descendants_eq, descendantsFrom_eq, List.map_flatMap]
  rfl

lemma self_mem_nodes (n : Node) : n ∈ n.nodes :=
  List.mem_cons_self

lemma nodes_child {n c : Node} (h : c ∈ n.children) : c.nodes ⊆ n.nodes := by
  intro m hm
  rw [nodes_eq]
  exact List.mem_cons_of_mem n (List.mem_flatMap.mpr ⟨c, h, hm⟩)

lemma nodes_subset {n m : Node} (h : m ∈ n.nodes) : m.nodes ⊆ n.nodes := by
  induction n using child_induction with
  | step n ih =>
    rw [nodes_eq, List.mem_cons, List.mem_flatMap] at h
    rcases h with rfl | ⟨c, hc, hm⟩
    · exact List.Subset.refl _
    · exact List.Subset.trans (ih c hc hm) (nodes_child hc)

theorem subtree_induction {motive : Node → Prop}
    (step : ∀ n, (∀ c ∈ n.children, ∀ m ∈ c.nodes, motive m) → motive n) (n : Node) :
    motive n := by
  have h : ∀ n : Node, ∀ m ∈ n.nodes, motive m := by
    intro n
    induction n using child_induction with
    | step n ih =>
      intro m hm
      rw [nodes_eq, List.mem_cons, List.mem_flatMap] at hm
      rcases hm with rfl | ⟨c, hc, hm⟩
      · exact step m ih
      · exact ih c hc m hm
  exact h n n n.self_mem_nodes

lemma range_within {n m : Node}
    (h : ∀ x ∈ n.nodes, ∀ c ∈ x.children, x.start ≤ c.start ∧ c.stop ≤ x.stop)
    (hm : m ∈ n.nodes) : n.start ≤ m.start ∧ m.stop ≤ n.stop := by
  induction n using child_induction with
  | step n ih =>
    rw [nodes_eq, List.mem_cons, List.mem_flatMap] at hm
    rcases hm with rfl | ⟨c, hc, hm⟩
    · exact ⟨Nat.le_refl _, Nat.le_refl _⟩
    · have hin := ih c hc (fun x hx => h x (nodes_child hc hx)) hm
      have hout := h n n.self_mem_nodes c hc
      exact ⟨Nat.le_trans hout.1 hin.1, Nat.le_trans hin.2 hout.2⟩

lemma mem_nodes_of_child {n c : Node} (h : c ∈ n.children) : c ∈ n.nodes :=
  nodes_child h c.self_mem_nodes

lemma mem_nodes_of_field? {n c : Node} {f : Field} (h : n.field? f = some c) : c ∈ n.nodes :=
  mem_nodes_of_child (mem_children_of_field? h)

lemma content_subset_nodes (n : Node) : n.content ⊆ n.nodes := by
  intro c hc
  exact mem_nodes_of_child (mem_children_of_mem_content hc)

lemma content_subset_of_mem {n m : Node} (h : m ∈ n.nodes) : m.content ⊆ n.nodes :=
  List.Subset.trans m.content_subset_nodes (nodes_subset h)

lemma content_subset_of_field? {n c : Node} {f : Field} (h : n.field? f = some c) :
    c.content ⊆ n.nodes :=
  content_subset_of_mem (mem_nodes_of_field? h)

lemma mem_nodes_of_declaredType? {n t : Node} (h : n.declaredType? = some t) : t ∈ n.nodes := by
  obtain ⟨c, hc, ht⟩ := Option.bind_eq_some_iff.mp h
  have hn : c ∈ n.nodes := by
    rcases Option.or_eq_some_iff.mp hc with hc | ⟨_, hc⟩ <;> exact mem_nodes_of_field? hc
  rw [introducedType?] at ht
  split at ht
  · exact content_subset_of_mem hn (List.mem_of_mem_head? ht)
  · cases ht
    exact hn

lemma mem_nodes_of_objectType? {m t : Node} (h : m.objectType? = some t) : t ∈ m.nodes :=
  mem_nodes_of_declaredType? (Option.filter_eq_some_iff.mp h).1

lemma mem_nodes_of_descendant {n : Node} {e : Node × Node} (h : e ∈ n.descendants) :
    e.2 ∈ n.nodes :=
  List.mem_cons_of_mem n (List.mem_map_of_mem h)

lemma edge_of_mem_descendants {n parent c : Node} (h : (parent, c) ∈ n.descendants) :
    parent ∈ n.nodes ∧ c ∈ parent.children := by
  induction n using child_induction with
  | step n ih =>
    rw [descendants_eq, descendantsFrom_eq, List.mem_flatMap] at h
    obtain ⟨d, hd, h⟩ := h
    rcases List.mem_cons.mp h with h | h
    · cases h
      exact ⟨parent.self_mem_nodes, hd⟩
    · have hp := ih d hd h
      exact ⟨nodes_child hd hp.1, hp.2⟩

lemma child_above {n : Node} {e : Node × Node} (h : e ∈ n.descendants) :
    ∃ c ∈ n.children, e.2 ∈ c.nodes := by
  have hbelow : n.descendants.map Prod.snd = n.children.flatMap nodes :=
    (List.cons.inj n.nodes_eq).2
  have he : e.2 ∈ n.descendants.map Prod.snd := List.mem_map_of_mem h
  rw [hbelow, List.mem_flatMap] at he
  exact he

lemma parameterNodes_subset_nodes (n : Node) : n.parameterNodes ⊆ n.nodes := by
  intro p hp
  rw [parameterNodes] at hp
  cases hl : n.field? .parameters with
  | none => simp [hl] at hp
  | some list =>
    simp only [hl] at hp
    exact content_subset_of_field? hl (List.mem_filter.mp hp).1

lemma bodyNodes_subset_nodes (n : Node) : n.bodyNodes ⊆ n.nodes := by
  intro m hm
  rw [bodyNodes] at hm
  cases hb : n.field? .body with
  | none => simp [hb] at hm
  | some body =>
    simp only [hb, Option.map_some, Option.getD_some] at hm
    exact content_subset_of_field? hb hm

end SourceOutline.Node
