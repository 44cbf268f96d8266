import Mathlib.Data.List.Infix
import Mathlib.Data.List.Lex
import Mathlib.Data.List.Pairwise
import SourceOutline.Proofs.Lists
import SourceOutline.Tree.Node

/-!
A way leads from a node down to one below it, by the index of a child at each step. The ways of
a tree in pre-order are those that stay in it, in lexicographic order.
-/

namespace SourceOutline

abbrev Way := List Nat

namespace Node

lemma forest_induction {motive : List Node → Prop} (nil : motive [])
    (cons : ∀ c cs, motive c.children → motive cs → motive (c :: cs)) (ns : List Node) :
    motive ns := by
  induction h : sizeOf ns using Nat.strongRecOn generalizing ns with
  | ind size ih =>
    cases ns with
    | nil => exact nil
    | cons c cs =>
      subst h
      apply cons
      · refine ih _ ?_ _ rfl
        cases c
        simp only [List.cons.sizeOf_spec, Node.mk.sizeOf_spec]
        omega
      · refine ih _ ?_ _ rfl
        simp only [List.cons.sizeOf_spec]
        omega

def at? (n : Node) : Way → Option Node
  | [] => some n
  | i :: way => n.children[i]?.bind fun c => c.at? way

/-- The node at the end of a way, behind its parent. -/
def edge? (n : Node) : Way → Option (Node × Node)
  | [] => none
  | [i] => n.children[i]?.map fun c => (n, c)
  | i :: j :: way => n.children[i]?.bind fun c => c.edge? (j :: way)

lemma edge?_cons (n : Node) (i : Nat) {way : Way} (h : way ≠ []) :
    n.edge? (i :: way) = n.children[i]?.bind fun c => c.edge? way := by
  cases way with
  | nil => exact (h rfl).elim
  | cons j way => rfl

lemma ne_nil_of_edge? {n : Node} {way : Way} {e : Node × Node} (h : n.edge? way = some e) :
    way ≠ [] := by
  rintro rfl
  cases h

lemma edge?_append (n : Node) (front : Way) {rest : Way} (h : rest ≠ []) :
    n.edge? (front ++ rest) = (n.at? front).bind fun c => c.edge? rest := by
  induction front generalizing n with
  | nil => rfl
  | cons i front ih =>
    rw [List.cons_append, edge?_cons n i (by simp [h])]
    simp only [at?]
    cases n.children[i]? with
    | none => rfl
    | some c => exact ih c

lemma at?_of_edge? {n parent c : Node} {way : Way} (h : n.edge? way = some (parent, c)) :
    n.at? way = some c := by
  induction way generalizing n with
  | nil => simp [edge?] at h
  | cons i way ih =>
    cases way with
    | nil =>
      obtain ⟨d, hd, he⟩ := Option.map_eq_some_iff.mp h
      cases he
      simp [at?, hd]
    | cons j way =>
      obtain ⟨d, hd, he⟩ := Option.bind_eq_some_iff.mp h
      simp only [at?, hd, Option.bind_some]
      exact ih he

lemma at?_append (n : Node) (front rest : Way) :
    n.at? (front ++ rest) = (n.at? front).bind fun c => c.at? rest := by
  induction front generalizing n with
  | nil => rfl
  | cons i front ih =>
    simp only [List.cons_append, at?]
    cases n.children[i]? with
    | none => rfl
    | some c => exact ih c

mutual
def ways (n : Node) : List Way :=
  match n with
  | ⟨_, _, _, _, _, _, children⟩ => waysFrom 0 children
termination_by structural n

def waysFrom (index : Nat) (ns : List Node) : List Way :=
  match ns with
  | [] => []
  | c :: cs => [index] :: (c.ways.map (index :: ·) ++ waysFrom (index + 1) cs)
termination_by structural ns
end

lemma ways_eq (n : Node) : n.ways = waysFrom 0 n.children := by
  cases n
  simp [ways]

lemma waysFrom_cons (index : Nat) (c : Node) (cs : List Node) :
    waysFrom index (c :: cs) =
      [index] :: ((waysFrom 0 c.children).map (index :: ·) ++ waysFrom (index + 1) cs) := by
  rw [waysFrom, ways_eq]

lemma ne_nil_of_mem_waysFrom {index : Nat} {ns : List Node} {way : Way}
    (h : way ∈ waysFrom index ns) : ∃ i v, way = i :: v ∧ index ≤ i := by
  induction ns generalizing index with
  | nil => simp [waysFrom] at h
  | cons c cs ih =>
    rw [waysFrom_cons, List.mem_cons, List.mem_append, List.mem_map] at h
    rcases h with rfl | ⟨v, _, rfl⟩ | h
    · exact ⟨index, [], rfl, le_rfl⟩
    · exact ⟨index, v, rfl, le_rfl⟩
    · obtain ⟨i, v, hv, hi⟩ := ih h
      exact ⟨i, v, hv, by omega⟩

lemma waysFrom_ordered (index : Nat) (ns : List Node) :
    (waysFrom index ns).Pairwise (List.Lex (· < ·)) := by
  induction ns using forest_induction generalizing index with
  | nil => simp [waysFrom]
  | cons c cs hc hcs =>
    rw [waysFrom_cons, List.pairwise_cons, List.pairwise_append, List.pairwise_map]
    refine ⟨?_, (hc 0).imp List.Lex.cons, hcs _, ?_⟩
    · intro way h
      rcases List.mem_append.mp h with h | h
      · obtain ⟨v, hv, rfl⟩ := List.mem_map.mp h
        obtain ⟨i, v, rfl, _⟩ := ne_nil_of_mem_waysFrom hv
        exact .cons .nil
      · obtain ⟨i, v, rfl, hi⟩ := ne_nil_of_mem_waysFrom h
        exact .rel hi
    · intro way h other ho
      obtain ⟨v, _, rfl⟩ := List.mem_map.mp h
      obtain ⟨i, w, rfl, hi⟩ := ne_nil_of_mem_waysFrom ho
      exact .rel hi

theorem ways_ordered (n : Node) : n.ways.Pairwise (List.Lex (· < ·)) := by
  rw [ways_eq]
  exact waysFrom_ordered 0 n.children

lemma mem_waysFrom_iff {parent : Node} {index : Nat} {ns : List Node}
    (h : parent.children.drop index = ns) (i : Nat) (v : Way) :
    i :: v ∈ waysFrom index ns ↔ index ≤ i ∧ (parent.edge? (i :: v)).isSome := by
  induction ns using forest_induction generalizing parent index i v with
  | nil =>
    have hl : parent.children.length ≤ index := List.drop_eq_nil_iff.mp h
    simp only [waysFrom, List.not_mem_nil, false_iff, not_and]
    intro hi
    have hn : parent.children[i]? = none := List.getElem?_eq_none (by omega)
    cases v <;> simp [edge?, hn]
  | cons c cs hc hcs =>
    obtain ⟨hhead, htail⟩ := drop_eq_cons h
    rw [waysFrom_cons, List.mem_cons, List.mem_append, List.mem_map, hcs htail]
    by_cases hi : i = index
    · subst i
      cases v with
      | nil => simp [edge?, hhead]
      | cons j w => simpa [edge?, hhead, Nat.not_succ_le_self] using @hc c 0 rfl j w
    · have hne : index + 1 ≤ i ↔ index ≤ i := by omega
      simp [hi, Ne.symm hi, hne]

theorem mem_ways_iff (n : Node) (way : Way) : way ∈ n.ways ↔ (n.edge? way).isSome := by
  rw [ways_eq]
  cases way with
  | nil =>
    simp only [edge?, Option.isSome_none, Bool.false_eq_true, iff_false]
    intro h
    obtain ⟨i, v, hv, _⟩ := ne_nil_of_mem_waysFrom h
    cases hv
  | cons i v => simpa using @mem_waysFrom_iff n 0 _ rfl i v

lemma edge?_of_drop {parent c : Node} {index : Nat} {cs : List Node}
    (h : parent.children.drop index = c :: cs) {v : Way} (hv : v ≠ []) :
    parent.edge? (index :: v) = c.edge? v := by
  rw [edge?_cons parent index hv, (drop_eq_cons h).1, Option.bind_some]

lemma filterMap_waysFrom {parent : Node} {index : Nat} {ns : List Node}
    (h : parent.children.drop index = ns) :
    (waysFrom index ns).filterMap parent.edge? = descendantsFrom parent ns := by
  induction ns using forest_induction generalizing parent index with
  | nil => simp [waysFrom, descendantsFrom]
  | cons c cs hc hcs =>
    obtain ⟨hhead, htail⟩ := drop_eq_cons h
    have he : parent.edge? [index] = some (parent, c) := by simp [edge?, hhead]
    have hb : ((waysFrom 0 c.children).map (index :: ·)).filterMap parent.edge? =
        c.descendants := by
      rw [descendants_eq, ← @hc c 0 rfl, List.filterMap_map]
      apply List.filterMap_congr
      intro v hv
      obtain ⟨i, w, rfl, _⟩ := ne_nil_of_mem_waysFrom hv
      exact edge?_of_drop h (by simp)
    rw [waysFrom_cons, List.filterMap_cons_some he, List.filterMap_append, hb, hcs htail,
      descendantsFrom]

theorem filterMap_ways (n : Node) : n.ways.filterMap n.edge? = n.descendants := by
  rw [ways_eq, descendants_eq]
  exact filterMap_waysFrom rfl

theorem mem_descendants_iff (n parent c : Node) :
    (parent, c) ∈ n.descendants ↔ ∃ way, n.edge? way = some (parent, c) := by
  rw [← filterMap_ways, List.mem_filterMap]
  constructor
  · rintro ⟨way, _, h⟩
    exact ⟨way, h⟩
  · rintro ⟨way, h⟩
    exact ⟨way, (mem_ways_iff n way).mpr (by simp [h]), h⟩

end Node

end SourceOutline
