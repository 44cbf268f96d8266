import Mathlib.Data.List.Find
import SourceOutline.Proofs.Lists
import SourceOutline.Proofs.Nodes

/-!
Trees without comments. A comment is a leaf without a field that does not stand where a keyword
is looked for, so that each way of looking at the children of a node passes over it.
-/

namespace SourceOutline.Node

def isComment (n : Node) : Bool :=
  n.kind == "comment"

def keywordFirstKinds : List String :=
  ["accessibility_modifier", "lexical_declaration", "variable_declaration"]

/-- Whether the comments among the children of a node are leaves without fields, and none of them
comes first where the first child counts. -/
def setsCommentsAside (n : Node) : Bool :=
  (n.children.all fun c => !c.isComment || (c.children.isEmpty && c.fields.isEmpty)) &&
    (!keywordFirstKinds.contains n.kind || !n.children.head?.any isComment)

def Tidy (n : Node) : Prop :=
  ∀ m ∈ n.nodes, m.setsCommentsAside = true

mutual
def bare (n : Node) : Node :=
  match n with
  | ⟨id, kind, named, start, stop, fields, children⟩ =>
    ⟨id, kind, named, start, stop, fields, bareAll children⟩
termination_by structural n

def bareAll (ns : List Node) : List Node :=
  match ns with
  | [] => []
  | c :: cs => if c.isComment then bareAll cs else c.bare :: bareAll cs
termination_by structural ns
end

@[simp] lemma kind_bare (n : Node) : n.bare.kind = n.kind := by
  cases n
  rfl

@[simp] lemma named_bare (n : Node) : n.bare.named = n.named := by
  cases n
  rfl

@[simp] lemma start_bare (n : Node) : n.bare.start = n.start := by
  cases n
  rfl

@[simp] lemma stop_bare (n : Node) : n.bare.stop = n.stop := by
  cases n
  rfl

@[simp] lemma carries_bare (n : Node) (f : Field) : n.bare.carries f = n.carries f := by
  cases n
  rfl

@[simp] lemma id_bare (n : Node) : n.bare.id = n.id := by
  cases n
  rfl

@[simp] lemma text_bare (n : Node) (src : Source) : n.bare.text src = n.text src := by
  simp [text]

@[simp] lemma span_bare (n : Node) : n.bare.span = n.span := by
  simp [span]

@[simp] lemma isComment_bare (n : Node) : n.bare.isComment = n.isComment := by
  simp [isComment]

lemma bareAll_eq (ns : List Node) :
    bareAll ns = (ns.filter fun c => !c.isComment).map bare := by
  induction ns with
  | nil => rfl
  | cons c cs ih =>
    rw [bareAll, ih, List.filter_cons]
    cases c.isComment <;> rfl

lemma children_bare (n : Node) :
    n.bare.children = (n.children.filter fun c => !c.isComment).map bare := by
  rw [← bareAll_eq]
  cases n
  rfl

namespace Tidy

variable {n c : Node}

lemma of_mem (h : n.Tidy) (hc : c ∈ n.nodes) : c.Tidy :=
  fun m hm => h m (nodes_subset hc hm)

lemma child (h : n.Tidy) (hc : c ∈ n.children) : c.Tidy :=
  h.of_mem (mem_nodes_of_child hc)

lemma field (h : n.Tidy) {f : Field} (hc : n.field? f = some c) : c.Tidy :=
  h.of_mem (mem_nodes_of_field? hc)

lemma content (h : n.Tidy) (hc : c ∈ n.content) : c.Tidy :=
  h.of_mem (n.content_subset_nodes hc)

lemma leaf (h : n.Tidy) (hc : c ∈ n.children) (hk : c.isComment = true) :
    c.children = [] ∧ c.fields = [] := by
  have hn := h n n.self_mem_nodes
  rw [setsCommentsAside, Bool.and_eq_true, List.all_eq_true] at hn
  have hleaf := hn.1 c hc
  simpa [hk] using hleaf

lemma not_carries (h : n.Tidy) (hc : c ∈ n.children) (hk : c.isComment = true) (f : Field) :
    c.carries f = false := by
  simp [carries, (h.leaf hc hk).2]

lemma head (h : n.Tidy) (hk : keywordFirstKinds.contains n.kind = true)
    (hc : n.children.head? = some c) : c.isComment = false := by
  have hn := h n n.self_mem_nodes
  rw [setsCommentsAside, Bool.and_eq_true, hk, hc] at hn
  simpa using hn.2

end Tidy

lemma find?_bare {n : Node} {p q : Node → Bool} (hq : ∀ c : Node, q c.bare = p c)
    (hp : ∀ c ∈ n.children, c.isComment = true → p c = false) :
    n.bare.children.find? q = (n.children.find? p).map bare := by
  have hcomp : q ∘ bare = p := funext hq
  rw [children_bare, List.find?_map, hcomp, List.find?_filter]
  congr 1
  apply List.find?_congr
  intro c hc
  cases hk : c.isComment with
  | true => simp [hp c hc hk]
  | false => simp

lemma field?_bare {n : Node} (h : n.Tidy) (f : Field) :
    n.bare.field? f = (n.field? f).map bare :=
  find?_bare (fun c => carries_bare c f) fun _ hc hk => h.not_carries hc hk f

lemma hasField_bare {n : Node} (h : n.Tidy) (f : Field) : n.bare.hasField f = n.hasField f := by
  rw [hasField, field?_bare h, Option.isSome_map, hasField]

lemma childOfKind?_bare (n : Node) {kind : String} (hk : kind ≠ "comment") :
    n.bare.childOfKind? kind = (n.childOfKind? kind).map bare := by
  apply find?_bare
  · intro c
    rw [kind_bare]
  · intro c _ hc
    rw [isComment, beq_iff_eq] at hc
    rw [hc, beq_eq_false_iff_ne]
    exact hk.symm

lemma any_kind_bare (n : Node) {kind : String} (hk : kind ≠ "comment") :
    (n.bare.children.any fun c => c.kind == kind) = n.children.any fun c => c.kind == kind := by
  have h := congrArg Option.isSome (n.childOfKind?_bare hk)
  rw [Option.isSome_map] at h
  simpa only [childOfKind?, List.isSome_find?] using h

lemma content_bare (n : Node) : n.bare.content = n.content.map bare := by
  rw [content, children_bare, List.filter_map, List.filter_filter, content]
  congr 1
  apply List.filter_congr
  intro c _
  cases hk : c.isComment with
  | true =>
    rw [isComment, beq_iff_eq] at hk
    simp [isContent, hk]
  | false => simp [isContent]

lemma head?_bare {n : Node} (h : n.Tidy) (hk : keywordFirstKinds.contains n.kind = true) :
    n.bare.children.head? = n.children.head?.map bare := by
  cases hc : n.children with
  | nil => simp [children_bare, hc]
  | cons c cs =>
    have hfirst : c.isComment = false := h.head hk (by rw [hc]; rfl)
    simp [children_bare, hc, hfirst]

lemma nameField_bare {n : Node} (h : n.Tidy) : n.bare.nameField = n.nameField := by
  rw [nameField, hasField_bare h, nameField]

lemma front_bare {n : Node} (h : n.Tidy) :
    n.bare.front = (n.front.filter fun c => !c.isComment).map bare := by
  rw [front, nameField_bare h, children_bare, List.takeWhile_map, List.takeWhile_filter, front]
  congr 2
  apply takeWhile_congr
  intro c hc
  cases hk : c.isComment with
  | true => simp [h.not_carries hc hk]
  | false => simp

lemma mem_children_of_mem_front {n c : Node} (h : c ∈ n.front) : c ∈ n.children :=
  (List.takeWhile_sublist _).subset h

lemma filterMap_front_bare {α : Type} {n : Node} (h : n.Tidy) {f : Node → Option α}
    (hf : ∀ c ∈ n.children, f c.bare = f c) (hn : ∀ c, c.isComment = true → f c = none) :
    n.bare.front.filterMap f = n.front.filterMap f := by
  rw [front_bare h, List.filterMap_map, List.filterMap_filter]
  apply List.filterMap_congr
  intro c hc
  cases hk : c.isComment with
  | true => simp [hn c hk]
  | false => simp [hf c (mem_children_of_mem_front hc)]

lemma ofNode?_bare {n : Node} (h : n.Tidy) : Modifier.ofNode? n.bare = Modifier.ofNode? n := by
  rw [Modifier.ofNode?, kind_bare, Modifier.ofNode?]
  split
  · rename_i hk
    rw [head?_bare h (by rw [hk]; decide), Option.bind_map]
    simp only [Function.comp_def, kind_bare]
  all_goals rfl

lemma ofNode?_comment {n : Node} (h : n.isComment = true) : Modifier.ofNode? n = none := by
  rw [isComment, beq_iff_eq] at h
  simp [Modifier.ofNode?, h]

lemma modifiers_bare {n : Node} (h : n.Tidy) : n.bare.modifiers = n.modifiers :=
  filterMap_front_bare h (fun _ hc => ofNode?_bare (h.child hc)) fun _ => ofNode?_comment

lemma hasModifier_bare {n : Node} (h : n.Tidy) (m : Modifier) :
    n.bare.hasModifier m = n.hasModifier m := by
  rw [hasModifier, modifiers_bare h, hasModifier]

lemma visibility?_bare {n : Node} (h : n.Tidy) : n.bare.visibility? = n.visibility? := by
  rw [visibility?, modifiers_bare h, visibility?]

lemma isParameterProperty_bare {n : Node} (h : n.Tidy) :
    n.bare.isParameterProperty = n.isParameterProperty := by
  rw [isParameterProperty, modifiers_bare h, isParameterProperty]

lemma isOptional_bare (n : Node) : n.bare.isOptional = n.isOptional := by
  rw [isOptional, any_kind_bare n (by decide), kind_bare, isOptional]

lemma accessorKeyword?_comment {n : Node} (h : n.isComment = true) :
    n.accessorKeyword? = none := by
  rw [isComment, beq_iff_eq] at h
  simp [accessorKeyword?, h]

lemma accessorKind?_bare {n : Node} (h : n.Tidy) : n.bare.accessorKind? = n.accessorKind? := by
  have hkeyword : ∀ c ∈ n.children, c.bare.accessorKeyword? = c.accessorKeyword? := by
    intro c _
    rw [accessorKeyword?, kind_bare, accessorKeyword?]
  rw [accessorKind?, hasField_bare h, ← List.head?_filterMap,
    filterMap_front_bare h hkeyword fun _ => accessorKeyword?_comment, List.head?_filterMap,
    accessorKind?]

@[simp] lemma memberNameText_bare (n : Node) (src : Source) :
    n.bare.memberNameText src = n.memberNameText src := by
  simp [memberNameText]

lemma descendants_leaf {n : Node} (h : n.children = []) : n.descendants = [] := by
  rw [descendants_eq, h]
  rfl

lemma descendants_bare {n : Node} (h : n.Tidy) :
    n.bare.descendants = (n.descendants.filter fun e => !e.2.isComment).map
      fun e => (e.1.bare, e.2.bare) := by
  induction n using child_induction with
  | step n ih =>
    rw [descendants_eq, descendantsFrom_eq, descendants_eq, descendantsFrom_eq, children_bare,
      List.flatMap_map, List.filter_flatMap, List.map_flatMap]
    apply flatMap_filter_congr
    · intro c hc hk
      simp [hk, ih c hc (h.child hc)]
    · intro c hc hk
      rw [Bool.not_eq_false'] at hk
      simp [hk, descendants_leaf (h.leaf hc hk).1]

end SourceOutline.Node
