import SourceOutline.Proofs.Members
import SourceOutline.Proofs.Nodes
import SourceOutline.Proofs.Shapes
import SourceOutline.Proofs.Usages

/-!
Spans nest as the nodes do that they are taken from. In a tree whose ranges are in order, each
within that of its parent, every span that is found ends within the source, and whatever belongs
to a declaration lies within the span of that declaration.
-/

namespace SourceOutline

namespace Span

def FitsIn (s : Span) (size : Nat) : Prop :=
  s.start ≤ s.stop ∧ s.stop.toNat ≤ size

def Within (s outer : Span) : Prop :=
  outer.start ≤ s.start ∧ s.stop ≤ outer.stop

lemma Within.trans {s t u : Span} (h : s.Within t) (g : t.Within u) : s.Within u :=
  ⟨UInt32.le_trans g.1 h.1, UInt32.le_trans h.2 g.2⟩

lemma toUInt32_le {a b : Nat} (h : a ≤ b) (hb : b < UInt32.size) :
    a.toUInt32 ≤ b.toUInt32 := by
  have ha : a.toUInt32.toNat = a := UInt32.toNat_ofNat_of_lt' (Nat.lt_of_le_of_lt h hb)
  have hb : b.toUInt32.toNat = b := UInt32.toNat_ofNat_of_lt' hb
  rw [UInt32.le_iff_toNat_le, ha, hb]
  exact h

lemma ofOffsets_fits {start stop size : Nat} (h : start ≤ stop) (hs : stop ≤ size)
    (hsize : size < UInt32.size) : (ofOffsets start stop).FitsIn size := by
  constructor
  · exact toUInt32_le h (Nat.lt_of_le_of_lt hs hsize)
  · exact Nat.le_trans (Nat.mod_le stop _) hs

lemma ofOffsets_within {start stop start' stop' : Nat} (hs : start' ≤ start) (h : start ≤ stop)
    (he : stop ≤ stop') (hb : stop' < UInt32.size) :
    (ofOffsets start stop).Within (ofOffsets start' stop') := by
  constructor
  · exact toUInt32_le hs (by omega)
  · exact toUInt32_le he hb

end Span

namespace Parameter

def inner (p : Parameter) : List Parameter :=
  match p.type with
  | some (.structural list) => p.members ++ list
  | _ => p.members

/-- Whether the span of a parameter, and at every depth that of each member, fits into `size`
bytes, and the members of each lie within it. -/
inductive Laid (size : Nat) : Parameter → Prop
  | intro {p : Parameter} (fits : p.span.FitsIn size)
      (within : ∀ m ∈ p.inner, m.span.Within p.span)
      (inner : ∀ m ∈ p.inner, Laid size m) : Laid size p

lemma inner_leaf (name : String) (type : Option String) (span : Span) :
    (leaf name type span).inner = [] := by
  cases type <;> rfl

end Parameter

-- For each declaration: its span fits into `size` bytes, what belongs to it lies within its span,
-- and the same holds of what belongs to it.

structure Property.Laid (size : Nat) (p : Property) : Prop where
  fits : p.span.FitsIn size
  arguments : ∀ a ∈ p.typeArguments.toList, a.span.Within p.span ∧ a.Laid size

structure Method.Laid (size : Nat) (m : Method) : Prop where
  fits : m.span.FitsIn size
  parameters : ∀ p ∈ m.parameters, p.span.Within m.span ∧ p.Laid size
  arguments : ∀ a ∈ m.typeArguments.toList, a.span.Within m.span ∧ a.Laid size
  locals : ∀ v ∈ m.locals, v.span.Within m.span ∧ v.span.FitsIn size

structure Constructor.Laid (size : Nat) (c : Constructor) : Prop where
  fits : c.span.FitsIn size
  parameters : ∀ p ∈ c.parameters, p.span.Within c.span ∧ p.Laid size
  locals : ∀ v ∈ c.locals, v.span.Within c.span ∧ v.span.FitsIn size

structure ClassOutline.Laid (size : Nat) (c : ClassOutline) : Prop where
  fits : c.span.FitsIn size
  properties : ∀ p ∈ c.properties, p.span.Within c.span ∧ p.Laid size
  methods : ∀ m ∈ c.methods, m.span.Within c.span ∧ m.Laid size
  accessors : ∀ a ∈ c.accessors, a.span.Within c.span ∧ a.span.FitsIn size
  construct : ∀ k, c.constructor? = some k → k.span.Within c.span ∧ k.Laid size

def Declaration.Laid (size : Nat) : Declaration → Prop
  | ofClass c => c.Laid size
  | ofDefault d => d.span.FitsIn size
  | ofProperty p => p.Laid size
  | ofMethod m => m.Laid size
  | ofAccessor a => a.span.FitsIn size
  | ofConstructor c => c.Laid size
  | ofParameter p => p.Laid size
  | ofVariable v => v.span.FitsIn size

def NamedImport.Laid (size : Nat) (i : NamedImport) : Prop :=
  ∃ s : Span, i.start = some s.start ∧ i.stop = some s.stop ∧ s.FitsIn size

inductive Resource.Laid (size : Nat) : Resource → Prop
  | intro {r : Resource} (declarations : ∀ d ∈ r.declarations, d.Laid size)
      (imports : ∀ i ∈ r.imports, i.Laid size)
      (resources : ∀ x ∈ r.resources, Resource.Laid size x) : Resource.Laid size r

structure Findings.Laid (size : Nat) (f : Findings) : Prop where
  declarations : ∀ d ∈ f.declarations, d.Laid size
  imports : ∀ i ∈ f.imports, i.Laid size
  resources : ∀ x ∈ f.resources, x.Laid size

namespace Node

/-- Whether the ranges of a tree's nodes are in order, each within that of its parent, and the
tree ends within `size` bytes, all of which 32 bits can count. -/
structure LaidOut (size : Nat) (tree : Node) : Prop where
  ordered : ∀ n ∈ tree.nodes, n.start ≤ n.stop
  nested : ∀ n ∈ tree.nodes, ∀ c ∈ n.children, n.start ≤ c.start ∧ c.stop ≤ n.stop
  ends : tree.stop ≤ size
  short : size < UInt32.size

section Layout

variable {size : Nat} {n : Node} (h : n.LaidOut size)

include h

lemma LaidOut.range_within {m : Node} (hm : m ∈ n.nodes) :
    n.start ≤ m.start ∧ m.stop ≤ n.stop :=
  Node.range_within h.nested hm

lemma LaidOut.of_mem {m : Node} (hm : m ∈ n.nodes) : m.LaidOut size where
  ordered x hx := h.ordered x (nodes_subset hm hx)
  nested x hx := h.nested x (nodes_subset hm hx)
  ends := Nat.le_trans (h.range_within hm).2 h.ends
  short := h.short

lemma LaidOut.span_fits : n.span.FitsIn size :=
  Span.ofOffsets_fits (h.ordered n n.self_mem_nodes) h.ends h.short

lemma LaidOut.span_within {m : Node} (hm : m ∈ n.nodes) : m.span.Within n.span :=
  Span.ofOffsets_within (h.range_within hm).1 (h.ordered m hm) (h.range_within hm).2
    (Nat.lt_of_le_of_lt h.ends h.short)

lemma leaf_laid {m : Node} (hm : m ∈ n.nodes) (name : String) (type : Option String) :
    (Parameter.leaf name type m.span).span.Within n.span ∧
      (Parameter.leaf name type m.span).Laid size := by
  refine ⟨h.span_within hm, .intro (h.of_mem hm).span_fits ?_ ?_⟩
  · simp [Parameter.inner_leaf]
  · simp [Parameter.inner_leaf]

lemma level_laid (src : Source) (taken : List Nat) {members : List Node}
    (hms : members ⊆ n.nodes) :
    ∀ p ∈ Shape.level src taken members, p.span.Within n.span ∧ p.Laid size := by
  induction members using Shape.members_induction generalizing n taken with
  | nil => simp [Shape.level_nil]
  | cons m ms inner ih =>
    obtain ⟨hm, hms⟩ := List.cons_subset.mp hms
    intro p hp
    cases hn : m.shapeName? src with
    | none =>
      rw [Shape.level_unnamed hn] at hp
      exact ih h taken hms p hp
    | some name =>
      cases ho : m.objectType? with
      | none =>
        rw [Shape.level_leaf hn ho] at hp
        rcases List.mem_cons.mp hp with rfl | hp
        · exact leaf_laid h hm _ _
        · exact ih h taken hms p hp
      | some t =>
        rw [Shape.level_structural hn ho] at hp
        rcases List.mem_cons.mp hp with rfl | hp
        · -- What the member lists and what its type holds are both read from the same nodes,
          -- those below the type, which lie within the member.
          have hmo := h.of_mem hm
          have ht : t.content ⊆ m.nodes := content_subset_of_mem (mem_nodes_of_objectType? ho)
          have hlisted : ∀ q ∈ (Shape.take src taken t.content).2,
              q.span.Within m.span ∧ q.Laid size := by
            intro q hq
            obtain ⟨c, hc, hl⟩ := Shape.leaf_of_mem_take hq
            obtain ⟨_, _, rfl⟩ := Option.map_eq_some_iff.mp hl
            exact leaf_laid hmo (ht hc) _ _
          have hinner := List.forall_mem_append.mpr ⟨hlisted, inner t ho hmo [] ht⟩
          exact ⟨h.span_within hm, .intro hmo.span_fits (fun q hq => (hinner q hq).1)
            fun q hq => (hinner q hq).2⟩
        · exact ih h _ hms p hp

lemma flatten_laid (src : Source) {t : Node} (ht : t ∈ n.nodes) :
    ∀ p ∈ Shape.flatten src t.content, p.span.Within n.span ∧ p.Laid size := by
  rw [Shape.flatten_eq_level]
  exact level_laid h src [] (content_subset_of_mem ht)

lemma typeArguments_laid (src : Source) :
    ∀ a ∈ (n.typeArguments src).toList, a.span.Within n.span ∧ a.Laid size := by
  intro a ha
  rw [typeArguments] at ha
  cases hd : n.declaredType? with
  | none => simp [hd, TypeArguments.toList] at ha
  | some t =>
    have ht := mem_nodes_of_declaredType? hd
    simp only [hd] at ha
    split at ha
    · exact flatten_laid h src ht a ha
    · split at ha
      · split at ha
        · cases ha
        · rename_i first hfirst
          obtain ⟨list, hl, hf⟩ := Option.bind_eq_some_iff.mp hfirst
          have hin : first ∈ n.nodes :=
            nodes_subset ht (content_subset_of_field? hl (List.mem_of_mem_head? hf))
          split at ha
          · exact flatten_laid h src hin a ha
          · split at ha <;> cases ha
      · cases ha

lemma boundNames_laid (src : Source) {pattern : Node} (hp : pattern ∈ n.nodes) :
    ∀ p ∈ pattern.boundNames src, p.span.Within n.span ∧ p.Laid size := by
  intro p hbound
  obtain ⟨e, he, hbound⟩ := List.mem_filterMap.mp hbound
  obtain ⟨name, _, rfl⟩ := Option.map_eq_some_iff.mp hbound
  exact leaf_laid h (content_subset_of_mem hp he) _ _

lemma binding_laid (src : Source) {b : Node} (hb : b ∈ n.nodes) {binding : Binding}
    (hbind : b.binding? src = some binding) :
    ∀ p ∈ binding.parameters, p.span.Within n.span ∧ p.Laid size := by
  obtain ⟨pattern, hp, hbind⟩ := Option.bind_eq_some_iff.mp hbind
  have hpattern : pattern ∈ n.nodes := nodes_subset hb (mem_nodes_of_field? hp)
  have hsingle (name : Node) : ∀ p ∈ (Binding.single (b.parameterCalled src name)).parameters,
      p.span.Within n.span ∧ p.Laid size := by
    intro p hp
    cases List.mem_singleton.mp hp
    exact leaf_laid h hb _ _
  split at hbind
  · cases hbind
    exact hsingle pattern
  · cases hbind
    exact hsingle pattern
  · obtain ⟨name, _, rfl⟩ := Option.map_eq_some_iff.mp hbind
    exact hsingle name
  · cases hbind
    exact boundNames_laid h src hpattern
  · cases hbind
    exact boundNames_laid h src hpattern
  · cases hbind

lemma parameters_laid (src : Source) :
    ∀ p ∈ n.parameters src, p.span.Within n.span ∧ p.Laid size := by
  intro p hp
  obtain ⟨b, hb, hp⟩ := List.mem_flatMap.mp hp
  cases hbind : b.binding? src with
  | none => simp [hbind] at hp
  | some binding =>
    simp only [hbind, Option.map_some, Option.getD_some] at hp
    exact binding_laid h src (n.parameterNodes_subset_nodes hb) hbind p hp

lemma locals_laid (src : Source) :
    ∀ v ∈ n.locals src, v.span.Within n.span ∧ v.span.FitsIn size := by
  intro v hv
  obtain ⟨⟨parent, d⟩, hd, hv⟩ := List.mem_flatMap.mp hv
  have hdn : d ∈ n.nodes := mem_nodes_of_descendant hd
  simp only at hv
  split at hv
  · obtain ⟨c, hc, hv⟩ := List.mem_filterMap.mp hv
    have hcn : c ∈ n.nodes := content_subset_of_mem hdn hc
    obtain ⟨_, hv⟩ := Option.ite_none_right_eq_some.mp hv
    obtain ⟨name, _, rfl⟩ := Option.map_eq_some_iff.mp hv
    exact ⟨h.span_within hcn, (h.of_mem hcn).span_fits⟩
  · cases hv

lemma constructorParameter_laid (src : Source) {b : Node} (hb : b ∈ n.nodes) :
    (∀ p ∈ (b.constructorParameter src).1, p.span.Within n.span ∧ p.Laid size) ∧
      ∀ p ∈ (b.constructorParameter src).2, p.span.Within n.span ∧ p.Laid size := by
  rw [constructorParameter]
  split
  · rename_i q hbind
    refine ⟨binding_laid h src hb hbind, ?_⟩
    intro p hp
    split at hp
    · cases List.mem_singleton.mp hp
      have hbo := h.of_mem hb
      exact ⟨h.span_within hb, ⟨hbo.span_fits, typeArguments_laid hbo src⟩⟩
    · cases hp
  · rename_i ps hbind
    exact ⟨binding_laid h src hb hbind, by simp⟩
  · exact ⟨by simp, by simp⟩

end Layout

lemma constructorParameters_laid {size : Nat} {n : Node} (h : n.LaidOut size) (src : Source) :
    (∀ p ∈ (n.constructorParameters src).1, p.span.Within n.span ∧ p.Laid size) ∧
      ∀ p ∈ (n.constructorParameters src).2, p.span.Within n.span ∧ p.Laid size := by
  rw [constructorParameters_eq]
  constructor
  · intro p hp
    obtain ⟨b, hb, hp⟩ := List.mem_flatMap.mp hp
    exact (constructorParameter_laid h src (n.parameterNodes_subset_nodes hb)).1 p hp
  · intro p hp
    obtain ⟨b, hb, hp⟩ := List.mem_flatMap.mp hp
    exact (constructorParameter_laid h src (n.parameterNodes_subset_nodes hb)).2 p hp

end Node

structure Member.Laid (size : Nat) (outer : Span) (m : Member) : Prop where
  properties : ∀ p ∈ m.properties, p.span.Within outer ∧ p.Laid size
  methods : ∀ k, m.method? = some k → k.span.Within outer ∧ k.Laid size
  accessors : ∀ a, m.accessor? = some a → a.span.Within outer ∧ a.span.FitsIn size
  construct : ∀ k, m.constructor? = some k → k.span.Within outer ∧ k.Laid size

namespace Node

section Members

variable {size : Nat} {n : Node} (h : n.LaidOut size)

include h

lemma fieldProperty_laid (src : Source) (name : String) : (n.fieldProperty src name).Laid size :=
  ⟨h.span_fits, typeArguments_laid h src⟩

lemma methodOf_laid (src : Source) (name : String) : (n.methodOf src name).Laid size :=
  ⟨h.span_fits, parameters_laid h src, typeArguments_laid h src, locals_laid h src⟩

lemma constructorOf_laid (src : Source) (className : String) :
    (n.constructorOf src className).Laid size :=
  ⟨h.span_fits, (constructorParameters_laid h src).1, locals_laid h src⟩

lemma member?_laid {src : Source} {className : String} {m : Member} {outer : Span}
    (ho : n.span.Within outer) (hm : n.member? src className = some m) : m.Laid size outer := by
  rw [member?] at hm
  split at hm
  · obtain ⟨name, _, rfl⟩ := Option.map_eq_some_iff.mp hm
    constructor
    · intro p hp
      cases List.mem_singleton.mp hp
      exact ⟨ho, fieldProperty_laid h src name⟩
    all_goals rintro _ ⟨⟩
  · split at hm
    · obtain ⟨name, _, rfl⟩ := Option.map_eq_some_iff.mp hm
      split
      · constructor
        case accessors =>
          rintro _ ⟨⟩
          exact ⟨ho, h.span_fits⟩
        all_goals rintro _ ⟨⟩
      · split
        · constructor
          case properties =>
            intro p hp
            have hp := (constructorParameters_laid h src).2 p hp
            exact ⟨hp.1.trans ho, hp.2⟩
          case construct =>
            rintro _ ⟨⟩
            exact ⟨ho, constructorOf_laid h src className⟩
          all_goals rintro _ ⟨⟩
        · constructor
          case methods =>
            rintro _ ⟨⟩
            exact ⟨ho, methodOf_laid h src name⟩
          all_goals rintro _ ⟨⟩
    · cases hm

lemma namedImport?_laid {src : Source} {i : NamedImport} (hi : n.namedImport? src = some i) :
    i.Laid size := by
  obtain ⟨source, _, hi⟩ := Option.bind_eq_some_iff.mp hi
  obtain ⟨clause, _, hi⟩ := Option.bind_eq_some_iff.mp hi
  obtain ⟨names, _, hi⟩ := Option.bind_eq_some_iff.mp hi
  cases hi
  exact ⟨n.span, rfl, rfl, h.span_fits⟩

end Members

section Classes

variable {size : Nat} {n parent : Node} (h : parent.LaidOut size) (hn : n ∈ parent.children)

include h hn

lemma classSpan_fits : (n.classSpan parent).FitsIn size := by
  have hno := h.of_mem (mem_nodes_of_child hn)
  rw [classSpan]
  split
  · have hstart := (h.range_within (mem_nodes_of_child hn)).1
    have hord := hno.ordered n n.self_mem_nodes
    exact Span.ofOffsets_fits (Nat.le_trans hstart hord) hno.ends h.short
  · exact hno.span_fits

lemma span_within_classSpan : n.span.Within (n.classSpan parent) := by
  have hno := h.of_mem (mem_nodes_of_child hn)
  rw [classSpan]
  split
  · exact Span.ofOffsets_within (h.range_within (mem_nodes_of_child hn)).1
      (hno.ordered n n.self_mem_nodes) (Nat.le_refl _) (Nat.lt_of_le_of_lt hno.ends h.short)
  · exact hno.span_within n.self_mem_nodes

lemma classOf_laid (src : Source) (fallback : String) :
    (n.classOf src fallback parent).Laid size := by
  have hno := h.of_mem (mem_nodes_of_child hn)
  have hmembers : ∀ m ∈ n.members src fallback, m.Laid size (n.classSpan parent) := by
    intro m hm
    obtain ⟨b, hb, hm⟩ := List.mem_filterMap.mp hm
    have hbn := n.bodyNodes_subset_nodes hb
    exact member?_laid (hno.of_mem hbn)
      ((hno.span_within hbn).trans (span_within_classSpan h hn)) hm
  rw [classOf_eq]
  constructor
  · exact classSpan_fits h hn
  · intro p hp
    obtain ⟨m, hm, hp⟩ := List.mem_flatMap.mp hp
    exact (hmembers m hm).properties p hp
  · intro k hk
    obtain ⟨m, hm, hk⟩ := List.mem_filterMap.mp hk
    exact (hmembers m hm).methods k hk
  · intro a ha
    obtain ⟨m, hm, ha⟩ := List.mem_filterMap.mp ha
    exact (hmembers m hm).accessors a ha
  · intro k hk
    obtain ⟨m, hm, hk⟩ := List.mem_filterMap.mp (List.mem_of_mem_getLast? hk)
    exact (hmembers m hm).construct k hk

lemma classDeclarations_laid (src : Source) (fallback : String) :
    ∀ x ∈ n.classDeclarations src fallback parent, x.Laid size := by
  have hc := classOf_laid h hn src fallback
  rw [classDeclarations]
  split
  · simpa [Declaration.Laid] using ⟨hc.fits, hc⟩
  · simpa [Declaration.Laid] using hc

end Classes

end Node

lemma Resource.ofKind_laid (size : Nat) (kind : ResourceKind) :
    (Resource.ofKind kind).Laid size := by
  constructor <;> simp [Resource.ofKind]

lemma Resource.absorb_laid {size : Nat} {r : Resource} {f : Findings} (hr : r.Laid size)
    (hf : f.Laid size) : (r.absorb f).Laid size := by
  cases hr with
  | intro hd hi hx =>
    constructor
    · exact List.forall_mem_append.mpr ⟨hd, hf.declarations⟩
    · exact List.forall_mem_append.mpr ⟨hi, hf.imports⟩
    · exact List.forall_mem_append.mpr ⟨hx, hf.resources⟩

namespace Node

lemma region_subset_descendants (n : Node) : n.region ⊆ n.descendants := by
  intro e he
  obtain ⟨way, _, he⟩ := (mem_region_iff n e).mp he
  exact (mem_descendants_iff n e.1 e.2).mpr ⟨way, he⟩

lemma findingsBelow_laid {size : Nat} {n : Node} (h : n.LaidOut size) (src : Source)
    (fallback : String) : (n.findingsBelow src fallback).Laid size := by
  induction n using subtree_induction generalizing fallback with
  | step n ih =>
    rw [findingsBelow_eq]
    constructor
    · intro x hx
      obtain ⟨e, he, hx⟩ := List.mem_flatMap.mp hx
      obtain ⟨hp, hc⟩ := edge_of_mem_descendants (n.region_subset_descendants he)
      rw [declarationsAt] at hx
      split at hx
      · exact classDeclarations_laid (h.of_mem hp) hc src fallback x hx
      · cases hx
    · intro i hi
      obtain ⟨e, he, hi⟩ := List.mem_filterMap.mp hi
      obtain ⟨hp, hc⟩ := edge_of_mem_descendants (n.region_subset_descendants he)
      have hno := (h.of_mem hp).of_mem (mem_nodes_of_child hc)
      exact namedImport?_laid hno (Option.ite_none_right_eq_some.mp hi).2
    · intro x hx
      obtain ⟨e, he, hx⟩ := List.mem_filterMap.mp hx
      obtain ⟨kind, _, hx⟩ := Option.bind_eq_some_iff.mp hx
      obtain ⟨body, hb, rfl⟩ := Option.map_eq_some_iff.mp hx
      obtain ⟨c, hc, hec⟩ := child_above (n.region_subset_descendants he)
      have hbody : body ∈ c.nodes := nodes_subset hec (mem_nodes_of_field? hb)
      have hlaid := h.of_mem (nodes_child hc hbody)
      rw [Resource.extract_eq]
      exact Resource.absorb_laid (Resource.ofKind_laid size kind) (ih c hc body hbody hlaid _)

end Node

open Node

theorem spans_nest (src : Source) {tree : Node} (h : tree.LaidOut src.bytes.size) (d : Disk) :
    (∀ kind, ((Resource.ofKind kind).extract d src tree).Laid src.bytes.size) ∧
      ∀ r : Resource, r.Laid src.bytes.size → (r.extract d src tree).Laid src.bytes.size := by
  have hadd (r : Resource) (hr : r.Laid src.bytes.size) :
      (r.extract d src tree).Laid src.bytes.size := by
    rw [Resource.extract_eq]
    exact r.absorb_laid hr (findingsBelow_laid h src _)
  exact ⟨fun kind => hadd _ (Resource.ofKind_laid _ kind), hadd⟩

def promotingClass : Node :=
  ⟨0, "program", true, 0, 53, [],
    [⟨1, "export_statement", true, 0, 53, [],
      [⟨2, "class_declaration", true, 7, 53, [],
        [⟨3, "type_identifier", true, 13, 14, [.name], []⟩,
          ⟨4, "class_body", true, 14, 53, [.body],
            [⟨5, "public_field_definition", true, 15, 22, [],
              [⟨6, "property_identifier", true, 15, 16, [.name], []⟩,
                ⟨7, "type_annotation", true, 16, 22, [.type],
                  [⟨8, "object_type", true, 17, 22, [],
                    [⟨9, "property_signature", true, 18, 21, [],
                      [⟨10, "property_identifier", true, 18, 19, [.name], []⟩,
                        ⟨11, "type_annotation", true, 19, 21, [.type],
                          [⟨12, "type_identifier", true, 20, 21, [], []⟩]⟩]⟩]⟩]⟩]⟩,
              ⟨13, "method_definition", true, 23, 52, [],
                [⟨14, "property_identifier", true, 23, 34, [.name], []⟩,
                  ⟨15, "formal_parameters", true, 34, 45, [.parameters],
                    [⟨16, "required_parameter", true, 35, 44, [],
                      [⟨17, "accessibility_modifier", true, 35, 42, [],
                          [⟨18, "private", false, 35, 42, [], []⟩]⟩,
                        ⟨19, "identifier", true, 43, 44, [.pattern], []⟩]⟩]⟩,
                  ⟨20, "statement_block", true, 45, 52, [.body],
                    [⟨21, "lexical_declaration", true, 46, 51, [],
                      [⟨22, "let", false, 46, 49, [], []⟩,
                        ⟨23, "variable_declarator", true, 50, 51, [],
                          [⟨24, "identifier", true, 50, 51, [.name], []⟩]⟩]⟩]⟩]⟩]⟩]⟩]⟩]⟩

def promotingText : String :=
  "export class A\x7bx:\x7by:B\x7d;constructor(private z)\x7blet v\x7d\x7d"

theorem promotingClass_nests :
    promotingClass.LaidOut (Source.ofString promotingText).bytes.size ∧
      ((Resource.ofKind (.ambientModule "m")).extract .absent (.ofString promotingText)
        promotingClass).Laid (Source.ofString promotingText).bytes.size := by
  have hlaid : promotingClass.LaidOut (Source.ofString promotingText).bytes.size :=
    ⟨by decide, by decide, by decide, by decide⟩
  exact ⟨hlaid, (spans_nest (.ofString promotingText) hlaid .absent).1 _⟩

end SourceOutline
