import SourceOutline.Proofs.Nodes

/-!
The type that a value shows. It depends on the literals at the end of each chain of values; of the
elements of an array only on which types they show, and of an object on its properties in order.
-/

namespace SourceOutline

namespace Node

/-- The end of the chain of values that begins at a node. -/
def core (n : Node) : Node :=
  match _h : n.field? .value with
  | some v => v.core
  | none => n
termination_by sizeOf n
decreasing_by exact sizeOf_field?_lt _h

def truthKinds : List String :=
  ["true", "false"]

def primitiveKinds : List String :=
  ["string", "number"]

def literalKinds : List String :=
  truthKinds ++ primitiveKinds ++ ["array", "object"]

def showsType (n : Node) : Bool :=
  literalKinds.contains n.core.kind

def propertyKey? (p : Node) : Option Node :=
  match p.kind with
  | "pair" => p.field? .key
  | "shorthand_property_identifier" => some p
  | "method_definition" => p.field? .name
  | _ => none

def propertyValue? (p : Node) : Option Node :=
  if p.kind = "pair" then p.field? .value else none

def isProperty (p : Node) : Bool :=
  p.propertyKey?.isSome

structure SameProperty (s t : Source) (R : Node → Node → Prop) (p q : Node) : Prop where
  key : p.propertyKey?.map (text · s) = q.propertyKey?.map (text · t)
  value : (∃ v w, p.propertyValue? = some v ∧ q.propertyValue? = some w ∧ R v w) ∨
    p.propertyValue?.any showsType = false ∧ q.propertyValue?.any showsType = false

/-- Two values, of two sources, are made of the same literals as far as types can tell. -/
inductive Alike (s t : Source) : Node → Node → Prop where
  | value {m n v w : Node} (hm : m.field? .value = some v) (hn : n.field? .value = some w)
      (h : Alike s t v w) : Alike s t m n
  | unshown {m n : Node} (hm : m.field? .value = none) (hn : n.field? .value = none)
      (hmk : m.kind ∉ literalKinds) (hnk : n.kind ∉ literalKinds) : Alike s t m n
  | truth {m n : Node} (hm : m.field? .value = none) (hn : n.field? .value = none)
      (hmk : m.kind ∈ truthKinds) (hnk : n.kind ∈ truthKinds) : Alike s t m n
  | primitive {m n : Node} (hm : m.field? .value = none) (hn : n.field? .value = none)
      (hmk : m.kind ∈ primitiveKinds) (hnk : n.kind = m.kind) : Alike s t m n
  -- `R` is part of the relation itself, which may not stand below `∃` here
  | array {m n : Node} (hm : m.field? .value = none) (hn : n.field? .value = none)
      (hmk : m.kind = "array") (hnk : n.kind = "array") (R : Node → Node → Prop)
      (related : ∀ c d, R c d → Alike s t c d)
      (left : ∀ c ∈ m.content, c.showsType = true → ∃ d ∈ n.content, R c d)
      (right : ∀ d ∈ n.content, d.showsType = true → ∃ c ∈ m.content, R c d) : Alike s t m n
  | object {m n : Node} (hm : m.field? .value = none) (hn : n.field? .value = none)
      (hmk : m.kind = "object") (hnk : n.kind = "object") (R : Node → Node → Prop)
      (related : ∀ c d, R c d → Alike s t c d)
      (properties : List.Forall₂ (SameProperty s t R) (m.content.filter isProperty)
        (n.content.filter isProperty)) : Alike s t m n

lemma Alike.of_elements {s t : Source} {m n : Node} (hm : m.field? .value = none)
    (hn : n.field? .value = none) (hmk : m.kind = "array") (hnk : n.kind = "array")
    (left : ∀ c ∈ m.content, c.showsType = true → ∃ d ∈ n.content, Alike s t c d)
    (right : ∀ d ∈ n.content, d.showsType = true → ∃ c ∈ m.content, Alike s t c d) :
    Alike s t m n :=
  .array hm hn hmk hnk (Alike s t) (fun _ _ h => h) left right

lemma core_of_value {n v : Node} (h : n.field? .value = some v) : n.core = v.core := by
  rw [core]
  split
  · rename_i w hw
    rw [hw, Option.some.injEq] at h
    rw [h]
  · rename_i hn
    rw [hn] at h
    cases h

lemma core_of_none {n : Node} (h : n.field? .value = none) : n.core = n := by
  rw [core]
  split
  · rename_i w hw
    rw [hw] at h
    cases h
  · rfl

lemma literalType?_of_value (src : Source) {n v : Node} (h : n.field? .value = some v) :
    n.literalType? src = v.literalType? src := by
  rw [literalType?_eq, h]

theorem value_induction {motive : Node → Prop}
    (value : ∀ n v, n.field? .value = some v → motive v → motive n)
    (last : ∀ n, n.field? .value = none → motive n) (n : Node) : motive n := by
  induction n using child_induction with
  | step n ih =>
    cases h : n.field? .value with
    | none => exact last n h
    | some v => exact value n v h (ih v (mem_children_of_field? h))

lemma field?_core (n : Node) : n.core.field? .value = none := by
  induction n using value_induction with
  | value n v h ih => rwa [core_of_value h]
  | last n h => rwa [core_of_none h]

lemma literalType?_core (src : Source) (n : Node) :
    n.literalType? src = n.core.literalType? src := by
  induction n using value_induction with
  | value n v h ih => rw [literalType?_of_value src h, core_of_value h, ih]
  | last n h => rw [core_of_none h]

section Last

variable (src : Source) {n : Node}

lemma literalType?_truth (h : n.field? .value = none) (hk : n.kind ∈ truthKinds) :
    n.literalType? src = some "boolean" := by
  rw [literalType?_eq, h]
  simp only [truthKinds, List.mem_cons, List.not_mem_nil, or_false] at hk
  rcases hk with hk | hk <;> simp only [hk]

lemma literalType?_primitive (h : n.field? .value = none) (hk : n.kind ∈ primitiveKinds) :
    n.literalType? src = some n.kind := by
  rw [literalType?_eq, h]
  simp only [primitiveKinds, List.mem_cons, List.not_mem_nil, or_false] at hk
  rcases hk with hk | hk <;> simp only [hk]

lemma literalType?_array (h : n.field? .value = none) (hk : n.kind = "array") :
    n.literalType? src = some (arrayText (n.content.filterMap (literalType? src))) := by
  rw [literalType?_eq, h]
  simp only [hk]

def typedProperty? (src : Source) (p : Node) : Option String :=
  p.propertyKey?.map fun key =>
    propertyText (key.text src) (p.propertyValue?.bind (literalType? src))

lemma objectProperty?_eq (p : Node) :
    objectProperty? src p ((p.field? .value).bind (literalType? src)) = p.typedProperty? src := by
  unfold objectProperty? typedProperty? propertyKey? propertyValue?
  split <;> simp_all

lemma literalType?_object (h : n.field? .value = none) (hk : n.kind = "object") :
    n.literalType? src = some (objectText (n.content.filterMap (typedProperty? src))) := by
  rw [literalType?_eq, h]
  simp only [hk, objectProperty?_eq]

lemma literalType?_unshown (h : n.field? .value = none) (hk : n.kind ∉ literalKinds) :
    n.literalType? src = none := by
  rw [literalType?_eq, h]
  split <;> simp_all [literalKinds, truthKinds, primitiveKinds]

end Last

lemma isSome_literalType? (src : Source) (n : Node) :
    (n.literalType? src).isSome = n.showsType := by
  have hlast := field?_core n
  rw [literalType?_core, showsType]
  by_cases hk : n.core.kind ∈ literalKinds
  · rw [List.contains_iff_mem.mpr hk]
    simp only [literalKinds, List.mem_append, List.mem_cons, List.not_mem_nil, or_false] at hk
    rcases hk with (hk | hk) | hk | hk
    · rw [literalType?_truth src hlast hk, Option.isSome_some]
    · rw [literalType?_primitive src hlast hk, Option.isSome_some]
    · rw [literalType?_array src hlast hk, Option.isSome_some]
    · rw [literalType?_object src hlast hk, Option.isSome_some]
  · rw [literalType?_unshown src hlast hk]
    simpa using hk

lemma showsType_of_some {src : Source} {n : Node} {type : String}
    (h : n.literalType? src = some type) : n.showsType = true := by
  rw [← isSome_literalType? src, h, Option.isSome_some]

lemma exists_of_showsType (src : Source) {n : Node} (h : n.showsType = true) :
    ∃ type, n.literalType? src = some type := by
  rwa [← Option.isSome_iff_exists, isSome_literalType?]

lemma commonType_eq_iff {types : List String} {type : String} :
    commonType types = type ↔
      (∃ x, x ∈ types) ∧ (∀ x ∈ types, x = type) ∨
        type = "any" ∧ ((∀ x, x ∉ types) ∨ ∃ x ∈ types, ∃ y ∈ types, x ≠ y) := by
  cases types with
  | nil => simp [commonType, eq_comm]
  | cons first rest =>
    rw [commonType]
    by_cases hall : ∀ x ∈ rest, x = first
    · have hsame : ∀ x ∈ first :: rest, x = first := List.forall_mem_cons.mpr ⟨rfl, hall⟩
      rw [if_pos (by simpa using hall)]
      constructor
      · rintro rfl
        exact .inl ⟨⟨first, List.mem_cons_self⟩, hsame⟩
      · rintro (⟨_, h⟩ | ⟨_, h | ⟨x, hx, y, hy, hne⟩⟩)
        · exact h first List.mem_cons_self
        · exact absurd List.mem_cons_self (h first)
        · exact absurd ((hsame x hx).trans (hsame y hy).symm) hne
    · rw [if_neg (by simpa using hall)]
      push Not at hall
      obtain ⟨other, hother, hne⟩ := hall
      have hmem : other ∈ first :: rest := List.mem_cons_of_mem first hother
      constructor
      · rintro rfl
        exact .inr ⟨rfl, .inr ⟨other, hmem, first, List.mem_cons_self, hne⟩⟩
      · rintro (⟨_, h⟩ | ⟨rfl, _⟩)
        · exact absurd ((h other hmem).trans (h first List.mem_cons_self).symm) hne
        · rfl

lemma commonType_congr {xs ys : List String} (h : ∀ x, x ∈ xs ↔ x ∈ ys) :
    commonType xs = commonType ys := by
  rw [commonType_eq_iff]
  simp only [h]
  exact commonType_eq_iff.mp rfl

lemma mem_types_of_covered {s t : Source} {cs ds : List Node}
    (h : ∀ c ∈ cs, c.showsType = true → ∃ d ∈ ds, c.literalType? s = d.literalType? t)
    {type : String} (ht : type ∈ cs.filterMap (literalType? s)) :
    type ∈ ds.filterMap (literalType? t) := by
  obtain ⟨c, hc, htype⟩ := List.mem_filterMap.mp ht
  obtain ⟨d, hd, hsame⟩ := h c hc (showsType_of_some htype)
  exact List.mem_filterMap.mpr ⟨d, hd, hsame ▸ htype⟩

lemma bind_literalType?_of_unshown (src : Source) {v? : Option Node}
    (h : v?.any showsType = false) : v?.bind (literalType? src) = none := by
  cases v? with
  | none => rfl
  | some v =>
    rw [Option.any_some, ← isSome_literalType? src] at h
    simpa using h

lemma SameProperty.typedProperty?_eq {s t : Source} {R : Node → Node → Prop} {p q : Node}
    (h : SameProperty s t R p q) (hR : ∀ v w, R v w → v.literalType? s = w.literalType? t) :
    p.typedProperty? s = q.typedProperty? t := by
  have hvalue : p.propertyValue?.bind (literalType? s) =
      q.propertyValue?.bind (literalType? t) := by
    rcases h.value with ⟨v, w, hv, hw, hr⟩ | ⟨hp, hq⟩
    · rw [hv, hw, Option.bind_some, Option.bind_some, hR v w hr]
    · rw [bind_literalType?_of_unshown s hp, bind_literalType?_of_unshown t hq]
  -- the text of a property is made of its key's text
  have hkey := congrArg (Option.map (propertyText · (p.propertyValue?.bind (literalType? s)))) h.key
  rw [Option.map_map, Option.map_map, hvalue] at hkey
  rw [typedProperty?, typedProperty?, hvalue]
  exact hkey

lemma filterMap_isProperty (src : Source) (ps : List Node) :
    (ps.filter isProperty).filterMap (typedProperty? src) = ps.filterMap (typedProperty? src) := by
  rw [List.filterMap_filter]
  apply List.filterMap_congr
  intro p _
  rw [isProperty, typedProperty?]
  cases p.propertyKey? <;> rfl

lemma filterMap_typedProperty?_eq {s t : Source} {R : Node → Node → Prop} {ps qs : List Node}
    (h : List.Forall₂ (SameProperty s t R) ps qs)
    (hR : ∀ v w, R v w → v.literalType? s = w.literalType? t) :
    ps.filterMap (typedProperty? s) = qs.filterMap (typedProperty? t) := by
  induction h with
  | nil => rw [List.filterMap_nil, List.filterMap_nil]
  | cons hp _ ih => rw [List.filterMap_cons, List.filterMap_cons, hp.typedProperty?_eq hR, ih]

lemma Alike.literalType?_eq {s t : Source} {m n : Node} (h : Alike s t m n) :
    m.literalType? s = n.literalType? t := by
  induction h with
  | value hm hn _ ih => rw [literalType?_of_value s hm, literalType?_of_value t hn, ih]
  | unshown hm hn hmk hnk => rw [literalType?_unshown s hm hmk, literalType?_unshown t hn hnk]
  | truth hm hn hmk hnk => rw [literalType?_truth s hm hmk, literalType?_truth t hn hnk]
  | primitive hm hn hmk hnk =>
    rw [literalType?_primitive s hm hmk, literalType?_primitive t hn (hnk ▸ hmk), hnk]
  | @array m n hm hn hmk hnk R related left right ih =>
    have hleft : ∀ c ∈ m.content, c.showsType = true →
        ∃ d ∈ n.content, c.literalType? s = d.literalType? t := by
      intro c hc hshows
      obtain ⟨d, hd, hr⟩ := left c hc hshows
      exact ⟨d, hd, ih c d hr⟩
    have hright : ∀ d ∈ n.content, d.showsType = true →
        ∃ c ∈ m.content, d.literalType? t = c.literalType? s := by
      intro d hd hshows
      obtain ⟨c, hc, hr⟩ := right d hd hshows
      exact ⟨c, hc, (ih c d hr).symm⟩
    rw [literalType?_array s hm hmk, literalType?_array t hn hnk, arrayText, arrayText]
    congr 3
    apply commonType_congr
    intro type
    exact ⟨mem_types_of_covered hleft, mem_types_of_covered hright⟩
  | @object m n hm hn hmk hnk R related properties ih =>
    rw [literalType?_object s hm hmk, literalType?_object t hn hnk, ← filterMap_isProperty s,
      ← filterMap_isProperty t, filterMap_typedProperty?_eq properties ih]

lemma arrayText_eq_iff {types : List String} {type : String} :
    arrayText types = "Array<" ++ type ++ ">" ↔ commonType types = type := by
  rw [arrayText, String.append_left_inj, String.append_right_inj]

section Elements

variable (src : Source) (cs : List Node)

lemma exists_mem_types_iff :
    (∃ x, x ∈ cs.filterMap (literalType? src)) ↔ ∃ c ∈ cs, c.showsType = true := by
  constructor
  · rintro ⟨x, hx⟩
    obtain ⟨c, hc, htype⟩ := List.mem_filterMap.mp hx
    exact ⟨c, hc, showsType_of_some htype⟩
  · rintro ⟨c, hc, hshows⟩
    obtain ⟨x, htype⟩ := exists_of_showsType src hshows
    exact ⟨x, List.mem_filterMap.mpr ⟨c, hc, htype⟩⟩

lemma forall_mem_types_iff (type : String) :
    (∀ x ∈ cs.filterMap (literalType? src), x = type) ↔
      ∀ c ∈ cs, c.showsType = true → c.literalType? src = some type := by
  constructor
  · intro h c hc hshows
    obtain ⟨x, htype⟩ := exists_of_showsType src hshows
    rw [htype, h x (List.mem_filterMap.mpr ⟨c, hc, htype⟩)]
  · intro h x hx
    obtain ⟨c, hc, htype⟩ := List.mem_filterMap.mp hx
    have hsame := h c hc (showsType_of_some htype)
    rw [htype, Option.some.injEq] at hsame
    exact hsame

lemma forall_not_mem_types_iff :
    (∀ x, x ∉ cs.filterMap (literalType? src)) ↔ ∀ c ∈ cs, c.showsType = false := by
  rw [← not_exists, exists_mem_types_iff]
  simp

lemma exists_two_types_iff :
    (∃ x ∈ cs.filterMap (literalType? src), ∃ y ∈ cs.filterMap (literalType? src), x ≠ y) ↔
      ∃ c ∈ cs, ∃ d ∈ cs, ∃ a b, c.literalType? src = some a ∧ d.literalType? src = some b ∧
        a ≠ b := by
  simp only [List.mem_filterMap]
  constructor
  · rintro ⟨a, ⟨c, hc, ha⟩, b, ⟨d, hd, hb⟩, hne⟩
    exact ⟨c, hc, d, hd, a, b, ha, hb, hne⟩
  · rintro ⟨c, hc, d, hd, a, b, ha, hb, hne⟩
    exact ⟨a, ⟨c, hc, ha⟩, b, ⟨d, hd, hb⟩, hne⟩

end Elements

lemma array_type_iff (src : Source) {n : Node} (h : n.core.kind = "array") (type : String) :
    n.literalType? src = some ("Array<" ++ type ++ ">") ↔
      (∃ c ∈ n.core.content, c.showsType = true) ∧
          (∀ c ∈ n.core.content, c.showsType = true → c.literalType? src = some type) ∨
        type = "any" ∧ ((∀ c ∈ n.core.content, c.showsType = false) ∨
          ∃ c ∈ n.core.content, ∃ d ∈ n.core.content, ∃ a b, c.literalType? src = some a ∧
            d.literalType? src = some b ∧ a ≠ b) := by
  rw [literalType?_core, literalType?_array src n.field?_core h, Option.some.injEq,
    arrayText_eq_iff, commonType_eq_iff, exists_mem_types_iff, forall_mem_types_iff,
    forall_not_mem_types_iff, exists_two_types_iff]

end Node

open Node

theorem literal_types_ignore_order (s t : Source) :
    (∀ m n : Node, Alike s t m n → m.typeText? s none = n.typeText? t none) ∧
    (∀ n : Node, n.core.kind = "array" → ∀ type,
      (n.typeText? s none = some ("Array<" ++ type ++ ">") ↔
        (∃ c ∈ n.core.content, c.showsType = true) ∧
            (∀ c ∈ n.core.content, c.showsType = true → c.typeText? s none = some type) ∨
          type = "any" ∧ ((∀ c ∈ n.core.content, c.showsType = false) ∨
            ∃ c ∈ n.core.content, ∃ d ∈ n.core.content, ∃ a b,
              c.typeText? s none = some a ∧ d.typeText? s none = some b ∧ a ≠ b))) ∧
    ∀ n : Node, (n.typeText? s none).isSome = true ↔ n.core.kind ∈ literalKinds := by
  refine ⟨fun m n h => h.literalType?_eq, fun n h type => array_type_iff s h type, ?_⟩
  intro n
  rw [typeText?, Option.bind_none, isSome_literalType?, showsType, List.contains_iff_mem]

def numberAt (start : Nat) : Node :=
  ⟨start, "number", true, start, start + 1, [], []⟩

def numbersAt (start : Nat) : Node :=
  ⟨start, "array", true, start, start + 3, [], [numberAt (start + 1)]⟩

def nestedNumbers : Node :=
  ⟨0, "array", true, 0, 11, [],
    [⟨1, "identifier", true, 1, 2, [], []⟩, numbersAt 3, numbersAt 7]⟩

def fewerNumbers : Node :=
  ⟨0, "array", true, 0, 5, [], [numbersAt 1]⟩

theorem nestedNumbers_typed_alike :
    (Alike (.ofString "[x,[1],[2]]") (.ofString "[[3]]") nestedNumbers fewerNumbers ∧
      nestedNumbers.typeText? (.ofString "[x,[1],[2]]") none =
        fewerNumbers.typeText? (.ofString "[[3]]") none) ∧
    (numbersAt 1).core.kind = "array" ∧
      (numbersAt 1).typeText? (.ofString "[[3]]") none = some ("Array<" ++ "number" ++ ">") := by
  generalize Source.ofString "[x,[1],[2]]" = s
  generalize Source.ofString "[[3]]" = t
  have hnumber (i j : Nat) : Alike s t (numberAt i) (numberAt j) :=
    .primitive rfl rfl (by simp [numberAt, primitiveKinds]) rfl
  have hnumbers (i j : Nat) : Alike s t (numbersAt i) (numbersAt j) := by
    apply Alike.of_elements rfl rfl rfl rfl
    · intro c hc _
      cases List.mem_singleton.mp hc
      exact ⟨numberAt (j + 1), List.mem_cons_self, hnumber _ _⟩
    · intro d hd _
      cases List.mem_singleton.mp hd
      exact ⟨numberAt (i + 1), List.mem_cons_self, hnumber _ _⟩
  have halike : Alike s t nestedNumbers fewerNumbers := by
    have hcontent : nestedNumbers.content =
        [⟨1, "identifier", true, 1, 2, [], []⟩, numbersAt 3, numbersAt 7] := rfl
    apply Alike.of_elements rfl rfl rfl rfl
    · intro c hc hshows
      refine ⟨numbersAt 1, List.mem_cons_self, ?_⟩
      simp only [hcontent, List.mem_cons, List.not_mem_nil, or_false] at hc
      rcases hc with rfl | rfl | rfl
      · rw [showsType, core_of_none rfl] at hshows
        cases hshows
      · exact hnumbers 3 1
      · exact hnumbers 7 1
    · intro d hd _
      cases List.mem_singleton.mp hd
      exact ⟨numbersAt 3, by simp [hcontent], hnumbers 3 1⟩
  have hcore : (numbersAt 1).core = numbersAt 1 := core_of_none rfl
  have hkind : (numbersAt 1).core.kind = "array" := by
    rw [hcore]
    rfl
  have htype : (numberAt 2).typeText? t none = some "number" :=
    literalType?_primitive t rfl (by decide)
  refine ⟨⟨halike, (literal_types_ignore_order s t).1 _ _ halike⟩, hkind, ?_⟩
  apply ((literal_types_ignore_order t s).2.1 (numbersAt 1) hkind "number").mpr
  rw [hcore]
  refine .inl ⟨⟨numberAt 2, List.mem_cons_self, showsType_of_some htype⟩, ?_⟩
  intro c hc _
  cases List.mem_singleton.mp hc
  exact htype

end SourceOutline
