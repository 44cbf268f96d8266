import SourceOutline.Proofs.Members
import SourceOutline.Proofs.Modifiers

/-!
A constructor has the parameters that a method would have. Those of its parameters that are called
by a name and bear a modifier also become properties of the class, behind those it has already, and
nothing else of the class depends on them.
-/

namespace SourceOutline

namespace Node

def nameKinds : List String :=
  ["identifier", "this"]

def patternKinds : List String :=
  ["object_pattern", "array_pattern"]

def calledBy? (p : Node) : Option Node :=
  (p.field? .pattern).bind fun pattern =>
    if nameKinds.contains pattern.kind then some pattern
    else if pattern.kind = "rest_pattern" then
      pattern.content.find? fun c => c.kind == "identifier"
    else none

def takenApart? (p : Node) : Option Node :=
  (p.field? .pattern).filter fun pattern => patternKinds.contains pattern.kind

def boundBy (src : Source) (p : Node) : List Parameter :=
  match p.calledBy? with
  | some name => [p.parameterCalled src name]
  | none => (p.takenApart?.map (boundNames src)).getD []

def accessKeywords : List String :=
  ["public", "protected", "private"]

def isPromoting (token : Node) : Bool :=
  ["static", "readonly", "override_modifier"].contains token.kind ||
    token.kind == "accessibility_modifier" &&
      token.children.head?.any fun keyword => accessKeywords.contains keyword.kind

def isPromotedBy (tokens : List Node) (p : Node) : Bool :=
  p.calledBy?.isSome && tokens.any isPromoting

def beforePattern (p : Node) : List Node :=
  p.children.takeWhile fun c => !c.carries .pattern

def isPromoted (p : Node) : Bool :=
  p.isPromotedBy p.beforePattern

/-- The property has the name, the type and the span of the one parameter that the node binds. -/
def BecomesProperty (src : Source) (p : Node) (f : Property) : Prop :=
  ∃ q, p.boundBy src = [q] ∧ f.name = q.name ∧ f.type = q.typeText? ∧ f.span = q.span

/-- What a parameter binds, by how it is written. -/
inductive Binds (src : Source) (p : Node) : Option Binding → Prop where
  | called (name : Node) (hname : p.calledBy? = some name) (hapart : p.takenApart? = none) :
      Binds src p (some (.single (p.parameterCalled src name)))
  | apart (pattern : Node) (hname : p.calledBy? = none) (hapart : p.takenApart? = some pattern) :
      Binds src p (some (.several (pattern.boundNames src)))
  | nothing (hname : p.calledBy? = none) (hapart : p.takenApart? = none) : Binds src p none

lemma binds_binding? (src : Source) (p : Node) : Binds src p (p.binding? src) := by
  cases hp : p.field? .pattern with
  | none =>
    have hnone : p.binding? src = none := by rw [binding?, hp, Option.bind_none]
    rw [hnone]
    exact .nothing (by simp [calledBy?, hp]) (by simp [takenApart?, hp])
  | some pattern =>
    rw [binding?, hp, Option.bind_some]
    split
    case h_1 hk | h_2 hk =>
      exact .called pattern (by simp [calledBy?, hp, hk, nameKinds])
        (by simp [takenApart?, hp, hk, patternKinds, Option.filter])
    case h_3 hk =>
      -- a rest pattern is called by its first identifier, or binds nothing
      have hname : p.calledBy? = pattern.content.find? fun c => c.kind == "identifier" := by
        simp [calledBy?, hp, hk, nameKinds]
      have hapart : p.takenApart? = none := by
        simp [takenApart?, hp, hk, patternKinds, Option.filter]
      cases hf : pattern.content.find? fun c => c.kind == "identifier" with
      | none => exact .nothing (hname.trans hf) hapart
      | some name => exact .called name (hname.trans hf) hapart
    case h_4 hk | h_5 hk =>
      exact .apart pattern (by simp [calledBy?, hp, hk, nameKinds])
        (by simp [takenApart?, hp, hk, patternKinds, Option.filter])
    case h_6 =>
      exact .nothing (by simp_all [calledBy?, nameKinds])
        (by simp_all [takenApart?, patternKinds, Option.filter])

section Binds

variable {src : Source} {p : Node} {b : Option Binding}

lemma Binds.boundBy_eq (h : Binds src p b) :
    (b.map Binding.parameters).getD [] = p.boundBy src := by
  cases h <;> simp [boundBy, Binding.parameters, *]

lemma Binds.not_promoted (h : Binds src p b) (ha : p.takenApart?.isSome = true)
    (tokens : List Node) : p.isPromotedBy tokens = false := by
  cases h with
  | called name hname hapart => simp [hapart] at ha
  | apart pattern hname hapart => simp [isPromotedBy, hname]
  | nothing hname hapart => simp [hapart] at ha

end Binds

lemma parameters_eq (src : Source) (n : Node) :
    n.parameters src = n.parameterNodes.flatMap (boundBy src) := by
  rw [parameters]
  apply List.flatMap_congr
  intro p _
  exact (binds_binding? src p).boundBy_eq

lemma constructorParameters_fst (src : Source) (n : Node) :
    (n.constructorParameters src).1 = n.parameters src := by
  rw [constructorParameters_eq, parameters]
  apply List.flatMap_congr
  intro p _
  rw [constructorParameter]
  cases p.binding? src with
  | none => rfl
  | some b => cases b <;> rfl

lemma isSome_ofKeyword? (keyword : String) :
    (Visibility.ofKeyword? keyword).isSome = accessKeywords.contains keyword := by
  unfold Visibility.ofKeyword?
  split <;> simp_all [accessKeywords]

lemma any_promotes (token : Node) :
    (Modifier.ofNode? token).any Modifier.promotes = token.isPromoting := by
  unfold Modifier.ofNode?
  split
  · rename_i hk
    cases hhead : token.children.head? with
    | none => simp [isPromoting, hk, hhead]
    | some keyword =>
      simp only [isPromoting, hk, hhead, Option.bind_some, Option.any_some, ← isSome_ofKeyword?]
      cases Visibility.ofKeyword? keyword.kind <;> rfl
  all_goals simp_all [isPromoting, Modifier.promotes]

lemma isParameterProperty_eq (p : Node) : p.isParameterProperty = p.front.any isPromoting := by
  rw [isParameterProperty_eq_any, modifiers]
  induction p.front with
  | nil => rfl
  | cons token tokens ih =>
    rw [List.any_cons, ← any_promotes, ← ih, List.filterMap_cons]
    cases Modifier.ofNode? token <;> rfl

lemma promoted?_eq (src : Source) (p : Node) :
    p.promoted? src =
      if p.isPromotedBy p.front then
        p.calledBy?.map fun name => p.promotedProperty src (p.parameterCalled src name)
      else none := by
  have h := binds_binding? src p
  rw [promoted?, isPromotedBy, ← isParameterProperty_eq]
  generalize p.binding? src = b at h
  cases h <;> simp [*]

lemma isSome_promoted? (src : Source) (p : Node) :
    (p.promoted? src).isSome = p.isPromotedBy p.front := by
  rw [promoted?_eq]
  cases hp : p.isPromotedBy p.front with
  | false => rfl
  | true =>
    rw [isPromotedBy, Bool.and_eq_true] at hp
    rw [if_pos rfl, Option.isSome_map, hp.1]

lemma becomesProperty_of_promoted? {src : Source} {p : Node} {f : Property}
    (h : p.promoted? src = some f) : BecomesProperty src p f := by
  rw [promoted?_eq] at h
  obtain ⟨_, h⟩ := Option.ite_none_right_eq_some.mp h
  obtain ⟨name, hname, rfl⟩ := Option.map_eq_some_iff.mp h
  refine ⟨p.parameterCalled src name, by simp [boundBy, hname], rfl, ?_, rfl⟩
  simp only [promotedProperty, parameterCalled, Parameter.typeText?, Parameter.leaf]
  cases p.typeText? src (p.field? .type) <;> rfl

lemma front_of_nameless {p : Node} (h : p.hasField .name = false) : p.front = p.beforePattern := by
  rw [front, nameField, h, if_neg Bool.false_ne_true, beforePattern]

lemma promoted_parameters (src : Source) (n : Node) :
    List.Forall₂ (BecomesProperty src) (n.parameterNodes.filter fun p => p.isPromotedBy p.front)
      (n.constructorParameters src).2 := by
  rw [promoted_eq]
  apply (forall₂_filter (isSome_promoted? src) n.parameterNodes).imp
  intro p f hf
  exact becomesProperty_of_promoted? hf

end Node

namespace ClassOutline

lemma read_constructor {src : Source} {m : Node} (h : m.isConstructor src = true)
    (c : ClassOutline) :
    c.read src m =
      { c with
        properties := c.properties ++ (m.constructorParameters src).2
        constructor? := some ⟨c.name, m.span, m.parameters src, m.locals src⟩ } := by
  have hreads := Node.reads_member? src c.name m
  rw [read]
  generalize m.member? src c.name = r at hreads
  cases hreads with
  | construct hfield hmethod htoken hname =>
    rw [← Node.promoted_eq, ← Node.constructorParameters_fst]
    rfl
  | field name hfield hmethod hname => simp [Node.isConstructor, hmethod] at h
  | accessor name token hfield hmethod htoken hname => simp [Node.isConstructor, htoken] at h
  | method name hfield hmethod htoken hname hne => simp [Node.isConstructor, hname, hne] at h
  | nothing hfield hmethod => simp [Node.isConstructor, hmethod] at h

end ClassOutline

namespace Node

end Node

open Node

theorem promotion_only_adds (src : Source) (n : Node) :
    (n.constructorParameters src).1 = n.parameters src ∧
    n.parameters src = n.parameterNodes.flatMap (boundBy src) ∧
    List.Forall₂ (BecomesProperty src) (n.parameterNodes.filter fun p => p.isPromotedBy p.front)
      (n.constructorParameters src).2 ∧
    ((∀ p ∈ n.parameterNodes, p.hasField .name = false) →
      List.Forall₂ (BecomesProperty src) (n.parameterNodes.filter isPromoted)
        (n.constructorParameters src).2) ∧
    (∀ p ∈ n.parameterNodes, p.takenApart?.isSome = true →
      ∀ tokens, p.isPromotedBy tokens = false) ∧
    (∀ p ∈ n.parameterNodes, p.hasField .name = false → p.front = p.beforePattern) ∧
    (n.isConstructor src = true → ∀ c : ClassOutline,
      c.read src n =
        { c with
          properties := c.properties ++ (n.constructorParameters src).2
          constructor? := some ⟨c.name, n.span, n.parameters src, n.locals src⟩ }) ∧
    ∀ (fallback : String) (m parent : Node), m.classOf src fallback parent =
      m.bodyNodes.foldl (ClassOutline.read src) (m.blankClass src fallback parent) := by
  refine ⟨constructorParameters_fst src n, parameters_eq src n, promoted_parameters src n, ?_, ?_,
    fun _ _ h => front_of_nameless h, fun h => ClassOutline.read_constructor h, fun _ _ _ => rfl⟩
  · intro hnameless
    have hsame : n.parameterNodes.filter isPromoted =
        n.parameterNodes.filter fun p => p.isPromotedBy p.front := by
      apply List.filter_congr
      intro p hp
      rw [isPromoted, front_of_nameless (hnameless p hp)]
    rw [hsame]
    exact promoted_parameters src n
  · intro p _ hapart
    exact (binds_binding? src p).not_promoted hapart

def firstParameter : Node :=
  ⟨3, "required_parameter", true, 12, 15, [],
    [⟨4, "object_pattern", true, 12, 15, [.pattern],
      [⟨5, "shorthand_property_identifier_pattern", true, 13, 14, [], []⟩]⟩]⟩

def promotingConstructor : Node :=
  ⟨0, "method_definition", true, 0, 29, [],
    [⟨1, "property_identifier", true, 0, 11, [.name], []⟩,
      ⟨2, "formal_parameters", true, 11, 27, [.parameters],
        [firstParameter,
          ⟨6, "required_parameter", true, 16, 26, [],
            [⟨7, "readonly", false, 16, 24, [], []⟩,
              ⟨8, "identifier", true, 25, 26, [.pattern], []⟩]⟩]⟩,
      ⟨9, "statement_block", true, 27, 29, [.body], []⟩]⟩

def constructorSource : Source :=
  .ofString "constructor(\x7ba\x7d,readonly b)\x7b\x7d"

def staticClass : ClassOutline :=
  ⟨"A", false, ⟨0, 40⟩, [⟨"x", none, none, false, true, ⟨8, 9⟩, .any⟩], [], [], none, ["T"]⟩

theorem promotingConstructor_promotes :
    (firstParameter ∈ promotingConstructor.parameterNodes ∧
      firstParameter.takenApart?.isSome = true ∧ firstParameter.isPromoted = false) ∧
    firstParameter.hasField .name = false ∧ firstParameter.front = [] ∧
    (∀ p ∈ promotingConstructor.parameterNodes, p.hasField .name = false) ∧
    promotingConstructor.parameterNodes.map isPromoted = [false, true] ∧
    (promotingConstructor.constructorParameters constructorSource).2.length = 1 ∧
    promotingConstructor.isConstructor constructorSource = true ∧
    (promotingConstructor.parameters constructorSource).map Parameter.name = ["a", "b"] ∧
    (staticClass.read constructorSource promotingConstructor).properties.map Property.name =
      ["x", "b"] := by
  obtain ⟨hsame, _, _, hpromoted, hapart, hfront, hread, _⟩ :=
    promotion_only_adds constructorSource promotingConstructor
  have hmem : firstParameter ∈ promotingConstructor.parameterNodes := List.mem_cons_self
  have hnameless : ∀ p ∈ promotingConstructor.parameterNodes, p.hasField .name = false := by
    have hall : promotingConstructor.parameterNodes.all fun p => !p.hasField .name := by decide
    simpa using hall
  have hconstructor : promotingConstructor.isConstructor constructorSource = true := by decide
  refine ⟨⟨hmem, rfl, hapart _ hmem rfl _⟩, rfl, hfront _ hmem rfl, hnameless, by decide, ?_,
    hconstructor, ?_, ?_⟩
  · rw [← (hpromoted hnameless).length_eq]
    decide
  · rw [← hsame]
    decide
  · rw [hread hconstructor, List.map_append]
    decide

end SourceOutline
