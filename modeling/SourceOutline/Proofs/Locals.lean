import SourceOutline.Proofs.Routing

/-!
The variables of a function. Each declarator with a plain name gives one, wherever below the
function its declaration stands: first by the place of the declaration, and then by the place of
the declarator in it.
-/

namespace SourceOutline

structure Variable.OfDeclarator (src : Source) (declaration d name : Node) (v : Variable) :
    Prop where
  name : v.name = name.text src
  isConst : v.isConst = true ↔ ∃ c, declaration.children.head? = some c ∧ c.kind = "const"
  type : v.type = d.typeText? src (d.field? .type)
  span : v.span = d.span

namespace Node

/-- A declaration stands at the end of a way, and the child of that index is a declarator with a
plain name. -/
structure Declares (n : Node) (place : Way × Nat) (declaration d name : Node) : Prop where
  below : ∃ parent, n.edge? place.1 = some (parent, declaration)
  kind : declaration.kind = "lexical_declaration" ∨ declaration.kind = "variable_declaration"
  child : declaration.children[place.2]? = some d
  named : d.named = true
  declarator : d.kind = "variable_declarator"
  called : d.field? .name = some name
  plain : name.kind = "identifier"

/-- The places are those of all declarators with plain names, in the order of their declarations,
and the variables are those of the places. -/
structure LocalsAt (src : Source) (n : Node) (places : List (Way × Nat)) (vs : List Variable) :
    Prop where
  ordered : places.Pairwise (Prod.Lex (List.Lex (· < ·)) (· < ·))
  mem_iff : ∀ place, place ∈ places ↔ ∃ declaration d name, n.Declares place declaration d name
  each : List.Forall₂ (fun place v => ∃ declaration d name,
    n.Declares place declaration d name ∧ v.OfDeclarator src declaration d name) places vs

def places (n : Node) : List (Way × Nat) :=
  n.ways.flatMap fun way =>
    (n.edge? way).toList.flatMap fun e =>
      (List.range e.2.children.length).map fun i => (way, i)

def isConstant (declaration : Node) : Bool :=
  (declaration.children.head?.map fun c => c.kind == "const").getD false

def declared? (src : Source) (declaration d : Node) : Option Variable :=
  if d.isContent then d.boundVariable? src declaration.isConstant else none

def localIn? (src : Source) (declaration : Node) (i : Nat) : Option Variable :=
  if declaration.isVariableDeclaration then
    declaration.children[i]?.bind (declared? src declaration)
  else none

def localAt? (src : Source) (n : Node) (place : Way × Nat) : Option Variable :=
  (n.edge? place.1).bind fun e => e.2.localIn? src place.2

lemma places_ordered (n : Node) :
    n.places.Pairwise (Prod.Lex (List.Lex (· < ·)) (· < ·)) := by
  rw [places, List.pairwise_flatMap]
  refine ⟨?_, n.ways_ordered.imp ?_⟩
  · intro way _
    cases n.edge? way with
    | none => exact List.Pairwise.nil
    | some e =>
      simp only [Option.toList_some, List.flatMap_singleton, List.pairwise_map]
      apply List.pairwise_lt_range.imp
      intro i j hij
      exact .right way hij
  · intro v w hvw a ha b hb
    obtain ⟨_, _, ha⟩ := List.mem_flatMap.mp ha
    obtain ⟨_, _, hb⟩ := List.mem_flatMap.mp hb
    obtain ⟨i, _, rfl⟩ := List.mem_map.mp ha
    obtain ⟨j, _, rfl⟩ := List.mem_map.mp hb
    exact .left i j hvw

lemma mem_places {n : Node} {place : Way × Nat} {e : Node × Node}
    (he : n.edge? place.1 = some e) (hi : place.2 < e.2.children.length) : place ∈ n.places := by
  refine List.mem_flatMap.mpr ⟨place.1, (mem_ways_iff n place.1).mpr (by simp [he]), ?_⟩
  refine List.mem_flatMap.mpr ⟨e, by simp [he], ?_⟩
  exact List.mem_map.mpr ⟨place.2, List.mem_range.mpr hi, rfl⟩

lemma filterMap_localIn? (src : Source) (declaration : Node) :
    (List.range declaration.children.length).filterMap (declaration.localIn? src) =
      if declaration.isVariableDeclaration then declaration.declaredVariables src else [] := by
  by_cases h : declaration.isVariableDeclaration = true
  · have hin : declaration.localIn? src = fun i =>
        declaration.children[i]?.bind (declared? src declaration) := by
      funext i
      rw [localIn?, if_pos h]
    rw [if_pos h, hin, filterMap_range, declaredVariables, content, List.filterMap_filter]
    rfl
  · have hin : declaration.localIn? src = fun _ => none := by
      funext i
      rw [localIn?, if_neg h]
    rw [if_neg h, hin, List.filterMap_none]

lemma filterMap_places (src : Source) (n : Node) :
    n.places.filterMap (n.localAt? src) = n.locals src := by
  -- both sides run over the ways, and at the end of each over the children there
  rw [places, List.filterMap_flatMap, locals, ← filterMap_ways, List.filterMap_eq_flatMap_toList,
    List.flatMap_assoc]
  apply List.flatMap_congr
  intro way _
  rw [List.filterMap_flatMap]
  apply List.flatMap_congr
  rintro ⟨parent, declaration⟩ he
  rw [List.filterMap_map]
  apply Eq.trans _ (filterMap_localIn? src declaration)
  apply List.filterMap_congr
  intro i _
  rw [Function.comp_apply, localAt?, Option.mem_toList.mp he, Option.bind_some]

lemma isVariableDeclaration_iff (n : Node) : n.isVariableDeclaration = true ↔
    n.kind = "lexical_declaration" ∨ n.kind = "variable_declaration" := by
  simp [isVariableDeclaration, variableDeclarationKinds]

lemma ofDeclarator_of_localAt? {src : Source} {n : Node} {place : Way × Nat} {v : Variable}
    (h : n.localAt? src place = some v) : ∃ declaration d name,
      n.Declares place declaration d name ∧ v.OfDeclarator src declaration d name := by
  obtain ⟨⟨parent, declaration⟩, he, h⟩ := Option.bind_eq_some_iff.mp h
  obtain ⟨hkind, h⟩ := Option.ite_none_right_eq_some.mp h
  obtain ⟨d, hd, h⟩ := Option.bind_eq_some_iff.mp h
  obtain ⟨hcontent, h⟩ := Option.ite_none_right_eq_some.mp h
  obtain ⟨hdeclarator, h⟩ := Option.ite_none_right_eq_some.mp h
  obtain ⟨name, hname, rfl⟩ := Option.map_eq_some_iff.mp h
  obtain ⟨hcalled, hplain⟩ := Option.filter_eq_some_iff.mp hname
  rw [isContent, Bool.and_eq_true] at hcontent
  refine ⟨declaration, d, name, ⟨⟨parent, he⟩, (isVariableDeclaration_iff _).mp hkind, hd,
    hcontent.1, hdeclarator, hcalled, beq_iff_eq.mp hplain⟩, ⟨rfl, ?_, rfl, rfl⟩⟩
  cases hhead : declaration.children.head? <;> simp [isConstant, hhead]

lemma isSome_localAt? {n declaration d name : Node} {place : Way × Nat}
    (h : n.Declares place declaration d name) (src : Source) :
    (n.localAt? src place).isSome = true := by
  obtain ⟨parent, he⟩ := h.below
  have hcontent : d.isContent = true := by simp [isContent, h.named, h.declarator]
  have hkind := (isVariableDeclaration_iff declaration).mpr h.kind
  simp [localAt?, he, localIn?, hkind, h.child, declared?, hcontent, boundVariable?, h.declarator,
    h.called, Option.filter, h.plain]

lemma locals_localsAt (src : Source) (n : Node) :
    ∃ places, n.LocalsAt src places (n.locals src) := by
  refine ⟨n.places.filter fun place => (n.localAt? src place).isSome, ?_, ?_, ?_⟩
  · exact n.places_ordered.filter _
  · intro place
    rw [List.mem_filter]
    constructor
    · rintro ⟨_, hsome⟩
      obtain ⟨v, hv⟩ := Option.isSome_iff_exists.mp hsome
      obtain ⟨declaration, d, name, hdeclares, _⟩ := ofDeclarator_of_localAt? hv
      exact ⟨declaration, d, name, hdeclares⟩
    · rintro ⟨declaration, d, name, h⟩
      obtain ⟨parent, he⟩ := h.below
      exact ⟨mem_places he (List.getElem?_eq_some_iff.mp h.child).1, isSome_localAt? h src⟩
  · rw [← filterMap_places]
    apply (forall₂_filter (fun _ => rfl) n.places).imp
    intro place v hv
    exact ofDeclarator_of_localAt? hv

end Node

open Node

theorem locals_are_gathered_once (src : Source) (n : Node) (name : String) :
    ∃ places, n.LocalsAt src places (n.methodOf src name).locals ∧
      n.LocalsAt src places (n.constructorOf src name).locals := by
  obtain ⟨places, h⟩ := n.locals_localsAt src
  exact ⟨places, h, h⟩

end SourceOutline
