import SourceOutline.Proofs.Findings

/-!
The members of a class by what they are written as: of the named children of its body that are no
comments, one with a name is a field, or it is written as a method and then an accessor, a
constructor or a method proper. All else is passed over.
-/

namespace SourceOutline

namespace Node

def inBody (n : Node) : List Node :=
  (n.field? .body).toList.flatMap fun body =>
    body.children.filter fun c => c.named && c.kind != "comment"

def isField (m : Node) : Bool :=
  m.kind == "public_field_definition" && (m.field? .name).isSome

def isNamedMethod (m : Node) : Bool :=
  (m.kind == "method_definition" || m.kind == "method_signature" ||
    m.kind == "abstract_method_signature") && (m.field? .name).isSome

def unquotedName? (src : Source) (m : Node) : Option String :=
  (m.field? .name).map fun name =>
    if name.kind = "string" then trimBoth ['"', '\''] (src.slice name.start name.stop)
    else src.slice name.start name.stop

def accessorToken? (m : Node) : Option Node :=
  (m.children.takeWhile fun c => !c.carries .name).find? fun c => c.kind == "get" || c.kind == "set"

def keywordKind (token : Node) : AccessorKind :=
  if token.kind = "get" then .getter else .setter

def isAccessor (m : Node) : Bool :=
  m.isNamedMethod && m.accessorToken?.isSome

def isConstructor (src : Source) (m : Node) : Bool :=
  m.isNamedMethod && m.accessorToken?.isNone && m.unquotedName? src == some "constructor"

def isProperMethod (src : Source) (m : Node) : Bool :=
  m.isNamedMethod && m.accessorToken?.isNone && m.unquotedName? src != some "constructor"

/-- The property that a parameter of a constructor declares, if it binds one name and has a
modifier that makes it do so. -/
def promoted? (src : Source) (p : Node) : Option Property :=
  match p.binding? src with
  | some (.single q) => if p.isParameterProperty then some (p.promotedProperty src q) else none
  | _ => none

def declaredProperties (src : Source) (m : Node) : List Property :=
  if m.isField then ((m.unquotedName? src).map (m.fieldProperty src)).toList
  else if m.isConstructor src then m.parameterNodes.filterMap (promoted? src)
  else []

lemma bodyNodes_eq (n : Node) : n.bodyNodes = n.inBody := by
  rw [bodyNodes, inBody]
  cases n.field? .body with
  | none => rfl
  | some body =>
    rw [Option.toList_some, List.flatMap_singleton]
    rfl

lemma memberName?_eq (src : Source) (m : Node) : m.memberName? src = m.unquotedName? src :=
  rfl

lemma isMethodLike_eq (m : Node) : m.isMethodLike = (m.kind == "method_definition" ||
    m.kind == "method_signature" || m.kind == "abstract_method_signature") := by
  rw [Bool.eq_iff_iff]
  simp [isMethodLike, methodKinds, or_assoc]

lemma constructorParameters_eq (src : Source) (n : Node) :
    n.constructorParameters src =
      (n.parameterNodes.flatMap fun p => (p.constructorParameter src).1,
        n.parameterNodes.flatMap fun p => (p.constructorParameter src).2) := by
  have hfold (ps : List Node) (sum : List Parameter × List Property) :
      ps.foldl (fun sum p => (sum.1 ++ (p.constructorParameter src).1,
        sum.2 ++ (p.constructorParameter src).2)) sum =
        (sum.1 ++ ps.flatMap fun p => (p.constructorParameter src).1,
          sum.2 ++ ps.flatMap fun p => (p.constructorParameter src).2) := by
    induction ps generalizing sum with
    | nil => simp
    | cons p ps ih => simp [ih]
  rw [constructorParameters, hfold]
  rfl

lemma promoted_eq (src : Source) (n : Node) :
    (n.constructorParameters src).2 = n.parameterNodes.filterMap (promoted? src) := by
  have hone : ∀ p : Node, (p.constructorParameter src).2 = (p.promoted? src).toList := by
    intro p
    simp only [constructorParameter, promoted?]
    cases p.binding? src with
    | none => rfl
    | some b =>
      cases b with
      | single q => by_cases h : p.isParameterProperty = true <;> simp [h]
      | several qs => rfl
  rw [constructorParameters_eq, List.filterMap_eq_flatMap_toList]
  simp only [hone]

lemma accessorKind?_eq {m : Node} (h : m.hasField .name = true) :
    m.accessorKind? = m.accessorToken?.map keywordKind := by
  have hfirst : ∀ cs : List Node, cs.findSome? accessorKeyword? =
      (cs.find? fun c => c.kind == "get" || c.kind == "set").map keywordKind := by
    intro cs
    induction cs with
    | nil => rfl
    | cons c cs ih =>
      by_cases hg : c.kind = "get"
      · simp [accessorKeyword?, keywordKind, hg]
      · by_cases hs : c.kind = "set"
        · simp [accessorKeyword?, keywordKind, hs]
        · have hc : c.accessorKeyword? = none := by
            rw [accessorKeyword?]
            split
            · contradiction
            · contradiction
            · rfl
          rw [List.findSome?_cons, hc, List.find?_cons_of_neg (by simp [hg, hs])]
          exact ih
  rw [accessorKind?, if_pos h, front, nameField, if_pos h, hfirst]
  rfl

/-- What is read from a node in the body of a class, by what the node is written as. -/
inductive Reads (src : Source) (className : String) (m : Node) : Option Member → Prop where
  | field (name : String) (hfield : m.isField = true) (hmethod : m.isNamedMethod = false)
      (hname : m.unquotedName? src = some name) :
      Reads src className m (some (.field (m.fieldProperty src name)))
  | accessor (name : String) (token : Node) (hfield : m.isField = false)
      (hmethod : m.isNamedMethod = true) (htoken : m.accessorToken? = some token)
      (hname : m.unquotedName? src = some name) :
      Reads src className m (some (.accessor (m.accessorOf src name token.keywordKind)))
  | construct (hfield : m.isField = false) (hmethod : m.isNamedMethod = true)
      (htoken : m.accessorToken? = none) (hname : m.unquotedName? src = some "constructor") :
      Reads src className m (some (.construct (m.constructorOf src className)
        (m.parameterNodes.filterMap (promoted? src))))
  | method (name : String) (hfield : m.isField = false) (hmethod : m.isNamedMethod = true)
      (htoken : m.accessorToken? = none) (hname : m.unquotedName? src = some name)
      (hne : name ≠ "constructor") :
      Reads src className m (some (.method (m.methodOf src name)))
  | nothing (hfield : m.isField = false) (hmethod : m.isNamedMethod = false) :
      Reads src className m none

lemma reads_member? (src : Source) (className : String) (m : Node) :
    Reads src className m (m.member? src className) := by
  cases hn : m.field? .name with
  | none =>
    have hnone : m.member? src className = none := by
      simp [member?, memberName?, hn]
    rw [hnone]
    exact .nothing (by simp [isField, hn]) (by simp [isNamedMethod, hn])
  | some name =>
    have hname : m.unquotedName? src = some (name.memberNameText src) := by
      rw [← memberName?_eq, memberName?, hn, Option.map_some]
    have hhas : m.hasField .name = true := by rw [hasField, hn, Option.isSome_some]
    by_cases hk : m.kind = "public_field_definition"
    · rw [member?, if_pos hk, memberName?_eq, hname, Option.map_some]
      exact .field _ (by simp [isField, hk, hn]) (by simp [isNamedMethod, hk]) hname
    · have hfield : m.isField = false := by simp [isField, hk]
      by_cases hm : m.isMethodLike = true
      · have hmethod : m.isNamedMethod = true := by
          rw [isNamedMethod, ← isMethodLike_eq, hm, hn]
          rfl
        rw [member?, if_neg hk, if_pos hm, memberName?_eq, hname, Option.map_some,
          accessorKind?_eq hhas]
        cases ht : m.accessorToken? with
        | some token => exact .accessor _ token hfield hmethod ht hname
        | none =>
          by_cases hc : name.memberNameText src = "constructor"
          · rw [hc] at hname ⊢
            rw [Option.map_none, promoted_eq]
            exact .construct hfield hmethod ht hname
          · simp only [Option.map_none, if_neg hc]
            exact .method _ hfield hmethod ht hname hc
      · rw [member?, if_neg hk, if_neg hm]
        exact .nothing hfield (by rw [isNamedMethod, ← isMethodLike_eq]; simp [hm])

section Reads

variable {src : Source} {className : String} {m : Node} {r : Option Member}

lemma Reads.properties (h : Reads src className m r) :
    r.toList.flatMap Member.properties = m.declaredProperties src := by
  cases h <;> simp [declaredProperties, isConstructor, Member.properties, *]

lemma Reads.constructor (h : Reads src className m r) :
    r.bind Member.constructor? =
      (Option.guard (isConstructor src) m).map fun m => m.constructorOf src className := by
  cases h <;> simp [Option.guard, isConstructor, Member.constructor?, *]

lemma Reads.isSome_accessor (h : Reads src className m r) :
    (r.bind Member.accessor?).isSome = m.isAccessor := by
  cases h <;> simp [isAccessor, Member.accessor?, *]

lemma Reads.accessor_of_some (h : Reads src className m r) {a : Accessor}
    (ha : r.bind Member.accessor? = some a) :
    ∃ name token, m.unquotedName? src = some name ∧ m.accessorToken? = some token ∧
      a = m.accessorOf src name token.keywordKind := by
  cases h with
  | accessor name token _ _ htoken hname =>
    exact ⟨name, token, hname, htoken, (Option.some.inj ha).symm⟩
  | _ => cases ha

lemma Reads.isSome_method (h : Reads src className m r) :
    (r.bind Member.method?).isSome = m.isProperMethod src := by
  cases h <;> simp [isProperMethod, Member.method?, *]

lemma Reads.method_of_some (h : Reads src className m r) {k : Method}
    (hk : r.bind Member.method? = some k) :
    ∃ name, m.unquotedName? src = some name ∧ k = m.methodOf src name := by
  cases h with
  | method name _ _ _ hname => exact ⟨name, hname, (Option.some.inj hk).symm⟩
  | _ => cases hk

end Reads

section Class

variable (src : Source) (fallback : String) (n parent : Node)

lemma classOf_properties :
    (n.classOf src fallback parent).properties = n.inBody.flatMap (declaredProperties src) := by
  simp only [classOf_eq, members, bodyNodes_eq, List.filterMap_eq_flatMap_toList,
    List.flatMap_assoc]
  apply List.flatMap_congr
  intro m _
  exact (reads_member? src _ m).properties

lemma classOf_constructor? :
    (n.classOf src fallback parent).constructor? =
      (n.inBody.filter (isConstructor src)).getLast?.map fun m =>
        m.constructorOf src (n.classOf src fallback parent).name := by
  simp only [classOf_eq, members, bodyNodes_eq, List.filterMap_filterMap]
  rw [List.filterMap_congr fun m _ => (reads_member? src _ m).constructor, ← List.map_filterMap,
    List.filterMap_eq_filter, List.getLast?_map]

lemma classOf_accessors :
    List.Forall₂ (fun m a => ∃ name token, m.unquotedName? src = some name ∧
        m.accessorToken? = some token ∧ a = m.accessorOf src name token.keywordKind)
      (n.inBody.filter isAccessor) (n.classOf src fallback parent).accessors := by
  simp only [classOf_eq, members, bodyNodes_eq, List.filterMap_filterMap]
  refine (forall₂_filter (fun m => (reads_member? src _ m).isSome_accessor) n.inBody).imp ?_
  intro m a ha
  exact (reads_member? src _ m).accessor_of_some ha

lemma classOf_methods :
    List.Forall₂ (fun m k => ∃ name, m.unquotedName? src = some name ∧ k = m.methodOf src name)
      (n.inBody.filter (isProperMethod src)) (n.classOf src fallback parent).methods := by
  simp only [classOf_eq, members, bodyNodes_eq, List.filterMap_filterMap]
  refine (forall₂_filter (fun m => (reads_member? src _ m).isSome_method) n.inBody).imp ?_
  intro m k hk
  exact (reads_member? src _ m).method_of_some hk

end Class

lemma one_of_namedMethod (src : Source) (m : Node) :
    [m.isAccessor, m.isProperMethod src, m.isConstructor src].count true =
      if m.isNamedMethod then 1 else 0 := by
  rw [isAccessor, isProperMethod, isConstructor, bne]
  cases m.isNamedMethod with
  | false => rfl
  | true =>
    cases m.accessorToken? with
    | some token => rfl
    | none => cases m.unquotedName? src == some "constructor" <;> rfl

lemma length_filter_namedMethod (src : Source) (ms : List Node) :
    (ms.filter isNamedMethod).length = (ms.filter isAccessor).length +
      (ms.filter (isProperMethod src)).length + (ms.filter (isConstructor src)).length := by
  induction ms with
  | nil => rfl
  | cons m ms ih =>
    have hone := one_of_namedMethod src m
    simp only [List.count_cons, List.count_nil, beq_true] at hone
    simp only [← List.countP_eq_length_filter, List.countP_cons] at ih ⊢
    omega

end Node

open Node

theorem class_members_are_partitioned (src : Source) (fallback : String) (n parent : Node) :
    (n.classOf src fallback parent).name =
      ((n.field? .name).map fun name => src.slice name.start name.stop).getD fallback ∧
    (n.classOf src fallback parent).properties = n.inBody.flatMap (declaredProperties src) ∧
    List.Forall₂ (fun m a => ∃ name token, m.unquotedName? src = some name ∧
        m.accessorToken? = some token ∧ a = m.accessorOf src name token.keywordKind)
      (n.inBody.filter isAccessor) (n.classOf src fallback parent).accessors ∧
    List.Forall₂ (fun m k => ∃ name, m.unquotedName? src = some name ∧ k = m.methodOf src name)
      (n.inBody.filter (isProperMethod src)) (n.classOf src fallback parent).methods ∧
    (n.classOf src fallback parent).constructor? =
      (n.inBody.filter (isConstructor src)).getLast?.map (fun m =>
        m.constructorOf src (n.classOf src fallback parent).name) ∧
    (∀ k, (n.classOf src fallback parent).constructor? = some k →
      k.name = (n.classOf src fallback parent).name) ∧
    (∀ m : Node, [m.isAccessor, m.isProperMethod src, m.isConstructor src].count true =
      if m.isNamedMethod then 1 else 0) ∧
    (n.inBody.filter isNamedMethod).length =
      (n.classOf src fallback parent).accessors.length +
        (n.classOf src fallback parent).methods.length +
        (n.inBody.filter (isConstructor src)).length := by
  have ha := classOf_accessors src fallback n parent
  have hm := classOf_methods src fallback n parent
  have hc := classOf_constructor? src fallback n parent
  refine ⟨by rw [classOf_eq]; rfl, classOf_properties src fallback n parent, ha, hm, hc, ?_,
    one_of_namedMethod src, ?_⟩
  · intro k hk
    rw [hc] at hk
    obtain ⟨m, _, rfl⟩ := Option.map_eq_some_iff.mp hk
    rfl
  · rw [← ha.length_eq, ← hm.length_eq]
    exact length_filter_namedMethod src n.inBody

def mixedGetter : Node :=
  ⟨9, "method_definition", true, 15, 24, [],
    [⟨10, "get", false, 15, 18, [], []⟩,
      ⟨11, "property_identifier", true, 19, 20, [.name], []⟩]⟩

def mixedMethod : Node :=
  ⟨12, "method_definition", true, 24, 29, [],
    [⟨13, "property_identifier", true, 24, 25, [.name], []⟩]⟩

def mixedClass : Node :=
  ⟨0, "class_declaration", true, 0, 72, [],
    [⟨1, "class", false, 0, 5, [], []⟩,
      ⟨2, "type_identifier", true, 6, 7, [.name], []⟩,
      ⟨3, "class_body", true, 8, 72, [.body],
        [⟨4, "\x7b", false, 8, 9, [], []⟩,
          ⟨5, "public_field_definition", true, 9, 10, [],
            [⟨6, "property_identifier", true, 9, 10, [.name], []⟩]⟩,
          ⟨7, ";", false, 10, 11, [], []⟩,
          ⟨8, "comment", true, 11, 15, [], []⟩,
          mixedGetter,
          mixedMethod,
          ⟨14, "method_definition", true, 29, 46, [],
            [⟨15, "string", true, 29, 42, [.name], []⟩]⟩,
          ⟨16, "method_definition", true, 46, 71, [],
            [⟨17, "property_identifier", true, 46, 57, [.name], []⟩,
              ⟨18, "formal_parameters", true, 57, 69, [.parameters],
                [⟨19, "required_parameter", true, 58, 68, [],
                  [⟨20, "readonly", false, 58, 66, [], []⟩,
                    ⟨21, "identifier", true, 67, 68, [.pattern], []⟩]⟩]⟩]⟩]⟩]⟩

def mixedSource : Source :=
  .ofString ("class A \x7bx;/**/get y()\x7b\x7dm()\x7b\x7d" ++
    "'constructor'()\x7b\x7dconstructor(readonly b)\x7b\x7d\x7d")

def mixedOutline : ClassOutline :=
  mixedClass.classOf mixedSource "w" ⟨22, "program", true, 0, 72, [], [mixedClass]⟩

theorem mixedClass_partitioned :
    mixedOutline.name = "A" ∧ mixedOutline.properties.map Property.name = ["x", "b"] ∧
      mixedOutline.accessors = [mixedGetter.accessorOf mixedSource "y" .getter] ∧
      mixedOutline.methods = [mixedMethod.methodOf mixedSource "m"] ∧
      mixedOutline.constructor?.map (fun k => (k.name, k.span)) = some ("A", ⟨46, 71⟩) := by
  obtain ⟨hname, hproperties, haccessors, hmethods, hconstructor, _⟩ :=
    class_members_are_partitioned mixedSource "w" mixedClass
      ⟨22, "program", true, 0, 72, [], [mixedClass]⟩
  have hA : mixedOutline.name = "A" := hname.trans (by decide)
  refine ⟨hA, ?_, ?_, ?_, ?_⟩
  · rw [mixedOutline, hproperties]
    decide
  · have hone : mixedClass.inBody.filter isAccessor = [mixedGetter] := rfl
    rw [hone] at haccessors
    obtain ⟨a, _, ⟨name, token, hy, htoken, rfl⟩, hrest, heq⟩ :=
      List.forall₂_cons_left_iff.mp haccessors
    obtain rfl : "y" = name := Option.some.inj hy
    obtain rfl := Option.some.inj htoken
    cases hrest
    exact heq
  · have hone : mixedClass.inBody.filter (isProperMethod mixedSource) = [mixedMethod] := rfl
    rw [hone] at hmethods
    obtain ⟨k, _, ⟨name, hm, rfl⟩, hrest, heq⟩ := List.forall₂_cons_left_iff.mp hmethods
    obtain rfl : "m" = name := Option.some.inj hm
    cases hrest
    exact heq
  · have hlast : (mixedClass.inBody.filter (isConstructor mixedSource)).getLast?.map Node.span =
        some ⟨46, 71⟩ := by decide
    obtain ⟨m, hm, hspan⟩ := Option.map_eq_some_iff.mp hlast
    rw [hm, Option.map_some] at hconstructor
    rw [mixedOutline, hconstructor, Option.map_some, ← hspan]
    simp only [constructorOf]
    rw [← mixedOutline, hA]

end SourceOutline
