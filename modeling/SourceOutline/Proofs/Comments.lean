import SourceOutline.Proofs.Bare
import SourceOutline.Proofs.Routing
import SourceOutline.Proofs.Shapes

/-! Comments add nothing: a tree and the tree without its comments are read alike. -/

namespace SourceOutline

namespace Node

lemma introducedType?_bare (n : Node) :
    n.bare.introducedType? = n.introducedType?.map bare := by
  rw [introducedType?, kind_bare, content_bare, List.head?_map, introducedType?]
  split <;> rfl

lemma bind_introducedType?_bare (clause : Option Node) :
    (clause.map bare).bind introducedType? = (clause.bind introducedType?).map bare := by
  cases clause with
  | none => rfl
  | some c => exact introducedType?_bare c

lemma typeClause?_bare {n : Node} (h : n.Tidy) : n.bare.typeClause? = n.typeClause?.map bare := by
  rw [typeClause?, field?_bare h, field?_bare h, ← Option.map_or, typeClause?]

lemma declaredType?_bare {n : Node} (h : n.Tidy) :
    n.bare.declaredType? = n.declaredType?.map bare := by
  rw [declaredType?, typeClause?_bare h, bind_introducedType?_bare, declaredType?]

lemma objectProperty?_bare (src : Source) {p : Node} (h : p.Tidy) (type : Option String) :
    objectProperty? src p.bare type = objectProperty? src p type := by
  rw [objectProperty?, kind_bare, field?_bare h, field?_bare h, objectProperty?]
  split <;> simp [Function.comp_def]

lemma bind_value_literalType? (src : Source) (n : Node) :
    (n.field? .value).bind (literalType? src) =
      if n.hasField .value then n.literalType? src else none := by
  rw [hasField, literalType?_eq src n]
  cases n.field? .value <;> rfl

lemma literalType?_bare (src : Source) {n : Node} (h : n.Tidy) :
    n.bare.literalType? src = n.literalType? src := by
  induction n using child_induction with
  | step n ih =>
    have hmember : ∀ c ∈ n.content, c.bare.literalType? src = c.literalType? src := by
      intro c hc
      exact ih c (mem_children_of_mem_content hc) (h.content hc)
    rw [literalType?_eq, literalType?_eq src n, field?_bare h, kind_bare, content_bare]
    cases hv : n.field? .value with
    | some v => exact ih v (mem_children_of_field? hv) (h.field hv)
    | none =>
      have helements : (n.content.map bare).filterMap (literalType? src) =
          n.content.filterMap (literalType? src) := by
        rw [List.filterMap_map]
        exact List.filterMap_congr hmember
      have hproperties : ((n.content.map bare).filterMap fun p =>
          objectProperty? src p ((p.field? .value).bind (literalType? src))) =
          n.content.filterMap fun p =>
            objectProperty? src p ((p.field? .value).bind (literalType? src)) := by
        rw [List.filterMap_map]
        apply List.filterMap_congr
        intro p hp
        rw [Function.comp_apply, objectProperty?_bare src (h.content hp),
          bind_value_literalType?, hasField_bare (h.content hp), hmember p hp,
          bind_value_literalType?]
      simp only [Option.map_none, helements, hproperties]

lemma typeText?_bare (src : Source) {n : Node} (h : n.Tidy) (clause : Option Node) :
    n.bare.typeText? src (clause.map bare) = n.typeText? src clause := by
  rw [typeText?, bind_introducedType?_bare, typeText?]
  cases clause.bind introducedType? with
  | none => exact literalType?_bare src h
  | some t => exact congrArg some (text_bare t src)

lemma typeText?_type_bare (src : Source) {n : Node} (h : n.Tidy) :
    n.bare.typeText? src (n.bare.field? .type) = n.typeText? src (n.field? .type) := by
  rw [field?_bare h, typeText?_bare src h]

lemma typeText?_clause_bare (src : Source) {n : Node} (h : n.Tidy) :
    n.bare.typeText? src n.bare.typeClause? = n.typeText? src n.typeClause? := by
  rw [typeClause?_bare h, typeText?_bare src h]

lemma shapeName?_bare (src : Source) {n : Node} (h : n.Tidy) :
    n.bare.shapeName? src = n.shapeName? src := by
  rw [shapeName?, kind_bare, shapeName?]
  split
  · rw [childOfKind?_bare n (by decide), Option.map_map]
    simp [Function.comp_def]
  · rfl
  · rfl
  · rw [field?_bare h, Option.map_map]
    simp [Function.comp_def]

lemma filter_kind_bare (o : Option Node) (kind : String) :
    (o.map bare).filter (fun t => t.kind == kind) =
      (o.filter fun t => t.kind == kind).map bare := by
  cases o with
  | none => rfl
  | some t =>
    by_cases ht : t.kind = kind
    · simp [Option.filter, ht]
    · simp [Option.filter, ht]

lemma objectType?_bare {n : Node} (h : n.Tidy) : n.bare.objectType? = n.objectType?.map bare := by
  rw [objectType?, declaredType?_bare h, filter_kind_bare, objectType?]

end Node

namespace Shape

open Node

lemma leaf?_bare (src : Source) {c : Node} (h : c.Tidy) : leaf? src c.bare = leaf? src c := by
  rw [leaf?, shapeName?_bare src h, declaredType?_bare h, leaf?]
  simp [Function.comp_def]

lemma take_bare (src : Source) (taken : List Nat) {cs : List Node} (h : ∀ c ∈ cs, c.Tidy) :
    take src taken (cs.map bare) = take src taken cs := by
  induction cs generalizing taken with
  | nil => rfl
  | cons c cs ih =>
    rw [List.forall_mem_cons] at h
    simp only [List.map_cons, take, start_bare, ih _ h.2, leaf?_bare src h.1]

lemma level_bare (src : Source) (taken : List Nat) {members : List Node}
    (h : ∀ m ∈ members, m.Tidy) :
    level src taken (members.map bare) = level src taken members := by
  induction members using members_induction generalizing taken with
  | nil => rfl
  | cons m ms inner ih =>
    rw [List.forall_mem_cons] at h
    have hname := shapeName?_bare src h.1
    have htype := objectType?_bare h.1
    rw [List.map_cons]
    cases hn : m.shapeName? src with
    | none =>
      rw [level_unnamed (hname.trans hn), level_unnamed hn, ih _ h.2]
    | some name =>
      rw [hn] at hname
      cases ho : m.objectType? with
      | none =>
        rw [ho] at htype
        rw [level_leaf hname htype, level_leaf hn ho, ih _ h.2, typeText?_clause_bare src h.1,
          span_bare]
      | some t =>
        rw [ho] at htype
        have hcontent : ∀ c ∈ t.content, c.Tidy := by
          intro c hc
          exact h.1.of_mem (content_subset_of_mem (mem_nodes_of_objectType? ho) hc)
        rw [level_structural hname htype, level_structural hn ho, content_bare,
          take_bare src taken hcontent, inner t ho [] hcontent, ih _ h.2, span_bare]

lemma flatten_bare (src : Source) {members : List Node} (h : ∀ m ∈ members, m.Tidy) :
    flatten src (members.map bare) = flatten src members := by
  rw [flatten_eq_level, level_bare src [] h, flatten_eq_level]

end Shape

namespace Node

lemma flatten_content_bare (src : Source) {t : Node} (h : t.Tidy) :
    Shape.flatten src t.bare.content = Shape.flatten src t.content := by
  rw [content_bare]
  exact Shape.flatten_bare src fun _ hc => h.content hc

lemma firstArgument_bare {t : Node} (h : t.Tidy) :
    ((t.bare.field? .typeArguments).bind fun a => a.content.head?) =
      ((t.field? .typeArguments).bind fun a => a.content.head?).map bare := by
  rw [field?_bare h]
  cases t.field? .typeArguments with
  | none => rfl
  | some a => simp [content_bare]

lemma typeArguments_bare (src : Source) {n : Node} (h : n.Tidy) :
    n.bare.typeArguments src = n.typeArguments src := by
  rw [typeArguments, declaredType?_bare h, typeArguments]
  cases ht : n.declaredType? with
  | none => rfl
  | some t =>
    have htidy := h.of_mem (mem_nodes_of_declaredType? ht)
    simp only [Option.map_some, kind_bare, flatten_content_bare src htidy, firstArgument_bare htidy]
    cases ha : (t.field? .typeArguments).bind fun a => a.content.head? with
    | none => rfl
    | some a =>
      obtain ⟨list, hlist, hhead⟩ := Option.bind_eq_some_iff.mp ha
      have hargument : a.Tidy := (htidy.field hlist).content (List.mem_of_mem_head? hhead)
      simp only [Option.map_some, kind_bare, flatten_content_bare src hargument, text_bare]

lemma parameterNodes_bare {n : Node} (h : n.Tidy) :
    n.bare.parameterNodes = n.parameterNodes.map bare := by
  rw [parameterNodes, field?_bare h, parameterNodes]
  cases n.field? .parameters with
  | none => rfl
  | some list => simp [content_bare, List.filter_map, Function.comp_def]

lemma boundName?_bare {e : Node} (h : e.Tidy) : e.bare.boundName? = e.boundName?.map bare := by
  rw [boundName?, kind_bare, boundName?]
  split
  · rfl
  · rfl
  · rw [field?_bare h, filter_kind_bare]
  · rfl

lemma boundNames_bare (src : Source) {pattern : Node} (h : pattern.Tidy) :
    pattern.bare.boundNames src = pattern.boundNames src := by
  rw [boundNames, content_bare, List.filterMap_map, boundNames]
  apply List.filterMap_congr
  intro e he
  simp [boundName?_bare (h.content he), Function.comp_def]

lemma parameterCalled_bare (src : Source) {n : Node} (h : n.Tidy) (name : Node) :
    n.bare.parameterCalled src name.bare = n.parameterCalled src name := by
  rw [parameterCalled, typeText?_type_bare src h, text_bare, span_bare, parameterCalled]

lemma restName_bare (pattern : Node) :
    (pattern.bare.content.find? fun c => c.kind == "identifier") =
      (pattern.content.find? fun c => c.kind == "identifier").map bare := by
  rw [content_bare, List.find?_map]
  congr 2
  funext c
  exact congrArg (· == "identifier") (kind_bare c)

lemma binding?_bare (src : Source) {n : Node} (h : n.Tidy) :
    n.bare.binding? src = n.binding? src := by
  rw [binding?, field?_bare h, binding?]
  cases hp : n.field? .pattern with
  | none => rfl
  | some pattern =>
    simp only [Option.map_some, Option.bind_some, kind_bare, parameterCalled_bare src h,
      boundNames_bare src (h.field hp), restName_bare, Option.map_map, Function.comp_def]

lemma parameters_bare (src : Source) {n : Node} (h : n.Tidy) :
    n.bare.parameters src = n.parameters src := by
  rw [parameters, parameterNodes_bare h, List.flatMap_map, parameters]
  apply List.flatMap_congr
  intro p hp
  rw [binding?_bare src (h.of_mem (n.parameterNodes_subset_nodes hp))]

lemma promotedProperty_bare (src : Source) {n : Node} (h : n.Tidy) (p : Parameter) :
    n.bare.promotedProperty src p = n.promotedProperty src p := by
  simp only [promotedProperty, visibility?_bare h, typeText?_type_bare src h, isOptional_bare,
    hasModifier_bare h, span_bare, typeArguments_bare src h]

lemma constructorParameter_bare (src : Source) {n : Node} (h : n.Tidy) :
    n.bare.constructorParameter src = n.constructorParameter src := by
  simp only [constructorParameter, binding?_bare src h, isParameterProperty_bare h,
    promotedProperty_bare src h]

lemma constructorParameters_bare (src : Source) {n : Node} (h : n.Tidy) :
    n.bare.constructorParameters src = n.constructorParameters src := by
  rw [constructorParameters, parameterNodes_bare h, List.foldl_map, constructorParameters]
  apply List.foldl_ext
  intro sum p hp
  rw [constructorParameter_bare src (h.of_mem (n.parameterNodes_subset_nodes hp))]

lemma boundVariable?_bare (src : Source) (isConst : Bool) {d : Node} (h : d.Tidy) :
    boundVariable? src isConst d.bare = boundVariable? src isConst d := by
  rw [boundVariable?, kind_bare, typeText?_type_bare src h, field?_bare h, filter_kind_bare,
    span_bare, Option.map_map, boundVariable?]
  simp only [Function.comp_def, text_bare]

lemma declaredVariables_bare (src : Source) {n : Node} (h : n.Tidy)
    (hk : n.isVariableDeclaration = true) :
    n.bare.declaredVariables src = n.declaredVariables src := by
  have hfirst : keywordFirstKinds.contains n.kind = true := by
    simp only [isVariableDeclaration, variableDeclarationKinds, List.contains_cons,
      List.contains_nil, Bool.or_false, Bool.or_eq_true, beq_iff_eq] at hk
    rcases hk with hk | hk <;> simp [keywordFirstKinds, hk]
  rw [declaredVariables, head?_bare h hfirst, content_bare, List.filterMap_map, Option.map_map,
    declaredVariables]
  simp only [Function.comp_def, kind_bare]
  apply List.filterMap_congr
  intro d hd
  exact boundVariable?_bare src _ (h.content hd)

lemma isVariableDeclaration_comment {n : Node} (h : n.isComment = true) :
    n.isVariableDeclaration = false := by
  rw [isComment, beq_iff_eq] at h
  rw [isVariableDeclaration, h]
  decide

lemma locals_bare (src : Source) {n : Node} (h : n.Tidy) : n.bare.locals src = n.locals src := by
  rw [locals, descendants_bare h, List.flatMap_map, locals]
  apply flatMap_filter_congr
  · rintro ⟨parent, d⟩ hd _
    have htidy := h.of_mem (mem_nodes_of_descendant hd)
    have hkind : d.bare.isVariableDeclaration = d.isVariableDeclaration := by
      rw [isVariableDeclaration, kind_bare, isVariableDeclaration]
    cases hv : d.isVariableDeclaration with
    | true => simp [hkind, hv, declaredVariables_bare src htidy hv]
    | false => simp [hkind, hv]
  · rintro ⟨parent, d⟩ _ hk
    rw [Bool.not_eq_false'] at hk
    simp [isVariableDeclaration_comment hk]

lemma isFieldOf_bare (n : Node) {parent : Node} (h : parent.Tidy) (f : Field) :
    n.bare.isFieldOf parent.bare f = n.isFieldOf parent f := by
  rw [isFieldOf, field?_bare h, Option.any_map, isFieldOf]
  simp

lemma mention?_bare (src : Source) (n : Node) {parent : Node} (h : parent.Tidy) :
    n.bare.mention? src parent.bare = n.mention? src parent := by
  simp only [mention?, isIdentifier, isDeclarationName, kind_bare, isFieldOf_bare n h, text_bare]
  rfl

lemma mention?_comment (src : Source) {n : Node} (h : n.isComment = true) (parent : Node) :
    n.mention? src parent = none := by
  rw [isComment, beq_iff_eq] at h
  simp [mention?, isIdentifier, identifierKinds, h]

lemma mentions_bare (src : Source) {n : Node} (h : n.Tidy) :
    n.bare.mentions src = n.mentions src := by
  rw [mentions, descendants_bare h, List.filterMap_map, List.filterMap_filter, mentions]
  apply List.filterMap_congr
  rintro ⟨parent, c⟩ he
  cases hk : c.isComment with
  | true => simp [mention?_comment src hk]
  | false => simp [mention?_bare src c (h.of_mem (edge_of_mem_descendants he).1)]

lemma memberName?_bare (src : Source) {n : Node} (h : n.Tidy) :
    n.bare.memberName? src = n.memberName? src := by
  rw [memberName?, field?_bare h, Option.map_map, memberName?]
  simp [Function.comp_def]

lemma isMethodLike_bare (n : Node) : n.bare.isMethodLike = n.isMethodLike := by
  rw [isMethodLike, kind_bare, isMethodLike]

lemma member?_bare (src : Source) (className : String) {n : Node} (h : n.Tidy) :
    n.bare.member? src className = n.member? src className := by
  simp only [member?, kind_bare, isMethodLike_bare, memberName?_bare src h, accessorKind?_bare h,
    fieldProperty, accessorOf, constructorOf, methodOf, visibility?_bare h,
    typeText?_type_bare src h, typeText?_clause_bare src h, isOptional_bare, hasModifier_bare h,
    span_bare, typeArguments_bare src h, constructorParameters_bare src h,
    parameters_bare src h, locals_bare src h]

lemma isCallable_bare {n : Node} (h : n.Tidy) : n.bare.isCallable = n.isCallable := by
  rw [isCallable, isMethodLike_bare, hasField_bare h, accessorKind?_bare h, isCallable]

lemma bodyNodes_bare {n : Node} (h : n.Tidy) : n.bare.bodyNodes = n.bodyNodes.map bare := by
  rw [bodyNodes, field?_bare h, bodyNodes]
  cases n.field? .body with
  | none => rfl
  | some body => exact content_bare body

lemma members_bare (src : Source) (className : String) {n : Node} (h : n.Tidy) :
    n.bare.bodyNodes.filterMap (member? src className) =
      n.bodyNodes.filterMap (member? src className) := by
  rw [bodyNodes_bare h, List.filterMap_map]
  apply List.filterMap_congr
  intro m hm
  exact member?_bare src className (h.of_mem (n.bodyNodes_subset_nodes hm))

lemma typeParameterTexts_bare (src : Source) {n : Node} (h : n.Tidy) :
    n.bare.typeParameterTexts src = n.typeParameterTexts src := by
  rw [typeParameterTexts, field?_bare h, typeParameterTexts]
  cases n.field? .typeParameters with
  | none => rfl
  | some list => simp [content_bare, List.filter_map, Function.comp_def]

@[simp] lemma isExportStatement_bare (n : Node) :
    n.bare.isExportStatement = n.isExportStatement := by
  rw [isExportStatement, kind_bare, isExportStatement]

lemma exportsDefault_bare (n : Node) : n.bare.exportsDefault = n.exportsDefault := by
  rw [exportsDefault, isExportStatement_bare, any_kind_bare n (by decide), exportsDefault]

lemma classOf_bare (src : Source) (fallback : String) {n : Node} (h : n.Tidy) (parent : Node) :
    n.bare.classOf src fallback parent.bare = n.classOf src fallback parent := by
  simp only [classOf_eq, members, className, classSpan, field?_bare h, Option.map_map,
    Function.comp_def, text_bare, members_bare src _ h, isExportStatement_bare,
    exportsDefault_bare, start_bare, stop_bare, span_bare, typeParameterTexts_bare src h]

lemma classDeclarations_bare (src : Source) (fallback : String) {n : Node} (h : n.Tidy)
    (parent : Node) :
    n.bare.classDeclarations src fallback parent.bare =
      n.classDeclarations src fallback parent := by
  simp only [classDeclarations, classOf_bare src fallback h, exportsDefault_bare]

lemma classMentions_bare (src : Source) {n : Node} (h : n.Tidy) :
    n.bare.classMentions src = n.classMentions src := by
  have hcallable : n.bodyNodes.filter (isCallable ∘ bare) = n.bodyNodes.filter isCallable := by
    apply List.filter_congr
    intro m hm
    exact isCallable_bare (h.of_mem (n.bodyNodes_subset_nodes hm))
  have hmentions : ∀ m ∈ n.bodyNodes.filter isCallable, m.bare.mentions src = m.mentions src := by
    intro m hm
    exact mentions_bare src (h.of_mem (n.bodyNodes_subset_nodes (List.mem_filter.mp hm).1))
  rw [classMentions, bodyNodes_bare h, List.filter_map, hcallable, List.flatMap_map,
    List.flatMap_congr hmentions, mentions_bare src h, classMentions]

lemma specifier?_bare (src : Source) {n : Node} (h : n.Tidy) :
    n.bare.specifier? src = n.specifier? src := by
  simp only [specifier?, kind_bare, field?_bare h, Option.map_map, Function.comp_def, text_bare]

lemma namedImport?_bare (src : Source) {n : Node} (h : n.Tidy) :
    n.bare.namedImport? src = n.namedImport? src := by
  have hclause : n.bare.childOfKind? "import_clause" = _ := childOfKind?_bare n (by decide)
  simp only [namedImport?, field?_bare h, hclause, span_bare]
  cases hs : n.field? .source with
  | none => rfl
  | some source =>
    cases hc : n.childOfKind? "import_clause" with
    | none => rfl
    | some clause =>
      have hlist : clause.bare.childOfKind? "named_imports" = _ :=
        childOfKind?_bare clause (by decide)
      have hdefault : clause.bare.childOfKind? "identifier" = _ :=
        childOfKind?_bare clause (by decide)
      simp only [Option.map_some, Option.bind_some, Option.bind_eq_bind, text_bare, hlist,
        hdefault, Option.map_map, Function.comp_def]
      cases hn : clause.childOfKind? "named_imports" with
      | none => rfl
      | some names =>
        have hnames : names.Tidy :=
          (h.child (List.mem_of_find?_eq_some hc)).child (List.mem_of_find?_eq_some hn)
        have hs : names.bare.content.filterMap (specifier? src) =
            names.content.filterMap (specifier? src) := by
          rw [content_bare, List.filterMap_map]
          apply List.filterMap_congr
          intro c hc
          exact specifier?_bare src (hnames.content hc)
        simp only [Option.map_some, Option.bind_some, hs]

lemma isClassSite_bare (n parent : Node) :
    n.bare.isClassSite parent.bare = n.isClassSite parent := by
  simp only [isClassSite, kind_bare, named_bare, isExportStatement_bare]

lemma isImportStatement_bare (n : Node) : n.bare.isImportStatement = n.isImportStatement := by
  rw [isImportStatement, kind_bare, isImportStatement]

lemma isBarrier_bare {n : Node} (h : n.Tidy) (parent : Node) :
    n.bare.isBarrier parent.bare = n.isBarrier parent := by
  simp only [isBarrier, isClassSite_bare, isImportStatement_bare, isAmbientBlock, kind_bare,
    hasField_bare h]

lemma ambientKind?_bare (src : Source) {n : Node} (h : n.Tidy) :
    n.bare.ambientKind? src = n.ambientKind? src := by
  simp only [ambientKind?, kind_bare, field?_bare h, Option.bind_map, Option.map_map,
    Function.comp_def, text_bare]

lemma blockResource?_bare (src : Source) {n : Node} (h : n.Tidy)
    (hbody : ∀ body, n.field? .body = some body → ∀ fallback,
      body.bare.findingsBelow src fallback = body.findingsBelow src fallback) :
    n.bare.blockResource? src = n.blockResource? src := by
  rw [blockResource?, ambientKind?_bare src h, field?_bare h, blockResource?]
  cases hb : n.field? .body with
  | none => rfl
  | some body => simp only [Option.map_some, Resource.extract_eq, hbody body hb]

lemma ofRegion_bare (src : Source) (fallback : String) {n parent : Node} (h : n.Tidy)
    (hparent : parent.Tidy) (hblock : n.bare.blockResource? src = n.blockResource? src) :
    Findings.ofRegion src fallback [(parent.bare, n.bare)] =
      Findings.ofRegion src fallback [(parent, n)] := by
  simp only [Findings.ofRegion_singleton, declarationsAt, mentionsAt, importAt?,
    isClassSite_bare, isImportStatement_bare, classDeclarations_bare src fallback h,
    classMentions_bare src h, mention?_bare src n hparent, namedImport?_bare src h,
    hblock]

lemma findings_comment (src : Source) (fallback : String) {n : Node} (hk : n.isComment = true)
    (hleaf : n.children = []) (parent : Node) : n.findings src fallback parent = .empty := by
  have hmention := mention?_comment src hk parent
  rw [isComment, beq_iff_eq] at hk
  have hclass : n.isClassSite parent = false := by simp [isClassSite, hk]
  have himport : n.isImportStatement = false := by simp [isImportStatement, hk]
  have hambient : n.ambientKind? src = none := by simp [ambientKind?, hk]
  rw [findings_other src fallback hclass himport hambient, mentionFindings, hmention,
    findingsBelow, hleaf]
  rfl

lemma findingsFrom_bareAll (src : Source) (fallback : String) {parent : Node} {ns : List Node}
    (hkept : ∀ c ∈ ns, c.bare.findings src fallback parent.bare = c.findings src fallback parent)
    (hcomment : ∀ c ∈ ns, c.isComment = true → c.findings src fallback parent = .empty) :
    findingsFrom src fallback parent.bare (bareAll ns) = findingsFrom src fallback parent ns := by
  induction ns with
  | nil => rfl
  | cons c cs ih =>
    rw [List.forall_mem_cons] at hkept hcomment
    have hrest := ih hkept.2 hcomment.2
    cases hk : c.isComment with
    | true =>
      rw [bareAll, if_pos hk, hrest, findingsFrom, hcomment.1 hk]
      rfl
    | false =>
      rw [bareAll, if_neg (by simp [hk]), findingsFrom, hkept.1, hrest, findingsFrom]

lemma findingsBelow_bare (src : Source) (fallback : String) {n : Node} (h : n.Tidy) :
    n.bare.findingsBelow src fallback = n.findingsBelow src fallback := by
  induction n using subtree_induction generalizing fallback with
  | step n ih =>
    have hchild : ∀ c ∈ n.children,
        c.bare.findings src fallback n.bare = c.findings src fallback n := by
      intro c hc
      have htidy := h.child hc
      have hbelow := ih c hc c c.self_mem_nodes fallback htidy
      have hblock : c.bare.blockResource? src = c.blockResource? src := by
        apply blockResource?_bare src htidy
        intro body hb name
        have hmem := nodes_child (mem_children_of_field? hb) body.self_mem_nodes
        exact ih c hc body hmem name (htidy.field hb)
      rw [findings_eq, findings_eq src fallback c n, ofRegion_bare src fallback htidy h hblock,
        isBarrier_bare htidy, hbelow]
    have hcomment : ∀ c ∈ n.children, c.isComment = true →
        c.findings src fallback n = .empty := by
      intro c hc hk
      exact findings_comment src fallback hk (h.leaf hc hk).1 n
    rw [findingsBelow, children_bare, ← bareAll_eq,
      findingsFrom_bareAll src fallback hchild hcomment, findingsBelow]

end Node

theorem comments_are_transparent (src : Source) {tree : Node}
    (h : ∀ n ∈ tree.nodes, n.setsCommentsAside = true) :
    (∀ e ∈ tree.bare.descendants, e.2.isComment = false) ∧
    ∀ (d : Disk) (r : Resource), r.extract d src tree.bare = r.extract d src tree := by
  constructor
  · intro e he
    rw [Node.descendants_bare h, List.mem_map] at he
    obtain ⟨e, he, rfl⟩ := he
    simpa using (List.mem_filter.mp he).2
  · intro d r
    rw [Resource.extract_eq, Node.findingsBelow_bare src _ h, Resource.extract_eq]

def commentedClass : Node :=
  ⟨0, "program", true, 0, 45, [],
    [⟨1, "comment", true, 0, 5, [], []⟩,
      ⟨2, "class_declaration", true, 6, 45, [],
        [⟨3, "type_identifier", true, 12, 13, [.name], []⟩,
          ⟨4, "comment", true, 14, 19, [], []⟩,
          ⟨5, "class_body", true, 20, 45, [.body],
            [⟨6, "comment", true, 22, 27, [], []⟩,
              ⟨7, "public_field_definition", true, 28, 43, [],
                [⟨8, "accessibility_modifier", true, 28, 35, [],
                  [⟨9, "private", false, 28, 35, [], []⟩]⟩,
                ⟨10, "comment", true, 36, 41, [], []⟩,
                ⟨11, "property_identifier", true, 42, 43, [.name], []⟩]⟩]⟩]⟩]⟩

theorem commentedClass_read_alike :
    ((∀ n ∈ commentedClass.nodes, n.setsCommentsAside = true) ∧
      commentedClass.descendants.any (fun e => e.2.isComment) = true) ∧
    (Resource.ofKind (.ambientModule "m")).extract .absent
        (.ofString "/*a*/ class A /*b*/ \x7b /*c*/ private /*d*/ x \x7d") commentedClass.bare =
      (Resource.ofKind (.ambientModule "m")).extract .absent
        (.ofString "/*a*/ class A /*b*/ \x7b /*c*/ private /*d*/ x \x7d") commentedClass := by
  have haside : ∀ n ∈ commentedClass.nodes, n.setsCommentsAside = true := by decide
  exact ⟨⟨haside, by decide⟩, (comments_are_transparent _ haside).2 _ _⟩

end SourceOutline
