import SourceOutline.Proofs.Ownership

/-! What a tree adds to a resource is what the nodes of its region add, each on its own. -/

namespace SourceOutline

namespace Node

def blockResource? (src : Source) (n : Node) : Option Resource :=
  (n.ambientKind? src).bind fun kind =>
    (n.field? .body).map fun body => (Resource.ofKind kind).extract .absent src body

def declarationsAt (src : Source) (fallback : String) (e : Node × Node) : List Declaration :=
  if e.2.isClassSite e.1 then e.2.classDeclarations src fallback e.1 else []

def mentionsAt (src : Source) (e : Node × Node) : List String :=
  if e.2.isClassSite e.1 then e.2.classMentions src else (e.2.mention? src e.1).toList

def importAt? (src : Source) (e : Node × Node) : Option NamedImport :=
  if e.2.isImportStatement then e.2.namedImport? src else none

end Node

namespace Findings

open Node

def ofRegion (src : Source) (fallback : String) (es : List (Node × Node)) : Findings where
  declarations := es.flatMap (declarationsAt src fallback)
  mentions := es.flatMap (mentionsAt src)
  imports := es.filterMap (importAt? src)
  resources := es.filterMap fun e => e.2.blockResource? src

lemma ofRegion_append (src : Source) (fallback : String) (es fs : List (Node × Node)) :
    ofRegion src fallback (es ++ fs) = ofRegion src fallback es ++ ofRegion src fallback fs := by
  simp [ofRegion, append_eq]

lemma ofRegion_cons (src : Source) (fallback : String) (e : Node × Node)
    (es : List (Node × Node)) :
    ofRegion src fallback (e :: es) = ofRegion src fallback [e] ++ ofRegion src fallback es :=
  ofRegion_append src fallback [e] es

lemma ofRegion_singleton (src : Source) (fallback : String) (e : Node × Node) :
    ofRegion src fallback [e] = ⟨declarationsAt src fallback e, mentionsAt src e,
      (importAt? src e).toList, (e.2.blockResource? src).toList⟩ := by
  cases hi : importAt? src e <;> cases hr : e.2.blockResource? src <;> simp [ofRegion, hi, hr]

end Findings

namespace Node

lemma mention?_import (src : Source) {n : Node} (parent : Node)
    (h : n.isImportStatement = true) : n.mention? src parent = none := by
  simp only [isImportStatement, beq_iff_eq] at h
  simp [mention?, isIdentifier, identifierKinds, h]

lemma mention?_ambientBlock (src : Source) {n : Node} (parent : Node)
    (h : n.isAmbientBlock = true) : n.mention? src parent = none := by
  rcases kind_of_ambientBlock h with h | h <;> simp [mention?, isIdentifier, identifierKinds, h]

lemma ambientKind?_isSome (src : Source) (n : Node) :
    (n.ambientKind? src).isSome = n.isAmbientBlock := by
  simp only [ambientKind?, isAmbientBlock, hasField]
  cases n.field? .name <;> cases n.field? .body <;> split <;> simp_all

lemma ambientBlock_iff (src : Source) (n : Node) :
    n.isAmbientBlock = true ↔ ∃ kind, n.ambientKind? src = some kind := by
  rw [← ambientKind?_isSome src, Option.isSome_iff_exists]

lemma ambientKind?_eq_none (src : Source) {n : Node} (h : n.isAmbientBlock = false) :
    n.ambientKind? src = none := by
  rw [← Option.not_isSome_iff_eq_none, ambientKind?_isSome, h]
  exact Bool.false_ne_true

lemma bodyFindings_eq (src : Source) (fallback : String) (ns : List Node) :
    bodyFindings src fallback ns =
      ((ns.find? fun c => c.carries .body).map (findingsBelow src fallback)).getD .empty := by
  induction ns with
  | nil => simp [bodyFindings]
  | cons c cs ih =>
    cases c
    rw [bodyFindings, List.find?_cons]
    split <;> simp_all [findingsBelow]

lemma blockResource?_eq_extract (src : Source) (d : Disk) {n : Node} {kind : ResourceKind}
    {body : Node} (hk : n.ambientKind? src = some kind) (hb : n.field? .body = some body) :
    n.blockResource? src = some ((Resource.ofKind kind).extract d src body) := by
  simp [blockResource?, hk, hb, Resource.extract_eq, Resource.ofKind, ambient_defaultIdentifier hk]

lemma blockResource?_eq (src : Source) {n : Node} {kind : ResourceKind}
    (h : n.ambientKind? src = some kind) :
    n.blockResource? src = some ((Resource.ofKind kind).absorb
      (bodyFindings src (kind.identifier .absent) n.children)) := by
  obtain ⟨body, hb⟩ := field?_body_of_ambientBlock ((ambientBlock_iff src n).mpr ⟨kind, h⟩)
  have hf : bodyFindings src (kind.identifier .absent) n.children =
      body.findingsBelow src (kind.identifier .absent) := by
    rw [bodyFindings_eq]
    simp only [field?] at hb
    rw [hb, Option.map_some, Option.getD_some]
  rw [blockResource?_eq_extract src .absent h hb, hf, Resource.extract_eq, Resource.ofKind,
    ambient_defaultIdentifier h]

lemma blockResource?_eq_none (src : Source) {n : Node} (h : n.isAmbientBlock = false) :
    n.blockResource? src = none := by
  rw [blockResource?, ambientKind?_eq_none src h, Option.bind_none]

lemma blockResource?_isSome (src : Source) (n : Node) :
    (n.blockResource? src).isSome = n.isAmbientBlock := by
  cases ha : n.isAmbientBlock with
  | false => rw [blockResource?_eq_none src ha, Option.isSome_none]
  | true =>
    obtain ⟨kind, hk⟩ := (ambientBlock_iff src n).mp ha
    rw [blockResource?_eq src hk, Option.isSome_some]

lemma kind_of_blockResource? {src : Source} {n : Node} {r : Resource}
    (h : n.blockResource? src = some r) : n.ambientKind? src = some r.kind := by
  obtain ⟨kind, hk, h⟩ := Option.bind_eq_some_iff.mp h
  obtain ⟨body, _, rfl⟩ := Option.map_eq_some_iff.mp h
  rw [hk, Resource.kind_extract]
  rfl

lemma findings_class (src : Source) (fallback : String) {n parent : Node}
    (hc : n.isClassSite parent = true) :
    n.findings src fallback parent = n.classFindings src fallback parent := by
  cases n
  rw [findings, if_pos hc]

lemma findings_import (src : Source) (fallback : String) {n parent : Node}
    (hc : n.isClassSite parent = false) (hi : n.isImportStatement = true) :
    n.findings src fallback parent = n.importFindings src := by
  cases n
  rw [findings, if_neg (by simp [hc]), if_pos hi]

lemma findings_block (src : Source) (fallback : String) {n parent : Node} {kind : ResourceKind}
    (hc : n.isClassSite parent = false) (hi : n.isImportStatement = false)
    (hk : n.ambientKind? src = some kind) :
    n.findings src fallback parent = ⟨[], [], [], [(Resource.ofKind kind).absorb
      (bodyFindings src (kind.identifier .absent) n.children)]⟩ := by
  cases n
  rw [findings, if_neg (by simp [hc]), if_neg (by simp [hi])]
  simp only [hk]

lemma findings_other (src : Source) (fallback : String) {n parent : Node}
    (hc : n.isClassSite parent = false) (hi : n.isImportStatement = false)
    (hk : n.ambientKind? src = none) :
    n.findings src fallback parent =
      n.mentionFindings src parent ++ n.findingsBelow src fallback := by
  cases n
  rw [findings, if_neg (by simp [hc]), if_neg (by simp [hi])]
  simp only [hk]
  rfl

lemma findings_eq (src : Source) (fallback : String) (n parent : Node) :
    n.findings src fallback parent =
      Findings.ofRegion src fallback [(parent, n)] ++
        if n.isBarrier parent then .empty else n.findingsBelow src fallback := by
  cases hc : n.isClassSite parent with
  | true =>
    obtain ⟨hi, ha⟩ := classSite_excludes hc
    rw [findings_class src fallback hc]
    simp [hc, hi, isBarrier, Findings.append_empty, classFindings, Findings.ofRegion_singleton,
      declarationsAt, mentionsAt, importAt?, blockResource?_eq_none src ha]
  | false =>
    cases hi : n.isImportStatement with
    | true =>
      have ha := import_excludes hi
      rw [findings_import src fallback hc hi]
      simp [hc, hi, isBarrier, Findings.append_empty, importFindings, Findings.ofRegion_singleton,
        declarationsAt, mentionsAt, importAt?, mention?_import src parent hi,
        blockResource?_eq_none src ha]
    | false =>
      cases hk : n.ambientKind? src with
      | some kind =>
        have ha := (ambientBlock_iff src n).mpr ⟨kind, hk⟩
        rw [findings_block src fallback hc hi hk]
        simp [hc, hi, ha, isBarrier, Findings.append_empty, Findings.ofRegion_singleton,
          declarationsAt, mentionsAt, importAt?, mention?_ambientBlock src parent ha,
          blockResource?_eq src hk]
      | none =>
        have ha : n.isAmbientBlock = false := by
          rw [← ambientKind?_isSome src, hk, Option.isSome_none]
        rw [findings_other src fallback hc hi hk]
        simp [hc, hi, ha, isBarrier, mentionFindings, Findings.ofRegion_singleton, declarationsAt,
          mentionsAt, importAt?, blockResource?_eq_none src ha]

lemma findingsFrom_eq (src : Source) (fallback : String) {parent : Node} {index : Nat}
    {ns : List Node} (h : parent.children.drop index = ns) :
    findingsFrom src fallback parent ns =
      Findings.ofRegion src fallback (parent.regionFrom index ns) := by
  induction ns using forest_induction generalizing parent index with
  | nil => rfl
  | cons c cs hc hcs =>
    have hb : c.findingsBelow src fallback = Findings.ofRegion src fallback c.region := by
      rw [region_eq]
      exact @hc c 0 rfl
    rw [findingsFrom, findings_eq, hcs (drop_eq_cons h).2, regionFrom_cons h, hb,
      Findings.ofRegion_cons _ _ _ (_ ++ _), Findings.ofRegion_append, Findings.append_assoc]
    split <;> rfl

theorem findingsBelow_eq (src : Source) (fallback : String) (n : Node) :
    n.findingsBelow src fallback = Findings.ofRegion src fallback n.region := by
  rw [region_eq]
  exact findingsFrom_eq src fallback rfl

end Node

namespace Resource

def at? (r : Resource) : List Nat → Option Resource
  | [] => some r
  | i :: address => r.resources[i]?.bind fun child => child.at? address

end Resource

open Node

lemma extract_fresh (kind : ResourceKind) (d : Disk) (src : Source) (tree : Node) :
    (Resource.ofKind kind).extract d src tree =
      (Resource.ofKind kind).absorb
        (Findings.ofRegion src (kind.defaultIdentifier d) tree.region) := by
  rw [Resource.extract_eq, findingsBelow_eq]
  rfl

lemma ground_resource (d : Disk) (src : Source) (tree : Node) (way : Way) :
    Option.Rel (fun g child => ∃ kind, child = (Resource.ofKind kind).extract d src g.node)
      (tree.groundIn? way) ((tree.edge? way).bind fun e => e.2.blockResource? src) := by
  simp only [groundIn?]
  cases tree.edge? way with
  | none => exact .none
  | some e =>
    cases ha : e.2.isAmbientBlock with
    | false =>
      simp only [Option.bind_some, ha, blockResource?_eq_none src ha]
      exact .none
    | true =>
      obtain ⟨kind, hk⟩ := (ambientBlock_iff src e.2).mp ha
      obtain ⟨body, hb⟩ := field?_body_of_ambientBlock ha
      simp only [Option.bind_some, ha, hb, blockResource?_eq_extract src d hk hb]
      exact .some ⟨kind, rfl⟩

lemma grounds_resources (kind : ResourceKind) (d : Disk) (src : Source) (tree : Node) :
    List.Forall₂ (fun g child => ∃ k, child = (Resource.ofKind k).extract d src g.node)
      tree.grounds ((Resource.ofKind kind).extract d src tree).resources := by
  have hr : ((Resource.ofKind kind).extract d src tree).resources =
      tree.openWays.filterMap fun way =>
        (tree.edge? way).bind fun e => e.2.blockResource? src := by
    rw [extract_fresh]
    simp only [Resource.absorb, Resource.ofKind, Findings.ofRegion, region,
      List.filterMap_filterMap, List.nil_append]
  rw [hr]
  exact forall₂_filterMap (ground_resource d src tree) tree.openWays

theorem extract_everywhere {R : Node → Resource → Prop} {d : Disk} {src : Source}
    (h : ∀ kind tree, R tree ((Resource.ofKind kind).extract d src tree)) (kind : ResourceKind)
    (tree : Node) (address : List Nat) :
    Option.Rel (fun g x => R g.node x) (tree.groundAt? address)
      (((Resource.ofKind kind).extract d src tree).at? address) := by
  -- A block's resource is again what its body makes of a fresh one, so the address is enough to
  -- go by.
  induction address generalizing kind tree with
  | nil => exact .some (h kind tree)
  | cons i address ih =>
    refine rel_bind (rel_getElem? (grounds_resources kind d src tree) i) ?_
    rintro g _ ⟨k, rfl⟩
    exact rel_map (ih k g.node)

lemma class?_classDeclarations (src : Source) (fallback : String) (n parent : Node) :
    (n.classDeclarations src fallback parent).filterMap Declaration.class? =
      [n.classOf src fallback parent] := by
  rw [classDeclarations]
  split <;> rfl

lemma declarations_ofRegion (src : Source) (fallback : String) (n : Node) :
    (Findings.ofRegion src fallback n.region).declarations =
      n.classSites.flatMap fun e => e.2.classDeclarations src fallback e.1 := by
  simp only [Findings.ofRegion, classSites]
  induction n.region with
  | nil => rfl
  | cons e es ih =>
    rw [List.flatMap_cons, ih, List.filter_cons, declarationsAt]
    split <;> rfl

lemma namedImport?_isSome (src : Source) (n : Node) :
    (n.namedImport? src).isSome = n.importsNames := by
  rw [namedImport?, importsNames, hasField]
  cases n.field? .source with
  | none => rfl
  | some source =>
    cases n.childOfKind? "import_clause" with
    | none => rfl
    | some clause => cases h : clause.childOfKind? "named_imports" <;> simp [h]

lemma importAt?_isSome (src : Source) (e : Node × Node) :
    (importAt? src e).isSome = (e.2.isImportStatement && e.2.importsNames) := by
  rw [importAt?, ← namedImport?_isSome src]
  cases e.2.isImportStatement <;> rfl

/-- Whether a resource has one class for each class in the region of a node, one named import for
each statement that imports names, and one resource for each ambient block, all in their order. -/
structure Resource.Covers (d : Disk) (src : Source) (n : Node) (r : Resource) : Prop where
  classes : r.classes =
    n.classSites.map fun e => e.2.classOf src (r.kind.defaultIdentifier d) e.1
  imports : List.Forall₂ (fun e i => e.2.namedImport? src = some i) n.namedImportSites r.imports
  resources : List.Forall₂ (fun e child => e.2.ambientKind? src = some child.kind)
    n.blockSites r.resources

lemma covers_extract (d : Disk) (src : Source) (kind : ResourceKind) (tree : Node) :
    Resource.Covers d src tree ((Resource.ofKind kind).extract d src tree) := by
  rw [extract_fresh]
  constructor
  · simp only [Resource.classes, Resource.absorb, Resource.ofKind, List.nil_append,
      declarations_ofRegion, List.filterMap_flatMap, class?_classDeclarations,
      List.map_eq_flatMap]
  · refine (forall₂_filter (importAt?_isSome src) tree.region).imp ?_
    intro e i h
    exact (Option.ite_none_right_eq_some.mp h).2
  · refine (forall₂_filter (fun e => blockResource?_isSome src e.2) tree.region).imp ?_
    intro e child h
    exact kind_of_blockResource? h

theorem extract_routes_each_site_once (d : Disk) (src : Source) (kind : ResourceKind)
    (tree : Node) :
    (∀ address, Option.Rel (fun g x => Resource.Covers d src g.node x) (tree.groundAt? address)
      (((Resource.ofKind kind).extract d src tree).at? address)) ∧
    ∀ way ∈ tree.ways, (tree.Hidden way → ∀ address, ¬ tree.Owns address way) ∧
      (¬ tree.Hidden way → ∃! address, tree.Owns address way) :=
  ⟨extract_everywhere (covers_extract d src) kind tree,
    fun _ h => owned_once_unless_hidden tree h⟩

def nestedClass : Node :=
  ⟨0, "program", true, 0, 27, [],
    [⟨1, "internal_module", true, 0, 27, [],
      [⟨2, "identifier", true, 10, 11, [.name], []⟩,
        ⟨3, "statement_block", true, 12, 27, [.body],
          [⟨4, "class_declaration", true, 14, 25, [],
            [⟨5, "type_identifier", true, 20, 21, [.name], []⟩]⟩]⟩]⟩]⟩

theorem nestedClass_routed_once :
    (¬ nestedClass.Hidden [0, 1, 0] ∧ ∃! address, nestedClass.Owns address [0, 1, 0]) ∧
    (nestedClass.Hidden [0, 1, 0, 0] ∧ ∀ address, ¬ nestedClass.Owns address [0, 1, 0, 0]) := by
  have routes := extract_routes_each_site_once .absent (.ofString "namespace N { class C { } }")
    (.ambientModule "m") nestedClass
  have howns : nestedClass.Owns [0] [0, 1, 0] := ⟨_, [0], rfl, by decide, rfl⟩
  have hopen : ¬ nestedClass.Hidden [0, 1, 0] := fun h => not_owned_of_hidden h [0] howns
  have hhidden : nestedClass.Hidden [0, 1, 0, 0] :=
    ⟨[0, 1, 0], [0], [0], _, _, rfl, by simp, howns, rfl, .inl (by decide)⟩
  exact ⟨⟨hopen, (routes.2 [0, 1, 0] (by decide)).2 hopen⟩,
    hhidden, (routes.2 [0, 1, 0, 0] (by decide)).1 hhidden⟩

end SourceOutline
