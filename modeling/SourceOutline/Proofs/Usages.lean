import SourceOutline.Proofs.Members
import SourceOutline.Proofs.Routing

/-!
The usages of a resource are the names that its region mentions and those that its classes
mention, each once and in the order in which they are met first.
-/

namespace SourceOutline

lemma insertNew_nodup {names : List String} (h : names.Nodup) (name : String) :
    (insertNew names name).Nodup := by
  rw [insertNew]
  split
  · exact h
  · rename_i hn
    rw [List.nodup_append]
    refine ⟨h, List.nodup_singleton name, ?_⟩
    rintro a ha b hb rfl
    rw [List.mem_singleton] at hb
    subst hb
    exact hn (List.contains_iff_mem.mpr ha)

lemma foldl_insertNew_nodup {seen : List String} (h : seen.Nodup) (names : List String) :
    (names.foldl insertNew seen).Nodup := by
  induction names generalizing seen with
  | nil => exact h
  | cons name names ih => exact ih (insertNew_nodup h name)

lemma insertNew_eraseDups (names : List String) (name : String) :
    insertNew names.eraseDups name = (names ++ [name]).eraseDups := by
  rw [List.eraseDups_append, insertNew]
  by_cases h : name ∈ names
  · simp [h, List.removeAll]
  · simp [h, List.removeAll, List.eraseDups_cons]

lemma foldl_insertNew_eraseDups (seen names : List String) :
    names.foldl insertNew seen.eraseDups = (seen ++ names).eraseDups := by
  induction names generalizing seen with
  | nil => simp
  | cons name names ih =>
    rw [List.foldl_cons, insertNew_eraseDups, ih, List.append_assoc, List.singleton_append]

namespace Node

def isLookedInto (m : Node) : Bool :=
  m.isNamedMethod && m.accessorToken?.isNone

def isUsage (e : Node × Node) : Bool :=
  (e.2.kind == "identifier" || e.2.kind == "type_identifier") && !e.2.isDeclarationName e.1

def namesAt (src : Source) (es : List (Node × Node)) : List String :=
  (es.filter isUsage).map fun e => e.2.text src

/-- The nodes of a class in the order in which they are looked at: its constructors and methods,
one after the other, then the whole class. -/
def classVisits (n : Node) : List (Node × Node) :=
  (n.inBody.filter isLookedInto).flatMap descendants ++ n.descendants

def visits (n : Node) : List (Node × Node) :=
  n.region.flatMap fun e => if e.2.isClassSite e.1 then e.2.classVisits else [e]

lemma isCallable_eq : isCallable = isLookedInto := by
  funext m
  rw [isCallable, isLookedInto, isNamedMethod, isMethodLike_eq, hasField]
  cases hn : (m.field? .name).isSome with
  | false => simp
  | true => rw [accessorKind?_eq hn, Option.isNone_map]

lemma isUsage_iff {parent c : Node} : isUsage (parent, c) = true ↔
    (c.kind = "identifier" ∨ c.kind = "type_identifier") ∧
      c.isDeclarationName parent = false := by
  simp [isUsage]

lemma mention?_eq (src : Source) (n parent : Node) :
    n.mention? src parent = if isUsage (parent, n) then some (n.text src) else none := by
  have hkinds : n.isIdentifier = (n.kind == "identifier" || n.kind == "type_identifier") := by
    rw [Bool.eq_iff_iff]
    simp [isIdentifier, identifierKinds]
  rw [mention?, isUsage, hkinds]

lemma filterMap_mention? (src : Source) (es : List (Node × Node)) :
    (es.filterMap fun (parent, n) => n.mention? src parent) = namesAt src es := by
  simp only [mention?_eq, namesAt]
  induction es with
  | nil => rfl
  | cons e es ih =>
    rw [List.filterMap_cons, List.filter_cons, ih]
    cases isUsage e <;> rfl

lemma mentions_ofRegion (src : Source) (fallback : String) (n : Node) :
    (Findings.ofRegion src fallback n.region).mentions = namesAt src n.visits := by
  rw [← filterMap_mention?, visits, List.filterMap_flatMap]
  simp only [Findings.ofRegion]
  congr 1
  funext e
  rw [mentionsAt]
  split
  · simp only [classMentions, classVisits, List.filterMap_append, List.filterMap_flatMap,
      bodyNodes_eq, isCallable_eq]
    rfl
  · cases h : e.2.mention? src e.1 <;> simp [h]

lemma descendants_child {n c : Node} (h : c ∈ n.children) : c.descendants ⊆ n.descendants := by
  rintro ⟨parent, d⟩ hd
  obtain ⟨way, hw⟩ := (mem_descendants_iff ..).mp hd
  obtain ⟨i, hi⟩ := List.getElem?_of_mem h
  refine (mem_descendants_iff ..).mpr ⟨i :: way, ?_⟩
  rw [edge?_cons n i (ne_nil_of_edge? hw), hi, Option.bind_some, hw]

lemma descendants_inBody {n m : Node} (h : m ∈ n.inBody) : m.descendants ⊆ n.descendants := by
  obtain ⟨body, hb, hm⟩ := List.mem_flatMap.mp h
  exact List.Subset.trans (descendants_child (List.mem_filter.mp hm).1)
    (descendants_child (mem_children_of_field? (Option.mem_toList.mp hb)))

lemma mem_classVisits_iff (n : Node) (e : Node × Node) :
    e ∈ n.classVisits ↔ e ∈ n.descendants := by
  rw [classVisits, List.mem_append, List.mem_flatMap]
  constructor
  · rintro (⟨m, hm, he⟩ | he)
    · exact descendants_inBody (List.mem_filter.mp hm).1 he
    · exact he
  · exact .inr

/-- Whether a way ends in the region of a node or below a class of that region. -/
def Sees (n : Node) (way : Way) : Prop :=
  n.isOpen way = true ∨
    ∃ front rest parent c, way = front ++ rest ∧ rest ≠ [] ∧ n.isOpen front = true ∧
      n.edge? front = some (parent, c) ∧ c.isClassSite parent = true

lemma mem_region_iff (n : Node) (e : Node × Node) :
    e ∈ n.region ↔ ∃ way, n.isOpen way = true ∧ n.edge? way = some e := by
  rw [region, List.mem_filterMap]
  constructor
  · rintro ⟨way, hw, he⟩
    exact ⟨way, ((mem_openWays_iff n way).mp hw).2, he⟩
  · rintro ⟨way, ho, he⟩
    exact ⟨way, (mem_openWays_iff n way).mpr ⟨by simp [he], ho⟩, he⟩

lemma sees_of_mem_visits {n : Node} {e : Node × Node} (h : e ∈ n.visits) :
    ∃ way, n.edge? way = some e ∧ n.Sees way := by
  obtain ⟨s, hs, he⟩ := List.mem_flatMap.mp h
  obtain ⟨front, ho, hf⟩ := (mem_region_iff n s).mp hs
  split at he
  · rename_i hc
    obtain ⟨rest, hr⟩ := (mem_descendants_iff s.2 e.1 e.2).mp ((mem_classVisits_iff s.2 e).mp he)
    have hne := ne_nil_of_edge? hr
    refine ⟨front ++ rest, ?_, .inr ⟨front, rest, s.1, s.2, rfl, hne, ho, hf, hc⟩⟩
    rw [edge?_append n front hne, at?_of_edge? hf, Option.bind_some, hr]
  · cases List.mem_singleton.mp he
    exact ⟨front, hf, .inl ho⟩

lemma mem_visits_of_sees {n : Node} {e : Node × Node} {way : Way} (he : n.edge? way = some e)
    (hi : e.2.kind = "identifier" ∨ e.2.kind = "type_identifier") (h : n.Sees way) :
    e ∈ n.visits := by
  rw [visits, List.mem_flatMap]
  rcases h with ho | ⟨front, rest, parent, c, rfl, hr, ho, hf, hc⟩
  · refine ⟨e, (mem_region_iff n e).mpr ⟨way, ho, he⟩, ?_⟩
    have hn : e.2.isClassSite e.1 = false := by
      by_contra h
      rcases kind_of_classSite (by simpa using h) with h | h | h <;> simp [h] at hi
    simp [hn]
  · refine ⟨(parent, c), (mem_region_iff n _).mpr ⟨front, ho, hf⟩, ?_⟩
    rw [edge?_append n front hr, at?_of_edge? hf, Option.bind_some] at he
    rw [if_pos hc, mem_classVisits_iff]
    exact (mem_descendants_iff ..).mpr ⟨rest, he⟩

end Node

structure Resource.UsesExactly (src : Source) (n : Node) (r : Resource) : Prop where
  nodup : r.usages.Nodup
  mem_iff : ∀ name, name ∈ r.usages ↔ ∃ way parent c, n.edge? way = some (parent, c) ∧
    n.Sees way ∧ (c.kind = "identifier" ∨ c.kind = "type_identifier") ∧
    c.isDeclarationName parent = false ∧ c.text src = name
  ordered : r.usages = (Node.namesAt src n.visits).eraseDups
  members : ∀ e ∈ n.classSites, ∀ m ∈ e.2.inBody.filter Node.isLookedInto,
    Node.namesAt src m.descendants ⊆ Node.namesAt src e.2.descendants

lemma usages_extract (d : Disk) (src : Source) (kind : ResourceKind) (tree : Node) :
    ((Resource.ofKind kind).extract d src tree).usages =
      (Node.namesAt src tree.visits).eraseDups := by
  rw [extract_fresh]
  simp only [Resource.absorb, Resource.ofKind, Node.mentions_ofRegion]
  exact foldl_insertNew_eraseDups [] _

lemma uses_exactly_extract (d : Disk) (src : Source) (kind : ResourceKind) (tree : Node) :
    Resource.UsesExactly src tree ((Resource.ofKind kind).extract d src tree) where
  nodup := by
    rw [extract_fresh]
    exact foldl_insertNew_nodup List.nodup_nil _
  mem_iff name := by
    rw [usages_extract, List.mem_eraseDups, Node.namesAt, List.mem_map]
    constructor
    · rintro ⟨⟨parent, c⟩, he, rfl⟩
      obtain ⟨he, husage⟩ := List.mem_filter.mp he
      obtain ⟨hkind, hname⟩ := Node.isUsage_iff.mp husage
      obtain ⟨way, hw, hs⟩ := Node.sees_of_mem_visits he
      exact ⟨way, parent, c, hw, hs, hkind, hname, rfl⟩
    · rintro ⟨way, parent, c, hw, hs, hkind, hname, rfl⟩
      refine ⟨(parent, c), List.mem_filter.mpr ⟨Node.mem_visits_of_sees hw hkind hs, ?_⟩, rfl⟩
      exact Node.isUsage_iff.mpr ⟨hkind, hname⟩
  ordered := usages_extract d src kind tree
  members e _ m hm := by
    have hbelow := Node.descendants_inBody (List.mem_filter.mp hm).1
    exact List.map_subset _ (List.filter_subset _ hbelow)

theorem usages_are_the_names_met (d : Disk) (src : Source) (kind : ResourceKind) (tree : Node)
    (address : List Nat) :
    Option.Rel (fun g x => Resource.UsesExactly src g.node x) (tree.groundAt? address)
      (((Resource.ofKind kind).extract d src tree).at? address) :=
  extract_everywhere (uses_exactly_extract d src) kind tree address

def namespaceBody : Node :=
  ⟨17, "statement_block", true, 30, 33, [.body], [⟨18, "identifier", true, 31, 32, [], []⟩]⟩

def repeatedNames : Node :=
  ⟨0, "program", true, 0, 33, [],
    [⟨1, "expression_statement", true, 0, 2, [],
        [⟨2, "identifier", true, 0, 1, [], []⟩, ⟨3, ";", false, 1, 2, [], []⟩]⟩,
      ⟨4, "class_declaration", true, 2, 19, [],
        [⟨5, "type_identifier", true, 8, 9, [.name], []⟩,
          ⟨6, "class_body", true, 9, 19, [.body],
            [⟨7, "method_definition", true, 10, 18, [],
              [⟨8, "property_identifier", true, 10, 11, [.name], []⟩,
                ⟨9, "formal_parameters", true, 11, 13, [.parameters], []⟩,
                ⟨10, "statement_block", true, 13, 18, [.body],
                  [⟨11, "expression_statement", true, 14, 16, [],
                      [⟨12, "identifier", true, 14, 15, [], []⟩]⟩,
                    ⟨13, "expression_statement", true, 16, 17, [],
                      [⟨14, "identifier", true, 16, 17, [], []⟩]⟩]⟩]⟩]⟩]⟩,
      ⟨15, "internal_module", true, 19, 33, [],
        [⟨16, "identifier", true, 29, 30, [.name], []⟩, namespaceBody]⟩]⟩

def repeatedSource : Source :=
  .ofString "a;class B\x7bm()\x7ba;c\x7d\x7dnamespace N\x7bd\x7d"

def repeatedOutline : Resource :=
  (Resource.ofKind (.ambientModule "m")).extract .absent repeatedSource repeatedNames

theorem repeatedNames_met :
    repeatedOutline.usages = ["a", "c"] ∧
      ∃ child, repeatedOutline.at? [0] = some child ∧ child.usages = ["d"] := by
  have hmet := usages_are_the_names_met .absent repeatedSource (.ambientModule "m") repeatedNames
  obtain ⟨_, hself, houter⟩ := rel_some (hmet [])
  obtain rfl : repeatedOutline = _ := Option.some.inj hself
  have hground : repeatedNames.groundAt? [0] = some ⟨[2, 1], namespaceBody⟩ := rfl
  have hbelow := hmet [0]
  rw [hground] at hbelow
  obtain ⟨child, hchild, hinner⟩ := rel_some hbelow
  exact ⟨houter.ordered.trans (by decide), child, hchild, hinner.ordered.trans (by decide)⟩

end SourceOutline
