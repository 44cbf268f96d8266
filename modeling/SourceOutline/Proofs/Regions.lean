import SourceOutline.Proofs.Findings

/-!
The region of a node is what lies below it with no barrier in between: no class, no statement
that imports, and no ambient module or namespace, whose body is the ground of another region.
-/

namespace SourceOutline

namespace Node

def isAmbientBlock (n : Node) : Bool :=
  (n.kind == "module" || n.kind == "internal_module") && n.hasField .name && n.hasField .body

def isBarrier (n parent : Node) : Bool :=
  n.isClassSite parent || n.isImportStatement || n.isAmbientBlock

lemma kind_of_classSite {n parent : Node} (h : n.isClassSite parent = true) :
    n.kind = "class_declaration" ∨ n.kind = "abstract_class_declaration" ∨ n.kind = "class" := by
  simp only [isClassSite, Bool.or_eq_true, Bool.and_eq_true, beq_iff_eq] at h
  tauto

lemma kind_of_ambientBlock {n : Node} (h : n.isAmbientBlock = true) :
    n.kind = "module" ∨ n.kind = "internal_module" := by
  simp only [isAmbientBlock, Bool.and_eq_true, Bool.or_eq_true, beq_iff_eq] at h
  exact h.1.1

lemma classSite_excludes {n parent : Node} (h : n.isClassSite parent = true) :
    n.isImportStatement = false ∧ n.isAmbientBlock = false := by
  rcases kind_of_classSite h with h | h | h <;> simp [isImportStatement, isAmbientBlock, h]

lemma import_excludes {n : Node} (h : n.isImportStatement = true) : n.isAmbientBlock = false := by
  simp only [isImportStatement, beq_iff_eq] at h
  simp [isAmbientBlock, h]

lemma field?_body_of_ambientBlock {n : Node} (h : n.isAmbientBlock = true) :
    ∃ body, n.field? .body = some body := by
  simp only [isAmbientBlock, hasField, Bool.and_eq_true] at h
  exact Option.isSome_iff_exists.mp h.2

def barrierAt (n : Node) (way : Way) : Bool :=
  (n.edge? way).any fun e => e.2.isBarrier e.1

/-- Whether a way passes no barrier before its end. -/
def isOpen (n : Node) (way : Way) : Bool :=
  way.inits.all fun front => front == [] || front == way || !n.barrierAt front

def openWays (n : Node) : List Way :=
  n.ways.filter n.isOpen

/-- The nodes at the ends of the open ways, each behind its parent. -/
def region (n : Node) : List (Node × Node) :=
  n.openWays.filterMap n.edge?

def classSites (n : Node) : List (Node × Node) :=
  n.region.filter fun e => e.2.isClassSite e.1

def importsNames (n : Node) : Bool :=
  n.hasField .source &&
    (n.childOfKind? "import_clause").any fun clause => (clause.childOfKind? "named_imports").isSome

def namedImportSites (n : Node) : List (Node × Node) :=
  n.region.filter fun e => e.2.isImportStatement && e.2.importsNames

def blockSites (n : Node) : List (Node × Node) :=
  n.region.filter fun e => e.2.isAmbientBlock

lemma isOpen_iff (n : Node) (way : Way) :
    n.isOpen way = true ↔
      ∀ front rest, way = front ++ rest → front ≠ [] → rest ≠ [] → n.barrierAt front = false := by
  simp only [isOpen, List.all_eq_true, List.mem_inits, Bool.or_eq_true, beq_iff_eq,
    Bool.not_eq_true', or_assoc]
  constructor
  · rintro h front rest rfl hf hr
    rcases h front (List.prefix_append front rest) with h | h | h
    · exact (hf h).elim
    · exact (hr (by simpa using h)).elim
    · exact h
  · rintro h front ⟨rest, rfl⟩
    by_cases hf : front = []
    · exact .inl hf
    · by_cases hr : rest = []
      · exact .inr (.inl (by simp [hr]))
      · exact .inr (.inr (h front rest rfl hf hr))

lemma barrierAt_cons {parent c : Node} {index : Nat} (h : parent.children[index]? = some c)
    (v : Way) :
    parent.barrierAt (index :: v) = if v = [] then c.isBarrier parent else c.barrierAt v := by
  cases v with
  | nil => simp [barrierAt, edge?, h]
  | cons i w => simp [barrierAt, edge?, h]

lemma isOpen_singleton (n : Node) (i : Nat) : n.isOpen [i] = true := by
  rw [isOpen_iff]
  intro front rest h hf hr
  cases front with
  | nil => exact (hf rfl).elim
  | cons j front =>
    simp only [List.cons_append, List.cons.injEq, List.nil_eq, List.append_eq_nil_iff] at h
    exact (hr h.2.2).elim

lemma isOpen_cons {parent c : Node} {index : Nat} (h : parent.children[index]? = some c)
    {v : Way} (hv : v ≠ []) :
    parent.isOpen (index :: v) = (!c.isBarrier parent && c.isOpen v) := by
  rw [Bool.eq_iff_iff, Bool.and_eq_true, Bool.not_eq_true', isOpen_iff, isOpen_iff]
  constructor
  · intro ho
    refine ⟨by simpa [barrierAt_cons h] using ho [index] v rfl (by simp) hv, ?_⟩
    rintro front rest rfl hf hr
    simpa [barrierAt_cons h, hf] using ho (index :: front) rest rfl (by simp) hr
  · rintro ⟨hb, ho⟩ front rest he hf hr
    cases front with
    | nil => exact (hf rfl).elim
    | cons i front =>
      obtain ⟨rfl, rfl⟩ := List.cons.inj he
      rw [barrierAt_cons h]
      split
      · exact hb
      · exact ho front rest rfl ‹_› hr

lemma ne_nil_of_mem_ways {n : Node} {way : Way} (h : way ∈ n.ways) : way ≠ [] := by
  rintro rfl
  simp [mem_ways_iff, edge?] at h

lemma ne_nil_of_mem_openWays {n : Node} {way : Way} (h : way ∈ n.openWays) : way ≠ [] :=
  ne_nil_of_mem_ways (List.mem_filter.mp h).1

lemma isOpen_of_mem_openWays {n : Node} {way : Way} (h : way ∈ n.openWays) :
    n.isOpen way = true :=
  (List.mem_filter.mp h).2

lemma filter_isOpen_map {parent c : Node} {index : Nat}
    (h : parent.children[index]? = some c) :
    (c.ways.map (index :: ·)).filter parent.isOpen =
      if c.isBarrier parent then [] else c.openWays.map (index :: ·) := by
  rw [List.filter_map]
  split
  · rename_i hb
    rw [List.map_eq_nil_iff, List.filter_eq_nil_iff]
    intro v hv
    simp [isOpen_cons h (ne_nil_of_mem_ways hv), hb]
  · rename_i hb
    congr 1
    apply List.filter_congr
    intro v hv
    simp [isOpen_cons h (ne_nil_of_mem_ways hv), hb]

def regionFrom (parent : Node) (index : Nat) (ns : List Node) : List (Node × Node) :=
  ((waysFrom index ns).filter parent.isOpen).filterMap parent.edge?

lemma region_eq (n : Node) : n.region = n.regionFrom 0 n.children := by
  rw [region, openWays, ways_eq, regionFrom]

lemma regionFrom_cons {parent c : Node} {index : Nat} {cs : List Node}
    (h : parent.children.drop index = c :: cs) :
    parent.regionFrom index (c :: cs) =
      (parent, c) :: ((if c.isBarrier parent then [] else c.region) ++
        parent.regionFrom (index + 1) cs) := by
  obtain ⟨hhead, _⟩ := drop_eq_cons h
  have he : parent.edge? [index] = some (parent, c) := by simp [edge?, hhead]
  have hm : (c.openWays.map (index :: ·)).filterMap parent.edge? = c.region := by
    rw [List.filterMap_map]
    apply List.filterMap_congr
    intro v hv
    exact edge?_of_drop h (ne_nil_of_mem_openWays hv)
  have hb : ((c.ways.map (index :: ·)).filter parent.isOpen).filterMap parent.edge? =
      if c.isBarrier parent then [] else c.region := by
    rw [filter_isOpen_map hhead]
    split
    · rfl
    · exact hm
  rw [regionFrom, waysFrom, List.filter_cons_of_pos (isOpen_singleton parent index),
    List.filterMap_cons_some he, List.filter_append, List.filterMap_append, hb, regionFrom]

end Node

end SourceOutline
