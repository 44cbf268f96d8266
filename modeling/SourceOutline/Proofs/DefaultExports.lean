import SourceOutline.Proofs.Runs

/-!
A default export stands right in front of the class that it exports, and is resolved to the
first class of that name.
-/

namespace SourceOutline

namespace Node

def IsDefaultExport (n : Node) : Prop :=
  n.kind = "export_statement" ∧ ∃ c ∈ n.children, c.kind = "default"

lemma exportsDefault_iff (n : Node) : n.exportsDefault = true ↔ n.IsDefaultExport := by
  simp [exportsDefault, isExportStatement, IsDefaultExport]

lemma isExportStatement_iff (n : Node) :
    n.isExportStatement = true ↔ n.kind = "export_statement" := by
  simp [isExportStatement]

end Node

/-- What one class adds to the declarations. -/
inductive Block where
  | plain (c : ClassOutline)
  | exported (d : DefaultExport) (c : ClassOutline)

namespace Block

def declarations : Block → List Declaration
  | plain c => [.ofClass c]
  | exported d c => [.ofDefault d, .ofClass c]

def outline : Block → ClassOutline
  | plain c => c
  | exported _ c => c

/-- Whether a block is what a class below its parent should add. -/
def Fits (e : Node × Node) : Block → Prop
  | plain c => ¬ e.1.IsDefaultExport ∧ (c.isExported = true ↔ e.1.kind = "export_statement")
  | exported d c => e.1.IsDefaultExport ∧ d.name = c.name ∧ d.span = c.span ∧
      c.isExported = false

def ofClass (e : Node × Node) (c : ClassOutline) : Block :=
  if e.1.exportsDefault then exported ⟨c.name, c.span⟩ c else plain c

lemma declarations_ofClass (src : Source) (fallback : String) (e : Node × Node) :
    (ofClass e (e.2.classOf src fallback e.1)).declarations =
      e.2.classDeclarations src fallback e.1 := by
  rw [ofClass, Node.classDeclarations]
  split <;> rfl

lemma outline_ofClass (e : Node × Node) (c : ClassOutline) : (ofClass e c).outline = c := by
  rw [ofClass]
  split <;> rfl

lemma fits_ofClass (src : Source) (fallback : String) (e : Node × Node) :
    (ofClass e (e.2.classOf src fallback e.1)).Fits e := by
  rw [ofClass]
  split
  · rename_i h
    exact ⟨e.1.exportsDefault_iff.mp h, rfl, rfl, by simp [Node.classOf_eq, h]⟩
  · rename_i h
    refine ⟨mt e.1.exportsDefault_iff.mpr h, ?_⟩
    rw [← Node.isExportStatement_iff]
    simp [Node.classOf_eq, h]

end Block

def FirstClassAt (ds : List Declaration) (name : String) (j : Nat) (c : ClassOutline) : Prop :=
  ds[j]? = some (.ofClass c) ∧ c.name = name ∧
    ∀ k < j, ∀ b, ds[k]? = some (.ofClass b) → b.name ≠ name

structure Resource.PairsDefaults (roots : List Node) (r : Resource) : Prop where
  blocks : ∃ blocks : List Block, r.declarations = blocks.flatMap Block.declarations ∧
    List.Forall₂ (fun e b => b.Fits e ∧ ∃ src name, b.outline = e.2.classOf src name e.1)
      (roots.flatMap Node.classSites) blocks
  resolved : ∀ i d, r.declarations[i]? = some (.ofDefault d) →
    ∃ j c own, r.resolvedIndex? d = some j ∧ r.resolveDefault? d = some (.ofClass c) ∧
      FirstClassAt r.declarations d.name j c ∧ r.declarations[i + 1]? = some (.ofClass own) ∧
      (j = i + 1 ↔ ∀ k < i, ∀ b, r.declarations[k]? = some (.ofClass b) → b.name ≠ d.name)

lemma class_or_default {blocks : List Block} {x : Declaration}
    (h : x ∈ blocks.flatMap Block.declarations) :
    (∃ c, x = .ofClass c) ∨ ∃ d, x = .ofDefault d := by
  obtain ⟨b, _, hx⟩ := List.mem_flatMap.mp h
  cases b with
  | plain c =>
    simp only [Block.declarations, List.mem_singleton] at hx
    exact .inl ⟨c, hx⟩
  | exported d c =>
    simp only [Block.declarations, List.mem_cons, List.not_mem_nil, or_false] at hx
    rcases hx with rfl | rfl
    · exact .inr ⟨d, rfl⟩
    · exact .inl ⟨c, rfl⟩

lemma class_after_default {es : List (Node × Node)} {blocks : List Block}
    (hb : List.Forall₂ Block.Fits es blocks) {i : Nat} {d : DefaultExport}
    (h : (blocks.flatMap Block.declarations)[i]? = some (.ofDefault d)) :
    ∃ c, (blocks.flatMap Block.declarations)[i + 1]? = some (.ofClass c) ∧ c.name = d.name := by
  induction hb generalizing i with
  | nil => simp at h
  | @cons e b _ blocks hfit _ ih =>
    rw [List.flatMap_cons] at h ⊢
    cases b with
    | plain c =>
      cases i with
      | zero => simp [Block.declarations] at h
      | succ i => exact ih h
    | exported d' c =>
      match i with
      | 0 =>
        simp only [Block.declarations, List.cons_append, List.getElem?_cons_zero,
          Option.some.injEq, Declaration.ofDefault.injEq] at h
        subst h
        exact ⟨c, rfl, hfit.2.1.symm⟩
      | 1 => simp [Block.declarations] at h
      | i + 2 => exact ih h

lemma resolvesTo_class (d : DefaultExport) (c : ClassOutline) :
    d.resolvesTo (.ofClass c) = true ↔ c.name = d.name := by
  simp [DefaultExport.resolvesTo, Declaration.default?, Declaration.name]

lemma resolvesTo_default (d e : DefaultExport) : d.resolvesTo (.ofDefault e) = false := rfl

lemma resolved_first {ds : List Declaration}
    (hk : ∀ x ∈ ds, (∃ c, x = .ofClass c) ∨ ∃ d, x = .ofDefault d) {i : Nat} {d : DefaultExport}
    {own : ClassOutline} (hd : ds[i]? = some (.ofDefault d))
    (ho : ds[i + 1]? = some (.ofClass own)) (hn : own.name = d.name) :
    ∃ j c, ds.findIdx? d.resolvesTo = some j ∧ ds.find? d.resolvesTo = some (.ofClass c) ∧
      FirstClassAt ds d.name j c ∧
      (j = i + 1 ↔ ∀ k < i, ∀ b, ds[k]? = some (.ofClass b) → b.name ≠ d.name) := by
  obtain ⟨j, x, hj, hx, hf, hp, hle, hmin⟩ := findIdx?_first ho ((resolvesTo_class d own).mpr hn)
  obtain ⟨c, rfl⟩ : ∃ c, x = .ofClass c := by
    rcases hk x (List.mem_of_getElem? hx) with hc | ⟨e, rfl⟩
    · exact hc
    · simp [resolvesTo_default] at hp
  have hfirst : ∀ k < j, ∀ b, ds[k]? = some (.ofClass b) → b.name ≠ d.name := by
    intro k hk b hb he
    have := hmin k hk _ hb
    simp [(resolvesTo_class d b).mpr he] at this
  refine ⟨j, c, hj, hf, ⟨hx, (resolvesTo_class d c).mp hp, hfirst⟩, ?_⟩
  constructor
  · rintro rfl k hki
    exact hfirst k (by omega)
  · intro h
    have hji : j ≠ i := by
      rintro rfl
      simp [hd] at hx
    by_contra hne
    exact h j (by omega) c hx ((resolvesTo_class d c).mp hp)

lemma blocks_performAll (kind : ResourceKind) (tasks : List Task) :
    ∃ blocks : List Block,
      ((Resource.ofKind kind).performAll tasks).declarations =
        blocks.flatMap Block.declarations ∧
      List.Forall₂ (fun e b => b.Fits e ∧ ∃ src name, b.outline = e.2.classOf src name e.1)
        ((tasks.map Task.tree).flatMap Node.classSites) blocks := by
  rw [Resource.performAll_eq]
  simp only [Resource.absorb, Resource.ofKind, List.nil_append, Task.foundInAll, Task.found,
    declarations_ofRegion]
  induction tasks with
  | nil => exact ⟨[], rfl, .nil⟩
  | cons t tasks ih =>
    obtain ⟨blocks, hd, hb⟩ := ih
    let own := t.tree.classSites.map fun e =>
      Block.ofClass e (e.2.classOf t.src (kind.defaultIdentifier t.disk) e.1)
    refine ⟨own ++ blocks, ?_, ?_⟩
    · rw [List.flatMap_cons, hd, List.flatMap_append, List.flatMap_map]
      simp only [Block.declarations_ofClass]
    · rw [List.map_cons, List.flatMap_cons]
      refine List.rel_append ?_ hb
      rw [List.forall₂_map_right_iff, List.forall₂_same]
      intro e _
      exact ⟨Block.fits_ofClass .., _, _, Block.outline_ofClass ..⟩

lemma pairs_defaults_performAll (kind : ResourceKind) (tasks : List Task) :
    Resource.PairsDefaults (tasks.map Task.tree) ((Resource.ofKind kind).performAll tasks) := by
  obtain ⟨blocks, hd, hb⟩ := blocks_performAll kind tasks
  refine ⟨⟨blocks, hd, hb⟩, ?_⟩
  intro i d h
  rw [hd] at h
  obtain ⟨own, ho, hn⟩ := class_after_default (hb.imp fun _ _ hf => hf.1) h
  obtain ⟨j, c, hj, hf, hc, hown⟩ := resolved_first (fun _ => class_or_default) h ho hn
  rw [Resource.resolvedIndex?, Resource.resolveDefault?, hd]
  exact ⟨j, c, own, hj, hf, hc, ho, hown⟩

theorem default_exports_resolve (kind : ResourceKind) (tasks : List Task) (address : List Nat) :
    Option.Rel Resource.PairsDefaults (Task.rootsAt? tasks address)
      (((Resource.ofKind kind).performAll tasks).at? address) :=
  performAll_everywhere pairs_defaults_performAll kind tasks address

def twiceNamed : Node :=
  ⟨0, "program", true, 0, 33, [],
    [⟨1, "class_declaration", true, 0, 9, [],
        [⟨2, "type_identifier", true, 6, 7, [.name], []⟩,
          ⟨3, "class_body", true, 7, 9, [.body], []⟩]⟩,
      ⟨4, "export_statement", true, 9, 33, [],
        [⟨5, "export", false, 9, 15, [], []⟩,
          ⟨6, "default", false, 16, 23, [], []⟩,
          ⟨7, "class_declaration", true, 24, 33, [],
            [⟨8, "type_identifier", true, 30, 31, [.name], []⟩,
              ⟨9, "class_body", true, 31, 33, [.body], []⟩]⟩]⟩]⟩

def classA (span : Span) : ClassOutline :=
  ⟨"A", false, span, [], [], [], none, []⟩

def twiceNamedOutline : Resource :=
  (Resource.ofKind (.ambientModule "m")).performAll
    [⟨.absent, .ofString "class A\x7b\x7dexport default class A\x7b\x7d", twiceNamed⟩]

theorem twiceNamed_resolved :
    twiceNamedOutline.declarations =
        [.ofClass (classA ⟨0, 9⟩), .ofDefault ⟨"A", ⟨9, 33⟩⟩, .ofClass (classA ⟨9, 33⟩)] ∧
      twiceNamedOutline.resolvedIndex? ⟨"A", ⟨9, 33⟩⟩ = some 0 ∧
      twiceNamedOutline.resolveDefault? ⟨"A", ⟨9, 33⟩⟩ = some (.ofClass (classA ⟨0, 9⟩)) := by
  have hdeclarations : twiceNamedOutline.declarations =
      [.ofClass (classA ⟨0, 9⟩), .ofDefault ⟨"A", ⟨9, 33⟩⟩, .ofClass (classA ⟨9, 33⟩)] := rfl
  obtain ⟨_, hself, hpairs⟩ := rel_some (default_exports_resolve (.ambientModule "m")
    [⟨.absent, .ofString "class A\x7b\x7dexport default class A\x7b\x7d", twiceNamed⟩] [])
  obtain rfl : twiceNamedOutline = _ := Option.some.inj hself
  obtain ⟨j, c, _, hj, hc, ⟨hat, _, hfirst⟩, _⟩ :=
    hpairs.resolved 1 ⟨"A", ⟨9, 33⟩⟩ (by rw [hdeclarations]; rfl)
  have hzero : twiceNamedOutline.declarations[0]? = some (.ofClass (classA ⟨0, 9⟩)) := by
    rw [hdeclarations]
    rfl
  -- no class of that name stands in front of the one that is found
  obtain rfl : j = 0 := by
    by_contra hne
    exact hfirst 0 (Nat.pos_of_ne_zero hne) _ hzero rfl
  rw [hat] at hzero
  rw [hc, hzero]
  exact ⟨hdeclarations, hj, rfl⟩

end SourceOutline
