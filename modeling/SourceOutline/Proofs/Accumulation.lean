import SourceOutline.Proofs.Runs
import SourceOutline.Proofs.Usages

/-!
Reading a tree only adds to a resource, and what it adds depends on the resource through one
name, which the classes without a name of their own take.
-/

namespace SourceOutline

namespace ClassOutline

def called (name : String) (c : ClassOutline) : ClassOutline :=
  { c with name := name, constructor? := c.constructor?.map fun k => { k with name := name } }

end ClassOutline

namespace Declaration

/-- A class with its constructor, or a default export, under another name. -/
def called (name : String) : Declaration → Declaration
  | ofClass c => ofClass (c.called name)
  | ofDefault d => ofDefault { d with name := name }
  | x => x

end Declaration

namespace Member

def called (name : String) : Member → Member
  | construct c promoted => construct { c with name := name } promoted
  | m => m

lemma properties_called (name : String) (m : Member) :
    (m.called name).properties = m.properties := by
  cases m <;> rfl

lemma method?_called (name : String) (m : Member) : (m.called name).method? = m.method? := by
  cases m <;> rfl

lemma accessor?_called (name : String) (m : Member) :
    (m.called name).accessor? = m.accessor? := by
  cases m <;> rfl

lemma constructor?_called (name : String) (m : Member) :
    (m.called name).constructor? = m.constructor?.map fun k => { k with name := name } := by
  cases m <;> rfl

end Member

namespace Node

lemma member?_called (src : Source) (name other : String) (n : Node) :
    n.member? src other = (n.member? src name).map (Member.called other) := by
  rw [member?, member?]
  split
  · rw [Option.map_map]
    rfl
  · split
    · rw [Option.map_map]
      congr 1
      funext name
      simp only [Function.comp_apply]
      split
      · rfl
      · split <;> rfl
    · rfl

lemma members_called (src : Source) (name other : String) (ns : List Node) :
    ns.filterMap (member? src other) =
      (ns.filterMap (member? src name)).map (Member.called other) := by
  rw [List.map_filterMap]
  congr 1
  funext n
  exact member?_called src name other n

lemma classOf_named (src : Source) (name other : String) {n : Node} (parent : Node)
    (h : n.hasField .name = true) : n.classOf src other parent = n.classOf src name parent := by
  obtain ⟨c, hc⟩ := Option.isSome_iff_exists.mp h
  simp only [classOf_eq, members, className, hc, Option.map_some, Option.getD_some]

lemma classOf_unnamed (src : Source) (name other : String) {n : Node} (parent : Node)
    (h : n.hasField .name = false) :
    n.classOf src other parent = (n.classOf src name parent).called other := by
  have hn : n.field? .name = none := by simpa [hasField] using h
  simp only [classOf_eq, members, className, hn, Option.map_none, Option.getD_none,
    ClassOutline.called, members_called src name other, List.flatMap_map, List.filterMap_map,
    Function.comp_def, Member.properties_called, Member.method?_called, Member.accessor?_called,
    Member.constructor?_called, ← List.map_filterMap, List.getLast?_map]

lemma classDeclarations_called (src : Source) (name other : String) (n parent : Node) :
    n.classDeclarations src other parent =
      if n.hasField .name then n.classDeclarations src name parent
      else (n.classDeclarations src name parent).map (Declaration.called other) := by
  cases h : n.hasField .name with
  | true => simp [classDeclarations, classOf_named src name other parent h]
  | false =>
    simp only [classDeclarations, classOf_unnamed src name other parent h]
    split <;> rfl

end Node

lemma foldl_insertNew_of_subset {seen names : List String} (h : names ⊆ seen) :
    names.foldl insertNew seen = seen := by
  induction names with
  | nil => rfl
  | cons name names ih =>
    rw [List.cons_subset] at h
    have hs : insertNew seen name = seen := if_pos (List.contains_iff_mem.mpr h.1)
    rw [List.foldl_cons, hs, ih h.2]

lemma usages_performAll (kind : ResourceKind) (tasks : List Task) :
    ((Resource.ofKind kind).performAll tasks).usages =
      (Task.foundInAll kind tasks).mentions.eraseDups := by
  rw [Resource.performAll_eq]
  exact foldl_insertNew_eraseDups [] _

lemma usages_performed_again (kind : ResourceKind) {tasks : List Task} {t : Task}
    (h : t ∈ tasks) (d : Disk) :
    (((Resource.ofKind kind).performAll tasks).perform { t with disk := d }).usages =
      ((Resource.ofKind kind).performAll tasks).usages := by
  rw [Resource.perform_eq]
  apply foldl_insertNew_of_subset
  intro name hn
  rw [usages_performAll, List.mem_eraseDups]
  exact List.mem_flatMap.mpr ⟨t, h, hn⟩

lemma usages_nodup (kind : ResourceKind) (tasks : List Task) :
    ((Resource.ofKind kind).performAll tasks).usages.Nodup := by
  rw [Resource.performAll_eq]
  exact foldl_insertNew_nodup List.nodup_nil _

theorem extraction_only_adds :
    (∀ (src : Source) (tree : Node),
      ∃ (D : String → List Declaration) (U : List String) (I : List NamedImport)
        (R : List Resource),
        (∀ (d : Disk) (r : Resource), r.extract d src tree =
          { kind := r.kind
            declarations := r.declarations ++ D (r.kind.defaultIdentifier d)
            usages := (U.foldl Resource.addUsage r).usages
            imports := r.imports ++ I
            resources := r.resources ++ R }) ∧
        (∀ name, D name = tree.classSites.flatMap fun e =>
          e.2.classDeclarations src name e.1) ∧
        ∀ name other, D other = tree.classSites.flatMap fun e =>
          if e.2.hasField .name then e.2.classDeclarations src name e.1
          else (e.2.classDeclarations src name e.1).map (Declaration.called other)) ∧
    (∀ (kind : ResourceKind) (before after : List Task) (t : Task) (d : Disk),
      (((Resource.ofKind kind).performAll (before ++ t :: after)).perform
          { t with disk := d }).usages =
        ((Resource.ofKind kind).performAll (before ++ t :: after)).usages) ∧
    ∀ (kind : ResourceKind) (tasks : List Task) (address : List Nat),
      Option.Rel (fun _ x => x.usages.Nodup) (Task.rootsAt? tasks address)
        (((Resource.ofKind kind).performAll tasks).at? address) := by
  refine ⟨?_, ?_, performAll_everywhere usages_nodup⟩
  · intro src tree
    let found (name : String) := Findings.ofRegion src name tree.region
    refine ⟨fun name => (found name).declarations, (found "").mentions, (found "").imports,
      (found "").resources, ?_, fun name => declarations_ofRegion src name tree, ?_⟩
    · intro d r
      rw [Resource.extract_eq, Node.findingsBelow_eq, Resource.foldl_addUsage]
      rfl
    · intro name other
      dsimp only [found]
      rw [declarations_ofRegion]
      congr 1
      funext e
      exact Node.classDeclarations_called src name other e.2 e.1
  · intro kind before after t
    exact usages_performed_again kind (by simp)

end SourceOutline
