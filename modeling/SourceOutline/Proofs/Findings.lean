import SourceOutline.Extraction.Walk
import SourceOutline.Proofs.Ways

/-!
The walk in closed form. What a tree adds to a resource can be told without the resource, but for
the one name that its nameless classes take; the walk leaves the resource with that appended.
-/

namespace SourceOutline

/-- Things found, each kind in the order in which it is met. Names are mentioned as often as
they occur. -/
structure Findings where
  declarations : List Declaration
  mentions : List String
  imports : List NamedImport
  resources : List Resource

namespace Findings

def empty : Findings :=
  ⟨[], [], [], []⟩

def append (f g : Findings) : Findings :=
  ⟨f.declarations ++ g.declarations, f.mentions ++ g.mentions, f.imports ++ g.imports,
    f.resources ++ g.resources⟩

instance : Append Findings := ⟨append⟩

lemma append_eq (f g : Findings) :
    f ++ g = ⟨f.declarations ++ g.declarations, f.mentions ++ g.mentions, f.imports ++ g.imports,
      f.resources ++ g.resources⟩ := rfl

lemma append_empty (f : Findings) : f ++ empty = f := by
  simp [append_eq, empty]

lemma append_assoc (f g h : Findings) : f ++ g ++ h = f ++ (g ++ h) := by
  simp [append_eq]

end Findings

/-- The resource with all findings added, each new name once. -/
def Resource.absorb (r : Resource) (f : Findings) : Resource where
  kind := r.kind
  declarations := r.declarations ++ f.declarations
  usages := f.mentions.foldl insertNew r.usages
  imports := r.imports ++ f.imports
  resources := r.resources ++ f.resources

namespace Member

def properties : Member → List Property
  | field p => [p]
  | construct _ promoted => promoted
  | _ => []

def accessor? : Member → Option Accessor
  | accessor a => some a
  | _ => none

def constructor? : Member → Option Constructor
  | construct c _ => some c
  | _ => none

def method? : Member → Option Method
  | method m => some m
  | _ => none

end Member

namespace ClassOutline

lemma name_take (c : ClassOutline) (m : Member) : (c.take m).name = c.name := by
  cases m <;> rfl

lemma foldl_read (src : Source) (c : ClassOutline) (ms : List Node) :
    ms.foldl (read src) c = (ms.filterMap (Node.member? src c.name)).foldl take c := by
  induction ms generalizing c with
  | nil => rfl
  | cons m ms ih =>
    -- a constructor is called by the name of the class, which no member changes
    rw [List.foldl_cons, ih, List.filterMap_cons, read]
    cases m.member? src c.name with
    | none => rfl
    | some member => simp only [Option.map_some, Option.getD_some, name_take, List.foldl_cons]

lemma foldl_take (c : ClassOutline) (ms : List Member) :
    ms.foldl take c =
      { c with
        properties := c.properties ++ ms.flatMap Member.properties
        methods := c.methods ++ ms.filterMap Member.method?
        accessors := c.accessors ++ ms.filterMap Member.accessor?
        constructor? := (ms.filterMap Member.constructor?).getLast?.or c.constructor? } := by
  induction ms generalizing c with
  | nil => simp
  | cons m ms ih =>
    rw [List.foldl_cons, ih]
    cases m <;> simp [take, List.filterMap_cons, Member.properties, Member.method?,
      Member.accessor?, Member.constructor?, List.getLast?_cons]

end ClassOutline

namespace Node

def members (src : Source) (fallback : String) (n : Node) : List Member :=
  n.bodyNodes.filterMap (member? src (n.className src fallback))

lemma classOf_eq (src : Source) (fallback : String) (n parent : Node) :
    n.classOf src fallback parent =
      { name := n.className src fallback
        isExported := parent.isExportStatement && !parent.exportsDefault
        span := n.classSpan parent
        properties := (n.members src fallback).flatMap Member.properties
        methods := (n.members src fallback).filterMap Member.method?
        accessors := (n.members src fallback).filterMap Member.accessor?
        constructor? := ((n.members src fallback).filterMap Member.constructor?).getLast?
        typeParameters := n.typeParameterTexts src } := by
  rw [classOf, ClassOutline.foldl_read, ClassOutline.foldl_take]
  simp [blankClass, members]

def mentions (src : Source) (n : Node) : List String :=
  n.descendants.filterMap fun (parent, d) => d.mention? src parent

def classDeclarations (src : Source) (fallback : String) (n parent : Node) : List Declaration :=
  let c := n.classOf src fallback parent
  if parent.exportsDefault then [.ofDefault ⟨c.name, c.span⟩, .ofClass c] else [.ofClass c]

/-- What a class mentions: first what its constructors and methods do, each in turn, then all of
it. -/
def classMentions (src : Source) (n : Node) : List String :=
  (n.bodyNodes.filter isCallable).flatMap (mentions src) ++ n.mentions src

def mentionFindings (src : Source) (n parent : Node) : Findings :=
  ⟨[], (n.mention? src parent).toList, [], []⟩

def classFindings (src : Source) (fallback : String) (n parent : Node) : Findings :=
  ⟨n.classDeclarations src fallback parent, n.classMentions src, [], []⟩

def importFindings (src : Source) (n : Node) : Findings :=
  ⟨[], [], (n.namedImport? src).toList, []⟩

mutual
def findings (src : Source) (fallback : String) (n parent : Node) : Findings :=
  match n with
  | ⟨_, _, _, _, _, _, children⟩ =>
    if n.isClassSite parent then n.classFindings src fallback parent
    else if n.isImportStatement then n.importFindings src
    else
      match n.ambientKind? src with
      | some kind =>
        ⟨[], [], [], [(Resource.ofKind kind).absorb
          (bodyFindings src (kind.identifier .absent) children)]⟩
      | none => n.mentionFindings src parent ++ findingsFrom src fallback n children
termination_by structural n

def findingsFrom (src : Source) (fallback : String) (parent : Node) (ns : List Node) : Findings :=
  match ns with
  | [] => .empty
  | n :: ns => n.findings src fallback parent ++ findingsFrom src fallback parent ns
termination_by structural ns

def bodyFindings (src : Source) (fallback : String) (ns : List Node) : Findings :=
  match ns with
  | [] => .empty
  | ⟨id, kind, named, start, stop, fields, children⟩ :: ns =>
    let n : Node := ⟨id, kind, named, start, stop, fields, children⟩
    if n.carries .body then findingsFrom src fallback n children else bodyFindings src fallback ns
termination_by structural ns
end

def findingsBelow (src : Source) (fallback : String) (n : Node) : Findings :=
  findingsFrom src fallback n n.children

end Node

namespace Resource

lemma absorb_empty (r : Resource) : r.absorb .empty = r := by
  cases r
  simp [absorb, Findings.empty]

lemma absorb_append (r : Resource) (f g : Findings) :
    (r.absorb f).absorb g = r.absorb (f ++ g) := by
  simp [absorb, Findings.append_eq]

lemma foldl_addUsage (names : List String) (r : Resource) :
    names.foldl addUsage r = r.absorb ⟨[], names, [], []⟩ := by
  induction names generalizing r with
  | nil => exact r.absorb_empty.symm
  | cons name names ih =>
    rw [List.foldl_cons, ih]
    simp [absorb, addUsage]

end Resource

namespace Node

variable (src : Source)

lemma useName_eq (n parent : Node) (r : Resource) :
    n.useName src parent r = r.absorb (n.mentionFindings src parent) := by
  rw [mentionFindings, ← Resource.foldl_addUsage, useName]
  cases n.mention? src parent <;> rfl

lemma useNamesFrom_eq (parent : Node) (ns : List Node) (r : Resource) :
    useNamesFrom src parent ns r =
      ((descendantsFrom parent ns).filterMap fun (parent, d) =>
        d.mention? src parent).foldl Resource.addUsage r := by
  induction ns using forest_induction generalizing parent r with
  | nil => rfl
  | cons c cs hc hcs =>
    have hbelow (r : Resource) : c.useNames src r = (c.mentions src).foldl Resource.addUsage r := by
      rw [mentions, descendants_eq, ← hc]
      cases c
      rfl
    rw [useNamesFrom, hcs, hbelow, descendantsFrom, List.filterMap_cons, List.filterMap_append,
      useName]
    cases hm : c.mention? src parent <;> simp [mentions, hm]

lemma useNames_eq (n : Node) (r : Resource) :
    n.useNames src r = (n.mentions src).foldl Resource.addUsage r := by
  rw [mentions, descendants_eq, ← useNamesFrom_eq]
  cases n
  rfl

lemma useMembers_eq (n : Node) (r : Resource) :
    n.useMembers src r =
      ((n.bodyNodes.filter isCallable).flatMap (mentions src)).foldl Resource.addUsage r := by
  rw [useMembers]
  induction n.bodyNodes generalizing r with
  | nil => rfl
  | cons m ms ih =>
    rw [List.foldl_cons, ih, List.filter_cons]
    split
    · rw [useNames_eq, List.flatMap_cons, List.foldl_append]
    · rfl

lemma readClass_eq (d : Disk) (n parent : Node) (r : Resource) :
    n.readClass src d parent r =
      r.absorb (n.classFindings src (r.kind.defaultIdentifier d) parent) := by
  have hnames (r : Resource) : n.useNames src (n.useMembers src r) =
      r.absorb ⟨[], n.classMentions src, [], []⟩ := by
    rw [useNames_eq, useMembers_eq, ← List.foldl_append, Resource.foldl_addUsage, classMentions]
  simp only [readClass, hnames, classFindings, classDeclarations]
  split <;> simp [Resource.absorb, Resource.declare]

lemma readImport_eq (n : Node) (r : Resource) :
    n.readImport src r = r.absorb (n.importFindings src) := by
  rw [readImport, importFindings]
  cases n.namedImport? src with
  | none => exact r.absorb_empty.symm
  | some i => simp [Resource.absorb, Resource.addImport]

lemma ambient_defaultIdentifier {src : Source} {n : Node} {kind : ResourceKind}
    (h : n.ambientKind? src = some kind) (d : Disk) :
    kind.defaultIdentifier d = kind.identifier .absent := by
  cases kind with
  | file path root =>
    simp only [ambientKind?] at h
    split at h
    · obtain ⟨name, _, h⟩ := Option.bind_eq_some_iff.mp h
      obtain ⟨_, _, h⟩ := Option.map_eq_some_iff.mp h
      split at h <;> cases h
    · cases h
  | ambientModule name => rfl
  | ambientNamespace name => rfl

mutual
lemma visit_eq (d : Disk) (n parent : Node) (r : Resource) :
    n.visit src d parent r =
      r.absorb (n.findings src (r.kind.defaultIdentifier d) parent) := by
  cases n with
  | mk id kind named start stop fields children =>
    rw [visit, findings]
    split
    · exact readClass_eq src d _ parent r
    · split
      · exact readImport_eq src _ r
      · cases hk : ambientKind? src ⟨id, kind, named, start, stop, fields, children⟩ with
        | some k =>
          simp only [visitBody_eq d children, Resource.ofKind, ambient_defaultIdentifier hk]
          simp [Resource.enclose, Resource.absorb]
        | none =>
          simp only [useName_eq, visitFrom_eq d _ children, Resource.absorb_append]
          rfl

lemma visitFrom_eq (d : Disk) (parent : Node) (ns : List Node) (r : Resource) :
    visitFrom src d parent ns r =
      r.absorb (findingsFrom src (r.kind.defaultIdentifier d) parent ns) := by
  cases ns with
  | nil => exact r.absorb_empty.symm
  | cons n ns =>
    rw [visitFrom, findingsFrom, visit_eq d n, visitFrom_eq d parent ns, Resource.absorb_append]
    rfl

lemma visitBody_eq (d : Disk) (ns : List Node) (r : Resource) :
    visitBody src d ns r = r.absorb (bodyFindings src (r.kind.defaultIdentifier d) ns) := by
  cases ns with
  | nil => exact r.absorb_empty.symm
  | cons n ns =>
    cases n with
    | mk id kind named start stop fields children =>
      rw [visitBody, bodyFindings]
      split
      · exact visitFrom_eq d _ children r
      · exact visitBody_eq d ns r
end

end Node

/-- The walk appends what the tree says in closed form, and changes nothing else. -/
theorem Resource.extract_eq (r : Resource) (d : Disk) (src : Source) (tree : Node) :
    r.extract d src tree = r.absorb (tree.findingsBelow src (r.kind.defaultIdentifier d)) :=
  Node.visitFrom_eq src d tree tree.children r

lemma Resource.kind_extract (r : Resource) (d : Disk) (src : Source) (tree : Node) :
    (r.extract d src tree).kind = r.kind := by
  rw [extract_eq]
  rfl

end SourceOutline
