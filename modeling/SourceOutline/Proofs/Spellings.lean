import SourceOutline.Proofs.Accumulation
import SourceOutline.Proofs.Encoding
import SourceOutline.Proofs.Segments
import SourceOutline.Workspace

/-!
A file can be given by its path from the root or by its whole path. The two spellings make the
same outline unless the root itself lies in a directory that is foreign to a workspace: only the
whole path shows that directory.
-/

namespace SourceOutline

namespace Path

def isForeign (p : Path) : Bool :=
  p.components.any ResourceKind.foreignDirectories.contains

lemma isForeign_join {root p : Path} (hr : root.isAbsolute = true) (hp : p.isAbsolute = false) :
    (root.join p).isForeign = (root.isForeign || p.isForeign) := by
  have hsteps : p.isForeign = p.steps.any ResourceKind.foreignDirectories.contains := by
    rw [isForeign, components_eq, List.any_append]
    rcases front_relative hp with hf | hf
    · rw [hf]
      rfl
    · rw [hf]
      rfl
  rw [hsteps, isForeign, isForeign, components_join hr hp, List.any_append]

lemma inRoot_join {root p : Path} (hr : root.isAbsolute = true) (hp : p.isAbsolute = false) :
    (root.join p).inRoot root = p.inRoot root := by
  rw [inRoot, inRoot, isAbsolute_join hr hp, hp]
  rfl

lemma cutAtDot_subset (name : List UInt8) : (cutAtDot name).1 ⊆ name := by
  intro c hc
  rw [cutAtDot] at hc
  split at hc
  · exact hc
  · rw [List.mem_reverse] at hc
    have hdrop := (List.dropWhile_suffix _).subset (List.mem_of_mem_drop hc)
    exact List.mem_reverse.mp hdrop

lemma stem_ne_moduleIdentifier {p : Path} {s : List UInt8} (h : p.fileName? = some s) (d : Disk)
    (q root : Path) : Utf8.lossyText (cutAtDot s).1 ≠ q.moduleIdentifier d root := by
  have hs : slash ∉ s := slash_not_mem_name (List.mem_of_getLast? (fileName?_eq_some.mp h))
  intro he
  have hmem : '/' ∈ (Utf8.lossyText (cutAtDot s).1).toList := by
    rw [he, moduleIdentifier, String.toList_ofList]
    exact List.mem_cons_self
  exact hs (cutAtDot_subset s (Utf8.slash_mem_of_lossyText hmem))

end Path

namespace Language

lemma ofPath?_eq_of_fileName? {p q : Path} (h : p.fileName? = q.fileName?) :
    ofPath? p = ofPath? q := by
  rw [ofPath?, ofPath?, Path.extension?, Path.extension?, h]

lemma fileName_of_ofPath? {p : Path} (h : (ofPath? p).isSome = true) :
    ∃ s, p.fileName? = some s := by
  cases hs : p.fileName? with
  | none => simp [ofPath?, Path.extension?, hs] at h
  | some s => exact ⟨s, rfl⟩

end Language

namespace ResourceKind

lemma defaultIdentifier_file {path : Path} {s : List UInt8} (h : path.fileName? = some s)
    (d : Disk) (root : Path) :
    (file path root).defaultIdentifier d =
      if path.isForeign then (path.inRoot root).moduleIdentifier d root
      else Utf8.lossyText (Path.cutAtDot s).1 := by
  have hw : (file path root).isWorkspaceFile = !path.isForeign := rfl
  rw [defaultIdentifier, hw, Path.stem?, h]
  cases path.isForeign <;> rfl

end ResourceKind

namespace Node

lemma length_classDeclarations (src : Source) (fallback : String) (n parent : Node) :
    (n.classDeclarations src fallback parent).length = if parent.exportsDefault then 2 else 1 := by
  rw [classDeclarations]
  split <;> rfl

lemma classDeclarations_inj {src : Source} {name other : String} {n parent : Node}
    (hn : n.hasField .name = false)
    (h : n.classDeclarations src name parent = n.classDeclarations src other parent) :
    name = other := by
  have hfirst (fallback : String) :
      (n.classDeclarations src fallback parent).head?.map Declaration.name = some fallback := by
    have hname : (n.classOf src fallback parent).name = fallback := by
      have hf : n.field? .name = none := by simpa [hasField] using hn
      simp [classOf_eq, className, hf]
    rw [classDeclarations]
    split
    · simp [Declaration.name, hname]
    · simp [Declaration.name, hname]
  have hnames := hfirst name
  rw [h, hfirst other, Option.some.injEq] at hnames
  exact hnames.symm

end Node

lemma extract_eq_iff (src : Source) (tree : Node) (d : Disk) (kind other : ResourceKind) :
    (Resource.ofKind other).extract d src tree =
        { (Resource.ofKind kind).extract d src tree with kind := other } ↔
      other.defaultIdentifier d = kind.defaultIdentifier d ∨
        ∀ e ∈ tree.classSites, e.2.hasField .name = true := by
  rw [extract_fresh, extract_fresh]
  constructor
  · intro h
    rw [or_iff_not_imp_right]
    intro hnot
    push Not at hnot
    obtain ⟨e, he, hn⟩ := hnot
    have hdecls := congrArg Resource.declarations h
    simp only [Resource.absorb, Resource.ofKind, List.nil_append, declarations_ofRegion] at hdecls
    have hsites := eq_of_flatMap_eq (by simp [Node.length_classDeclarations]) hdecls e he
    exact Node.classDeclarations_inj (by simpa using hn) hsites
  · intro h
    have hdecls : (Findings.ofRegion src (other.defaultIdentifier d) tree.region).declarations =
        (Findings.ofRegion src (kind.defaultIdentifier d) tree.region).declarations := by
      rcases h with h | h
      · rw [h]
      · rw [declarations_ofRegion, declarations_ofRegion]
        apply List.flatMap_congr
        intro e he
        rw [Node.classDeclarations_called src (kind.defaultIdentifier d), if_pos (h e he)]
    simp only [Resource.absorb, Resource.ofKind, hdecls]
    rfl

/-- Whether two outlines differ in nothing but the path that they give for their file. -/
structure Resource.AlikeButForPath (d : Disk) (r s : Resource) : Prop where
  content : s = { r with kind := s.kind }
  identifier : s.kind.identifier d = r.kind.identifier d
  isWorkspaceFile : s.kind.isWorkspaceFile = r.kind.isWorkspaceFile
  defaultIdentifier : s.kind.defaultIdentifier d = r.kind.defaultIdentifier d

section Kinds

variable {root path : Path} (hroot : root.isAbsolute = true) (hpath : path.isAbsolute = false)

include hroot hpath

lemma identifier_join (d : Disk) :
    (ResourceKind.file (root.join path) root).identifier d =
      (ResourceKind.file path root).identifier d := by
  rw [ResourceKind.identifier, ResourceKind.identifier, Path.inRoot_join hroot hpath]

lemma isWorkspaceFile_join_iff :
    (ResourceKind.file (root.join path) root).isWorkspaceFile =
        (ResourceKind.file path root).isWorkspaceFile ↔
      (root.isForeign = true → path.isForeign = true) := by
  change (!(root.join path).isForeign) = (!path.isForeign) ↔ _
  rw [Path.isForeign_join hroot hpath]
  cases root.isForeign <;> cases path.isForeign <;> decide

lemma defaultIdentifier_join_iff {s : List UInt8} (hs : path.fileName? = some s) (d : Disk) :
    (ResourceKind.file (root.join path) root).defaultIdentifier d =
        (ResourceKind.file path root).defaultIdentifier d ↔
      (root.isForeign = true → path.isForeign = true) := by
  have hne := (Path.stem_ne_moduleIdentifier hs d (path.inRoot root) root).symm
  rw [ResourceKind.defaultIdentifier_file (Path.fileName?_join hroot hpath hs),
    ResourceKind.defaultIdentifier_file hs, Path.isForeign_join hroot hpath,
    Path.inRoot_join hroot hpath]
  cases root.isForeign <;> cases path.isForeign <;> simp [hne]

end Kinds

theorem spellings_agree_iff (d : Disk) (root path : Path) (hroot : root.isAbsolute = true)
    (hpath : path.isAbsolute = false) (hlanguage : (Language.ofPath? path).isSome = true)
    (content : ParsedText) :
    ∃ (language : Language) (short long : Resource),
      Workspace.extractFile d root path content = .ok short ∧
      Workspace.extractFile d root (root.join path) content = .ok long ∧
      Language.ofPath? path = some language ∧
      short.kind = .file path root ∧ long.kind = .file (root.join path) root ∧
      (short.AlikeButForPath d long ↔ (root.isForeign = true → path.isForeign = true)) ∧
      long.kind.identifier d = short.kind.identifier d ∧
      (long.kind.isWorkspaceFile = short.kind.isWorkspaceFile ↔
        (root.isForeign = true → path.isForeign = true)) ∧
      (long.kind.defaultIdentifier d = short.kind.defaultIdentifier d ↔
        (root.isForeign = true → path.isForeign = true)) ∧
      (long = { short with kind := long.kind } ↔
        (root.isForeign = true → path.isForeign = true) ∨
          ∀ site ∈ (content.tree language).classSites, site.2.hasField .name = true) := by
  obtain ⟨language, hlang⟩ := Option.isSome_iff_exists.mp hlanguage
  obtain ⟨s, hs⟩ := Language.fileName_of_ofPath? hlanguage
  have hjoin : Language.ofPath? (root.join path) = some language := by
    rw [Language.ofPath?_eq_of_fileName? (Path.fileName?_join hroot hpath hs |>.trans hs.symm),
      hlang]
  have hid := identifier_join hroot hpath d
  have hworkspace := isWorkspaceFile_join_iff hroot hpath
  have hdefault := defaultIdentifier_join_iff hroot hpath hs d
  have hcontent := extract_eq_iff (.ofString content.text) (content.tree language) d
    (.file path root) (.file (root.join path) root)
  rw [hdefault] at hcontent
  have hkind (kind : ResourceKind) : ((Resource.ofKind kind).extract d (.ofString content.text)
      (content.tree language)).kind = kind := Resource.kind_extract ..
  refine ⟨language, _, _, by rw [Workspace.extractFile, hlang],
    by rw [Workspace.extractFile, hjoin], hlang, hkind _, hkind _, ⟨?_, ?_⟩, ?_⟩
  · intro h
    have hsame := h.isWorkspaceFile
    rw [hkind, hkind] at hsame
    exact hworkspace.mp hsame
  · intro h
    constructor <;> rw [hkind]
    · exact hcontent.mpr (.inl h)
    · rw [hkind, hid]
    · rw [hkind, hworkspace.mpr h]
    · rw [hkind, hdefault.mpr h]
  · simp only [hkind]
    exact ⟨hid, hworkspace, hdefault, hcontent⟩

def namelessClass : ParsedText :=
  ⟨"export default class \x7b\x7d", fun _ =>
    ⟨0, "program", true, 0, 23, [],
      [⟨1, "export_statement", true, 0, 23, [],
        [⟨2, "export", false, 0, 6, [], []⟩,
          ⟨3, "default", false, 7, 14, [], []⟩,
          ⟨4, "class", true, 15, 23, [.value],
            [⟨5, "class", false, 15, 20, [], []⟩,
              ⟨6, "class_body", true, 21, 23, [.body],
                [⟨7, "\x7b", false, 21, 22, [], []⟩,
                  ⟨8, "\x7d", false, 22, 23, [], []⟩]⟩]⟩]⟩]⟩⟩

theorem namelessClass_spelled_alike :
    ∃ short long : Resource,
      Workspace.extractFile .absent (.ofText "/work/") (.ofText "./typings/app.d.ts")
        namelessClass = .ok short ∧
      Workspace.extractFile .absent (.ofText "/work/") (.ofText "/work/./typings/app.d.ts")
        namelessClass = .ok long ∧
      short.AlikeButForPath .absent long := by
  obtain ⟨_, short, long, hshort, hlong, _, _, _, halike, _⟩ := spellings_agree_iff .absent
    (.ofText "/work/") (.ofText "./typings/app.d.ts") (by decide) (by decide) (by decide)
    namelessClass
  exact ⟨short, long, hshort, hlong, halike.mpr (by decide)⟩

theorem namelessClass_below_foreign_root :
    ∃ short long : Resource,
      Workspace.extractFile .absent (.ofText "/work/node_modules/app") (.ofText "src/app.ts")
        namelessClass = .ok short ∧
      Workspace.extractFile .absent (.ofText "/work/node_modules/app")
        (.ofText "/work/node_modules/app/src/app.ts") namelessClass = .ok long ∧
      short.kind.isWorkspaceFile = true ∧ long.kind.isWorkspaceFile = false ∧
      short.kind.defaultIdentifier .absent = "app" ∧
      long.kind.defaultIdentifier .absent = "/src/app" ∧
      short.declarations.map Declaration.name = ["app", "app"] ∧
      long.declarations.map Declaration.name = ["/src/app", "/src/app"] ∧
      ¬ short.AlikeButForPath .absent long := by
  refine ⟨_, _, rfl, rfl, rfl, rfl, rfl, rfl, rfl, rfl, ?_⟩
  intro h
  cases h.isWorkspaceFile

end SourceOutline
