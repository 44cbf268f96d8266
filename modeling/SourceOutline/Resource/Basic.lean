import SourceOutline.Declaration.Basic
import SourceOutline.Import.Basic
import SourceOutline.Path.Identifier

/-! A resource holds what was found in a file, or in an ambient module or namespace of one. -/

namespace SourceOutline

inductive ResourceKind where
  | file (path root : Path)
  | ambientModule (name : String)
  | ambientNamespace (name : String)
  deriving DecidableEq, Repr

namespace ResourceKind

def foreignDirectories : List Component :=
  [.name (Utf8.encode "node_modules"), .name (Utf8.encode "typings")]

def isWorkspaceFile : ResourceKind → Bool
  | file path _ => !path.components.any foreignDirectories.contains
  | _ => false

def identifier (d : Disk) : ResourceKind → String
  | file path root => (path.inRoot root).moduleIdentifier d root
  | ambientModule name => name
  | ambientNamespace name => name

/-- The name for what has none of its own: the stem of a workspace file, otherwise the
identifier. -/
def defaultIdentifier (d : Disk) (k : ResourceKind) : String :=
  match k with
  | file path _ =>
    if k.isWorkspaceFile then
      match path.stem? with
      | some stem => Utf8.lossyText stem
      | none => k.identifier d
    else k.identifier d
  | _ => k.identifier d

end ResourceKind

structure Resource where
  kind : ResourceKind
  declarations : List Declaration
  usages : List String
  imports : List NamedImport
  resources : List Resource

def insertNew (names : List String) (name : String) : List String :=
  if names.contains name then names else names ++ [name]

def DefaultExport.resolvesTo (d : DefaultExport) (x : Declaration) : Bool :=
  x.default?.isNone && x.name == d.name

namespace Resource

def ofKind (kind : ResourceKind) : Resource :=
  ⟨kind, [], [], [], []⟩

def declare (r : Resource) (x : Declaration) : Resource :=
  { r with declarations := r.declarations ++ [x] }

def addUsage (r : Resource) (name : String) : Resource :=
  { r with usages := insertNew r.usages name }

def addImport (r : Resource) (i : NamedImport) : Resource :=
  { r with imports := r.imports ++ [i] }

def enclose (r child : Resource) : Resource :=
  { r with resources := r.resources ++ [child] }

def classes (r : Resource) : List ClassOutline :=
  r.declarations.filterMap Declaration.class?

def defaultExport? (r : Resource) : Option DefaultExport :=
  r.declarations.findSome? Declaration.default?

def resolveDefault? (r : Resource) (d : DefaultExport) : Option Declaration :=
  r.declarations.find? d.resolvesTo

def resolvedIndex? (r : Resource) (d : DefaultExport) : Option Nat :=
  r.declarations.findIdx? d.resolvesTo

mutual
def allImports : Resource → List NamedImport
  | ⟨_, _, _, imports, resources⟩ => imports ++ importsOfAll resources

def importsOfAll : List Resource → List NamedImport
  | [] => []
  | r :: rs => r.allImports ++ importsOfAll rs
end

end Resource

end SourceOutline
