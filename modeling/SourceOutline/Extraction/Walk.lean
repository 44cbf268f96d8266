import SourceOutline.Extraction.Class
import SourceOutline.Extraction.Import

/-!
The walk that reads a syntax tree into a resource. It stops at classes and import statements, which
are taken as wholes, and an ambient module or namespace becomes a resource of its own.
-/

namespace SourceOutline

namespace Node

def isClassSite (n parent : Node) : Bool :=
  n.kind == "class_declaration" || n.kind == "abstract_class_declaration" ||
    (n.kind == "class" && n.named && parent.isExportStatement)

def isImportStatement (n : Node) : Bool :=
  n.kind == "import_statement"

/-- The module or namespace that a node with a name and a body opens. A module is called by a
string. -/
def ambientKind? (src : Source) (n : Node) : Option ResourceKind :=
  if n.kind = "module" ∨ n.kind = "internal_module" then
    (n.field? .name).bind fun name =>
      (n.field? .body).map fun _ =>
        if n.kind = "module" ∧ name.kind = "string" then
          .ambientModule (trimBoth ['"', '\''] (name.text src))
        else .ambientNamespace (name.text src)
  else none

def readImport (src : Source) (n : Node) (r : Resource) : Resource :=
  ((n.namedImport? src).map r.addImport).getD r

mutual
def visit (src : Source) (d : Disk) (n parent : Node) (r : Resource) : Resource :=
  match n with
  | ⟨_, _, _, _, _, _, children⟩ =>
    if n.isClassSite parent then n.readClass src d parent r
    else if n.isImportStatement then n.readImport src r
    else
      match n.ambientKind? src with
      | some kind => r.enclose (visitBody src d children (.ofKind kind))
      | none => visitFrom src d n children (n.useName src parent r)
termination_by structural n

def visitFrom (src : Source) (d : Disk) (parent : Node) (ns : List Node) (r : Resource) :
    Resource :=
  match ns with
  | [] => r
  | n :: ns => visitFrom src d parent ns (n.visit src d parent r)
termination_by structural ns

/-- Of the children of an ambient module or namespace, the walk goes below the body. -/
def visitBody (src : Source) (d : Disk) (ns : List Node) (r : Resource) : Resource :=
  match ns with
  | [] => r
  | ⟨id, kind, named, start, stop, fields, children⟩ :: ns =>
    let n : Node := ⟨id, kind, named, start, stop, fields, children⟩
    if n.carries .body then visitFrom src d n children r else visitBody src d ns r
termination_by structural ns
end

end Node

def Resource.extract (r : Resource) (d : Disk) (src : Source) (tree : Node) : Resource :=
  Node.visitFrom src d tree tree.children r

end SourceOutline
