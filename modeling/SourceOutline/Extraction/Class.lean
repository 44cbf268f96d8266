import SourceOutline.Extraction.Mention
import SourceOutline.Extraction.Parameter
import SourceOutline.Extraction.Variable

/-! Classes with their members. -/

namespace SourceOutline

/-- A member of a class. A constructor brings the properties that its parameters declare. -/
inductive Member where
  | field (p : Property)
  | accessor (a : Accessor)
  | construct (c : Constructor) (promoted : List Property)
  | method (m : Method)

namespace ClassOutline

/-- The class with one member more. A constructor takes the place of an earlier one. -/
def take (c : ClassOutline) : Member → ClassOutline
  | .field p => { c with properties := c.properties ++ [p] }
  | .accessor a => { c with accessors := c.accessors ++ [a] }
  | .construct k promoted =>
    { c with properties := c.properties ++ promoted, constructor? := some k }
  | .method m => { c with methods := c.methods ++ [m] }

end ClassOutline

namespace Node

def methodKinds : List String :=
  ["method_definition", "method_signature", "abstract_method_signature"]

def isMethodLike (n : Node) : Bool :=
  methodKinds.contains n.kind

def fieldProperty (src : Source) (n : Node) (name : String) : Property where
  name := name
  visibility := n.visibility?
  type := n.typeText? src (n.field? .type)
  isOptional := n.isOptional
  isStatic := n.hasModifier .static
  span := n.span
  typeArguments := n.typeArguments src

def accessorOf (src : Source) (n : Node) (name : String) (kind : AccessorKind) : Accessor where
  kind := kind
  name := name
  visibility := n.visibility?
  type := n.typeText? src n.typeClause?
  isAbstract := n.hasModifier .abstract
  isStatic := n.hasModifier .static
  span := n.span

def constructorOf (src : Source) (n : Node) (className : String) : Constructor where
  name := className
  span := n.span
  parameters := (n.constructorParameters src).1
  locals := n.locals src

def methodOf (src : Source) (n : Node) (name : String) : Method where
  name := name
  isAbstract := n.hasModifier .abstract
  visibility := n.visibility?
  returnType := n.typeText? src n.typeClause?
  isOptional := n.isOptional
  isStatic := n.hasModifier .static
  isAsync := n.hasModifier .async
  span := n.span
  parameters := n.parameters src
  typeArguments := n.typeArguments src
  locals := n.locals src

def memberName? (src : Source) (n : Node) : Option String :=
  (n.field? .name).map fun name => name.memberNameText src

def member? (src : Source) (className : String) (n : Node) : Option Member :=
  if n.kind = "public_field_definition" then
    (n.memberName? src).map fun name => .field (n.fieldProperty src name)
  else if n.isMethodLike then
    (n.memberName? src).map fun name =>
      match n.accessorKind? with
      | some kind => .accessor (n.accessorOf src name kind)
      | none =>
        if name = "constructor" then
          .construct (n.constructorOf src className) (n.constructorParameters src).2
        else .method (n.methodOf src name)
  else none

def isCallable (n : Node) : Bool :=
  n.isMethodLike && n.hasField .name && n.accessorKind?.isNone

def isExportStatement (n : Node) : Bool :=
  n.kind == "export_statement"

def exportsDefault (n : Node) : Bool :=
  n.isExportStatement && n.children.any fun c => c.kind == "default"

def bodyNodes (n : Node) : List Node :=
  ((n.field? .body).map content).getD []

def typeParameterTexts (src : Source) (n : Node) : List String :=
  match n.field? .typeParameters with
  | none => []
  | some list =>
    (list.content.filter fun p => p.kind == "type_parameter").map fun p => p.text src

/-- A class that is exported begins where its export does. -/
def classSpan (n parent : Node) : Span :=
  if parent.isExportStatement then Span.ofOffsets parent.start n.stop else n.span

def className (src : Source) (fallback : String) (n : Node) : String :=
  ((n.field? .name).map fun name => name.text src).getD fallback

def blankClass (src : Source) (fallback : String) (n parent : Node) : ClassOutline where
  name := n.className src fallback
  isExported := parent.isExportStatement && !parent.exportsDefault
  span := n.classSpan parent
  properties := []
  methods := []
  accessors := []
  constructor? := none
  typeParameters := n.typeParameterTexts src

end Node

def ClassOutline.read (src : Source) (c : ClassOutline) (m : Node) : ClassOutline :=
  ((m.member? src c.name).map c.take).getD c

namespace Node

def classOf (src : Source) (fallback : String) (n parent : Node) : ClassOutline :=
  n.bodyNodes.foldl (ClassOutline.read src) (n.blankClass src fallback parent)

def useMembers (src : Source) (n : Node) (r : Resource) : Resource :=
  n.bodyNodes.foldl (fun r m => if m.isCallable then m.useNames src r else r) r

/-- The resource with a class: first its export as the default, then the names that it mentions,
and the class itself last. -/
def readClass (src : Source) (d : Disk) (n parent : Node) (r : Resource) : Resource :=
  let c := n.classOf src (r.kind.defaultIdentifier d) parent
  let exported := if parent.exportsDefault then r.declare (.ofDefault ⟨c.name, c.span⟩) else r
  (n.useNames src (n.useMembers src exported)).declare (.ofClass c)

end Node

end SourceOutline
