import SourceOutline.Declaration.Basic
import SourceOutline.Text.Trim
import SourceOutline.Tree.Node

/-! The modifiers of a member or parameter: the keywords in front of its name. -/

namespace SourceOutline

inductive Modifier where
  | access (visibility : Visibility)
  | static
  | abstract
  | async
  | readonly
  | override
  deriving DecidableEq, Repr

namespace Modifier

def ofNode? (n : Node) : Option Modifier :=
  match n.kind with
  | "accessibility_modifier" =>
    (n.children.head?.bind fun keyword => Visibility.ofKeyword? keyword.kind).map access
  | "static" => some static
  | "abstract" => some abstract
  | "async" => some async
  | "readonly" => some readonly
  | "override_modifier" => some override
  | _ => none

def visibility? : Modifier → Option Visibility
  | access v => some v
  | _ => none

def promotes : Modifier → Bool
  | access _ => true
  | static => true
  | readonly => true
  | override => true
  | _ => false

def all : List Modifier :=
  [access .publicAccess, access .protectedAccess, access .privateAccess, static, abstract, async,
    readonly, override]

/-- The bit of a modifier in a word of flags, whose lowest two are those of exports. -/
def place : Modifier → Nat
  | access .publicAccess => 2
  | access .protectedAccess => 3
  | access .privateAccess => 4
  | static => 5
  | abstract => 6
  | async => 7
  | readonly => 8
  | override => 9

def flag (m : Modifier) : BitVec 16 :=
  .twoPow 16 m.place

def flags (ms : List Modifier) : BitVec 16 :=
  ms.foldl (fun word m => word ||| m.flag) 0#16

def promotingFlags : BitVec 16 :=
  flags (all.filter promotes)

end Modifier

namespace Node

def nameField (n : Node) : Field :=
  if n.hasField .name then .name else .pattern

/-- The children in front of the name, all of them if there is no name. -/
def front (n : Node) : List Node :=
  n.children.takeWhile fun c => !c.carries n.nameField

def modifiers (n : Node) : List Modifier :=
  n.front.filterMap Modifier.ofNode?

def hasModifier (n : Node) (m : Modifier) : Bool :=
  Modifier.flags n.modifiers &&& m.flag == m.flag

def visibility? (n : Node) : Option Visibility :=
  n.modifiers.findSome? Modifier.visibility?

def isParameterProperty (n : Node) : Bool :=
  Modifier.flags n.modifiers &&& Modifier.promotingFlags != 0#16

def isOptional (n : Node) : Bool :=
  n.kind == "optional_parameter" || n.children.any fun c => c.kind == "?"

def accessorKeyword? (n : Node) : Option AccessorKind :=
  match n.kind with
  | "get" => some .getter
  | "set" => some .setter
  | _ => none

def accessorKind? (n : Node) : Option AccessorKind :=
  if n.hasField .name then n.front.findSome? accessorKeyword? else none

def memberNameText (n : Node) (src : Source) : String :=
  if n.kind = "string" then trimBoth ['"', '\''] (n.text src) else n.text src

end Node

end SourceOutline
