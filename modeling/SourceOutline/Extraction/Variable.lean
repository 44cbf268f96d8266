import SourceOutline.Declaration.Basic
import SourceOutline.Extraction.TypeText

/-! The variables that are declared inside a function, at any depth. -/

namespace SourceOutline.Node

def variableDeclarationKinds : List String :=
  ["lexical_declaration", "variable_declaration"]

def isVariableDeclaration (n : Node) : Bool :=
  variableDeclarationKinds.contains n.kind

def boundVariable? (src : Source) (isConst : Bool) (d : Node) : Option Variable :=
  if d.kind = "variable_declarator" then
    ((d.field? .name).filter fun name => name.kind == "identifier").map fun name =>
      ⟨name.text src, isConst, d.typeText? src (d.field? .type), d.span⟩
  else none

def declaredVariables (src : Source) (n : Node) : List Variable :=
  let isConst := (n.children.head?.map fun c => c.kind == "const").getD false
  n.content.filterMap (boundVariable? src isConst)

def locals (src : Source) (n : Node) : List Variable :=
  n.descendants.flatMap fun (_, d) =>
    if d.isVariableDeclaration then d.declaredVariables src else []

end SourceOutline.Node
