import SourceOutline.Extraction.Shape

/-!
The parameters of functions, and the properties that the parameters of a constructor declare.
-/

namespace SourceOutline

/-- What one parameter binds: a name of its own, or names inside a pattern. -/
inductive Binding where
  | single (p : Parameter)
  | several (ps : List Parameter)

def Binding.parameters : Binding → List Parameter
  | single p => [p]
  | several ps => ps

namespace Node

def parameterKinds : List String :=
  ["required_parameter", "optional_parameter"]

def parameterNodes (n : Node) : List Node :=
  match n.field? .parameters with
  | none => []
  | some list => list.content.filter fun p => parameterKinds.contains p.kind

def boundName? (e : Node) : Option Node :=
  match e.kind with
  | "shorthand_property_identifier_pattern" => some e
  | "identifier" => some e
  | "pair_pattern" => (e.field? .value).filter fun v => v.kind == "identifier"
  | _ => none

def boundNames (src : Source) (pattern : Node) : List Parameter :=
  pattern.content.filterMap fun e =>
    e.boundName?.map fun name => .leaf (name.text src) none e.span

def parameterCalled (src : Source) (n name : Node) : Parameter :=
  .leaf (name.text src) (n.typeText? src (n.field? .type)) n.span

def binding? (src : Source) (n : Node) : Option Binding :=
  (n.field? .pattern).bind fun pattern =>
    match pattern.kind with
    | "identifier" => some (.single (n.parameterCalled src pattern))
    | "this" => some (.single (n.parameterCalled src pattern))
    | "rest_pattern" =>
      (pattern.content.find? fun c => c.kind == "identifier").map fun name =>
        .single (n.parameterCalled src name)
    | "object_pattern" => some (.several (pattern.boundNames src))
    | "array_pattern" => some (.several (pattern.boundNames src))
    | _ => none

def parameters (src : Source) (n : Node) : List Parameter :=
  n.parameterNodes.flatMap fun p => ((p.binding? src).map Binding.parameters).getD []

def promotedProperty (src : Source) (n : Node) (p : Parameter) : Property where
  name := p.name
  visibility := n.visibility?
  type := n.typeText? src (n.field? .type)
  isOptional := n.isOptional
  isStatic := n.hasModifier .static
  span := n.span
  typeArguments := n.typeArguments src

def constructorParameter (src : Source) (n : Node) : List Parameter × List Property :=
  match n.binding? src with
  | some (.single p) => ([p], if n.isParameterProperty then [n.promotedProperty src p] else [])
  | some (.several ps) => (ps, [])
  | none => ([], [])

def constructorParameters (src : Source) (n : Node) : List Parameter × List Property :=
  n.parameterNodes.foldl (fun sum p => (sum.1 ++ (p.constructorParameter src).1,
    sum.2 ++ (p.constructorParameter src).2)) ([], [])

end Node

end SourceOutline
