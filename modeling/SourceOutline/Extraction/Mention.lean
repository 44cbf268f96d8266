import SourceOutline.Resource.Basic
import SourceOutline.Tree.Node

/-!
Mentions: identifiers that use a name rather than declare one. A resource keeps the names of those
that it is led past.
-/

namespace SourceOutline.Node

def identifierKinds : List String :=
  ["identifier", "type_identifier"]

def isIdentifier (n : Node) : Bool :=
  identifierKinds.contains n.kind

def declaringKinds : List String :=
  ["class_declaration", "abstract_class_declaration", "class", "interface_declaration",
    "type_alias_declaration", "enum_declaration", "function_declaration",
    "generator_function_declaration", "function_signature", "method_definition",
    "method_signature", "abstract_method_signature", "public_field_definition",
    "property_signature", "required_parameter", "optional_parameter", "variable_declarator",
    "type_parameter"]

def isDeclarationName (n parent : Node) : Bool :=
  match parent.kind with
  | "array_pattern" => true
  | "rest_pattern" => true
  | "pair_pattern" => n.isFieldOf parent .value
  | "assignment_pattern" => n.isFieldOf parent .left
  | "object_assignment_pattern" => n.isFieldOf parent .left
  | "catch_clause" => n.isFieldOf parent .parameter
  | kind =>
    declaringKinds.contains kind && (n.isFieldOf parent .name || n.isFieldOf parent .pattern)

def mention? (src : Source) (n parent : Node) : Option String :=
  if n.isIdentifier && !n.isDeclarationName parent then some (n.text src) else none

def useName (src : Source) (n parent : Node) (r : Resource) : Resource :=
  ((n.mention? src parent).map r.addUsage).getD r

mutual
def useNames (src : Source) (n : Node) (r : Resource) : Resource :=
  match n with
  | ⟨_, _, _, _, _, _, children⟩ => useNamesFrom src n children r
termination_by structural n

def useNamesFrom (src : Source) (parent : Node) (ns : List Node) (r : Resource) : Resource :=
  match ns with
  | [] => r
  | n :: ns => useNamesFrom src parent ns (n.useNames src (n.useName src parent r))
termination_by structural ns
end

end SourceOutline.Node
