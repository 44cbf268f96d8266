import SourceOutline.Text.Source

/-!
Syntax trees. A node knows under which fields its parent answers it, and a field of a node is
the first child that carries it.
-/

namespace SourceOutline

inductive Field where
  | localName
  | body
  | key
  | left
  | name
  | parameter
  | parameters
  | pattern
  | returnType
  | source
  | type
  | typeArguments
  | typeParameters
  | value
  deriving DecidableEq, Repr

namespace Field

def label : Field → String
  | localName => "alias"
  | body => "body"
  | key => "key"
  | left => "left"
  | name => "name"
  | parameter => "parameter"
  | parameters => "parameters"
  | pattern => "pattern"
  | returnType => "return_type"
  | source => "source"
  | type => "type"
  | typeArguments => "type_arguments"
  | typeParameters => "type_parameters"
  | value => "value"

def all : List Field :=
  [localName, body, key, left, name, parameter, parameters, pattern, returnType, source, type,
    typeArguments, typeParameters, value]

def ofLabel? (word : String) : Option Field :=
  all.find? fun f => f.label == word

end Field

/-- A node of a syntax tree: a number that no other node of the tree has, its kind, whether the
grammar names it, its range of bytes, the fields that it fills for its parent, and its children
in source order. -/
structure Node where
  id : Nat
  kind : String
  named : Bool
  start : Nat
  stop : Nat
  fields : List Field
  children : List Node

namespace Node

def carries (n : Node) (f : Field) : Bool :=
  n.fields.contains f

def field? (n : Node) (f : Field) : Option Node :=
  n.children.find? fun c => c.carries f

def isFieldOf (child n : Node) (f : Field) : Bool :=
  (n.field? f).any fun c => c.id == child.id

def hasField (n : Node) (f : Field) : Bool :=
  (n.field? f).isSome

def childOfKind? (n : Node) (kind : String) : Option Node :=
  n.children.find? fun c => c.kind == kind

def isContent (n : Node) : Bool :=
  n.named && n.kind != "comment"

def content (n : Node) : List Node :=
  n.children.filter isContent

def text (n : Node) (src : Source) : String :=
  src.slice n.start n.stop

def span (n : Node) : Span :=
  Span.ofOffsets n.start n.stop

mutual
def descendants (n : Node) : List (Node × Node) :=
  match n with
  | ⟨_, _, _, _, _, _, children⟩ => descendantsFrom n children
termination_by structural n

def descendantsFrom (parent : Node) : List Node → List (Node × Node)
  | [] => []
  | c :: cs => (parent, c) :: (c.descendants ++ descendantsFrom parent cs)
termination_by structural cs => cs
end

theorem descendants_eq (n : Node) : n.descendants = descendantsFrom n n.children := by
  cases n
  simp [descendants]

theorem sizeOf_lt_of_mem {n c : Node} (h : c ∈ n.children) : sizeOf c < sizeOf n := by
  have hc := List.sizeOf_lt_of_mem h
  cases n
  simp only [mk.sizeOf_spec] at hc ⊢
  omega

theorem mem_children_of_field? {n c : Node} {f : Field} (h : n.field? f = some c) :
    c ∈ n.children :=
  List.mem_of_find?_eq_some h

theorem mem_children_of_mem_content {n c : Node} (h : c ∈ n.content) : c ∈ n.children :=
  (List.mem_filter.mp h).1

theorem sizeOf_field?_lt {n c : Node} {f : Field} (h : n.field? f = some c) :
    sizeOf c < sizeOf n :=
  sizeOf_lt_of_mem (mem_children_of_field? h)

theorem sizeOf_content_lt {n c : Node} (h : c ∈ n.content) : sizeOf c < sizeOf n :=
  sizeOf_lt_of_mem (mem_children_of_mem_content h)

end Node

end SourceOutline
