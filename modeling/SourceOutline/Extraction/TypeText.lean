import SourceOutline.Tree.Node

/-!
The type of a declaration as text: what its annotation says, or what its initial value shows. A
value shows a type if it is a literal; an array shows the one type of its elements, an object
the types of its properties.
-/

namespace SourceOutline.Node

def typeClauseKinds : List String :=
  ["type_annotation", "opting_type_annotation", "omitting_type_annotation", "asserts_annotation",
    "type_predicate_annotation"]

/-- The type that a clause introduces; any other node is the type itself. -/
def introducedType? (n : Node) : Option Node :=
  if typeClauseKinds.contains n.kind then n.content.head? else some n

def typeClause? (n : Node) : Option Node :=
  (n.field? .type).or (n.field? .returnType)

def declaredType? (n : Node) : Option Node :=
  n.typeClause?.bind introducedType?

def commonType : List String → String
  | [] => "any"
  | t :: ts => if ts.all (· == t) then t else "any"

def arrayText (elements : List String) : String :=
  "Array<" ++ commonType elements ++ ">"

def propertyText (key : String) (type : Option String) : String :=
  key ++ ": " ++ type.getD "any"

def objectText (properties : List String) : String :=
  if properties.isEmpty then "\x7b\x7d" else "\x7b " ++ ", ".intercalate properties ++ " \x7d"

/-- The text of an object's property, whose value, if it is written out, shows `type`. -/
def objectProperty? (src : Source) (p : Node) (type : Option String) : Option String :=
  match p.kind with
  | "pair" => (p.field? .key).map fun key => propertyText (key.text src) type
  | "shorthand_property_identifier" => some (propertyText (p.text src) none)
  | "method_definition" => (p.field? .name).map fun name => propertyText (name.text src) none
  | _ => none

/-- The type that a value shows. A node with a value of its own shows what that shows. -/
def literalType? (src : Source) (n : Node) : Option String :=
  match _h : n.field? .value with
  | some v => literalType? src v
  | none =>
    match n.kind with
    | "true" => some "boolean"
    | "false" => some "boolean"
    | "string" => some "string"
    | "number" => some "number"
    | "array" => some (arrayText (n.content.attach.filterMap fun c => literalType? src c.1))
    | "object" =>
      some (objectText (n.content.attach.filterMap fun p =>
        objectProperty? src p.1
          (match _hv : p.1.field? .value with
          | some v => literalType? src v
          | none => none)))
    | _ => none
termination_by sizeOf n
decreasing_by
  · exact sizeOf_field?_lt _h
  · exact sizeOf_content_lt c.2
  · exact Nat.lt_trans (sizeOf_field?_lt _hv) (sizeOf_content_lt p.2)

theorem filterMap_attach_val {α β : Type} (l : List α) (f : α → Option β) :
    (l.attach.filterMap fun x => f x.1) = l.filterMap f := by
  have h := List.filterMap_map (f := Subtype.val) (g := f) (l := l.attach)
  rw [List.attach_map_subtype_val] at h
  exact h.symm

theorem literalType?_eq (src : Source) (n : Node) :
    n.literalType? src =
      match n.field? .value with
      | some v => v.literalType? src
      | none =>
        match n.kind with
        | "true" => some "boolean"
        | "false" => some "boolean"
        | "string" => some "string"
        | "number" => some "number"
        | "array" => some (arrayText (n.content.filterMap (literalType? src)))
        | "object" =>
          some (objectText (n.content.filterMap fun p =>
            objectProperty? src p ((p.field? .value).bind (literalType? src))))
        | _ => none := by
  rw [literalType?]
  split
  · rename_i v h
    simp only [h]
  · rename_i h
    simp only [h]
    have hp : ∀ p : Node,
        (match _hv : p.field? .value with
        | some v => literalType? src v
        | none => none) = (p.field? .value).bind (literalType? src) := by
      intro p
      split <;> rename_i hv <;> simp [hv]
    simp only [hp, filterMap_attach_val n.content (literalType? src),
      filterMap_attach_val n.content fun p =>
        objectProperty? src p ((p.field? .value).bind (literalType? src))]

def typeText? (src : Source) (n : Node) (clause : Option Node) : Option String :=
  match clause.bind introducedType? with
  | some t => some (t.text src)
  | none => n.literalType? src

end SourceOutline.Node
