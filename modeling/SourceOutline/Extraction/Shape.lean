import SourceOutline.Extraction.Modifier
import SourceOutline.Extraction.TypeText

/-!
The members that an object type spells out. A member whose type is an object type again carries
that type's members twice: in full as its type, and by name as its own members. The latter are
taken from one pool for all members of a level, from which nothing that starts at the same byte
is taken twice.
-/

namespace SourceOutline

namespace Node

/-- The name of a member of an object type. An index signature is called by its text up to the
closing bracket; call and construct signatures have no name. -/
def shapeName? (src : Source) (m : Node) : Option String :=
  match m.kind with
  | "index_signature" => (m.childOfKind? "]").map fun close => src.slice m.start close.stop
  | "call_signature" => none
  | "construct_signature" => none
  | _ => (m.field? .name).map fun name => name.memberNameText src

def objectType? (m : Node) : Option Node :=
  m.declaredType?.filter fun t => t.kind == "object_type"

end Node

namespace Shape

def nested (src : Source) (m : Node) : List Node :=
  if (m.shapeName? src).isSome then (m.objectType?.map Node.content).getD [] else []

/-- The pool of a level: the members of the object types, each with the index of the member
whose type it is in. -/
def pool (src : Source) (members : List Node) : List (Nat × Node) :=
  members.zipIdx.flatMap fun (m, i) => (nested src m).map fun c => (i, c)

def leaf? (src : Source) (c : Node) : Option Parameter :=
  (c.shapeName? src).map fun name =>
    .leaf name (c.declaredType?.map fun t => t.text src) c.span

/-- Takes the nodes that start where none has been taken before, and tells where all taken nodes
start. -/
def take (src : Source) (taken : List Nat) : List Node → List Nat × List Parameter
  | [] => (taken, [])
  | c :: cs =>
    if taken.contains c.start then take src taken cs
    else
      let rest := take src (c.start :: taken) cs
      (rest.1, (leaf? src c).toList ++ rest.2)

theorem sizeOf_filter_le {α : Type} [SizeOf α] (p : α → Bool) (l : List α) :
    sizeOf (l.filter p) ≤ sizeOf l := by
  induction l with
  | nil => simp
  | cons a l ih =>
    simp only [List.filter_cons, List.cons.sizeOf_spec]
    split
    · simp only [List.cons.sizeOf_spec]
      omega
    · omega

theorem sizeOf_members_lt (n : Node) : sizeOf n.content < sizeOf n := by
  have h := sizeOf_filter_le Node.isContent n.children
  cases n
  simp only [Node.content, Node.mk.sizeOf_spec] at h ⊢
  omega

theorem sizeOf_typeClause?_lt {m t : Node} (h : m.typeClause? = some t) : sizeOf t < sizeOf m := by
  rcases Option.or_eq_some_iff.mp h with h | ⟨_, h⟩ <;> exact Node.sizeOf_field?_lt h

theorem sizeOf_introducedType?_le {c t : Node} (h : c.introducedType? = some t) :
    sizeOf t ≤ sizeOf c := by
  unfold Node.introducedType? at h
  split at h
  · exact Nat.le_of_lt (Node.sizeOf_content_lt (List.mem_of_mem_head? h))
  · simp only [Option.some.injEq] at h
    exact Nat.le_of_eq (by rw [h])

theorem sizeOf_objectType?_lt {m t : Node} (h : m.objectType? = some t) : sizeOf t < sizeOf m := by
  have hd : m.declaredType? = some t := (Option.filter_eq_some_iff.mp h).1
  obtain ⟨c, hc, ht⟩ := Option.bind_eq_some_iff.mp hd
  exact Nat.lt_of_le_of_lt (sizeOf_introducedType?_le ht) (sizeOf_typeClause?_lt hc)

def flattenFrom (src : Source) (pool : List (Nat × Node)) (index : Nat) (taken : List Nat)
    (members : List Node) : List Parameter :=
  match members with
  | [] => []
  | m :: ms =>
    match m.shapeName? src with
    | none => flattenFrom src pool (index + 1) taken ms
    | some name =>
      match _h : m.objectType? with
      | none =>
        .leaf name (m.typeText? src m.typeClause?) m.span ::
          flattenFrom src pool (index + 1) taken ms
      | some t =>
        let inner := flattenFrom src (Shape.pool src t.content) 0 [] t.content
        let own := take src taken ((pool.filter fun entry => entry.1 ≤ index).map Prod.snd)
        ⟨name, some (.structural inner), m.span, own.2⟩ ::
          flattenFrom src pool (index + 1) own.1 ms
termination_by sizeOf members
decreasing_by
  all_goals simp only [List.cons.sizeOf_spec]
  · omega
  · omega
  · have h₁ := sizeOf_members_lt t
    have h₂ := sizeOf_objectType?_lt _h
    omega
  · omega

def flatten (src : Source) (members : List Node) : List Parameter :=
  flattenFrom src (pool src members) 0 [] members

end Shape

namespace Node

/-- The members that the declared type of a node spells out, itself or as the first argument of
a generic type. -/
def typeArguments (src : Source) (n : Node) : TypeArguments :=
  match n.declaredType? with
  | none => .members []
  | some t =>
    if t.kind = "object_type" then .members (Shape.flatten src t.content)
    else if t.kind = "generic_type" then
      match (t.field? .typeArguments).bind fun a => a.content.head? with
      | none => .members []
      | some a =>
        if a.kind = "object_type" then .members (Shape.flatten src a.content)
        else if a.kind = "predefined_type" ∧ a.text src = "any" then .any
        else .members []
    else .members []

end Node

end SourceOutline
