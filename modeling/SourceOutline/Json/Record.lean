import SourceOutline.Json.Basic

/-!
Records in JSON. A record is written as an object, whose keys may stand in any order among keys
that mean nothing, or as an array of its fields in their order. Both are read into one row of
columns, a column for each field, which is empty where the field is left out.
-/

namespace SourceOutline.Json

def unique? (key : String) (fields : List (String × Json)) : Option (Option Json) :=
  match fields.filter fun f => f.1 == key with
  | [] => some none
  | [f] => some (some f.2)
  | _ => none

/-- The columns of a record whose array form has all fields. -/
def row? (keys : List String) : Json → Option (List (Option Json))
  | .obj fields => keys.mapM fun k => unique? k fields
  | .arr items => if items.length = keys.length then some (items.map some) else none
  | _ => none

/-- The columns of a record whose array form may leave out fields at its end. -/
def partialRow? (keys : List String) : Json → Option (List (Option Json))
  | .obj fields => keys.mapM fun k => unique? k fields
  | .arr items =>
    if items.length ≤ keys.length then
      some (items.map some ++ List.replicate (keys.length - items.length) none)
    else none
  | _ => none

/-- The tag of a record that is one of several, and the record without it. All of such a record
is read, also what means nothing to it. -/
def tagged? (key : String) : Json → Option (String × Json)
  | .obj fields =>
    let rest := fields.filter fun f => f.1 != key
    match unique? key fields with
    | some (some (.str tag)) => if haveReadable rest then some (tag, .obj rest) else none
    | _ => none
  | .arr (.str tag :: rest) => if areReadable rest then some (tag, .arr rest) else none
  | _ => none

def choiceKeys : List String := ["kind", "value"]

def valueFirst : Json → Bool
  | .obj fields => (fields.find? fun f => choiceKeys.contains f.1).any fun f => f.1 == "value"
  | _ => false

/-- The name of a choice, the value beside it, and how that is to be read: a value that comes
first is taken in whole and read once the name is known. -/
def choice? (reading : Reading) (j : Json) : Option (String × Option Json × Reading) :=
  match j.row? choiceKeys with
  | some [some kind, value] =>
    (kind.toName? reading).bind fun name =>
      if j.valueFirst then
        if value.all isReadable then some (name, value, .deferred) else none
      else some (name, value, reading)
  | _ => none

def required {α : Type} (f : Json → Option α) (column : Option Json) : Option α :=
  column.bind f

def optional {α : Type} (f : Json → Option α) : Option Json → Option (Option α)
  | none => some none
  | some .null => some none
  | some v => (f v).map some

def defaulted {α : Type} (default : α) (f : Json → Option α) : Option Json → Option α
  | none => some default
  | some v => f v

theorem sizeOf_lt_of_unique? {key : String} {fields : List (String × Json)} {v : Json}
    (h : unique? key fields = some (some v)) : sizeOf v < sizeOf fields := by
  unfold unique? at h
  split at h
  · simp at h
  · rename_i f hf
    simp only [Option.some.injEq] at h
    subst h
    have hmem : f ∈ fields := (List.mem_filter.mp (hf ▸ List.mem_singleton.mpr rfl)).1
    have hlt := List.sizeOf_lt_of_mem hmem
    cases f
    simp only [Prod.mk.sizeOf_spec] at hlt ⊢
    omega
  · simp at h

theorem mem_of_mem_mapM {α β : Type} {f : α → Option β} {xs : List α} {ys : List β} {y : β}
    (h : xs.mapM f = some ys) (hy : y ∈ ys) : ∃ x ∈ xs, f x = some y := by
  induction xs generalizing ys with
  | nil =>
    simp only [List.mapM_nil, Option.pure_def, Option.some.injEq] at h
    subst h
    simp at hy
  | cons x xs ih =>
    simp only [List.mapM_cons, Option.bind_eq_bind, Option.bind_eq_some_iff, Option.pure_def,
      Option.some.injEq] at h
    obtain ⟨b, hb, bs, hbs, rfl⟩ := h
    rcases List.mem_cons.mp hy with rfl | hy
    · exact ⟨x, List.mem_cons_self, hb⟩
    · obtain ⟨x', hx', hf⟩ := ih hbs hy
      exact ⟨x', List.mem_cons_of_mem _ hx', hf⟩

theorem sizeOf_lt_of_row? {keys : List String} {j v : Json} {columns : List (Option Json)}
    (h : j.row? keys = some columns) (hv : some v ∈ columns) : sizeOf v < sizeOf j := by
  unfold row? at h
  split at h
  · obtain ⟨k, _, hk⟩ := mem_of_mem_mapM h hv
    have := sizeOf_lt_of_unique? hk
    simp only [obj.sizeOf_spec]
    omega
  · split at h
    · simp only [Option.some.injEq] at h
      subst h
      obtain ⟨w, hw, hvw⟩ := List.mem_map.mp hv
      simp only [Option.some.injEq] at hvw
      subst hvw
      have := List.sizeOf_lt_of_mem hw
      simp only [arr.sizeOf_spec]
      omega
    · simp at h
  · simp at h

theorem sizeOf_lt_of_choice? {reading next : Reading} {j v : Json} {name : String}
    (h : j.choice? reading = some (name, some v, next)) : sizeOf v < sizeOf j := by
  unfold choice? at h
  split at h
  · rename_i kind value hr
    obtain ⟨_, _, h⟩ := Option.bind_eq_some_iff.mp h
    have hv : value = some v := by
      split at h
      · split at h <;> simp_all
      · simp_all
    exact sizeOf_lt_of_row? hr (by simp [hv])
  · simp at h

end SourceOutline.Json
