import SourceOutline.Proofs.Forms
import SourceOutline.Proofs.RoundTrip
import SourceOutline.Proofs.Rows

/-!
Reading by columns. A value is read and at once written again, so that one function reads the
values of all forms. What a record is read as then depends on what its columns are read as, one by
one, and the record is not read at all when one of its columns is not.
-/

namespace SourceOutline.Json

def recast {α : Type} (read : Json → Option α) (write : α → Json) (j : Json) : Option Json :=
  (read j).map write

def Leaf.reread : Leaf → Json → Option Json
  | text => recast toText? .str
  | truth => recast toBool? .bool
  | offset => recast toUInt32? fun n => .nat n.toNat
  | visibility => recast Visibility.ofJson? Visibility.toJson
  | accessorKind => recast AccessorKind.ofJson? AccessorKind.toJson
  | tag name => recast (fun j => j.toText?.filter fun s => s = name) .str
  | nothing => fun _ => none

def Part.reread : Part → Json → Option Json
  | span => recast Span.ofJson? Span.toJson
  | parameter => recast (Parameter.ofJson? .deferred) Parameter.toJson
  | parameterType =>
    recast (Parameter.typeOfJson? .deferred) fun t => Parameter.typeToJson (some t)
  | typeArguments => recast (TypeArguments.ofJson? .deferred) TypeArguments.toJson
  | property => recast Property.ofJson? Property.toJson
  | localVariable => recast Variable.ofJson? Variable.toJson
  | method => recast Method.ofJson? Method.toJson
  | classConstructor => recast Constructor.ofJson? Constructor.toJson
  | accessor => recast Accessor.ofJson? Accessor.toJson
  | classOutline => recast ClassOutline.ofJson? ClassOutline.toJson
  | declaration => recast Declaration.ofJson? Declaration.toJson
  | specifier => recast Specifier.ofJson? Specifier.toJson
  | namedImport => recast NamedImport.ofJson? NamedImport.toJson
  | resourceKind => recast ResourceKind.ofJson? ResourceKind.toJson
  | resource => recast Resource.ofJson? Resource.toJson

def Form.reread : Form → Json → Option Json
  | leaf kind => kind.reread
  | list item => recast (toList? item.reread) .arr
  | part kind => kind.reread

def Column.reread (c : Column) (column : Option Json) : Option Json :=
  if c.nullable then (optional c.form.reread column).map (ofOption id)
  else required c.form.reread column

def rereadRow : List Column → List (Option Json) → Option (List Json)
  | [], [] => some []
  | c :: cs, v :: vs => (c.reread v).bind fun w => (rereadRow cs vs).map (w :: ·)
  | _, _ => none

def rereadColumns (columns : List Column) (j : Json) : Option (List Json) :=
  (j.row? (columns.map Column.key)).bind (rereadRow columns)

section Columns

variable {α β γ δ : Type} {read : Json → Option α} {write : α → Json}

lemma required_recast (column : Option Json) :
    required (recast read write) column = (required read column).map write := by
  cases column <;> rfl

lemma optional_recast (column : Option Json) :
    (optional (recast read write) column).map (ofOption id) =
      (optional read column).map (ofOption write) := by
  cases column with
  | none => rfl
  | some v => cases v <;> simp [optional, recast, Function.comp_def, ofOption]

lemma required_toList?_eq_none {column : Option Json} (h : ¬∃ items, column = some (.arr items)) :
    required (toList? read) column = none := by
  cases column with
  | none => rfl
  | some v =>
    cases v with
    | arr items => exact absurd ⟨items, rfl⟩ h
    | _ => rfl

lemma mapM_recast (items : List Json) :
    items.mapM (recast read write) = (items.mapM read).map (List.map write) := by
  induction items with
  | nil => rfl
  | cons v items ih =>
    simp only [List.mapM_cons, ih, recast]
    cases read v <;> cases items.mapM read <;> rfl

lemma Form.reread_list {item : Form} (h : item.reread = recast read write) :
    (Form.list item).reread = recast (toList? read) fun l => .arr (l.map write) := by
  funext j
  rw [Form.reread, h]
  cases j with
  | arr items => simp [recast, toList?, mapM_recast, Function.comp_def]
  | _ => rfl

variable {k : β → Option γ} {f : γ → δ} {build : List Json → δ} {key : String} {form : Form}
  {columns : List Column} {column : Option Json} {row : List (Option Json)}

-- `x` is what a reader gets from the first column, and `k` goes on with the columns after it
lemma map_rereadRow_cons {c : Column} {x : Option β} {w : β → Json}
    (hx : c.reread column = x.map w)
    (h : ∀ b, (k b).map f = (rereadRow columns row).map fun vs => build (w b :: vs)) :
    (x >>= k).map f = (rereadRow (c :: columns) (column :: row)).map build := by
  rw [rereadRow, hx]
  cases x with
  | none => rfl
  | some b => simpa [Function.comp_def] using h b

lemma reread_needed (hform : form.reread = recast read write) :
    (Column.needed key form).reread column = (required read column).map write := by
  rw [← required_recast, ← hform]
  rfl

lemma reread_maybe (hform : form.reread = recast read write) :
    (Column.maybe key form).reread column = (optional read column).map (ofOption write) := by
  rw [← optional_recast, ← hform]
  rfl

lemma needed_then {k : α → Option γ} (hform : form.reread = recast read write)
    (h : ∀ a, (k a).map f = (rereadRow columns row).map fun vs => build (write a :: vs)) :
    (required read column >>= k).map f =
      (rereadRow (.needed key form :: columns) (column :: row)).map build :=
  map_rereadRow_cons (reread_needed hform) h

lemma maybe_then {k : Option α → Option γ} (hform : form.reread = recast read write)
    (h : ∀ a, (k a).map f =
      (rereadRow columns row).map fun vs => build (ofOption write a :: vs)) :
    (optional read column >>= k).map f =
      (rereadRow (.maybe key form :: columns) (column :: row)).map build :=
  map_rereadRow_cons (reread_maybe hform) h

lemma map_eq_rereadColumns {j : Json} {x : Option γ} (keys : List String) (n : Nat)
    (hkeys : columns.map Column.key = keys) (hn : keys.length = n)
    (hnone : j.row? keys = none → x = none)
    (hsome : ∀ column : Fin n → Option Json, j.row? keys = some (List.ofFn column) →
      x.map f = (rereadRow columns (List.ofFn column)).map build) :
    x.map f = (rereadColumns columns j).map build := by
  rw [rereadColumns, hkeys]
  cases hrow : j.row? keys with
  | none => simp [hnone hrow]
  | some row =>
    obtain ⟨column, rfl⟩ := row?_eq_ofFn n hn hrow
    exact hsome column hrow

end Columns

lemma rereadColumns_obj (columns : List Column) (fields : List (String × Json)) :
    rereadColumns columns (.obj fields) =
      columns.mapM fun c => (unique? c.key fields).bind c.reread := by
  rw [rereadColumns, row?]
  induction columns with
  | nil => rfl
  | cons c columns ih =>
    rw [List.mapM_cons, ← ih, List.map_cons, List.mapM_cons]
    cases unique? c.key fields with
    | none => rfl
    | some column =>
      cases (columns.map Column.key).mapM fun k => unique? k fields with
      | none => cases hc : c.reread column <;> simp [hc]
      | some row =>
        cases hc : c.reread column <;> cases hrow : rereadRow columns row <;>
          simp [rereadRow, hc, hrow]

lemma rereadRow_eq_none {columns : List Column} {row : List (Option Json)}
    (h : row.length ≠ columns.length) : rereadRow columns row = none := by
  induction columns generalizing row with
  | nil =>
    cases row with
    | nil => exact absurd rfl h
    | cons v row => rfl
  | cons c columns ih =>
    cases row with
    | nil => rfl
    | cons v row => simp [rereadRow, ih (fun he => h (congrArg (· + 1) he))]

lemma rereadColumns_arr (columns : List Column) (items : List Json) :
    rereadColumns columns (.arr items) = rereadRow columns (items.map some) := by
  rw [rereadColumns, row?, List.length_map]
  split
  · rfl
  · exact (rereadRow_eq_none (by simpa)).symm

/-- What `read` gives for a record with these columns depends only on what the columns are read
as. Also, a record that has an unreadable part may not be read at all. -/
def ReadsBy (columns : List Column) (read : Json → Option Json) : Prop :=
  ∃ build, ∀ j, Fits columns j →
    read j = (rereadColumns columns j).map build ∨ read j = none ∧ j.isReadable = false

lemma readsBy_of_eq {columns : List Column} {read : Json → Option Json}
    {build : List Json → Json} (h : ∀ j, read j = (rereadColumns columns j).map build) :
    ReadsBy columns read :=
  ⟨build, fun j _ => .inl (h j)⟩

lemma map_rereadColumns_or_unreadable {columns : List Column} {read : Json → Option Json}
    {build : List Json → Json} {j : Json} (hread : read j = none)
    (h : rereadColumns columns j = none ∨ j.isReadable = false) :
    read j = (rereadColumns columns j).map build ∨ read j = none ∧ j.isReadable = false := by
  rcases h with hcolumns | hj
  · left
    rw [hread, hcolumns]
    rfl
  · exact .inr ⟨hread, hj⟩

lemma reread_tag (key name : String) :
    (Column.tag key name).reread (some (.str name)) = some (.str name) := by
  simp [Column.reread, Column.tag, Form.reread, Leaf.reread, recast, toText?, required]

section Tagged

variable {columns : List Column} {key name : String} {read : Json → Option Json}

lemma isReadable_filter {fields : List (String × Json)} (p : String × Json → Bool)
    (h : (obj fields).isReadable = true) : (obj (fields.filter p)).isReadable = true := by
  rw [isReadable_obj] at h ⊢
  intro f hf
  exact h f (List.mem_of_mem_filter hf)

lemma rereadColumns_untagged {fields : List (String × Json)}
    (hfresh : key ∉ columns.map Column.key) :
    rereadColumns columns (.obj (fields.filter fun f => f.1 != key)) =
      rereadColumns columns (.obj fields) := by
  rw [rereadColumns_obj, rereadColumns_obj]
  apply mapM_congr
  intro c hc
  rw [unique?_filter_ne]
  rintro rfl
  exact hfresh (List.mem_map_of_mem hc)

lemma tagged?_fields_of_fits {fields : List (String × Json)}
    (hfresh : key ∉ columns.map Column.key)
    (hfits : Fits (.tag key name :: columns) (.obj fields)) :
    (∃ rest, tagged? key (.obj fields) = some (name, rest) ∧
      rereadColumns (.tag key name :: columns) (.obj fields) =
        (rereadColumns columns rest).map (.str name :: ·)) ∨
    tagged? key (.obj fields) = none ∧
      (rereadColumns (.tag key name :: columns) (.obj fields) = none ∨
        (obj fields).isReadable = false) := by
  have hmem : (key, .str name) ∈ fields := hfits key name rfl
  have hkey : (Column.tag key name).key = key := rfl
  rw [rereadColumns_obj, List.mapM_cons, ← rereadColumns_obj, ← rereadColumns_untagged hfresh,
    hkey]
  cases hunique : unique? key fields with
  | none =>
    right
    simp [tagged?, hunique]
  | some column =>
    obtain rfl := unique?_of_mem hmem hunique
    cases hr : haveReadable (fields.filter fun f => f.1 != key) with
    | false =>
      right
      refine ⟨by simp [tagged?, hunique, hr], .inr ?_⟩
      rw [Bool.eq_false_iff]
      intro hall
      have hrest := isReadable_filter (fun f => f.1 != key) hall
      rw [isReadable, hr] at hrest
      cases hrest
    | true =>
      left
      refine ⟨.obj (fields.filter fun f => f.1 != key), by simp [tagged?, hunique, hr], ?_⟩
      simp [reread_tag, Option.map_eq_bind]

lemma tagged?_of_fits (hfresh : key ∉ columns.map Column.key) {j : Json}
    (hfits : Fits (.tag key name :: columns) j) :
    (∃ rest, j.tagged? key = some (name, rest) ∧ rereadColumns (.tag key name :: columns) j =
      (rereadColumns columns rest).map (.str name :: ·)) ∨
    j.tagged? key = none ∧
      (rereadColumns (.tag key name :: columns) j = none ∨ j.isReadable = false) := by
  cases j with
  | obj fields => exact tagged?_fields_of_fits hfresh hfits
  | arr items =>
    have hhead : items.head? = some (.str name) := hfits key name rfl
    obtain ⟨rest, rfl⟩ := List.head?_eq_some_iff.mp hhead
    cases hr : areReadable rest with
    | false =>
      right
      exact ⟨by simp [tagged?, hr], .inr (by simp [isReadable, areReadable, hr])⟩
    | true =>
      left
      refine ⟨.arr rest, by simp [tagged?, hr], ?_⟩
      simp [rereadColumns_arr, rereadRow, reread_tag]
  | _ => exact hfits.elim

lemma readsBy_tagged (build : List Json → Json) (hfresh : key ∉ columns.map Column.key)
    (hread : ∀ j rest, j.tagged? key = some (name, rest) →
      read j = (rereadColumns columns rest).map build)
    (hnone : ∀ j, j.tagged? key = none → read j = none) :
    ReadsBy (.tag key name :: columns) read := by
  refine ⟨fun vs => build vs.tail, ?_⟩
  intro j hfits
  rcases tagged?_of_fits hfresh hfits with ⟨rest, htag, hcolumns⟩ | ⟨htag, hfails⟩
  · left
    rw [hread j rest htag, hcolumns, Option.map_map]
    rfl
  · exact map_rereadColumns_or_unreadable (hnone j htag) hfails

lemma readsBy_variant {α : Type} {inner : Json → Option α} {fields : α → List (String × Json)}
    {keys : List String} (hfresh : key ∉ columns.map Column.key)
    (hinner : ∀ j, (inner j).map fields = (rereadColumns columns j).map keys.zip)
    (hread : ∀ j rest, j.tagged? key = some (name, rest) →
      read j = (inner rest).map fun a => .obj ((key, .str name) :: fields a))
    (hnone : ∀ j, j.tagged? key = none → read j = none) :
    ReadsBy (.tag key name :: columns) read := by
  apply readsBy_tagged (fun vs => .obj ((key, .str name) :: keys.zip vs)) hfresh ?_ hnone
  intro j rest htag
  have h := congrArg (Option.map fun fs => obj ((key, .str name) :: fs)) (hinner rest)
  rw [Option.map_map, Option.map_map] at h
  exact (hread j rest htag).trans h

end Tagged

lemma tag_of_fits {columns : List Column} {key name : String} {keys : List String} {j : Json}
    {column : Option Json} {row : List (Option Json)} (hfits : Fits (.tag key name :: columns) j)
    (hrow : j.row? (key :: keys) = some (column :: row)) : column = some (.str name) := by
  cases j with
  | obj fields =>
    have hmem : (key, .str name) ∈ fields := hfits key name rfl
    have hcolumn := (List.forall₂_cons.mp (mapM_eq_some_iff.mp hrow)).1
    exact unique?_of_mem hmem hcolumn
  | arr items =>
    have hhead : items.head? = some (.str name) := hfits key name rfl
    obtain ⟨rest, rfl⟩ := List.head?_eq_some_iff.mp hhead
    simp only [row?, List.map_cons, Option.ite_none_right_eq_some, Option.some.injEq,
      List.cons.injEq] at hrow
    exact hrow.2.1.symm
  | _ => exact hfits.elim

lemma choice?_of_row {name : String} {j : Json} {value : Option Json}
    (hrow : j.row? choiceKeys = some [some (.str name), value]) :
    j.choice? .deferred = some (name, value, .deferred) ∨
      j.choice? .deferred = none ∧ j.isReadable = false := by
  simp only [choice?, hrow, toName?, Option.bind_some]
  split
  · split
    · exact .inl rfl
    · rename_i hvalue
      refine .inr ⟨rfl, ?_⟩
      rw [Bool.eq_false_iff]
      intro hj
      apply hvalue
      rw [Option.all_eq_true]
      intro v hv
      exact isReadable_of_row? hrow (by simp [hv]) hj
  · exact .inl rfl

lemma choice?_of_fits {c : Column} {name : String} {j : Json} (hkey : c.key = "value")
    (hfits : Fits [.tag "kind" name, c] j) :
    (∃ value, j.choice? .deferred = some (name, value, .deferred) ∧
      rereadColumns [.tag "kind" name, c] j =
        (c.reread value).map fun v => [.str name, v]) ∨
    j.choice? .deferred = none ∧
      (rereadColumns [.tag "kind" name, c] j = none ∨ j.isReadable = false) := by
  have hkeys : [Column.tag "kind" name, c].map Column.key = choiceKeys := by
    simp [Column.tag, hkey, choiceKeys]
  rw [rereadColumns, hkeys]
  cases hrow : j.row? choiceKeys with
  | none =>
    right
    simp [choice?, hrow]
  | some row =>
    obtain ⟨column, rfl⟩ := row?_eq_ofFn 2 rfl hrow
    simp only [List.ofFn_succ, List.ofFn_zero] at hrow ⊢
    have htag := tag_of_fits hfits hrow
    rw [htag] at hrow ⊢
    rcases choice?_of_row hrow with hchoice | ⟨hchoice, hj⟩
    · left
      refine ⟨_, hchoice, ?_⟩
      simp only [rereadRow, reread_tag, Option.bind_some]
      cases c.reread (column (Fin.succ 0)) <;> rfl
    · right
      exact ⟨hchoice, .inr hj⟩

lemma readsBy_choice {c : Column} {name : String} {read : Json → Option Json}
    (build : List Json → Json) (hkey : c.key = "value")
    (hread : ∀ j value, j.choice? .deferred = some (name, value, .deferred) →
      read j = (c.reread value).map fun v => build [.str name, v])
    (hnone : ∀ j, j.choice? .deferred = none → read j = none) :
    ReadsBy [.tag "kind" name, c] read := by
  refine ⟨build, ?_⟩
  intro j hfits
  rcases choice?_of_fits hkey hfits with ⟨value, hchoice, hcolumns⟩ | ⟨hchoice, hfails⟩
  · left
    rw [hread j value hchoice, hcolumns, Option.map_map]
    rfl
  · exact map_rereadColumns_or_unreadable (hnone j hchoice) hfails

end SourceOutline.Json
