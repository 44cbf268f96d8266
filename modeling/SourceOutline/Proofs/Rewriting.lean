import Mathlib.Logic.Relation
import SourceOutline.Proofs.RecordReading

/-!
A resource is read alike however its JSON form is rewritten: one rewriting, at whatever depth,
changes neither what is read nor that there is no unreadable part, so a run of them does not
either. Where a record is given one of its own keys twice, nothing is read.
-/

namespace SourceOutline

namespace Json

section Columns

variable {c : Column} {columns : List Column} {v v' w : Json}

lemma reread_of_ne_null (h : v ≠ .null) : c.reread (some v) = c.form.reread v := by
  unfold Column.reread
  split
  · cases v <;> simp_all [optional, Function.comp_def, ofOption]
  · rfl

lemma reread_null_of_none (h : c.reread none = some w) : c.reread (some .null) = some w := by
  unfold Column.reread at h ⊢
  split at h
  · simp_all [optional]
  · cases h

lemma reread_none_of_null (hc : c.nullable = true) : c.reread none = c.reread (some .null) := by
  simp [Column.reread, hc, optional]

lemma rereadRow_append {before after : List Column} {front back : List (Option Json)}
    (h : front.length = before.length) :
    rereadRow (before ++ after) (front ++ back) =
      (rereadRow before front).bind fun vs => (rereadRow after back).map (vs ++ ·) := by
  induction before generalizing front with
  | nil =>
    rw [List.length_eq_zero_iff.mp h]
    simp [rereadRow]
  | cons c before ih =>
    obtain ⟨v, front, rfl⟩ := List.exists_cons_of_length_eq_add_one h
    simp only [List.length_cons, Nat.add_right_cancel_iff] at h
    simp only [List.cons_append, rereadRow, ih h]
    cases c.reread v <;> cases rereadRow before front <;> cases rereadRow after back <;> rfl

lemma rereadRow_map (columns : List Column) (column : Column → Option Json) :
    rereadRow columns (columns.map column) = columns.mapM fun c => c.reread (column c) := by
  induction columns with
  | nil => rfl
  | cons c columns ih =>
    rw [List.map_cons, rereadRow, ih, List.mapM_cons]
    cases c.reread (column c) <;> cases columns.mapM fun c => c.reread (column c) <;> rfl

section Replace

variable {vs : List Json}

lemma rereadColumns_replace {front back : List (String × Json)}
    (hn : (columns.map Column.key).Nodup) (hc : c ∈ columns)
    (h : ∀ w, c.reread (some v) = some w → c.reread (some v') = some w)
    (hvs : rereadColumns columns (.obj (front ++ (c.key, v) :: back)) = some vs) :
    rereadColumns columns (.obj (front ++ (c.key, v') :: back)) = some vs := by
  rw [rereadColumns_obj] at hvs ⊢
  refine mapM_mono (fun d hd w hw => ?_) hvs
  by_cases hkey : d.key = c.key
  · obtain rfl := List.inj_on_of_nodup_map hn hd hc hkey
    obtain ⟨column, hcolumn, hw⟩ := Option.bind_eq_some_iff.mp hw
    obtain ⟨rfl, hfresh⟩ := unique?_middle hcolumn
    rw [unique?_insert hfresh]
    exact h w hw
  · rw [unique?_insert_ne hkey] at hw ⊢
    exact hw

lemma rereadColumns_replace_eq_none {front back : List (String × Json)} (hc : c ∈ columns)
    (h : c.reread (some v) = none) :
    rereadColumns columns (.obj (front ++ (c.key, v) :: back)) = none := by
  rw [rereadColumns_obj]
  apply mapM_eq_none hc
  cases hcolumn : unique? c.key (front ++ (c.key, v) :: back) with
  | none => rfl
  | some column => rw [(unique?_middle hcolumn).1, Option.bind_some, h]

variable {before after : List Column} {front back : List Json}

lemma rereadColumns_item (hplace : front.length = before.length) :
    rereadColumns (before ++ c :: after) (.arr (front ++ v :: back)) =
      (rereadRow before (front.map some)).bind fun vs =>
        (c.reread (some v)).bind fun w =>
          (rereadRow after (back.map some)).map fun ws => vs ++ w :: ws := by
  rw [rereadColumns_arr, List.map_append, rereadRow_append (by simpa using hplace), List.map_cons,
    rereadRow]
  cases c.reread (some v) <;> simp [Function.comp_def]

lemma reread_list_item (f : Form) :
    (Form.list f).reread (.arr (front ++ v :: back)) =
      (front.mapM f.reread).bind fun vs => (f.reread v).bind fun w =>
        (back.mapM f.reread).map fun ws => .arr (vs ++ w :: ws) := by
  rw [Form.reread, recast, toList?, List.mapM_append, List.mapM_cons]
  cases front.mapM f.reread <;> cases f.reread v <;> cases back.mapM f.reread <;> rfl

end Replace

end Columns

lemma Part.nodup_keys {p : Part} {columns : List Column} (h : columns ∈ p.schemes) :
    (columns.map Column.key).Nodup := by
  revert columns
  cases p <;> decide

namespace ReadsBy

variable {columns : List Column} {read : Json → Option Json} {j x : Json}

lemma of_columns (h : ReadsBy columns read) (hfits : Fits columns j) (hread : read j = some x) :
    ∃ vs, rereadColumns columns j = some vs ∧ ∀ j', Fits columns j' → j'.isReadable = true →
      rereadColumns columns j' = some vs → read j' = some x := by
  obtain ⟨build, hbuild⟩ := h
  rcases hbuild j hfits with hj | ⟨hj, _⟩
  · rw [hread] at hj
    obtain ⟨vs, hvs, rfl⟩ := Option.map_eq_some_iff.mp hj.symm
    refine ⟨vs, hvs, fun j' hfits' hj' hvs' => ?_⟩
    rcases hbuild j' hfits' with h' | ⟨_, h'⟩
    · rw [h', hvs']
      rfl
    · rw [hj'] at h'
      cases h'
  · rw [hread] at hj
    cases hj

lemma eq_none (h : ReadsBy columns read) (hfits : Fits columns j)
    (hcolumns : rereadColumns columns j = none) : read j = none := by
  obtain ⟨build, hbuild⟩ := h
  rcases hbuild j hfits with hj | ⟨hj, _⟩
  · rw [hj, hcolumns]
    rfl
  · exact hj

end ReadsBy

lemma tag?_eq_some {columns : List Column} {key name : String}
    (h : tag? columns = some (key, name)) :
    ∃ n rest, columns = ⟨key, .leaf (.tag name), n⟩ :: rest := by
  unfold tag? at h
  split at h
  · simp only [Option.some.injEq, Prod.mk.injEq] at h
    obtain ⟨rfl, rfl⟩ := h
    exact ⟨_, _, rfl⟩
  · cases h

namespace Fits

variable {columns : List Column} {key : String} {v v' : Json}

lemma of_mem {name : String} {fields : List (String × Json)} (h : (key, .str name) ∈ fields) :
    Fits (.tag key name :: columns) (.obj fields) := by
  rintro _ _ ⟨⟩
  exact h

lemma of_untagged {fields : List (String × Json)} (h : tag? columns = none) :
    Fits columns (.obj fields) := by
  intro key name htag
  rw [h] at htag
  cases htag

lemma insert {front back : List (String × Json)} (h : Fits columns (.obj (front ++ back))) :
    Fits columns (.obj (front ++ (key, v) :: back)) := by
  intro key' name htag
  have hmem := h key' name htag
  simp only [List.mem_append, List.mem_cons] at hmem ⊢
  tauto

lemma replace {front back : List (String × Json)} (hv : ∀ text, v ≠ .str text)
    (h : Fits columns (.obj (front ++ (key, v) :: back))) :
    Fits columns (.obj (front ++ (key, v') :: back)) := by
  refine insert fun key' name htag => ?_
  have hmem := h key' name htag
  simpa [(hv name).symm] using hmem

lemma replace_item {front back : List Json} (hv : ∀ text, v ≠ .str text)
    (h : Fits columns (.arr (front ++ v :: back))) :
    Fits columns (.arr (front ++ v' :: back)) := by
  intro key name htag
  have hhead := h key name htag
  cases front with
  | nil => exact absurd (Option.some.inj hhead) (hv name)
  | cons w front => exact hhead

end Fits

namespace Rewriting

variable {columns : List Column} {fields : List (String × Json)} {j : Json} {vs : List Json}

lemma isReadable (h : Rewriting columns fields j) (hr : (obj fields).isReadable = true) :
    j.isReadable = true := by
  rw [isReadable_obj] at hr
  cases h with
  | permute hp =>
    rw [isReadable_obj]
    intro f hf
    exact hr f (hp.mem_iff.mpr hf)
  | insert front back hkey hv =>
    rw [List.forall_mem_append] at hr
    rw [isReadable_obj, List.forall_mem_append, List.forall_mem_cons]
    exact ⟨hr.1, hv, hr.2⟩
  | drop front back hc hnull =>
    rw [List.forall_mem_append, List.forall_mem_cons] at hr
    rw [isReadable_obj, List.forall_mem_append]
    exact ⟨hr.1, hr.2.2⟩
  | array =>
    rw [Json.isReadable, areReadable_iff]
    intro v hv
    obtain ⟨c, _, rfl⟩ := List.mem_map.mp hv
    cases hc : fields.lookup c.key with
    | none => rfl
    | some w =>
      obtain ⟨front, back, rfl, _⟩ := List.lookup_eq_some_iff.mp hc
      exact hr (c.key, w) (by simp)

lemma columns_kept (h : Rewriting columns fields j) (hn : (columns.map Column.key).Nodup)
    (hvs : rereadColumns columns (.obj fields) = some vs) : rereadColumns columns j = some vs := by
  rw [rereadColumns_obj] at hvs
  cases h with
  | permute hp =>
    simp only [unique?_perm hp] at hvs
    rwa [rereadColumns_obj]
  | @insert front back key v hkey hv =>
    rw [rereadColumns_obj]
    refine mapM_mono (fun c hc w hw => ?_) hvs
    have hne : c.key ≠ key := by
      rintro rfl
      exact hkey (List.mem_map_of_mem hc)
    rwa [unique?_insert_ne hne]
  | @drop front back d hd hnull =>
    rw [rereadColumns_obj]
    refine mapM_mono (fun c hc w hw => ?_) hvs
    by_cases hkey : c.key = d.key
    · obtain rfl := List.inj_on_of_nodup_map hn hc hd hkey
      obtain ⟨column, hcolumn, hw⟩ := Option.bind_eq_some_iff.mp hw
      obtain ⟨rfl, hfresh⟩ := unique?_middle hcolumn
      rw [unique?_of_not_mem hfresh, Option.bind_some, reread_none_of_null hnull]
      exact hw
    · rwa [unique?_insert_ne hkey] at hw
  | array =>
    rw [rereadColumns_arr, List.map_map, rereadRow_map]
    refine mapM_mono (fun c hc w hw => ?_) hvs
    obtain ⟨column, hcolumn, hw⟩ := Option.bind_eq_some_iff.mp hw
    rw [Function.comp_apply, lookup_of_unique? hcolumn]
    cases column with
    | none => exact reread_null_of_none hw
    | some v => exact hw

lemma fits (h : Rewriting columns fields j) (hfits : Fits columns (.obj fields))
    (hvs : rereadColumns columns (.obj fields) = some vs) : Fits columns j := by
  cases h with
  | permute hp =>
    intro key name htag
    exact hp.mem_iff.mp (hfits key name htag)
  | insert front back hkey hv => exact hfits.insert
  | drop front back hc hnull =>
    intro key name htag
    simpa using hfits key name htag
  | array =>
    intro key name htag
    obtain ⟨n, columns, rfl⟩ := tag?_eq_some htag
    rw [rereadColumns_obj, mapM_eq_some_iff, List.forall₂_cons_left_iff] at hvs
    obtain ⟨_, _, hw, _⟩ := hvs
    obtain ⟨column, hcolumn, _⟩ := Option.bind_eq_some_iff.mp hw
    have hname := unique?_of_mem (hfits key name htag) hcolumn
    simp [lookup_of_unique? hcolumn, hname]

lemma ne_null (h : Rewriting columns fields j) : j ≠ .null := by
  cases h <;> simp

end Rewriting

lemma Doubling.ne_null {columns : List Column} {fields : List (String × Json)} {j : Json}
    (h : Doubling columns fields j) : j ≠ .null := by
  cases h
  simp

namespace Within

variable {change : List Column → List (String × Json) → Json → Prop} {f : Form} {j j' : Json}

lemma ne_null (h : Within change f j j') : j ≠ .null := by
  cases h <;> simp

lemma ne_str (h : Within change f j j') (text : String) : j ≠ .str text := by
  cases h <;> simp

lemma ne_null_after (hchange : ∀ {columns fields j}, change columns fields j → j ≠ .null)
    (h : Within change f j j') : j' ≠ .null := by
  cases h with
  | here hs hfits h => exact hchange h
  | _ => simp

lemma isReadable (h : Within Rewriting f j j') (hj : j.isReadable = true) :
    j'.isReadable = true := by
  induction h with
  | here hs hfits h => exact h.isReadable hj
  | column front back hs hc hfits h ih =>
    rw [isReadable_obj, List.forall_mem_append, List.forall_mem_cons] at hj ⊢
    exact ⟨hj.1, ih hj.2.1, hj.2.2⟩
  | entry front back hs hplace hfits h ih =>
    rw [Json.isReadable, areReadable_iff, List.forall_mem_append, List.forall_mem_cons] at hj ⊢
    exact ⟨hj.1, ih hj.2.1, hj.2.2⟩
  | item front back h ih =>
    rw [Json.isReadable, areReadable_iff, List.forall_mem_append, List.forall_mem_cons] at hj ⊢
    exact ⟨hj.1, ih hj.2.1, hj.2.2⟩

lemma reread_kept (h : Within Rewriting f j j') {x : Json} (hj : j.isReadable = true)
    (hx : f.reread j = some x) : f.reread j' = some x := by
  induction h generalizing x with
  | here hs hfits h =>
    obtain ⟨vs, hvs, hread⟩ := (Part.readsBy hs).of_columns hfits hx
    exact hread _ (h.fits hfits hvs) (h.isReadable hj) (h.columns_kept (Part.nodup_keys hs) hvs)
  | column front back hs hc hfits h ih =>
    have hj' := isReadable (.column front back hs hc hfits h) hj
    obtain ⟨vs, hvs, hread⟩ := (Part.readsBy hs).of_columns hfits hx
    rw [isReadable_obj, List.forall_mem_append, List.forall_mem_cons] at hj
    refine hread _ (hfits.replace h.ne_str) hj'
      (rereadColumns_replace (Part.nodup_keys hs) hc (fun w hw => ?_) hvs)
    -- neither value is `null`, which an optional column would take for an absent one
    rw [reread_of_ne_null h.ne_null] at hw
    rw [reread_of_ne_null (h.ne_null_after Rewriting.ne_null)]
    exact ih hj.2.1 hw
  | entry front back hs hplace hfits h ih =>
    have hj' := isReadable (.entry front back hs hplace hfits h) hj
    obtain ⟨vs, hvs, hread⟩ := (Part.readsBy hs).of_columns hfits hx
    rw [Json.isReadable, areReadable_iff, List.forall_mem_append, List.forall_mem_cons] at hj
    refine hread _ (hfits.replace_item h.ne_str) hj' ?_
    rw [rereadColumns_item hplace, reread_of_ne_null h.ne_null] at hvs
    rw [rereadColumns_item hplace, reread_of_ne_null (h.ne_null_after Rewriting.ne_null)]
    obtain ⟨ws, hws, hvs⟩ := Option.bind_eq_some_iff.mp hvs
    obtain ⟨w, hw, hvs⟩ := Option.bind_eq_some_iff.mp hvs
    rw [hws, Option.bind_some, ih hj.2.1 hw, Option.bind_some, hvs]
  | item front back h ih =>
    rw [Json.isReadable, areReadable_iff, List.forall_mem_append, List.forall_mem_cons] at hj
    rw [reread_list_item] at hx ⊢
    obtain ⟨ws, hws, hx⟩ := Option.bind_eq_some_iff.mp hx
    obtain ⟨w, hw, hx⟩ := Option.bind_eq_some_iff.mp hx
    rw [hws, Option.bind_some, ih hj.2.1 hw, Option.bind_some, hx]

lemma reread_eq_none (h : Within Doubling f j j') : f.reread j' = none := by
  induction h with
  | here hs hfits h =>
    cases h with
    | @again front back key v hkey hgiven =>
      obtain ⟨c, hc, rfl⟩ := List.mem_map.mp hkey
      apply (Part.readsBy hs).eq_none hfits.insert
      rw [rereadColumns_obj]
      apply mapM_eq_none hc
      rw [unique?_double hgiven]
      rfl
  | column front back hs hc hfits h ih =>
    apply (Part.readsBy hs).eq_none (hfits.replace h.ne_str)
    apply rereadColumns_replace_eq_none hc
    rw [reread_of_ne_null (h.ne_null_after Doubling.ne_null)]
    exact ih
  | entry front back hs hplace hfits h ih =>
    apply (Part.readsBy hs).eq_none (hfits.replace_item h.ne_str)
    rw [rereadColumns_item hplace, reread_of_ne_null (h.ne_null_after Doubling.ne_null), ih]
    simp
  | item front back h ih =>
    rw [reread_list_item, ih]
    simp

end Within

lemma reread_of_run {f : Form} {j j' x : Json}
    (h : Relation.ReflTransGen (Within Rewriting f) j j') (hj : j.isReadable = true)
    (hx : f.reread j = some x) : j'.isReadable = true ∧ f.reread j' = some x := by
  induction h with
  | refl => exact ⟨hj, hx⟩
  | tail _ hstep ih => exact ⟨hstep.isReadable ih.1, hstep.reread_kept ih.1 ih.2⟩

end Json

namespace Resource

mutual
lemma isReadable_toJson (r : Resource) : r.toJson.isReadable = true := by
  cases r with
  | mk kind declarations usages imports resources =>
    have hkind : kind.toJson.isReadable = true := by
      cases kind <;> rfl
    have hresources : (Json.arr (listToJson resources)).isReadable = true := by
      rw [Json.isReadable]
      exact areReadable_listToJson resources
    simp [toJson, Json.isReadable_obj, hkind, Declaration.faithful.list.readable,
      Json.Faithful.text.list.readable, NamedImport.faithful.list.readable, hresources]

lemma areReadable_listToJson (rs : List Resource) : Json.areReadable (listToJson rs) = true := by
  cases rs with
  | nil => rfl
  | cons r rs =>
    have hr := isReadable_toJson r
    have hrs := areReadable_listToJson rs
    simp [listToJson, Json.areReadable, hr, hrs]
end

end Resource

open Json

theorem rewritten_resources_read_alike (r : Resource) {written j : Json}
    (hwritten : r.toJson? = some written)
    (h : Relation.ReflTransGen (Within Rewriting (.part .resource)) written j) :
    Resource.ofJson? j = some r ∧
      ∀ j', Within Doubling (.part .resource) j j' → Resource.ofJson? j' = none := by
  obtain ⟨htext, rfl⟩ := Resource.toJson?_eq_some.mp hwritten
  have hr : recast Resource.ofJson? Resource.toJson r.toJson = some r.toJson := by
    rw [recast, Resource.ofJson?_toJson htext]
    rfl
  refine ⟨?_, fun j' hj' => Option.map_eq_none_iff.mp hj'.reread_eq_none⟩
  obtain ⟨s, hs, hsr⟩ := Option.map_eq_some_iff.mp (reread_of_run h r.isReadable_toJson hr).2
  rw [hs, ← Resource.ofJson?_toJson (Resource.hasTextPaths_of_ofJson? hs), hsr,
    Resource.ofJson?_toJson htext]

def plainModule : Resource :=
  ⟨.ambientModule "m", [.ofProperty ⟨"p", none, none, false, false, ⟨0, 1⟩, .any⟩], [], [], []⟩

def moduleJson (kind property : Json) : Json :=
  .obj [("kind", kind), ("declarations", .arr [property]), ("usages", .arr []),
    ("imports", .arr []), ("resources", .arr [])]

def propertyEnd (arguments : Json) : List (String × Json) :=
  [("type", .null), ("isOptional", .bool false), ("isStatic", .bool false),
    ("span", .obj [("start", .nat 0), ("end", .nat 1)]), ("typeArguments", arguments)]

/-- The module with arrays for its kind and the type arguments, and the property with its tag last
and without a visibility. What means nothing stands in the middle. -/
def respelledModule (idle : List (String × Json)) : Json :=
  moduleJson (.arr [.str "module", .str "m"]) (.obj (("name", .str "p") ::
    (idle ++ (propertyEnd (.arr [.str "any", .null]) ++ [("declaration", .str "property")]))))

section moduleJson

variable {change : List Column → List (String × Json) → Json → Prop} {kind property j : Json}

lemma within_kind (h : Within change (.part .resourceKind) kind j) :
    Within change (.part .resource) (moduleJson kind property) (moduleJson j property) := by
  have hcolumn : .needed "kind" (.part .resourceKind) ∈ Part.resourceColumns := .head _
  exact .column [] _ (.head _) hcolumn (.of_untagged rfl) h

lemma within_property (h : Within change (.part .declaration) property j) :
    Within change (.part .resource) (moduleJson kind property) (moduleJson kind j) := by
  have hcolumn : .needed "declarations" (.list (.part .declaration)) ∈ Part.resourceColumns :=
    .tail _ (.head _)
  exact .column [("kind", kind)] _ (.head _) hcolumn (.of_untagged rfl) (.item [] [] h)

end moduleJson

lemma respelledModule_run :
    Relation.ReflTransGen (Within Rewriting (.part .resource)) plainModule.toJson
      (respelledModule [("note", .bool true)]) := by
  have hkind : [.tag "kind" "module", .needed "name" .text] ∈ Part.schemes .resourceKind :=
    .tail _ (.head _)
  have hproperty : .tag "declaration" "property" :: Part.propertyColumns ∈
      Part.schemes .declaration := by
    simp [Part.schemes]
  have hvisibility : .maybe "visibility" (.leaf .visibility) ∈
      .tag "declaration" "property" :: Part.propertyColumns := by
    simp [Part.propertyColumns]
  have hcolumn : .needed "typeArguments" (.part .typeArguments) ∈
      .tag "declaration" "property" :: Part.propertyColumns := by
    simp [Part.propertyColumns]
  have harguments : [.tag "kind" "any", .maybe "value" (.leaf .nothing)] ∈
      Part.schemes .typeArguments := .head _
  have hplain : plainModule.toJson = moduleJson (.obj [("kind", .str "module"), ("name", .str "m")])
      (.obj (("declaration", .str "property") :: ("name", .str "p") :: ("visibility", .null) ::
        propertyEnd (.obj [("kind", .str "any")]))) := rfl
  rw [hplain]
  refine .head (within_kind (.here hkind (Fits.of_mem (by simp)) (.array _))) ?_
  refine .head (within_property (.here hproperty (Fits.of_mem (by simp))
    (.permute (List.perm_append_singleton _ _).symm))) ?_
  refine .head (within_property (.here hproperty (Fits.of_mem (by simp))
    (.drop [("name", .str "p")] _ hvisibility rfl))) ?_
  refine .head (within_property (.column (("name", .str "p") :: (propertyEnd .null).dropLast) _
    hproperty hcolumn (Fits.of_mem (by simp))
    (.here harguments (Fits.of_mem (by simp)) (.array _)))) ?_
  exact .single (within_property (.here hproperty (Fits.of_mem (by simp))
    (.insert [("name", .str "p")] _ (by decide) rfl)))

theorem respelledModule_read :
    plainModule.toJson? = some plainModule.toJson ∧
    Relation.ReflTransGen (Within Rewriting (.part .resource)) plainModule.toJson
      (respelledModule [("note", .bool true)]) ∧
    Resource.ofJson? (respelledModule [("note", .bool true)]) = some plainModule ∧
    Resource.ofJson? (respelledModule [("name", .str "q"), ("note", .bool true)]) = none := by
  have hwritten : plainModule.toJson? = some plainModule.toJson := rfl
  have h := rewritten_resources_read_alike plainModule hwritten respelledModule_run
  have hproperty : .tag "declaration" "property" :: Part.propertyColumns ∈
      Part.schemes .declaration := by
    simp [Part.schemes]
  refine ⟨hwritten, respelledModule_run, h.1, h.2 _ (within_property ?_)⟩
  exact .here hproperty (Fits.of_mem (by simp))
    (.again [("name", .str "p")] _ (by decide) (by decide))

end SourceOutline
