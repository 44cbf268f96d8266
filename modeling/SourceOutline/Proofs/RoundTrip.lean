import SourceOutline.Proofs.Encoding
import SourceOutline.Proofs.Records
import SourceOutline.Resource.Json

/-!
Reading undoes writing: the JSON form of a resource, a declaration or an import is read back as
what was written, however deep its parameters and resources go.
-/

namespace SourceOutline

open Json (Faithful required)

lemma Span.faithful : Faithful toJson ofJson? where
  reads s := by
    have hrow : s.toJson.row? keys = _ := Json.row?_obj rfl (by decide)
    simp [ofJson?, hrow, required, Faithful.uint32.reads]
  readable _ := rfl
  present _ := by simp [toJson]

lemma Visibility.faithful : Faithful toJson ofJson? where
  reads v := by cases v <;> rfl
  readable _ := rfl
  present _ := by simp [toJson]

lemma AccessorKind.faithful : Faithful toJson ofJson? where
  reads k := by cases k <;> rfl
  readable _ := rfl
  present _ := by simp [toJson]

namespace Parameter

lemma ofJson?_of_row {reading : Reading} {j : Json} {name type span : Option Json}
    {members : List Json} (h : j.row? keys = some [name, type, span, some (.arr members)]) :
    ofJson? reading j = do
      return ⟨← required Json.toText? name, ← Json.optional (typeOfJson? reading) type,
        ← required Span.ofJson? span, ← listOfJson? reading members⟩ := by
  rw [ofJson?]
  split
  · rename_i h'
    rw [h] at h'
    simp only [Option.some.injEq, List.cons.injEq, Json.arr.injEq, and_true] at h'
    obtain ⟨rfl, rfl, rfl, rfl⟩ := h'
    cases type with
    | none => rfl
    | some t => cases t <;> rfl
  · rename_i hno
    exact (hno _ _ _ _ h).elim

lemma typeOfJson?_named {reading next : Reading} {j : Json} {text : String}
    (h : j.choice? reading = some ("named", some (.str text), next)) :
    typeOfJson? reading j = some (.named text) := by
  rw [typeOfJson?]
  split
  · simp_all
  · simp_all
  · simp_all

lemma typeOfJson?_structural {reading next : Reading} {j : Json} {members : List Json}
    (h : j.choice? reading = some ("structural", some (.arr members), next)) :
    typeOfJson? reading j = (listOfJson? next members).map .structural := by
  rw [typeOfJson?]
  split
  · simp_all
  · simp_all
  · simp_all

mutual
lemma ofJson?_toJson (reading : Reading) (p : Parameter) :
    ofJson? reading p.toJson = some p := by
  cases p with
  | mk name type span members =>
    have hrow : (toJson ⟨name, type, span, members⟩).row? keys = some [some (.str name),
        some (typeToJson type), some span.toJson, some (.arr (listToJson members))] := by
      rw [toJson]
      exact Json.row?_obj rfl (by decide)
    have htype := optional_typeToJson reading type
    have hlist := listOfJson?_listToJson reading members
    simp [ofJson?_of_row hrow, required, Json.toText?, Span.faithful.reads, htype, hlist]

lemma optional_typeToJson (reading : Reading) (type : Option ParameterType) :
    Json.optional (typeOfJson? reading) (some (typeToJson type)) = some type := by
  match type with
  | none => rfl
  | some (.named text) =>
    have h := typeOfJson?_named (Json.choice?_named reading "named" (.str text))
    simp [typeToJson, Json.optional, h]
  | some (.structural members) =>
    have h := typeOfJson?_structural
      (Json.choice?_named reading "structural" (.arr (listToJson members)))
    have hlist := listOfJson?_listToJson reading members
    simp [typeToJson, Json.optional, h, hlist]

lemma listOfJson?_listToJson (reading : Reading) (ps : List Parameter) :
    listOfJson? reading (listToJson ps) = some ps := by
  cases ps with
  | nil => simp [listToJson, listOfJson?]
  | cons p ps =>
    have hp := ofJson?_toJson reading p
    have hps := listOfJson?_listToJson reading ps
    simp [listToJson, listOfJson?, hp, hps]
end

mutual
lemma isReadable_toJson (p : Parameter) : p.toJson.isReadable = true := by
  cases p with
  | mk name type span members =>
    have htype := isReadable_typeToJson type
    have hlist := areReadable_listToJson members
    simp [toJson, Json.isReadable, Json.haveReadable, htype, hlist, Span.faithful.readable]

lemma isReadable_typeToJson (type : Option ParameterType) :
    (typeToJson type).isReadable = true := by
  match type with
  | none => rfl
  | some (.named text) => rfl
  | some (.structural members) =>
    have hlist := areReadable_listToJson members
    simp [typeToJson, Json.isReadable, Json.haveReadable, hlist]

lemma areReadable_listToJson (ps : List Parameter) :
    Json.areReadable (listToJson ps) = true := by
  cases ps with
  | nil => rfl
  | cons p ps =>
    have hp := isReadable_toJson p
    have hps := areReadable_listToJson ps
    simp [listToJson, Json.areReadable, hp, hps]
end

lemma faithful (reading : Reading) : Faithful toJson (ofJson? reading) where
  reads := ofJson?_toJson reading
  readable := isReadable_toJson
  present p := by simp [toJson_eq]

lemma listToJson_eq (ps : List Parameter) : listToJson ps = ps.map toJson := by
  induction ps with
  | nil => rfl
  | cons p ps ih => simp [listToJson, ih]

lemma list_faithful (reading : Reading) :
    Faithful (fun ps => .arr (listToJson ps)) (Json.toList? (ofJson? reading)) := by
  simp only [listToJson_eq]
  exact (faithful reading).list

end Parameter

lemma TypeArguments.faithful (reading : Reading) : Faithful toJson (ofJson? reading) where
  reads a := by
    cases a with
    | any => rfl
    | members list =>
      have hchoice := Json.choice?_named reading "members" (.arr (Parameter.listToJson list))
      have hlist := Parameter.listOfJson?_listToJson reading list
      simp [toJson, ofJson?, hchoice, hlist]
  readable a := by
    cases a with
    | any => rfl
    | members list =>
      have hlist := Parameter.areReadable_listToJson list
      simp [toJson, Json.isReadable, Json.haveReadable, hlist]
  present a := by cases a <;> simp [toJson]

lemma Property.faithful : Faithful toJson ofJson? where
  reads p := by
    have hrow : p.toJson.row? keys = _ := Json.row?_obj rfl (by decide)
    simp [ofJson?, hrow, fields, required, Faithful.text.reads, Faithful.bool.reads,
      Visibility.faithful.optional_reads, Faithful.text.optional_reads, Span.faithful.reads,
      (TypeArguments.faithful .deferred).reads]
  readable p := by
    simp [toJson, Json.isReadable_obj, fields, Faithful.text.readable, Faithful.bool.readable,
      Visibility.faithful.optional_readable, Faithful.text.optional_readable,
      Span.faithful.readable, (TypeArguments.faithful .deferred).readable]
  present p := by simp [toJson]

lemma Variable.faithful : Faithful toJson ofJson? where
  reads v := by
    have hrow : v.toJson.row? keys = _ := Json.row?_obj rfl (by decide)
    simp [ofJson?, hrow, fields, required, Faithful.text.reads, Faithful.bool.reads,
      Faithful.text.optional_reads, Span.faithful.reads]
  readable v := by
    simp [toJson, Json.isReadable_obj, fields, Faithful.text.readable, Faithful.bool.readable,
      Faithful.text.optional_readable, Span.faithful.readable]
  present v := by simp [toJson]

lemma Method.faithful : Faithful toJson ofJson? where
  reads m := by
    have hrow : m.toJson.row? keys = _ := Json.row?_obj rfl (by decide)
    simp [ofJson?, hrow, fields, required, Faithful.text.reads, Faithful.bool.reads,
      Visibility.faithful.optional_reads, Faithful.text.optional_reads, Span.faithful.reads,
      (Parameter.list_faithful .deferred).reads, (TypeArguments.faithful .deferred).reads,
      Variable.faithful.list.reads]
  readable m := by
    simp [toJson, Json.isReadable_obj, fields, Faithful.text.readable, Faithful.bool.readable,
      Visibility.faithful.optional_readable, Faithful.text.optional_readable,
      Span.faithful.readable, (Parameter.list_faithful .deferred).readable,
      (TypeArguments.faithful .deferred).readable, Variable.faithful.list.readable]
  present m := by simp [toJson]

lemma Constructor.faithful : Faithful toJson ofJson? where
  reads c := by
    have hrow : c.toJson.row? keys = _ := Json.row?_obj rfl (by decide)
    simp [ofJson?, hrow, fields, required, Faithful.text.reads, Span.faithful.reads,
      (Parameter.list_faithful .deferred).reads, Variable.faithful.list.reads]
  readable c := by
    simp [toJson, Json.isReadable_obj, fields, Faithful.text.readable, Span.faithful.readable,
      (Parameter.list_faithful .deferred).readable, Variable.faithful.list.readable]
  present c := by simp [toJson]

lemma Accessor.faithful : Faithful toJson ofJson? where
  reads a := by
    have hrow : a.toJson.row? keys = _ := Json.row?_obj rfl (by decide)
    simp [ofJson?, hrow, fields, required, AccessorKind.faithful.reads, Faithful.text.reads,
      Faithful.bool.reads, Visibility.faithful.optional_reads, Faithful.text.optional_reads,
      Span.faithful.reads]
  readable a := by
    simp [toJson, Json.isReadable_obj, fields, AccessorKind.faithful.readable,
      Faithful.text.readable, Faithful.bool.readable, Visibility.faithful.optional_readable,
      Faithful.text.optional_readable, Span.faithful.readable]
  present a := by simp [toJson]

lemma ClassOutline.faithful : Faithful toJson ofJson? where
  reads c := by
    have hrow : c.toJson.row? keys = _ := Json.row?_obj rfl (by decide)
    simp [ofJson?, hrow, fields, required, Faithful.text.reads, Faithful.bool.reads,
      Span.faithful.reads, Property.faithful.list.reads, Method.faithful.list.reads,
      Accessor.faithful.list.reads, Constructor.faithful.optional_reads,
      Faithful.text.list.reads]
  readable c := by
    simp [toJson, Json.isReadable_obj, fields, Faithful.text.readable, Faithful.bool.readable,
      Span.faithful.readable, Property.faithful.list.readable, Method.faithful.list.readable,
      Accessor.faithful.list.readable, Constructor.faithful.optional_readable,
      Faithful.text.list.readable]
  present c := by simp [toJson]

lemma DefaultExport.faithful : Faithful (fun d => .obj d.fields) ofJson? where
  reads d := by
    have hrow : (Json.obj d.fields).row? keys = _ := Json.row?_obj rfl (by decide)
    rw [ofJson?, hrow]
    simp [fields, required, Faithful.text.reads, Span.faithful.reads]
  readable d := by
    simp [Json.isReadable_obj, fields, Faithful.text.readable, Span.faithful.readable]
  present d := by simp

namespace Declaration

lemma tagKey_not_mem (d : Declaration) : tagKey ∉ d.fields.map Prod.fst := by
  cases d with
  | ofClass c => exact (show tagKey ∉ ClassOutline.keys by decide)
  | ofDefault d => exact (show tagKey ∉ DefaultExport.keys by decide)
  | ofProperty p => exact (show tagKey ∉ Property.keys by decide)
  | ofMethod m => exact (show tagKey ∉ Method.keys by decide)
  | ofAccessor a => exact (show tagKey ∉ Accessor.keys by decide)
  | ofConstructor c => exact (show tagKey ∉ Constructor.keys by decide)
  | ofParameter p => exact (show tagKey ∉ Parameter.keys by decide)
  | ofVariable v => exact (show tagKey ∉ Variable.keys by decide)

lemma isReadable_fields (d : Declaration) : (Json.obj d.fields).isReadable = true := by
  cases d with
  | ofClass c => exact ClassOutline.faithful.readable c
  | ofDefault d => exact DefaultExport.faithful.readable d
  | ofProperty p => exact Property.faithful.readable p
  | ofMethod m => exact Method.faithful.readable m
  | ofAccessor a => exact Accessor.faithful.readable a
  | ofConstructor c => exact Constructor.faithful.readable c
  | ofParameter p => exact p.toJson_eq ▸ Parameter.isReadable_toJson p
  | ofVariable v => exact Variable.faithful.readable v

lemma tagged?_toJson (d : Declaration) :
    d.toJson.tagged? tagKey = some (d.tag, .obj d.fields) :=
  Json.tagged?_obj d.tagKey_not_mem d.isReadable_fields

lemma faithful : Faithful toJson ofJson? where
  reads d := by
    rw [ofJson?, tagged?_toJson]
    cases d with
    | ofClass c => exact congrArg (Option.map ofClass) (ClassOutline.faithful.reads c)
    | ofDefault d => exact congrArg (Option.map ofDefault) (DefaultExport.faithful.reads d)
    | ofProperty p => exact congrArg (Option.map ofProperty) (Property.faithful.reads p)
    | ofMethod m => exact congrArg (Option.map ofMethod) (Method.faithful.reads m)
    | ofAccessor a => exact congrArg (Option.map ofAccessor) (Accessor.faithful.reads a)
    | ofConstructor c => exact congrArg (Option.map ofConstructor) (Constructor.faithful.reads c)
    | ofParameter p =>
      have hp := Parameter.ofJson?_toJson .deferred p
      rw [Parameter.toJson_eq] at hp
      exact congrArg (Option.map ofParameter) hp
    | ofVariable v => exact congrArg (Option.map ofVariable) (Variable.faithful.reads v)
  readable d := by
    have hfields := (Json.isReadable_obj d.fields).mp d.isReadable_fields
    rw [toJson, Json.isReadable_obj, List.forall_mem_cons]
    exact ⟨rfl, hfields⟩
  present d := by simp [toJson]

end Declaration

lemma Specifier.faithful : Faithful toJson ofJson? where
  reads s := by
    have hrow : s.toJson.row? keys = _ := Json.row?_obj rfl (by decide)
    simp [ofJson?, hrow, required, Faithful.text.reads, Faithful.text.optional_reads]
  readable s := by
    simp [toJson, Json.isReadable_obj, Faithful.text.readable, Faithful.text.optional_readable]
  present s := by simp [toJson]

lemma NamedImport.faithful : Faithful toJson ofJson? where
  reads i := by
    have hoffset : Faithful offsetToJson Json.toUInt32? := Faithful.uint32
    have hrow : i.toJson.row? keys = _ := Json.row?_obj rfl (by decide)
    simp [ofJson?, hrow, required, Faithful.text.reads, Faithful.text.optional_reads,
      Specifier.faithful.list.reads, hoffset.optional_reads]
  readable i := by
    have hoffset : Faithful offsetToJson Json.toUInt32? := Faithful.uint32
    simp [toJson, Json.isReadable_obj, Faithful.text.readable, Faithful.text.optional_readable,
      Specifier.faithful.list.readable, hoffset.optional_readable]
  present i := by simp [toJson]

namespace Path

lemma display_ofText (text : String) : (ofText text).display = text :=
  Utf8.lossyText_encode text

lemma ofText_display {p : Path} (h : Utf8.IsText p.bytes) : ofText p.display = p := by
  obtain ⟨text, hbytes⟩ := h
  rw [display, hbytes, Utf8.lossyText_encode, ofText, ← hbytes]

lemma text?_eq_some {p : Path} {text : String} :
    p.text? = some text ↔ Utf8.IsText p.bytes ∧ p.display = text := by
  rw [Path.text?, Utf8.text?_eq_some, display]
  constructor
  · intro h
    exact ⟨⟨text, h⟩, by rw [h, Utf8.lossyText_encode]⟩
  · rintro ⟨⟨text, h⟩, rfl⟩
    rw [h, Utf8.lossyText_encode]

end Path

namespace ResourceKind

/-- Whether the paths of a file are texts; only then there is a form to write. -/
def HasTextPaths : ResourceKind → Prop
  | file path root => Utf8.IsText path.bytes ∧ Utf8.IsText root.bytes
  | _ => True

/-- The fields with paths as they are shown, which is as they are where they are texts. -/
def fields : ResourceKind → List (String × Json)
  | file path root => [("file_path", .str path.display), ("root_path", .str root.display)]
  | ambientModule name => [("name", .str name)]
  | ambientNamespace name => [("name", .str name)]

def toJson (k : ResourceKind) : Json :=
  .obj ((tagKey, .str k.tag) :: k.fields)

lemma fields?_eq_some {k : ResourceKind} {fields : List (String × Json)} :
    k.fields? = some fields ↔ k.HasTextPaths ∧ k.fields = fields := by
  cases k with
  | file path root =>
    rw [fields?, bind_eq_some_of_iff fun _ => Path.text?_eq_some,
      bind_eq_some_of_iff fun _ => Path.text?_eq_some, Option.pure_def, Option.some.injEq,
      HasTextPaths, ResourceKind.fields, and_assoc]
  | ambientModule name => simp [fields?, HasTextPaths, ResourceKind.fields]
  | ambientNamespace name => simp [fields?, HasTextPaths, ResourceKind.fields]

lemma toJson?_eq_some {k : ResourceKind} {j : Json} :
    k.toJson? = some j ↔ k.HasTextPaths ∧ k.toJson = j := by
  rw [toJson?, bind_eq_some_of_iff fun _ => fields?_eq_some, Option.pure_def, Option.some.injEq,
    toJson]

lemma tagKey_not_mem (k : ResourceKind) : tagKey ∉ k.fields.map Prod.fst := by
  cases k with
  | file path root => exact (show tagKey ∉ fileKeys by decide)
  | ambientModule name => exact (show tagKey ∉ nameKeys by decide)
  | ambientNamespace name => exact (show tagKey ∉ nameKeys by decide)

lemma isReadable_fields (k : ResourceKind) : (Json.obj k.fields).isReadable = true := by
  cases k <;> rfl

lemma tagged?_toJson (k : ResourceKind) :
    k.toJson.tagged? tagKey = some (k.tag, .obj k.fields) :=
  Json.tagged?_obj k.tagKey_not_mem k.isReadable_fields

lemma ofJson?_toJson {k : ResourceKind} (h : k.HasTextPaths) : ofJson? k.toJson = some k := by
  rw [ofJson?, tagged?_toJson]
  cases k with
  | file path root =>
    have hpath := Path.ofText_display h.1
    have hroot := Path.ofText_display h.2
    change some (file (.ofText path.display) (.ofText root.display)) = _
    rw [hpath, hroot]
  | ambientModule name => rfl
  | ambientNamespace name => rfl

lemma hasTextPaths_of_ofJson? {j : Json} {k : ResourceKind} (h : ofJson? j = some k) :
    k.HasTextPaths := by
  rw [ofJson?] at h
  split at h
  · split at h
    · simp only [Option.pure_def, Option.bind_eq_bind, Option.bind_eq_some_iff,
        Option.some.injEq] at h
      obtain ⟨path, _, root, _, rfl⟩ := h
      exact ⟨⟨path, rfl⟩, ⟨root, rfl⟩⟩
    · cases h
  · obtain ⟨name, _, rfl⟩ := Option.map_eq_some_iff.mp h
    trivial
  · obtain ⟨name, _, rfl⟩ := Option.map_eq_some_iff.mp h
    trivial
  · cases h

end ResourceKind

namespace Resource

mutual
def kinds : Resource → List ResourceKind
  | ⟨kind, _, _, _, resources⟩ => kind :: kindsOfAll resources

def kindsOfAll : List Resource → List ResourceKind
  | [] => []
  | r :: rs => r.kinds ++ kindsOfAll rs
end

mutual
def toJson : Resource → Json
  | ⟨kind, declarations, usages, imports, resources⟩ =>
    .obj [("kind", kind.toJson), ("declarations", .arr (declarations.map Declaration.toJson)),
      ("usages", .arr (usages.map .str)), ("imports", .arr (imports.map NamedImport.toJson)),
      ("resources", .arr (listToJson resources))]

def listToJson : List Resource → List Json
  | [] => []
  | r :: rs => r.toJson :: listToJson rs
end

def HasTextPaths (r : Resource) : Prop :=
  ∀ k ∈ r.kinds, k.HasTextPaths

mutual
lemma toJson?_eq_some {r : Resource} {j : Json} :
    r.toJson? = some j ↔ r.HasTextPaths ∧ r.toJson = j := by
  cases r with
  | mk kind declarations usages imports resources =>
    rw [toJson?, bind_eq_some_of_iff fun _ => ResourceKind.toJson?_eq_some,
      bind_eq_some_of_iff fun _ => listToJson?_eq_some, Option.pure_def, Option.some.injEq,
      HasTextPaths, kinds, List.forall_mem_cons, toJson, and_assoc]

lemma listToJson?_eq_some {rs : List Resource} {js : List Json} :
    listToJson? rs = some js ↔ (∀ k ∈ kindsOfAll rs, k.HasTextPaths) ∧ listToJson rs = js := by
  cases rs with
  | nil => simp [listToJson?, listToJson, kindsOfAll]
  | cons r rs =>
    rw [listToJson?, bind_eq_some_of_iff fun _ => toJson?_eq_some,
      bind_eq_some_of_iff fun _ => listToJson?_eq_some, Option.pure_def, Option.some.injEq,
      kindsOfAll, List.forall_mem_append, listToJson, and_assoc, HasTextPaths]
end

lemma ofJson?_of_row {j : Json} {kind declarations usages imports : Option Json}
    {resources : List Json}
    (h : j.row? keys = some [kind, declarations, usages, imports, some (.arr resources)]) :
    ofJson? j = do
      return ⟨← required ResourceKind.ofJson? kind,
        ← required (Json.toList? Declaration.ofJson?) declarations,
        ← required (Json.toList? Json.toText?) usages,
        ← required (Json.toList? NamedImport.ofJson?) imports,
        ← listOfJson? resources⟩ := by
  rw [ofJson?]
  split
  · rename_i h'
    rw [h] at h'
    simp only [Option.some.injEq, List.cons.injEq, Json.arr.injEq, and_true] at h'
    obtain ⟨rfl, rfl, rfl, rfl, rfl⟩ := h'
    rfl
  · rename_i hno
    exact (hno _ _ _ _ _ h).elim

mutual
lemma ofJson?_toJson {r : Resource} (h : r.HasTextPaths) : ofJson? r.toJson = some r := by
  cases r with
  | mk kind declarations usages imports resources =>
    rw [HasTextPaths, kinds, List.forall_mem_cons] at h
    have hrow : (toJson ⟨kind, declarations, usages, imports, resources⟩).row? keys =
        some [some kind.toJson, some (.arr (declarations.map Declaration.toJson)),
          some (.arr (usages.map .str)), some (.arr (imports.map NamedImport.toJson)),
          some (.arr (listToJson resources))] := by
      rw [toJson]
      exact Json.row?_obj rfl (by decide)
    have hlist := listOfJson?_listToJson h.2
    simp [ofJson?_of_row hrow, required, ResourceKind.ofJson?_toJson h.1,
      Declaration.faithful.list.reads, Faithful.text.list.reads, NamedImport.faithful.list.reads,
      hlist]

lemma listOfJson?_listToJson {rs : List Resource} (h : ∀ k ∈ kindsOfAll rs, k.HasTextPaths) :
    listOfJson? (listToJson rs) = some rs := by
  cases rs with
  | nil => simp [listToJson, listOfJson?]
  | cons r rs =>
    rw [kindsOfAll, List.forall_mem_append] at h
    have hr := ofJson?_toJson h.1
    have hrs := listOfJson?_listToJson h.2
    simp [listToJson, listOfJson?, hr, hrs]
end

mutual
lemma hasTextPaths_of_ofJson? {j : Json} {r : Resource} (h : ofJson? j = some r) :
    r.HasTextPaths := by
  rw [ofJson?] at h
  split at h
  · rename_i kind declarations usages imports resources hrow
    have hsize : sizeOf resources < sizeOf j := by
      have hitem := Json.sizeOf_lt_of_row? hrow (v := .arr resources) (by simp)
      rw [Json.arr.sizeOf_spec] at hitem
      omega
    simp only [Option.pure_def, Option.bind_eq_bind, Option.bind_eq_some_iff,
      Option.some.injEq] at h
    obtain ⟨_, hkind, _, _, _, _, _, _, _, hresources, rfl⟩ := h
    obtain ⟨_, _, hkind⟩ := Option.bind_eq_some_iff.mp hkind
    rw [HasTextPaths, kinds, List.forall_mem_cons]
    exact ⟨ResourceKind.hasTextPaths_of_ofJson? hkind, hasTextPaths_of_listOfJson? hresources⟩
  · cases h
termination_by sizeOf j

lemma hasTextPaths_of_listOfJson? {items : List Json} {rs : List Resource}
    (h : listOfJson? items = some rs) : ∀ k ∈ kindsOfAll rs, k.HasTextPaths := by
  cases items with
  | nil =>
    rw [listOfJson?, Option.some.injEq] at h
    simp [← h, kindsOfAll]
  | cons j items =>
    simp only [listOfJson?, Option.pure_def, Option.bind_eq_bind, Option.bind_eq_some_iff,
      Option.some.injEq] at h
    obtain ⟨r, hr, rs, hrs, rfl⟩ := h
    rw [kindsOfAll, List.forall_mem_append]
    exact ⟨hasTextPaths_of_ofJson? hr, hasTextPaths_of_listOfJson? hrs⟩
termination_by sizeOf items
end

end Resource

theorem reading_undoes_writing :
    (∀ r : Resource, (∃ j, r.toJson? = some j) ↔ r.HasTextPaths) ∧
    (∀ (r : Resource) (j : Json), r.toJson? = some j → Resource.ofJson? j = some r) ∧
    (∀ d : Declaration, Declaration.ofJson? d.toJson = some d) ∧
    ∀ i : NamedImport, NamedImport.ofJson? i.toJson = some i := by
  refine ⟨?_, ?_, Declaration.faithful.reads, NamedImport.faithful.reads⟩
  · intro r
    simp only [Resource.toJson?_eq_some, exists_and_left, exists_eq', and_true]
  · intro r j h
    obtain ⟨htext, rfl⟩ := Resource.toJson?_eq_some.mp h
    exact Resource.ofJson?_toJson htext

def fileAt (path : Path) : Resource :=
  ⟨.file path (.ofText "/é"), [], ["x"], [⟨"lib", none, [], none, none⟩],
    [⟨.ambientModule "m", [.ofDefault ⟨"d", ⟨0, 1⟩⟩], [], [], []⟩]⟩

theorem fileAt_written_and_read :
    (∃ j, (fileAt (.ofText "/é/a.ts")).toJson? = some j ∧
      Resource.ofJson? j = some (fileAt (.ofText "/é/a.ts"))) ∧
    (fileAt ⟨[0xFF]⟩).toJson? = none := by
  obtain ⟨hwritten, hread, _⟩ := reading_undoes_writing
  have htext : (fileAt (.ofText "/é/a.ts")).HasTextPaths := by
    simp [Resource.HasTextPaths, fileAt, Resource.kinds, Resource.kindsOfAll,
      ResourceKind.HasTextPaths, Utf8.IsText, Path.ofText]
  obtain ⟨j, hj⟩ := (hwritten _).mpr htext
  exact ⟨⟨j, hj, hread _ j hj⟩, rfl⟩

end SourceOutline
