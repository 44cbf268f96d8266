import SourceOutline.Proofs.Rereading

/-! All kinds of records are read by their columns. -/

namespace SourceOutline

open Json

lemma Span.recast_eq (j : Json) :
    recast ofJson? toJson j =
      (rereadColumns Part.spanColumns j).map fun vs => .obj (keys.zip vs) := by
  refine map_eq_rereadColumns keys 2 rfl rfl (fun hrow => by simp [ofJson?, hrow]) ?_
  intro column hrow
  rw [ofJson?, hrow]
  simp only [List.ofFn_succ, List.ofFn_zero]
  exact needed_then rfl fun start => needed_then rfl fun stop => rfl

namespace Parameter

lemma listOfJson?_eq (reading : Reading) (items : List Json) :
    listOfJson? reading items = items.mapM (ofJson? reading) := by
  induction items with
  | nil => simp [listOfJson?]
  | cons v items ih => simp [listOfJson?, ih]

lemma ofJson?_eq {reading : Reading} {j : Json} {name type span members : Option Json}
    (h : j.row? keys = some [name, type, span, members]) :
    ofJson? reading j = do
      return ⟨← required Json.toText? name, ← Json.optional (typeOfJson? reading) type,
        ← required Span.ofJson? span, ← required (toList? (ofJson? reading)) members⟩ := by
  by_cases hlist : ∃ items, members = some (.arr items)
  · obtain ⟨items, rfl⟩ := hlist
    simp [ofJson?_of_row h, listOfJson?_eq, required, toList?]
  · rw [ofJson?]
    split
    · rename_i h'
      rw [h] at h'
      simp only [Option.some.injEq, List.cons.injEq, and_true] at h'
      exact absurd ⟨_, h'.2.2.2⟩ hlist
    · simp [required_toList?_eq_none hlist]

lemma typeToJson_eq (type : Option ParameterType) :
    typeToJson type = ofOption (fun t => typeToJson (some t)) type := by
  cases type <;> rfl

lemma reread_list : (Form.list (.part .parameter)).reread =
    recast (toList? (ofJson? .deferred)) fun ps => .arr (listToJson ps) := by
  simp only [listToJson_eq]
  exact Form.reread_list rfl

lemma reread_fields (j : Json) : (ofJson? .deferred j).map fields =
    (rereadColumns Part.parameterColumns j).map keys.zip := by
  refine map_eq_rereadColumns keys 4 rfl rfl ?_ ?_
  · intro hrow
    rw [ofJson?]
    split
    · simp_all
    · rfl
  · intro column hrow
    simp only [List.ofFn_succ, List.ofFn_zero] at hrow ⊢
    rw [ofJson?_eq hrow]
    refine needed_then rfl fun name => maybe_then rfl fun type => needed_then rfl fun span =>
      needed_then reread_list fun members => ?_
    simp [rereadRow, fields, keys, typeToJson_eq type]

end Parameter

lemma Property.reread_fields (j : Json) :
    (ofJson? j).map fields = (rereadColumns Part.propertyColumns j).map keys.zip := by
  refine map_eq_rereadColumns keys 7 rfl rfl (fun hrow => by simp [ofJson?, hrow]) ?_
  intro column hrow
  rw [ofJson?, hrow]
  simp only [List.ofFn_succ, List.ofFn_zero]
  exact needed_then rfl fun name => maybe_then rfl fun visibility => maybe_then rfl fun type =>
    needed_then rfl fun isOptional => needed_then rfl fun isStatic =>
    needed_then rfl fun span => needed_then rfl fun typeArguments => rfl

lemma Variable.reread_fields (j : Json) :
    (ofJson? j).map fields = (rereadColumns Part.variableColumns j).map keys.zip := by
  refine map_eq_rereadColumns keys 4 rfl rfl (fun hrow => by simp [ofJson?, hrow]) ?_
  intro column hrow
  rw [ofJson?, hrow]
  simp only [List.ofFn_succ, List.ofFn_zero]
  exact needed_then rfl fun name => needed_then rfl fun isConst => maybe_then rfl fun type =>
    needed_then rfl fun span => rfl

lemma Method.reread_fields (j : Json) :
    (ofJson? j).map fields = (rereadColumns Part.methodColumns j).map keys.zip := by
  refine map_eq_rereadColumns keys 11 rfl rfl (fun hrow => by simp [ofJson?, hrow]) ?_
  intro column hrow
  rw [ofJson?, hrow]
  simp only [List.ofFn_succ, List.ofFn_zero]
  exact needed_then rfl fun name => needed_then rfl fun isAbstract =>
    maybe_then rfl fun visibility => maybe_then rfl fun returnType =>
    needed_then rfl fun isOptional => needed_then rfl fun isStatic =>
    needed_then rfl fun isAsync => needed_then rfl fun span =>
    needed_then Parameter.reread_list fun parameters => needed_then rfl fun typeArguments =>
    needed_then (Form.reread_list rfl) fun locals => rfl

lemma Constructor.reread_fields (j : Json) :
    (ofJson? j).map fields = (rereadColumns Part.constructorColumns j).map keys.zip := by
  refine map_eq_rereadColumns keys 4 rfl rfl (fun hrow => by simp [ofJson?, hrow]) ?_
  intro column hrow
  rw [ofJson?, hrow]
  simp only [List.ofFn_succ, List.ofFn_zero]
  exact needed_then rfl fun name => needed_then rfl fun span =>
    needed_then Parameter.reread_list fun parameters =>
    needed_then (Form.reread_list rfl) fun locals => rfl

lemma Accessor.reread_fields (j : Json) :
    (ofJson? j).map fields = (rereadColumns Part.accessorColumns j).map keys.zip := by
  refine map_eq_rereadColumns keys 7 rfl rfl (fun hrow => by simp [ofJson?, hrow]) ?_
  intro column hrow
  rw [ofJson?, hrow]
  simp only [List.ofFn_succ, List.ofFn_zero]
  exact needed_then rfl fun kind => needed_then rfl fun name => maybe_then rfl fun visibility =>
    maybe_then rfl fun type => needed_then rfl fun isAbstract =>
    needed_then rfl fun isStatic => needed_then rfl fun span => rfl

lemma ClassOutline.reread_fields (j : Json) :
    (ofJson? j).map fields = (rereadColumns Part.classColumns j).map keys.zip := by
  refine map_eq_rereadColumns keys 8 rfl rfl (fun hrow => by simp [ofJson?, hrow]) ?_
  intro column hrow
  rw [ofJson?, hrow]
  simp only [List.ofFn_succ, List.ofFn_zero]
  exact needed_then rfl fun name => needed_then rfl fun isExported =>
    needed_then rfl fun span => needed_then (Form.reread_list rfl) fun properties =>
    needed_then (Form.reread_list rfl) fun methods =>
    needed_then (Form.reread_list rfl) fun accessors => maybe_then rfl fun ctor =>
    needed_then (Form.reread_list rfl) fun typeParameters => rfl

lemma DefaultExport.reread_fields (j : Json) :
    (ofJson? j).map fields = (rereadColumns Part.defaultColumns j).map keys.zip := by
  refine map_eq_rereadColumns keys 2 rfl rfl (fun hrow => by simp [ofJson?, hrow]) ?_
  intro column hrow
  rw [ofJson?, hrow]
  simp only [List.ofFn_succ, List.ofFn_zero]
  exact needed_then rfl fun name => needed_then rfl fun span => rfl

lemma Specifier.recast_eq (j : Json) :
    recast ofJson? toJson j =
      (rereadColumns Part.specifierColumns j).map fun vs => .obj (keys.zip vs) := by
  refine map_eq_rereadColumns keys 2 rfl rfl (fun hrow => by simp [ofJson?, hrow]) ?_
  intro column hrow
  rw [ofJson?, hrow]
  simp only [List.ofFn_succ, List.ofFn_zero]
  exact needed_then rfl fun name => maybe_then rfl fun localName => rfl

lemma NamedImport.recast_eq (j : Json) :
    recast ofJson? toJson j =
      (rereadColumns Part.importColumns j).map fun vs => .obj (keys.zip vs) := by
  refine map_eq_rereadColumns keys 5 rfl rfl (fun hrow => by simp [ofJson?, hrow]) ?_
  intro column hrow
  rw [ofJson?, hrow]
  simp only [List.ofFn_succ, List.ofFn_zero]
  exact needed_then rfl fun library => maybe_then rfl fun defaultName =>
    needed_then (Form.reread_list rfl) fun specifiers => maybe_then rfl fun start =>
    maybe_then rfl fun stop => rfl

namespace Resource

lemma listOfJson?_eq (items : List Json) : listOfJson? items = items.mapM ofJson? := by
  induction items with
  | nil => simp [listOfJson?]
  | cons v items ih => simp [listOfJson?, ih]

lemma listToJson_eq (rs : List Resource) : listToJson rs = rs.map toJson := by
  induction rs with
  | nil => rfl
  | cons r rs ih => simp [listToJson, ih]

lemma ofJson?_eq {j : Json} {kind declarations usages imports resources : Option Json}
    (h : j.row? keys = some [kind, declarations, usages, imports, resources]) :
    ofJson? j = do
      return ⟨← required ResourceKind.ofJson? kind,
        ← required (toList? Declaration.ofJson?) declarations,
        ← required (toList? toText?) usages, ← required (toList? NamedImport.ofJson?) imports,
        ← required (toList? ofJson?) resources⟩ := by
  by_cases hlist : ∃ items, resources = some (.arr items)
  · obtain ⟨items, rfl⟩ := hlist
    simp [ofJson?_of_row h, listOfJson?_eq, required, toList?]
  · rw [ofJson?]
    split
    · rename_i h'
      rw [h] at h'
      simp only [Option.some.injEq, List.cons.injEq, and_true] at h'
      exact absurd ⟨_, h'.2.2.2.2⟩ hlist
    · simp [required_toList?_eq_none hlist]

lemma recast_eq (j : Json) :
    recast ofJson? toJson j =
      (rereadColumns Part.resourceColumns j).map fun vs => .obj (keys.zip vs) := by
  refine map_eq_rereadColumns keys 5 rfl rfl ?_ ?_
  · intro hrow
    rw [ofJson?]
    split
    · simp_all
    · rfl
  · intro column hrow
    simp only [List.ofFn_succ, List.ofFn_zero] at hrow ⊢
    rw [ofJson?_eq hrow]
    refine needed_then rfl fun kind => needed_then (Form.reread_list rfl) fun declarations =>
      needed_then (Form.reread_list rfl) fun usages =>
      needed_then (Form.reread_list rfl) fun imports =>
      needed_then (Form.reread_list rfl) fun resources => ?_
    simp [rereadRow, toJson, keys, listToJson_eq]

end Resource

namespace Parameter

lemma typeOfJson?_of_none {j : Json} (h : j.choice? .deferred = none) :
    typeOfJson? .deferred j = none := by
  rw [typeOfJson?]
  split <;> simp_all

lemma typeOfJson?_eq_named {j : Json} {value : Option Json}
    (h : j.choice? .deferred = some ("named", value, .deferred)) :
    typeOfJson? .deferred j = (required toText? value).map .named := by
  rw [typeOfJson?]
  split
  · rename_i h'
    rw [h] at h'
    simp only [Option.some.injEq, Prod.mk.injEq, true_and] at h'
    rw [h'.1]
    rfl
  · simp_all
  · rename_i hno _
    cases value with
    | none => rfl
    | some v =>
      cases v with
      | str text => exact absurd h (hno text _)
      | _ => rfl

lemma typeOfJson?_eq_structural {j : Json} {value : Option Json}
    (h : j.choice? .deferred = some ("structural", value, .deferred)) :
    typeOfJson? .deferred j =
      (required (toList? (ofJson? .deferred)) value).map .structural := by
  rw [typeOfJson?]
  split
  · simp_all
  · rename_i h'
    rw [h] at h'
    simp only [Option.some.injEq, Prod.mk.injEq, true_and] at h'
    rw [h'.1, ← h'.2, listOfJson?_eq]
    rfl
  · rename_i hno
    cases value with
    | none => rfl
    | some v =>
      cases v with
      | arr members => exact absurd h (hno members _)
      | _ => rfl

lemma readsBy_type {columns : List Column} (h : columns ∈ Part.schemes .parameterType) :
    ReadsBy columns (Part.reread .parameterType) := by
  have hnone : ∀ j : Json, j.choice? .deferred = none → Part.reread .parameterType j = none := by
    intro j hj
    simp [Part.reread, recast, typeOfJson?_of_none hj]
  simp only [Part.schemes, List.mem_cons, List.not_mem_nil, or_false] at h
  rcases h with rfl | rfl
  · refine readsBy_choice (fun vs => .obj (choiceKeys.zip vs)) rfl (fun j value hj => ?_) hnone
    rw [Part.reread, recast, typeOfJson?_eq_named hj, reread_needed rfl, Option.map_map,
      Option.map_map]
    rfl
  · refine readsBy_choice (fun vs => .obj (choiceKeys.zip vs)) rfl (fun j value hj => ?_) hnone
    rw [Part.reread, recast, typeOfJson?_eq_structural hj, reread_needed reread_list,
      Option.map_map, Option.map_map]
    rfl

end Parameter

lemma TypeArguments.readsBy {columns : List Column} (h : columns ∈ Part.schemes .typeArguments) :
    ReadsBy columns (Part.reread .typeArguments) := by
  have hnone : ∀ j : Json, j.choice? .deferred = none → Part.reread .typeArguments j = none := by
    intro j hj
    simp [Part.reread, recast, ofJson?, hj]
  simp only [Part.schemes, List.mem_cons, List.not_mem_nil, or_false] at h
  rcases h with rfl | rfl
  · refine readsBy_choice (fun _ => toJson any) rfl (fun j value hj => ?_) hnone
    rw [Part.reread, recast, ofJson?, hj]
    cases value with
    | none => rfl
    | some v => cases v <;> rfl
  · refine readsBy_choice (fun vs => .obj (choiceKeys.zip vs)) rfl (fun j value hj => ?_) hnone
    rw [reread_needed Parameter.reread_list, Part.reread, recast, ofJson?, hj]
    cases value with
    | none => rfl
    | some v =>
      cases v with
      | arr list =>
        simp only [Parameter.listOfJson?_eq, Option.map_map]
        rfl
      | _ => rfl

lemma Declaration.readsBy {columns : List Column} (h : columns ∈ Part.schemes .declaration) :
    ReadsBy columns (Part.reread .declaration) := by
  have hnone : ∀ j : Json, j.tagged? tagKey = none → Part.reread .declaration j = none := by
    intro j hj
    simp [Part.reread, recast, ofJson?, hj]
  simp only [Part.schemes, List.mem_cons, List.not_mem_nil, or_false] at h
  rcases h with rfl | rfl | rfl | rfl | rfl | rfl | rfl | rfl
  · refine readsBy_variant (by decide) ClassOutline.reread_fields (fun j rest hj => ?_) hnone
    simp [Part.reread, recast, ofJson?, tagKey, hj, toJson, tag, fields, Function.comp_def]
  · refine readsBy_variant (by decide) DefaultExport.reread_fields (fun j rest hj => ?_) hnone
    simp [Part.reread, recast, ofJson?, tagKey, hj, toJson, tag, fields, Function.comp_def]
  · refine readsBy_variant (by decide) Property.reread_fields (fun j rest hj => ?_) hnone
    simp [Part.reread, recast, ofJson?, tagKey, hj, toJson, tag, fields, Function.comp_def]
  · refine readsBy_variant (by decide) Method.reread_fields (fun j rest hj => ?_) hnone
    simp [Part.reread, recast, ofJson?, tagKey, hj, toJson, tag, fields, Function.comp_def]
  · refine readsBy_variant (by decide) Accessor.reread_fields (fun j rest hj => ?_) hnone
    simp [Part.reread, recast, ofJson?, tagKey, hj, toJson, tag, fields, Function.comp_def]
  · refine readsBy_variant (by decide) Constructor.reread_fields (fun j rest hj => ?_) hnone
    simp [Part.reread, recast, ofJson?, tagKey, hj, toJson, tag, fields, Function.comp_def]
  · refine readsBy_variant (by decide) Parameter.reread_fields (fun j rest hj => ?_) hnone
    simp [Part.reread, recast, ofJson?, tagKey, hj, toJson, tag, fields, Function.comp_def]
  · refine readsBy_variant (by decide) Variable.reread_fields (fun j rest hj => ?_) hnone
    simp [Part.reread, recast, ofJson?, tagKey, hj, toJson, tag, fields, Function.comp_def]

lemma ResourceKind.reread_name (j : Json) :
    (nameOfJson? j).map (fun name => [("name", .str name)]) =
      (rereadColumns [.needed "name" .text] j).map nameKeys.zip := by
  refine map_eq_rereadColumns nameKeys 1 rfl rfl (fun hrow => by simp [nameOfJson?, hrow]) ?_
  intro column hrow
  rw [nameOfJson?, hrow]
  simp only [List.ofFn_succ, List.ofFn_zero]
  rw [← bind_pure (required toText? (column 0))]
  exact needed_then rfl fun name => rfl

lemma ResourceKind.readsBy {columns : List Column} (h : columns ∈ Part.schemes .resourceKind) :
    ReadsBy columns (Part.reread .resourceKind) := by
  have hnone : ∀ j : Json, j.tagged? tagKey = none → Part.reread .resourceKind j = none := by
    intro j hj
    simp [Part.reread, recast, ofJson?, hj]
  simp only [Part.schemes, List.mem_cons, List.not_mem_nil, or_false] at h
  rcases h with rfl | rfl | rfl
  · refine readsBy_tagged (fun vs => .obj ((tagKey, .str "file") :: fileKeys.zip vs)) (by decide)
      (fun j rest hj => ?_) hnone
    rw [Part.reread, recast]
    refine map_eq_rereadColumns fileKeys 2 rfl rfl ?_ ?_
    · intro hrow
      simp [ofJson?, tagKey, hj, hrow]
    · intro column hrow
      simp only [ofJson?, tagKey, hj, hrow, List.ofFn_succ, List.ofFn_zero]
      refine needed_then rfl fun path => needed_then rfl fun root => ?_
      simp [rereadRow, toJson, tag, tagKey, fields, fileKeys, Path.display_ofText]
  · refine readsBy_variant (by decide) reread_name (fun j rest hj => ?_) hnone
    simp [Part.reread, recast, ofJson?, tagKey, hj, toJson, tag, fields, Function.comp_def]
  · refine readsBy_variant (by decide) reread_name (fun j rest hj => ?_) hnone
    simp [Part.reread, recast, ofJson?, tagKey, hj, toJson, tag, fields, Function.comp_def]

lemma Json.readsBy_of_fields {α : Type} {columns : List Column} {inner : Json → Option α}
    {fields : α → List (String × Json)} {keys : List String}
    (h : ∀ j, (inner j).map fields = (rereadColumns columns j).map keys.zip) :
    ReadsBy columns (recast inner fun a => .obj (fields a)) := by
  refine ⟨fun vs => .obj (keys.zip vs), fun j _ => .inl ?_⟩
  have hj := congrArg (Option.map obj) (h j)
  rwa [Option.map_map, Option.map_map] at hj

lemma Json.Part.readsBy {p : Part} {columns : List Column} (h : columns ∈ p.schemes) :
    ReadsBy columns p.reread := by
  cases p with
  | parameterType => exact Parameter.readsBy_type h
  | typeArguments => exact TypeArguments.readsBy h
  | declaration => exact Declaration.readsBy h
  | resourceKind => exact ResourceKind.readsBy h
  | span =>
    obtain rfl := List.mem_singleton.mp h
    exact readsBy_of_eq Span.recast_eq
  | parameter =>
    obtain rfl := List.mem_singleton.mp h
    rw [Part.reread, funext Parameter.toJson_eq]
    exact readsBy_of_fields Parameter.reread_fields
  | property =>
    obtain rfl := List.mem_singleton.mp h
    exact readsBy_of_fields Property.reread_fields
  | localVariable =>
    obtain rfl := List.mem_singleton.mp h
    exact readsBy_of_fields Variable.reread_fields
  | method =>
    obtain rfl := List.mem_singleton.mp h
    exact readsBy_of_fields Method.reread_fields
  | classConstructor =>
    obtain rfl := List.mem_singleton.mp h
    exact readsBy_of_fields Constructor.reread_fields
  | accessor =>
    obtain rfl := List.mem_singleton.mp h
    exact readsBy_of_fields Accessor.reread_fields
  | classOutline =>
    obtain rfl := List.mem_singleton.mp h
    exact readsBy_of_fields ClassOutline.reread_fields
  | specifier =>
    obtain rfl := List.mem_singleton.mp h
    exact readsBy_of_eq Specifier.recast_eq
  | namedImport =>
    obtain rfl := List.mem_singleton.mp h
    exact readsBy_of_eq NamedImport.recast_eq
  | resource =>
    obtain rfl := List.mem_singleton.mp h
    exact readsBy_of_eq Resource.recast_eq

end SourceOutline
