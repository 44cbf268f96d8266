import SourceOutline.Json.Record

/-!
The forms of the values that the JSON of a resource is made of, place by place, and the rewritings
of a value that leave its form alone: other orders of keys, keys that mean nothing, absent values
left out, and records written as arrays.
-/

namespace SourceOutline.Json

inductive Part where
  | span
  | parameter
  | parameterType
  | typeArguments
  | property
  | localVariable
  | method
  | classConstructor
  | accessor
  | classOutline
  | declaration
  | specifier
  | namedImport
  | resourceKind
  | resource

/-- The kinds of values that are no records. A `tag` is one fixed text, and `nothing` has no
values, so a column for it is empty or `null`. -/
inductive Leaf where
  | text
  | truth
  | offset
  | visibility
  | accessorKind
  | tag (name : String)
  | nothing

inductive Form where
  | leaf (kind : Leaf)
  | list (item : Form)
  | part (kind : Part)

namespace Form

def text : Form := .leaf .text

def truth : Form := .leaf .truth

def offset : Form := .leaf .offset

end Form

/-- A key of a record, what stands under it, and whether that may be absent. -/
structure Column where
  key : String
  form : Form
  nullable : Bool

namespace Column

def needed (key : String) (form : Form) : Column :=
  ⟨key, form, false⟩

def maybe (key : String) (form : Form) : Column :=
  ⟨key, form, true⟩

def tag (key name : String) : Column :=
  ⟨key, .leaf (.tag name), false⟩

end Column

namespace Part

open Column (needed maybe)
open Form (text truth offset)

def spanColumns : List Column :=
  [needed "start" offset, needed "end" offset]

def parameterColumns : List Column :=
  [needed "name" text, maybe "type" (.part parameterType), needed "span" (.part span),
    needed "members" (.list (.part parameter))]

def propertyColumns : List Column :=
  [needed "name" text, maybe "visibility" (.leaf .visibility), maybe "type" text,
    needed "isOptional" truth, needed "isStatic" truth, needed "span" (.part span),
    needed "typeArguments" (.part typeArguments)]

def variableColumns : List Column :=
  [needed "name" text, needed "isConst" truth, maybe "type" text, needed "span" (.part span)]

def methodColumns : List Column :=
  [needed "name" text, needed "isAbstract" truth, maybe "visibility" (.leaf .visibility),
    maybe "returnType" text, needed "isOptional" truth, needed "isStatic" truth,
    needed "isAsync" truth, needed "span" (.part span),
    needed "parameters" (.list (.part parameter)), needed "typeArguments" (.part typeArguments),
    needed "variables" (.list (.part localVariable))]

def constructorColumns : List Column :=
  [needed "name" text, needed "span" (.part span), needed "parameters" (.list (.part parameter)),
    needed "variables" (.list (.part localVariable))]

def accessorColumns : List Column :=
  [needed "kind" (.leaf .accessorKind), needed "name" text,
    maybe "visibility" (.leaf .visibility), maybe "type" text, needed "isAbstract" truth,
    needed "isStatic" truth, needed "span" (.part span)]

def classColumns : List Column :=
  [needed "name" text, needed "isExported" truth, needed "span" (.part span),
    needed "properties" (.list (.part property)), needed "methods" (.list (.part method)),
    needed "accessors" (.list (.part accessor)), maybe "ctor" (.part classConstructor),
    needed "typeParameters" (.list text)]

def defaultColumns : List Column :=
  [needed "name" text, needed "span" (.part span)]

def specifierColumns : List Column :=
  [needed "specifier" text, maybe "alias" text]

def importColumns : List Column :=
  [needed "libraryName" text, maybe "defaultAlias" text,
    needed "specifiers" (.list (.part specifier)), maybe "start" offset, maybe "end" offset]

def resourceColumns : List Column :=
  [needed "kind" (.part resourceKind), needed "declarations" (.list (.part declaration)),
    needed "usages" (.list text), needed "imports" (.list (.part namedImport)),
    needed "resources" (.list (.part resource))]

/-- The columns of a record of this kind, in the order of its array: one list, or one for each
tag that the record may have. -/
def schemes : Part → List (List Column)
  | span => [spanColumns]
  | parameter => [parameterColumns]
  | parameterType =>
    [[.tag "kind" "named", needed "value" text],
      [.tag "kind" "structural", needed "value" (.list (.part parameter))]]
  | typeArguments =>
    [[.tag "kind" "any", maybe "value" (.leaf .nothing)],
      [.tag "kind" "members", needed "value" (.list (.part parameter))]]
  | property => [propertyColumns]
  | localVariable => [variableColumns]
  | method => [methodColumns]
  | classConstructor => [constructorColumns]
  | accessor => [accessorColumns]
  | classOutline => [classColumns]
  | declaration =>
    [.tag "declaration" "class" :: classColumns,
      .tag "declaration" "default" :: defaultColumns,
      .tag "declaration" "property" :: propertyColumns,
      .tag "declaration" "method" :: methodColumns,
      .tag "declaration" "accessor" :: accessorColumns,
      .tag "declaration" "constructor" :: constructorColumns,
      .tag "declaration" "parameter" :: parameterColumns,
      .tag "declaration" "variable" :: variableColumns]
  | specifier => [specifierColumns]
  | namedImport => [importColumns]
  | resourceKind =>
    [[.tag "kind" "file", needed "file_path" text, needed "root_path" text],
      [.tag "kind" "module", needed "name" text],
      [.tag "kind" "namespace", needed "name" text]]
  | resource => [resourceColumns]

end Part

/-- The key and the name of the tag, for columns that begin with one. -/
def tag? : List Column → Option (String × String)
  | ⟨key, .leaf (.tag name), _⟩ :: _ => some (key, name)
  | _ => none

/-- Whether a record says that it has these columns and not those of another tag. -/
def Fits (columns : List Column) : Json → Prop
  | .obj fields => ∀ key name, tag? columns = some (key, name) → (key, .str name) ∈ fields
  | .arr items => ∀ key name, tag? columns = some (key, name) → items.head? = some (.str name)
  | _ => False

/-- One rewriting of an object with the given columns. A key that means nothing may hold any value,
and what is unreadable has none. -/
inductive Rewriting (columns : List Column) : List (String × Json) → Json → Prop where
  | permute {fields fields' : List (String × Json)} (h : fields.Perm fields') :
      Rewriting columns fields (.obj fields')
  | insert (front back : List (String × Json)) {key : String} {v : Json}
      (hkey : key ∉ columns.map Column.key) (hv : v.isReadable = true) :
      Rewriting columns (front ++ back) (.obj (front ++ (key, v) :: back))
  | drop (front back : List (String × Json)) {c : Column} (hc : c ∈ columns)
      (hnull : c.nullable = true) :
      Rewriting columns (front ++ (c.key, .null) :: back) (.obj (front ++ back))
  | array (fields : List (String × Json)) :
      Rewriting columns fields
        (.arr (columns.map fun c => (fields.lookup c.key).getD .null))

/-- An object with one of its own keys given a second time, with whatever value. -/
inductive Doubling (columns : List Column) : List (String × Json) → Json → Prop where
  | again (front back : List (String × Json)) {key : String} {v : Json}
      (hkey : key ∈ columns.map Column.key) (hgiven : key ∈ (front ++ back).map Prod.fst) :
      Doubling columns (front ++ back) (.obj (front ++ (key, v) :: back))

/-- A change of the object of one record, at any depth of a value of the given form. -/
inductive Within (change : List Column → List (String × Json) → Json → Prop) :
    Form → Json → Json → Prop where
  | here {p : Part} {columns : List Column} {fields : List (String × Json)} {j : Json}
      (hs : columns ∈ p.schemes) (hfits : Fits columns (.obj fields))
      (h : change columns fields j) : Within change (.part p) (.obj fields) j
  | column {p : Part} {columns : List Column} {c : Column} (front back : List (String × Json))
      {v v' : Json} (hs : columns ∈ p.schemes) (hc : c ∈ columns)
      (hfits : Fits columns (.obj (front ++ (c.key, v) :: back)))
      (h : Within change c.form v v') :
      Within change (.part p) (.obj (front ++ (c.key, v) :: back))
        (.obj (front ++ (c.key, v') :: back))
  | entry {p : Part} {before after : List Column} {c : Column} (front back : List Json)
      {v v' : Json} (hs : before ++ c :: after ∈ p.schemes)
      (hplace : front.length = before.length)
      (hfits : Fits (before ++ c :: after) (.arr (front ++ v :: back)))
      (h : Within change c.form v v') :
      Within change (.part p) (.arr (front ++ v :: back)) (.arr (front ++ v' :: back))
  | item {f : Form} (front back : List Json) {v v' : Json} (h : Within change f v v') :
      Within change (.list f) (.arr (front ++ v :: back)) (.arr (front ++ v' :: back))

end SourceOutline.Json
