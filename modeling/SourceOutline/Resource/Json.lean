import SourceOutline.Declaration.Json
import SourceOutline.Import.Json
import SourceOutline.Resource.Basic

/-! The JSON form of resources, and its reading. -/

namespace SourceOutline

open Json (required)

namespace ResourceKind

def tagKey : String := "kind"

def tag : ResourceKind → String
  | file _ _ => "file"
  | ambientModule _ => "module"
  | ambientNamespace _ => "namespace"

def fileKeys : List String := ["file_path", "root_path"]

def nameKeys : List String := ["name"]

def fields? : ResourceKind → Option (List (String × Json))
  | file path root => do
    return [("file_path", .str (← path.text?)), ("root_path", .str (← root.text?))]
  | ambientModule name => some [("name", .str name)]
  | ambientNamespace name => some [("name", .str name)]

/-- A kind whose path is no text has no form. -/
def toJson? (k : ResourceKind) : Option Json := do
  return .obj ((tagKey, .str k.tag) :: (← k.fields?))

def nameOfJson? (j : Json) : Option String :=
  match j.row? nameKeys with
  | some [name] => required Json.toText? name
  | _ => none

def ofJson? (j : Json) : Option ResourceKind :=
  match j.tagged? tagKey with
  | some ("file", rest) =>
    match rest.row? fileKeys with
    | some [path, root] => do
      return file (.ofText (← required Json.toText? path)) (.ofText (← required Json.toText? root))
    | _ => none
  | some ("module", rest) => (nameOfJson? rest).map ambientModule
  | some ("namespace", rest) => (nameOfJson? rest).map ambientNamespace
  | _ => none

end ResourceKind

namespace Resource

def keys : List String := ["kind", "declarations", "usages", "imports", "resources"]

mutual
def toJson? : Resource → Option Json
  | ⟨kind, declarations, usages, imports, resources⟩ => do
    return .obj [("kind", ← kind.toJson?),
      ("declarations", .arr (declarations.map Declaration.toJson)),
      ("usages", .arr (usages.map .str)), ("imports", .arr (imports.map NamedImport.toJson)),
      ("resources", .arr (← listToJson? resources))]

def listToJson? : List Resource → Option (List Json)
  | [] => some []
  | r :: rs => do
    return (← r.toJson?) :: (← listToJson? rs)
end

mutual
def ofJson? (j : Json) : Option Resource :=
  match _h : j.row? keys with
  | some [kind, declarations, usages, imports, some (.arr resources)] => do
    return ⟨← required ResourceKind.ofJson? kind,
      ← required (Json.toList? Declaration.ofJson?) declarations,
      ← required (Json.toList? Json.toText?) usages,
      ← required (Json.toList? NamedImport.ofJson?) imports,
      ← listOfJson? resources⟩
  | _ => none
termination_by sizeOf j
decreasing_by
  have := Json.sizeOf_lt_of_row? _h (v := .arr resources) (by simp)
  simp only [Json.arr.sizeOf_spec] at this
  omega

def listOfJson? (items : List Json) : Option (List Resource) :=
  match items with
  | [] => some []
  | j :: js => do
    let r ← ofJson? j
    let rs ← listOfJson? js
    return r :: rs
termination_by sizeOf items
end

end Resource

end SourceOutline
