import SourceOutline.Import.Basic
import SourceOutline.Json.Record

/-! The JSON form of imports, and its reading. -/

namespace SourceOutline

open Json (required optional)

namespace Specifier

def keys : List String := ["specifier", "alias"]

def toJson (s : Specifier) : Json :=
  .obj [("specifier", .str s.name), ("alias", .ofOption .str s.localName)]

def ofJson? (j : Json) : Option Specifier :=
  match j.row? keys with
  | some [name, localName] => do
    return ⟨← required Json.toText? name, ← optional Json.toText? localName⟩
  | _ => none

end Specifier

namespace NamedImport

def keys : List String := ["libraryName", "defaultAlias", "specifiers", "start", "end"]

def offsetToJson (n : UInt32) : Json :=
  .nat n.toNat

def toJson (i : NamedImport) : Json :=
  .obj [("libraryName", .str i.library), ("defaultAlias", .ofOption .str i.defaultName),
    ("specifiers", .arr (i.specifiers.map Specifier.toJson)),
    ("start", .ofOption offsetToJson i.start), ("end", .ofOption offsetToJson i.stop)]

def ofJson? (j : Json) : Option NamedImport :=
  match j.row? keys with
  | some [library, defaultName, specifiers, start, stop] => do
    return ⟨← required Json.toText? library, ← optional Json.toText? defaultName,
      ← required (Json.toList? Specifier.ofJson?) specifiers,
      ← optional Json.toUInt32? start, ← optional Json.toUInt32? stop⟩
  | _ => none

end NamedImport

end SourceOutline
